import Mathlib.Tactic.NormNum
import MetaShare.Foundation.TokenBucket
import MetaShare.Server.Pacing

namespace MetaShare

open Transitions

/-!
# Waiting for the pacer

Senders wait in `consume` for the tokens of a packet.  Each pass through its
loop is one critical section: it begins when the lock is taken and ends with the
call or with a sleep, during which the lock is free.  Time is exact and the
clock never goes backwards, and how long a sleep really takes is left open.
-/

namespace Pacer

/-- The pacer, and when it was last refilled. -/
structure Bucket extends Pacer where
  lastRefill : Rat

/-- How a pass through the loop of `consume` ends. -/
inductive Pass where
  | granted
  | refused
  | sleeps (wakeAt : Rat)
  deriving DecidableEq

namespace Bucket

def create (now : Rat) : Bucket := { Pacer.start with lastRefill := now }

def setStreamRate (bucket : Bucket) (index kbps : Int) : Bucket :=
  { bucket.toPacer.setStreamRate index kbps with lastRefill := bucket.lastRefill }

def refill (bucket : Bucket) (now : Rat) : Bucket :=
  let dt := now - bucket.lastRefill
  { bucket with
    lastRefill := now
    tokens := min bucket.burstBytes (bucket.tokens + dt * bucket.rateBytesPerSec) }

/-- A pass through the loop of `consume`.  Sleeps are cut into slices of two
milliseconds. -/
def consume (bucket : Bucket) (len : Nat) (deadline now : Rat) : Pass × Bucket :=
  if bucket.rateBytesPerSec ≤ 0 then (.granted, bucket)
  else if deadline ≤ now then (.refused, bucket)
  else
    let bucket := bucket.refill now
    if (len : Rat) ≤ bucket.tokens then (.granted, { bucket with tokens := bucket.tokens - len })
    else
      let need := (len - bucket.tokens) / bucket.rateBytesPerSec
      (.sleeps (now + min need (1 / 500)), bucket)

/-- The bucket as such. -/
def toTokenBucket (bucket : Bucket) : TokenBucket Rat where
  rate := bucket.rateBytesPerSec
  burst := bucket.burstBytes
  tokens := bucket.tokens
  last := bucket.lastRefill

/-- The ways in which a pass through the loop ends. -/
inductive Consumes (bucket : Bucket) (len : Nat) (deadline now : Rat) : Pass × Bucket → Prop where
  | unlimited (unset : bucket.rateBytesPerSec ≤ 0) : Consumes bucket len deadline now (.granted, bucket)
  | late (isLate : deadline ≤ now) : Consumes bucket len deadline now (.refused, bucket)
  | grant (paced : 0 < bucket.rateBytesPerSec) (inTime : now < deadline)
      (enough : (len : Rat) ≤ (bucket.refill now).tokens) :
      Consumes bucket len deadline now
        (.granted, { bucket.refill now with tokens := (bucket.refill now).tokens - len })
  | sleep (paced : 0 < bucket.rateBytesPerSec) (inTime : now < deadline)
      (tooFew : (bucket.refill now).tokens < len) :
      Consumes bucket len deadline now
        (.sleeps (now + min ((len - (bucket.refill now).tokens) / bucket.rateBytesPerSec) (1 / 500)),
          bucket.refill now)

theorem consumes (bucket : Bucket) (len : Nat) (deadline now : Rat) :
    bucket.Consumes len deadline now (bucket.consume len deadline now) := by
  unfold consume
  dsimp only
  split
  · rename_i unset
    exact .unlimited unset
  rename_i paced
  split
  · rename_i isLate
    exact .late isLate
  rename_i inTime
  split
  · rename_i enough
    exact .grant (not_le.mp paced) (not_le.mp inTime) enough
  · rename_i tooFew
    exact .sleep (not_le.mp paced) (not_le.mp inTime) (not_le.mp tooFew)

end Bucket

/-! ## Interleavings of the senders -/

/-- The arguments of a call of `consume`. -/
structure Call where
  len : Nat
  deadline : Rat
  deriving DecidableEq

/-- A call that is over. -/
structure Return (Sender : Type) where
  sender : Sender
  call : Call
  granted : Bool
  time : Rat
  deriving DecidableEq

/-- The pacer, the last reading of the clock, the calls that senders are in, and
for the proofs the calls that are over. -/
structure Senders (Sender : Type) where
  bucket : Bucket
  clock : Rat
  calls : Sender → Option Call
  returns : List (Return Sender)

inductive Action (Sender : Type) where
  | setStreamRate (index kbps : Int)
  | call (sender : Sender) (call : Call)
  | proceed (sender : Sender) (now : Rat)
  deriving DecidableEq

namespace Senders

variable {Sender : Type}

/-- No sender has called yet. -/
def start (now : Rat) : Senders Sender where
  bucket := .create now
  clock := now
  calls := fun _ => none
  returns := []

/-- The call is over. -/
def finish [DecidableEq Sender] (senders : Senders Sender) (sender : Sender) (call : Call) (granted : Bool) :
    Senders Sender :=
  { senders with
    calls := Function.update senders.calls sender none
    returns := senders.returns ++ [⟨sender, call, granted, senders.clock⟩] }

/-- A sender takes the lock and goes through the loop once. -/
def proceed [DecidableEq Sender] (senders : Senders Sender) (sender : Sender) (call : Call) (now : Rat) :
    Senders Sender :=
  let pass := senders.bucket.consume call.len call.deadline now
  let senders := { senders with clock := now, bucket := pass.2 }
  match pass.1 with
  | .granted => senders.finish sender call true
  | .refused => senders.finish sender call false
  | .sleeps _ => senders

def step [DecidableEq Sender] (senders : Senders Sender) : Action Sender → Option (Senders Sender)
  | .setStreamRate index kbps => some { senders with bucket := senders.bucket.setStreamRate index kbps }
  | .call sender call =>
      match senders.calls sender with
      | none => some { senders with calls := Function.update senders.calls sender (some call) }
      | some _ => none
  | .proceed sender now =>
      match senders.calls sender with
      | none => none
      | some call => if senders.clock ≤ now then some (senders.proceed sender call now) else none

/-- The bytes that were granted in these calls. -/
def grantedBytes (returns : List (Return Sender)) : Rat :=
  (returns.map (fun ended => if ended.granted then (ended.call.len : Rat) else 0)).sum

theorem grantedBytes_concat (returns : List (Return Sender)) (ended : Return Sender) :
    grantedBytes (returns ++ [ended]) =
      grantedBytes returns + (if ended.granted then (ended.call.len : Rat) else 0) := by
  simp [grantedBytes]

/-! ## Every state -/

/-- What holds of the bucket and of the calls that are over. -/
structure Sound (senders : Senders Sender) : Prop where
  tokens : senders.bucket.toTokenBucket.WellFormed
  refilled : senders.bucket.lastRefill ≤ senders.clock
  prompt : ∀ ended ∈ senders.returns, ended.granted = false → ended.call.deadline ≤ ended.time

variable {senders next : Senders Sender}

theorem sound_start (now : Rat) : (start now : Senders Sender).Sound where
  tokens := by
    constructor
    · change (0 : Rat) ≤ 32 * 1024
      norm_num
    · exact le_refl _
  refilled := le_refl _
  prompt := by
    intro ended impossible
    cases impossible

/-- Changing the rate never overfills the bucket. -/
theorem wellFormed_setStreamRate {bucket : Bucket} (tokens : bucket.toTokenBucket.WellFormed) (index kbps : Int) :
    (bucket.setStreamRate index kbps).toTokenBucket.WellFormed where
  nonneg := by
    have floor : (0 : Rat) ≤ 32 * 1024 := by norm_num
    exact le_min tokens.nonneg (floor.trans (le_max_left _ _))
  capped := min_le_right _ _

theorem prompt_concat {returns : List (Return Sender)} {ended : Return Sender}
    (prompt : ∀ ended ∈ returns, ended.granted = false → ended.call.deadline ≤ ended.time)
    (last : ended.granted = false → ended.call.deadline ≤ ended.time) :
    ∀ other ∈ returns ++ [ended], other.granted = false → other.call.deadline ≤ other.time := by
  intro other member
  rcases List.mem_append.mp member with older | new
  · exact prompt other older
  · rw [List.mem_singleton.mp new]
    exact last

theorem Sound.proceed [DecidableEq Sender] (sound : senders.Sound) {now : Rat} (later : senders.clock ≤ now)
    (sender : Sender) (call : Call) : (senders.proceed sender call now).Sound := by
  have refilled : senders.bucket.lastRefill ≤ now := sound.refilled.trans later
  unfold Senders.proceed
  have ways := senders.bucket.consumes call.len call.deadline now
  generalize senders.bucket.consume call.len call.deadline now = pass at ways
  cases ways with
  | unlimited unset =>
      refine ⟨sound.tokens, refilled, prompt_concat sound.prompt ?_⟩
      intro impossible
      cases impossible
  | late isLate => exact ⟨sound.tokens, refilled, prompt_concat sound.prompt (fun _ => isLate)⟩
  | grant paced inTime enough =>
      refine ⟨?_, le_refl _, prompt_concat sound.prompt ?_⟩
      · exact (sound.tokens.refill (le_of_lt paced) refilled).take (Nat.cast_nonneg _) enough
      · intro impossible
        cases impossible
  | sleep paced inTime tooFew =>
      exact ⟨sound.tokens.refill (le_of_lt paced) refilled, le_refl _, sound.prompt⟩

theorem Sound.step [DecidableEq Sender] (sound : senders.Sound) {action : Action Sender}
    (stepped : senders.step action = some next) : next.Sound := by
  cases action with
  | setStreamRate index kbps =>
      cases stepped
      exact ⟨wellFormed_setStreamRate sound.tokens index kbps, sound.refilled, sound.prompt⟩
  | call sender call =>
      rw [Senders.step] at stepped
      split at stepped <;> cases stepped
      exact ⟨sound.tokens, sound.refilled, sound.prompt⟩
  | proceed sender now =>
      rw [Senders.step] at stepped
      split at stepped
      · cases stepped
      · obtain ⟨later, isNext⟩ := eq_of_guarded stepped
        rw [isNext]
        exact sound.proceed later sender _

/-! ## A window -/

/-- The action is no change of the rate, and the clock is read in the window. -/
def Within (first last : Rat) : Action Sender → Prop
  | .setStreamRate _ _ => False
  | .call _ _ => True
  | .proceed _ now => first ≤ now ∧ now ≤ last

instance (first last : Rat) : (action : Action Sender) → Decidable (Within first last action)
  | .setStreamRate _ _ => inferInstanceAs (Decidable False)
  | .call _ _ => inferInstanceAs (Decidable True)
  | .proceed _ now => inferInstanceAs (Decidable (first ≤ now ∧ now ≤ last))

/-- In the window that began in this state, the rate has not changed and the
bytes granted were spent. -/
structure Spending (began : Senders Sender) (first last : Rat) (senders : Senders Sender) : Prop where
  sound : senders.Sound
  rate : senders.bucket.rateBytesPerSec = began.bucket.rateBytesPerSec
  burst : senders.bucket.burstBytes = began.bucket.burstBytes
  spent : ∃ returns, senders.returns = began.returns ++ returns ∧
    senders.bucket.toTokenBucket.Spent first last (grantedBytes returns)

variable {began : Senders Sender} {first last : Rat}

theorem spending_began (sound : began.Sound) : Spending began first last began where
  sound := sound
  rate := rfl
  burst := rfl
  spent := ⟨[], (List.append_nil _).symm, Or.inl rfl⟩

theorem Spending.proceed [DecidableEq Sender] (spending : Spending began first last senders)
    (paced : 0 < began.bucket.rateBytesPerSec) {now : Rat} (later : senders.clock ≤ now) (isFrom : first ≤ now)
    (upTo : now ≤ last) (sender : Sender) (call : Call) :
      Spending began first last (senders.proceed sender call now) := by
  have sound := spending.sound.proceed later sender call
  have refilled : senders.bucket.lastRefill ≤ now := spending.sound.refilled.trans later
  obtain ⟨returns, isReturns, spent⟩ := spending.spent
  unfold Senders.proceed at sound ⊢
  have ways := senders.bucket.consumes call.len call.deadline now
  generalize senders.bucket.consume call.len call.deadline now = pass at ways sound
  cases ways with
  | unlimited unset =>
      rw [spending.rate] at unset
      exact absurd paced (not_lt.mpr unset)
  | late isLate =>
      refine ⟨sound, spending.rate, spending.burst, returns ++ [⟨sender, call, false, now⟩], ?_, ?_⟩
      · rw [← List.append_assoc, ← isReturns]
        rfl
      · rw [grantedBytes_concat, if_neg Bool.false_ne_true, add_zero]
        exact spent
  | grant paced inTime enough =>
      refine ⟨sound, spending.rate, spending.burst, returns ++ [⟨sender, call, true, now⟩], ?_, ?_⟩
      · rw [← List.append_assoc, ← isReturns]
        rfl
      · have wellFormed := spending.sound.tokens.refill (le_of_lt paced) refilled
        rw [grantedBytes_concat, if_pos rfl]
        exact (spent.refill refilled upTo).take wellFormed (le_of_lt paced) isFrom upTo call.len
  | sleep paced inTime tooFew =>
      exact ⟨sound, spending.rate, spending.burst, returns, isReturns, spent.refill refilled upTo⟩

theorem Spending.step [DecidableEq Sender] (spending : Spending began first last senders)
    (paced : 0 < began.bucket.rateBytesPerSec) {action : Action Sender} (within : Within first last action)
    (stepped : senders.step action = some next) :
    Spending began first last next := by
  cases action with
  | setStreamRate index kbps => exact within.elim
  | call sender call =>
      have sound := spending.sound.step stepped
      rw [Senders.step] at stepped
      split at stepped <;> cases stepped
      exact ⟨sound, spending.rate, spending.burst, spending.spent⟩
  | proceed sender now =>
      rw [Senders.step] at stepped
      split at stepped
      · cases stepped
      · obtain ⟨later, isNext⟩ := eq_of_guarded stepped
        rw [isNext]
        exact spending.proceed paced later within.1 within.2 sender _

variable [DecidableEq Sender]

theorem sound_of_run {created : Rat} {actions : List (Action Sender)}
    (ran : run step (start created) actions = some senders) : senders.Sound :=
  run_invariant (fun _ _ _ sound stepped => sound.step stepped) (sound_start created) ran

theorem Spending.run (spending : Spending began first last senders) (paced : 0 < began.bucket.rateBytesPerSec)
    {window : List (Action Sender)} (within : ∀ action ∈ window, Within first last action)
    (ran : Transitions.run Senders.step senders window = some next) : Spending began first last next := by
  induction window generalizing senders with
  | nil =>
      cases ran
      exact spending
  | cons action rest inductionHypothesis =>
      obtain ⟨middle, stepped, later⟩ := run_cons_iff.mp ran
      have now := spending.step paced (within action List.mem_cons_self) stepped
      exact inductionHypothesis now (fun other member => within other (List.mem_cons_of_mem _ member)) later

/-! ## What the pacer promises -/

/-- In every state the bucket is neither overdrawn nor too full, and no call was
refused before its deadline.  In every window in which the rate is positive and
not set, no more bytes are granted than a full bucket and the inflow, whatever
happened before. -/
theorem token_bound {created : Rat} {early window : List (Action Sender)} {began ended : Senders Sender}
    (reached : Transitions.run step (start created) early = some began)
    (later : Transitions.run step began window = some ended) :
    (0 ≤ ended.bucket.tokens ∧ ended.bucket.tokens ≤ ended.bucket.burstBytes) ∧
    (∀ call ∈ ended.returns, call.granted = false → call.call.deadline ≤ call.time) ∧
    (∀ first last, first ≤ last → (∀ action ∈ window, Within first last action) →
      0 < began.bucket.rateBytesPerSec →
      grantedBytes (ended.returns.drop began.returns.length) ≤
        began.bucket.burstBytes + began.bucket.rateBytesPerSec * (last - first)) := by
  have soundBegan := sound_of_run reached
  have sound := sound_of_run (run_append_iff.mpr ⟨began, reached, later⟩)
  refine ⟨⟨sound.tokens.nonneg, sound.tokens.capped⟩, sound.prompt, ?_⟩
  intro first last window within paced
  have spending := (spending_began soundBegan : Spending began first last began).run paced within later
  obtain ⟨returns, isReturns, spent⟩ := spending.spent
  have rate : 0 ≤ ended.bucket.rateBytesPerSec := spending.rate ▸ le_of_lt paced
  rw [isReturns, List.drop_left, ← spending.rate, ← spending.burst]
  exact spent.le sound.tokens rate window

/-- Two senders: one takes the whole bucket, the other waits for tokens until its
deadline. -/
def sampleEarly : List (Action Bool) := [.setStreamRate 0 1000, .setStreamRate 1 0]

def sampleWindow : List (Action Bool) :=
  [.call true ⟨32768, 2⟩, .proceed true 1, .call false ⟨1200, 1004 / 1000⟩, .proceed false 1,
    .proceed false (1002 / 1000), .proceed false (1004 / 1000), .call true ⟨600, 2⟩, .proceed true (1005 / 1000)]

def sampleBegan : Senders Bool := (Transitions.run step (start 0) sampleEarly).get (by decide +kernel)

def sampleEnded : Senders Bool := (Transitions.run step sampleBegan sampleWindow).get (by decide +kernel)

theorem token_bound_sample :
    sampleEnded.returns.map Return.granted = [true, false, true] ∧
    grantedBytes (sampleEnded.returns.drop sampleBegan.returns.length) ≤ 32768 + 156250 * (1005 / 1000 - 1) := by
  refine ⟨by decide +kernel, ?_⟩
  have reached : Transitions.run step (start 0) sampleEarly = some sampleBegan :=
    Option.eq_some_of_isSome (by decide +kernel)
  have later : Transitions.run step sampleBegan sampleWindow = some sampleEnded :=
    Option.eq_some_of_isSome (by decide +kernel)
  have bound := (token_bound reached later).2.2 1 (1005 / 1000) (by norm_num) (by decide +kernel) (by decide +kernel)
  have burst : sampleBegan.bucket.burstBytes = 32768 := by decide +kernel
  have rate : sampleBegan.bucket.rateBytesPerSec = 156250 := by decide +kernel
  rw [burst, rate] at bound
  exact bound

end Senders
end Pacer
end MetaShare
