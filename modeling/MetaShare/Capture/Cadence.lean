import MetaShare.Foundation.Transitions
import Mathlib.Algebra.Order.Ring.Nat
import Mathlib.Tactic.Common

namespace MetaShare

open Transitions

/-!
# The cadence of capture

The capture thread of a pipeline wakes up once per period and encodes the frame
captured last.  Its timestamps are multiples of the period: the tick is rounded,
and moved on by a period if it has been used already.  A wake-up may be late by
any time.  The clock counts nanoseconds from the start of the machine, and the
period microseconds.
-/

namespace CaptureLoop

/-- What the source has when it is asked: nothing any more, nothing new, or a
frame. -/
inductive Latest (Frame : Type) where
  | ended
  | nothing
  | frame (frame : Frame)
  deriving DecidableEq

/-- A frame that was encoded: when, and with which timestamp. -/
structure Encoded (Frame : Type) where
  nowUs : Nat
  frame : Frame
  pts : Nat
  deriving DecidableEq

end CaptureLoop

/-- The variables of the capture thread.  The last one only serves to state
properties. -/
structure CaptureLoop (Frame : Type) where
  running : Bool
  nextTick : Nat
  last : Option Frame
  lastPts : Nat
  encoded : List (CaptureLoop.Encoded Frame)
  deriving DecidableEq

namespace CaptureLoop

variable {Frame : Type}

/-- The microseconds per frame, rounded. -/
def periodUsec (fpsNum fpsDen : Int) : Int :=
  (1000000 * (if fpsDen = 0 then 1 else fpsDen) + (if fpsNum = 0 then 60 else fpsNum).tdiv 2).tdiv
    (if fpsNum = 0 then 60 else fpsNum)

/-- Up to a million frames per second, the period does not vanish. -/
theorem periodUsec_pos {fpsNum fpsDen : Int} (frames : 0 < fpsNum) (million : fpsNum ≤ 1000000)
    (seconds : 0 < fpsDen) : 1 ≤ periodUsec fpsNum fpsDen := by
  unfold periodUsec
  rw [if_neg (ne_of_gt seconds), if_neg (ne_of_gt frames)]
  have half : 0 ≤ fpsNum.tdiv 2 := Int.tdiv_nonneg frames.le (by decide)
  rw [Int.tdiv_eq_ediv_of_nonneg (by omega)]
  apply Int.le_ediv_of_mul_le frames
  omega

def nanoseconds (periodUsec : Nat) : Nat := periodUsec * 1000

/-- The thread begins. -/
def begun (periodUsec now : Nat) : CaptureLoop Frame where
  running := true
  nextTick := now + nanoseconds periodUsec
  last := none
  lastPts := 0
  encoded := []

/-- The next tick, or a period from now for a thread that fell behind. -/
def schedule (periodUsec nextTick now : Nat) : Nat :=
  let nextTick := nextTick + nanoseconds periodUsec
  if nextTick < now then now + nanoseconds periodUsec else nextTick

/-- The multiple of the period that is nearest to the time. -/
def grid (periodUsec now : Nat) : Nat := (now / 1000 + periodUsec / 2) / periodUsec * periodUsec

def timestamp (periodUsec lastPts now : Nat) : Nat :=
  let encPts := grid periodUsec now
  if encPts ≤ lastPts then lastPts + periodUsec else encPts

/-- The loop from a wake-up to the next sleep.  The encoder may fail. -/
def iterate (periodUsec : Nat) (loop : CaptureLoop Frame) (now peers : Nat) (latest : Latest Frame)
    (succeeds : Bool) : CaptureLoop Frame :=
  let loop := { loop with nextTick := schedule periodUsec loop.nextTick now }
  if peers = 0 then loop
  else
    match latest with
    | .ended => { loop with running := false }
    | _ =>
        let last :=
          match latest with
          | .frame frame => some frame
          | _ => loop.last
        match last with
        | none => loop
        | some frame =>
            let pts := timestamp periodUsec loop.lastPts now
            { loop with
              running := loop.running && succeeds
              last := last
              lastPts := pts
              encoded := loop.encoded ++ [⟨now / 1000, frame, pts⟩] }

inductive Action (Frame : Type) where
  | stop
  | wake (now peers : Nat) (latest : Latest Frame) (succeeds : Bool)

/-- The thread does not wake up before the tick. -/
def step (periodUsec : Nat) (loop : CaptureLoop Frame) : Action Frame → Option (CaptureLoop Frame)
  | .stop => some { loop with running := false }
  | .wake now peers latest succeeds =>
      if loop.running = true ∧ loop.nextTick ≤ now then
        some (loop.iterate periodUsec now peers latest succeeds)
      else none

/-! ## The grid -/

section Grid

variable {period : Nat}

theorem grid_mono {early late : Nat} (before : early ≤ late) : grid period early ≤ grid period late := by
  unfold grid
  apply Nat.mul_le_mul_right
  apply Nat.div_le_div_right
  exact Nat.add_le_add_right (Nat.div_le_div_right before) _

/-- A period later the grid is one step on. -/
theorem grid_add_period (positive : 0 < period) (now : Nat) :
    grid period (now + nanoseconds period) = grid period now + period := by
  unfold grid nanoseconds
  rw [Nat.add_mul_div_right _ _ (by decide), Nat.add_right_comm, Nat.add_div_right _ positive, Nat.succ_mul]

theorem dvd_grid (now : Nat) : period ∣ grid period now := Nat.dvd_mul_left _ _

/-- The grid is within half a period of the time. -/
theorem grid_near (positive : 0 < period) (now : Nat) :
    2 * (now / 1000) ≤ 2 * grid period now + period ∧ 2 * grid period now ≤ 2 * (now / 1000) + period := by
  unfold grid
  have below := Nat.div_mul_le_self (now / 1000 + period / 2) period
  have above := Nat.lt_div_mul_add (a := now / 1000 + period / 2) positive
  omega

end Grid

/-! ## Ticks -/

variable {period now : Nat} {loop next : CaptureLoop Frame}

/-- The next tick is a period after the last one at least. -/
theorem add_period_le_schedule (nextTick now : Nat) :
    nextTick + nanoseconds period ≤ schedule period nextTick now := by
  unfold schedule
  dsimp only
  split <;> omega

theorem le_schedule (nextTick now : Nat) : now ≤ schedule period nextTick now := by
  unfold schedule
  dsimp only
  split <;> omega

/-- The next tick is a period from now at most. -/
theorem schedule_le {nextTick : Nat} (awake : nextTick ≤ now) :
    schedule period nextTick now ≤ now + nanoseconds period := by
  unfold schedule
  dsimp only
  split <;> omega

/-! ## Timestamps -/

theorem grid_le_timestamp (lastPts now : Nat) : grid period now ≤ timestamp period lastPts now := by
  unfold timestamp
  dsimp only
  split <;> omega

theorem add_le_of_dvd {small large : Nat} (first : period ∣ small) (second : period ∣ large)
    (less : small < large) : small + period ≤ large := by
  have gap : period ≤ large - small := Nat.le_of_dvd (Nat.sub_pos_of_lt less) (Nat.dvd_sub second first)
  omega

theorem add_period_le_timestamp {lastPts : Nat} (multiple : period ∣ lastPts) (now : Nat) :
    lastPts + period ≤ timestamp period lastPts now := by
  unfold timestamp
  dsimp only
  split
  · exact le_refl _
  · rename_i later
    exact add_le_of_dvd multiple (dvd_grid now) (Nat.not_le.mp later)

theorem dvd_timestamp {lastPts : Nat} (multiple : period ∣ lastPts) (now : Nat) :
    period ∣ timestamp period lastPts now := by
  unfold timestamp
  dsimp only
  split
  · exact Nat.dvd_add multiple (Nat.dvd_refl period)
  · exact dvd_grid now

/-- A timestamp that is moved on was due by the tick, so that it is due by the
next one. -/
theorem timestamp_le_grid {nextTick lastPts : Nat} (positive : 0 < period)
    (due : lastPts ≤ grid period nextTick) (now : Nat) :
    timestamp period lastPts now ≤ grid period (schedule period nextTick now) := by
  unfold timestamp
  dsimp only
  split
  · calc lastPts + period ≤ grid period nextTick + period := Nat.add_le_add_right due _
      _ = grid period (nextTick + nanoseconds period) := (grid_add_period positive nextTick).symm
      _ ≤ grid period (schedule period nextTick now) := grid_mono (add_period_le_schedule nextTick now)
  · exact grid_mono (le_schedule nextTick now)

/-! ## Runs -/

/-- The timestamp of an encoded frame is a multiple of the period, and close to
the time. -/
structure Encoded.Even (period : Nat) (encoded : Encoded Frame) : Prop where
  multiple : period ∣ encoded.pts
  late : 2 * encoded.nowUs ≤ 2 * encoded.pts + period
  early : 2 * encoded.pts ≤ 2 * encoded.nowUs + 3 * period

/-- The last timestamp was due by the next tick, and the timestamps so far are
even. -/
structure Paced (period : Nat) (loop : CaptureLoop Frame) : Prop where
  multiple : period ∣ loop.lastPts
  due : loop.lastPts ≤ grid period loop.nextTick
  even : ∀ encoded ∈ loop.encoded, encoded.Even period
  past : ∀ encoded ∈ loop.encoded, encoded.pts ≤ loop.lastPts
  spaced : loop.encoded.Pairwise fun earlier later => earlier.pts + period ≤ later.pts

theorem paced_begun (period now : Nat) : (begun period now : CaptureLoop Frame).Paced period where
  multiple := Nat.dvd_zero period
  due := Nat.zero_le _
  even := by
    intro encoded impossible
    cases impossible
  past := by
    intro encoded impossible
    cases impossible
  spaced := List.Pairwise.nil

/-- What a wake-up does: it only moves the tick, or it encodes a frame. -/
theorem iterate_cases (loop : CaptureLoop Frame) (now peers : Nat) (latest : Latest Frame) (succeeds : Bool) :
    (loop.iterate period now peers latest succeeds).nextTick = schedule period loop.nextTick now ∧
      ((loop.iterate period now peers latest succeeds).lastPts = loop.lastPts ∧
          (loop.iterate period now peers latest succeeds).encoded = loop.encoded ∨
        (loop.iterate period now peers latest succeeds).lastPts = timestamp period loop.lastPts now ∧
          ∃ frame, (loop.iterate period now peers latest succeeds).encoded =
            loop.encoded ++ [⟨now / 1000, frame, timestamp period loop.lastPts now⟩]) := by
  unfold iterate
  dsimp only
  split
  · exact ⟨rfl, Or.inl ⟨rfl, rfl⟩⟩
  · cases latest with
    | ended => exact ⟨rfl, Or.inl ⟨rfl, rfl⟩⟩
    | nothing =>
        cases loop.last with
        | none => exact ⟨rfl, Or.inl ⟨rfl, rfl⟩⟩
        | some frame => exact ⟨rfl, Or.inr ⟨rfl, frame, rfl⟩⟩
    | frame frame => exact ⟨rfl, Or.inr ⟨rfl, frame, rfl⟩⟩

/-- A timestamp given after the tick is even. -/
theorem even_timestamp {nextTick lastPts : Nat} (positive : 0 < period) (multiple : period ∣ lastPts)
    (due : lastPts ≤ grid period nextTick) (awake : nextTick ≤ now) (frame : Frame) :
    (⟨now / 1000, frame, timestamp period lastPts now⟩ : Encoded Frame).Even period where
  multiple := dvd_timestamp multiple now
  late := by
    have near := (grid_near positive now).1
    have rounded : grid period now ≤ timestamp period lastPts now := grid_le_timestamp lastPts now
    dsimp only
    omega
  early := by
    have near := (grid_near positive now).2
    have scheduled : timestamp period lastPts now ≤ grid period now + period :=
      calc timestamp period lastPts now ≤ grid period (schedule period nextTick now) :=
            timestamp_le_grid positive due now
        _ ≤ grid period (now + nanoseconds period) := grid_mono (schedule_le awake)
        _ = grid period now + period := grid_add_period positive now
    dsimp only
    omega

theorem Paced.step (paced : loop.Paced period) (positive : 0 < period) {action : Action Frame}
    (stepped : loop.step period action = some next) : next.Paced period := by
  cases action with
  | stop =>
      cases stepped
      exact ⟨paced.multiple, paced.due, paced.even, paced.past, paced.spaced⟩
  | wake now peers latest succeeds =>
      obtain ⟨⟨_, awake⟩, rfl⟩ := eq_of_guarded stepped
      obtain ⟨nextTick, outcome⟩ : _ = schedule period loop.nextTick now ∧ _ :=
        iterate_cases loop now peers latest succeeds
      have later : loop.nextTick ≤ schedule period loop.nextTick now :=
        (Nat.le_add_right _ _).trans (add_period_le_schedule loop.nextTick now)
      rcases outcome with ⟨lastPts, encoded⟩ | ⟨lastPts, frame, encoded⟩
      · constructor
        · rw [lastPts]
          exact paced.multiple
        · rw [lastPts, nextTick]
          exact paced.due.trans (grid_mono later)
        · rw [encoded]
          exact paced.even
        · rw [encoded, lastPts]
          exact paced.past
        · rw [encoded]
          exact paced.spaced
      · have moved := add_period_le_timestamp paced.multiple now
        constructor
        · rw [lastPts]
          exact dvd_timestamp paced.multiple now
        · rw [lastPts, nextTick]
          exact timestamp_le_grid positive paced.due now
        · rw [encoded, List.forall_mem_append, List.forall_mem_singleton]
          exact ⟨paced.even, even_timestamp positive paced.multiple paced.due awake frame⟩
        · rw [encoded, lastPts, List.forall_mem_append, List.forall_mem_singleton]
          refine ⟨fun earlier member => ?_, le_refl _⟩
          exact (paced.past earlier member).trans ((Nat.le_add_right _ _).trans moved)
        · rw [encoded, List.pairwise_append]
          refine ⟨paced.spaced, List.pairwise_singleton _ _, ?_⟩
          intro earlier member later isLater
          cases List.mem_singleton.mp isLater
          exact (Nat.add_le_add_right (paced.past earlier member) period).trans moved

/-- The timestamps of a run are multiples of the period, which increase by a
period at least, and none is further than half a period behind its time, or one
and a half ahead of it. -/
theorem even_cadence {period now : Nat} (positive : 1 ≤ period) {actions : List (Action Frame)}
    {loop : CaptureLoop Frame} (ran : run (step period) (begun period now) actions = some loop) :
    (loop.encoded.Pairwise fun earlier later => earlier.pts + period ≤ later.pts) ∧
      ∀ encoded ∈ loop.encoded, period ∣ encoded.pts ∧ 2 * encoded.nowUs ≤ 2 * encoded.pts + period ∧
        2 * encoded.pts ≤ 2 * encoded.nowUs + 3 * period := by
  have preserved : ∀ (loop : CaptureLoop Frame) action next, loop.Paced period →
      step period loop action = some next → next.Paced period := by
    intro loop action next paced stepped
    exact paced.step positive stepped
  have paced := run_invariant preserved (paced_begun period now) ran
  refine ⟨paced.spaced, fun encoded member => ?_⟩
  have even := paced.even encoded member
  exact ⟨even.multiple, even.late, even.early⟩

/-- The second wake-up is late by almost a period, so that the third timestamp has
to be moved on. -/
theorem even_cadence_sample : ∃ loop : CaptureLoop String,
    run (step 1000) (begun 1000 0) [.wake 1000000 1 (.frame "a") true, .wake 2999000 1 .nothing true,
      .wake 3000000 1 (.frame "b") true] = some loop ∧
    (loop.encoded.Pairwise fun earlier later => earlier.pts + 1000 ≤ later.pts) ∧
      ∀ encoded ∈ loop.encoded, 1000 ∣ encoded.pts ∧ 2 * encoded.nowUs ≤ 2 * encoded.pts + 1000 ∧
        2 * encoded.pts ≤ 2 * encoded.nowUs + 3 * 1000 := by
  have ends : (run (step 1000) (begun 1000 0) [.wake 1000000 1 (.frame "a") true,
      .wake 2999000 1 .nothing true, .wake 3000000 1 (.frame "b") true]).isSome = true := by decide +kernel
  obtain ⟨loop, ran⟩ := Option.isSome_iff_exists.mp ends
  exact ⟨loop, ran, even_cadence (by decide) ran⟩

end CaptureLoop
end MetaShare
