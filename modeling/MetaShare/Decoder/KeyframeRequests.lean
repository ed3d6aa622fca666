import MetaShare.Decoder.VideoDecoder
import Mathlib.Logic.Function.Basic
import Mathlib.Tactic.Common

namespace MetaShare

open Transitions

/-!
# Asking for a keyframe

A decoder that drops its queue posts a request for a keyframe.  The codec thread
runs it, and so do other threads run requests of their own: they share one
throttle, and before the streamer's address is known they leave the request to
the receive loop.  An action is one access to a shared field.  Sends succeed.
-/

/-- The threads that request a keyframe: the codec thread for a drop, the session
thread behind START, and the receive loop for a damaged frame. -/
inductive KeyframeRequests.Caller where
  | codec
  | session
  | loop
  deriving DecidableEq

/-- A call of `requestKeyframe` that is under way, with its reading of the clock. -/
inductive KeyframeRequests.Call where
  | checking (now : Int)
  | passed (now : Int)
  | stamped (now : Int)
  | deferring (now : Int)
  | sending (now : Int)
  deriving DecidableEq

/-- How far the receive loop has got with the first packet: it publishes the
address and then the port of the streamer, and then sends a PLI if one is
pending. -/
inductive KeyframeRequests.Endpoint where
  | unknown
  | addressed
  | ported
  | flushing
  | sending
  | known
  deriving DecidableEq

/-- A drop of the decoder's queue, and whether it closed the input chain. -/
structure KeyframeRequests.Drop where
  time : Int
  closing : Bool
  deriving DecidableEq

/-- The decoder, the fields of the receiver that keyframe requests use, and the
calls under way.  Four fields only serve to state properties: the times of all
PLIs, and the drops whose requests are posted, being run, and done. -/
structure KeyframeRequests where
  clock : Int
  decoder : VideoDecoder
  videoSsrc : Int
  lastExternalPliMs : Int
  pliPending : Bool
  endpoint : KeyframeRequests.Endpoint
  calls : KeyframeRequests.Caller → Option KeyframeRequests.Call
  plis : List Int
  posted : List KeyframeRequests.Drop
  running : Option KeyframeRequests.Drop
  done : List KeyframeRequests.Drop

namespace KeyframeRequests

def EXTERNAL_PLI_MIN_INTERVAL_MS : Int := 250

/-- Nothing has been received and nothing requested. -/
def start (clock videoSsrc : Int) : KeyframeRequests where
  clock := clock
  decoder := .opened
  videoSsrc := videoSsrc
  lastExternalPliMs := 0
  pliPending := false
  endpoint := .unknown
  calls := fun _ => none
  plis := []
  posted := []
  running := none
  done := []

/-- A PLI is only sent if the port is known and the SSRC is not negative. -/
def sendPli (state : KeyframeRequests) : KeyframeRequests :=
  if state.endpoint = .unknown ∨ state.endpoint = .addressed ∨ state.videoSsrc < 0 then state
  else { state with plis := state.plis ++ [state.clock] }

/-! ## Calls of requestKeyframe -/

def set (state : KeyframeRequests) (caller : Caller) (call : Call) : KeyframeRequests :=
  { state with calls := Function.update state.calls caller (some call) }

/-- The call returns.  A posted request is done then. -/
def finish (state : KeyframeRequests) (caller : Caller) : KeyframeRequests :=
  let state := { state with calls := Function.update state.calls caller none }
  match caller with
  | .codec => { state with done := state.done ++ state.running.toList, running := none }
  | .session => state
  | .loop => state

def check (state : KeyframeRequests) (caller : Caller) (now : Int) : KeyframeRequests :=
  if now - state.lastExternalPliMs < EXTERNAL_PLI_MIN_INTERVAL_MS then state.finish caller
  else state.set caller (.passed now)

/-- The next access of the caller to a shared field. -/
def proceed (state : KeyframeRequests) (caller : Caller) : Option KeyframeRequests :=
  match state.calls caller with
  | none => none
  | some (.checking now) => some (state.check caller now)
  | some (.passed now) => some ({ state with lastExternalPliMs := now }.set caller (.stamped now))
  | some (.stamped now) =>
      some (state.set caller (if state.endpoint = .unknown then .deferring now else .sending now))
  | some (.deferring _) => some ({ state with pliPending := true }.finish caller)
  | some (.sending _) => some (state.sendPli.finish caller)

/-- A thread enters `requestKeyframe` and reads the clock.  The codec thread does
so for the request that was posted first, and the loop only once it has
processed a packet. -/
def call (state : KeyframeRequests) (caller : Caller) : Option KeyframeRequests :=
  match state.calls caller with
  | some _ => none
  | none =>
      match caller with
      | .codec =>
          match state.decoder.step .request, state.posted with
          | some decoder, drop :: posted =>
              some ({ state with decoder := decoder, posted := posted, running := some drop }.set .codec
                (.checking state.clock))
          | _, _ => none
      | .session => some (state.set .session (.checking state.clock))
      | .loop =>
          if state.endpoint = .known ∧ state.decoder.feeding = none then
            some (state.set .loop (.checking state.clock))
          else none

/-! ## The receive loop -/

/-- The loop goes on with the first packet. -/
def publish (state : KeyframeRequests) : Option KeyframeRequests :=
  match state.endpoint with
  | .unknown => some { state with endpoint := .addressed }
  | .addressed => some { state with endpoint := .ported }
  | .ported => some { state with endpoint := if state.pliPending then .flushing else .known }
  | .flushing => some { state with pliPending := false, endpoint := .sending }
  | .sending => some { state.sendPli with endpoint := .known }
  | .known => none

/-! ## The decoder -/

/-- The thread that takes the action is not inside `requestKeyframe`, and the
loop feeds the decoder only once it has processed a packet. -/
def free (state : KeyframeRequests) : VideoDecoder.Action → Bool
  | .feed _ => state.endpoint == .known && (state.calls .loop).isNone
  | .enqueue _ _ => state.endpoint == .known && (state.calls .loop).isNone
  | .request => false
  | _ => (state.calls .codec).isNone

/-- A step of the decoder.  A drop posts a request. -/
def decode (state : KeyframeRequests) (action : VideoDecoder.Action) : Option KeyframeRequests :=
  if state.free action then
    match state.decoder.step action with
    | some decoder =>
        some { state with
          decoder := decoder
          posted :=
            if state.decoder.requestsPosted < decoder.requestsPosted then
              state.posted ++ [⟨state.clock, state.decoder.inputChainReady⟩]
            else state.posted }
    | none => none
  else none

/-! ## Actions -/

inductive Action where
  | tick (elapsed : Nat)
  | call (caller : Caller)
  | proceed (caller : Caller)
  | publish
  | autoPli
  | decode (action : VideoDecoder.Action)

def step (state : KeyframeRequests) : Action → Option KeyframeRequests
  | .tick elapsed => some { state with clock := state.clock + elapsed }
  | .call caller => state.call caller
  | .proceed caller => state.proceed caller
  | .publish => state.publish
  | .autoPli => if state.endpoint = .known ∧ state.calls .loop = none then some state.sendPli else none
  | .decode action => state.decode action

/-! ## The condition -/

/-- A request posted for a drop that closed the input chain is only throttled if a
PLI has gone out since, or if the time of the last request was set and is not
before the drop.  A request is not left to a loop that has looked already, unless
a PLI has gone out since, and is not sent before the port is known, unless the
loop still sends a pending one. -/
def Call.Timely (state : KeyframeRequests) (caller : Caller) : Call → Prop
  | .checking now =>
      caller = .codec → now - state.lastExternalPliMs < EXTERNAL_PLI_MIN_INTERVAL_MS →
        ∀ drop ∈ state.running, drop.closing = true →
          (∃ sent ∈ state.plis, drop.time ≤ sent) ∨
            0 < state.lastExternalPliMs ∧ drop.time ≤ state.lastExternalPliMs
  | .passed _ => True
  | .stamped _ => True
  | .deferring now => state.endpoint = .known → ∃ sent ∈ state.plis, now ≤ sent
  | .sending _ => 0 ≤ state.videoSsrc ∧ (state.endpoint = .addressed → state.pliPending = true)

def Timely (state : KeyframeRequests) : Action → Prop
  | .tick _ => True
  | .call _ => True
  | .proceed caller => ∀ call ∈ state.calls caller, call.Timely state caller
  | .publish => state.endpoint = .sending → 0 ≤ state.videoSsrc
  | .autoPli => True
  | .decode _ => True

instance (state : KeyframeRequests) (caller : Caller) : (call : Call) → Decidable (call.Timely state caller)
  | .checking now => inferInstanceAs (Decidable (caller = .codec →
      now - state.lastExternalPliMs < EXTERNAL_PLI_MIN_INTERVAL_MS →
        ∀ drop ∈ state.running, drop.closing = true →
          (∃ sent ∈ state.plis, drop.time ≤ sent) ∨
            0 < state.lastExternalPliMs ∧ drop.time ≤ state.lastExternalPliMs))
  | .passed _ => inferInstanceAs (Decidable True)
  | .stamped _ => inferInstanceAs (Decidable True)
  | .deferring now =>
      inferInstanceAs (Decidable (state.endpoint = .known → ∃ sent ∈ state.plis, now ≤ sent))
  | .sending _ =>
      inferInstanceAs (Decidable (0 ≤ state.videoSsrc ∧ (state.endpoint = .addressed → state.pliPending = true)))

instance (state : KeyframeRequests) : (action : Action) → Decidable (state.Timely action)
  | .tick _ => inferInstanceAs (Decidable True)
  | .call _ => inferInstanceAs (Decidable True)
  | .proceed caller => inferInstanceAs (Decidable (∀ call ∈ state.calls caller, call.Timely state caller))
  | .publish => inferInstanceAs (Decidable (state.endpoint = .sending → 0 ≤ state.videoSsrc))
  | .autoPli => inferInstanceAs (Decidable True)
  | .decode _ => inferInstanceAs (Decidable True)

/-! ## What a step does -/

/-- What the actions do, one case for each outcome. -/
inductive Does (state : KeyframeRequests) : Action → KeyframeRequests → Prop where
  | tick (elapsed : Nat) : Does state (.tick elapsed) { state with clock := state.clock + elapsed }
  | run (decoder : VideoDecoder) (drop : Drop) (posted : List Drop) (idle : state.calls .codec = none)
      (first : state.posted = drop :: posted) :
      Does state (.call .codec)
        ({ state with decoder := decoder, posted := posted, running := some drop }.set .codec
          (.checking state.clock))
  | enter (caller : Caller) (idle : state.calls caller = none) (other : caller ≠ .codec) :
      Does state (.call caller) (state.set caller (.checking state.clock))
  | throttle (caller : Caller) (now : Int) (under : state.calls caller = some (.checking now))
      (soon : now - state.lastExternalPliMs < EXTERNAL_PLI_MIN_INTERVAL_MS) :
      Does state (.proceed caller) (state.finish caller)
  | pass (caller : Caller) (now : Int) (under : state.calls caller = some (.checking now)) :
      Does state (.proceed caller) (state.set caller (.passed now))
  | stamp (caller : Caller) (now : Int) (under : state.calls caller = some (.passed now)) :
      Does state (.proceed caller) ({ state with lastExternalPliMs := now }.set caller (.stamped now))
  | leave (caller : Caller) (now : Int) (under : state.calls caller = some (.stamped now)) :
      Does state (.proceed caller) (state.set caller (.deferring now))
  | address (caller : Caller) (now : Int) (under : state.calls caller = some (.stamped now))
      (learned : state.endpoint ≠ .unknown) : Does state (.proceed caller) (state.set caller (.sending now))
  | defer (caller : Caller) (now : Int) (under : state.calls caller = some (.deferring now)) :
      Does state (.proceed caller) ({ state with pliPending := true }.finish caller)
  | send (caller : Caller) (now : Int) (under : state.calls caller = some (.sending now)) :
      Does state (.proceed caller) (state.sendPli.finish caller)
  | learn (is : state.endpoint = .unknown) : Does state .publish { state with endpoint := .addressed }
  | port (is : state.endpoint = .addressed) : Does state .publish { state with endpoint := .ported }
  | pending (is : state.endpoint = .ported) (pending : state.pliPending = true) :
      Does state .publish { state with endpoint := .flushing }
  | nothing (is : state.endpoint = .ported) (nothing : ¬ state.pliPending = true) :
      Does state .publish { state with endpoint := .known }
  | flush (is : state.endpoint = .flushing) :
      Does state .publish { state with pliPending := false, endpoint := .sending }
  | flushed (is : state.endpoint = .sending) : Does state .publish { state.sendPli with endpoint := .known }
  | autoPli : Does state .autoPli state.sendPli
  | decode (action : VideoDecoder.Action) (decoder : VideoDecoder) (posted : List Drop)
      (now : ∀ drop ∈ posted, drop.time = state.clock) :
      Does state (.decode action) { state with decoder := decoder, posted := state.posted ++ posted }

variable {state next : KeyframeRequests} {action : Action} {caller : Caller}

theorem does_call (stepped : state.call caller = some next) : state.Does (.call caller) next := by
  unfold call at stepped
  cases idle : state.calls caller with
  | some call => simp only [idle, reduceCtorEq] at stepped
  | none =>
      simp only [idle] at stepped
      cases caller with
      | codec =>
          cases ran : state.decoder.step .request with
          | none => simp only [ran, reduceCtorEq] at stepped
          | some decoder =>
              cases first : state.posted with
              | nil => simp only [ran, first, reduceCtorEq] at stepped
              | cons drop posted =>
                  simp only [ran, first] at stepped
                  cases stepped
                  exact .run decoder drop posted idle first
      | session =>
          cases stepped
          exact .enter .session idle (by decide)
      | loop =>
          obtain ⟨_, rfl⟩ := eq_of_guarded stepped
          exact .enter .loop idle (by decide)

theorem does_proceed (stepped : state.proceed caller = some next) : state.Does (.proceed caller) next := by
  unfold proceed at stepped
  cases under : state.calls caller with
  | none => simp only [under, reduceCtorEq] at stepped
  | some call =>
      cases call with
      | checking now =>
          simp only [under, check] at stepped
          by_cases soon : now - state.lastExternalPliMs < EXTERNAL_PLI_MIN_INTERVAL_MS
          · rw [if_pos soon] at stepped
            cases stepped
            exact .throttle caller now under soon
          · rw [if_neg soon] at stepped
            cases stepped
            exact .pass caller now under
      | passed now =>
          simp only [under] at stepped
          cases stepped
          exact .stamp caller now under
      | stamped now =>
          simp only [under] at stepped
          by_cases unknown : state.endpoint = .unknown
          · rw [if_pos unknown] at stepped
            cases stepped
            exact .leave caller now under
          · rw [if_neg unknown] at stepped
            cases stepped
            exact .address caller now under unknown
      | deferring now =>
          simp only [under] at stepped
          cases stepped
          exact .defer caller now under
      | sending now =>
          simp only [under] at stepped
          cases stepped
          exact .send caller now under

theorem does_publish (stepped : state.publish = some next) : state.Does .publish next := by
  unfold publish at stepped
  cases is : state.endpoint with
  | unknown =>
      simp only [is] at stepped
      cases stepped
      exact .learn is
  | addressed =>
      simp only [is] at stepped
      cases stepped
      exact .port is
  | ported =>
      simp only [is] at stepped
      by_cases pending : state.pliPending = true
      · rw [if_pos pending] at stepped
        cases stepped
        exact .pending is pending
      · rw [if_neg pending] at stepped
        cases stepped
        exact .nothing is pending
  | flushing =>
      simp only [is] at stepped
      cases stepped
      exact .flush is
  | sending =>
      simp only [is] at stepped
      cases stepped
      exact .flushed is
  | known => simp only [is, reduceCtorEq] at stepped

theorem does_decode {action : VideoDecoder.Action} (stepped : state.decode action = some next) :
    state.Does (.decode action) next := by
  unfold decode at stepped
  by_cases free : state.free action = true
  · rw [if_pos free] at stepped
    cases decoded : state.decoder.step action with
    | none => simp only [decoded, reduceCtorEq] at stepped
    | some decoder =>
        simp only [decoded] at stepped
        cases stepped
        by_cases dropped : state.decoder.requestsPosted < decoder.requestsPosted
        · rw [if_pos dropped]
          refine .decode action decoder [⟨state.clock, state.decoder.inputChainReady⟩] ?_
          intro drop member
          rw [List.mem_singleton.mp member]
        · rw [if_neg dropped]
          have same : state.Does (.decode action) { state with decoder := decoder, posted := state.posted ++ [] } :=
            .decode action decoder [] (fun _ impossible => by cases impossible)
          rwa [List.append_nil] at same
  · rw [if_neg free] at stepped
    cases stepped

theorem does_of_step (stepped : state.step action = some next) : state.Does action next := by
  cases action with
  | tick elapsed =>
      cases stepped
      exact .tick elapsed
  | call caller => exact does_call stepped
  | proceed caller => exact does_proceed stepped
  | publish => exact does_publish stepped
  | autoPli =>
      obtain ⟨_, rfl⟩ := eq_of_guarded stepped
      exact .autoPli
  | decode action => exact does_decode stepped

/-! ## What is on its way -/

def Call.time : Call → Int
  | .checking now => now
  | .passed now => now
  | .stamped now => now
  | .deferring now => now
  | .sending now => now

/-- The call has passed the throttle, not before that time. -/
def Call.Asks (time : Int) : Call → Prop
  | .checking _ => False
  | .passed _ => False
  | .stamped now => time ≤ now
  | .deferring now => time ≤ now
  | .sending now => time ≤ now

/-- The loop has not looked for a pending request yet. -/
def Endpoint.Unread (endpoint : Endpoint) : Prop :=
  endpoint = .unknown ∨ endpoint = .addressed ∨ endpoint = .ported

/-- The loop is about to send a PLI. -/
def Endpoint.Flushes (endpoint : Endpoint) : Prop := endpoint = .flushing ∨ endpoint = .sending

theorem Endpoint.progress (endpoint : Endpoint) : endpoint.Unread ∨ endpoint.Flushes ∨ endpoint = .known := by
  cases endpoint with
  | unknown => exact Or.inl (Or.inl rfl)
  | addressed => exact Or.inl (Or.inr (Or.inl rfl))
  | ported => exact Or.inl (Or.inr (Or.inr rfl))
  | flushing => exact Or.inr (Or.inl (Or.inl rfl))
  | sending => exact Or.inr (Or.inl (Or.inr rfl))
  | known => exact Or.inr (Or.inr rfl)

/-- A PLI has been sent at that time or later, or the loop will send one. -/
def Promised (state : KeyframeRequests) (time : Int) : Prop :=
  (∃ sent ∈ state.plis, time ≤ sent) ∨ (state.pliPending = true ∧ state.endpoint.Unread) ∨ state.endpoint.Flushes

/-- A PLI is promised, or a call that has passed the throttle is on its way. -/
structure Covered (state : KeyframeRequests) (time : Int) : Prop where
  past : time ≤ state.clock
  asked : state.Promised time ∨ ∃ caller call, state.calls caller = some call ∧ call.Asks time

/-- The last time that was set is covered, and so are the drops whose requests
are done. -/
structure Sound (state : KeyframeRequests) : Prop where
  last : 0 < state.lastExternalPliMs → state.Covered state.lastExternalPliMs
  calls : ∀ caller call, state.calls caller = some call → call.time ≤ state.clock
  reached : ∀ caller now, state.calls caller = some (.sending now) → state.endpoint ≠ .unknown
  posted : ∀ drop ∈ state.posted, drop.time ≤ state.clock
  running : ∀ drop ∈ state.running, ∃ call, state.calls .codec = some call ∧ drop.time ≤ call.time
  done : ∀ drop ∈ state.done, drop.closing = true → state.Covered drop.time

variable {call : Call} {time earlier : Int}

theorem Call.Asks.mono (asks : call.Asks time) (before : earlier ≤ time) :
    call.Asks earlier := by
  cases call with
  | checking now => exact asks
  | passed now => exact asks
  | stamped now => exact Int.le_trans before asks
  | deferring now => exact Int.le_trans before asks
  | sending now => exact Int.le_trans before asks

theorem Promised.mono (promised : state.Promised time) (before : earlier ≤ time) :
    state.Promised earlier := by
  rcases promised with ⟨sent, member, late⟩ | pending
  · exact Or.inl ⟨sent, member, Int.le_trans before late⟩
  · exact Or.inr pending

theorem Covered.mono (covered : state.Covered time) (before : earlier ≤ time) :
    state.Covered earlier where
  past := Int.le_trans before covered.past
  asked := by
    rcases covered.asked with promised | ⟨caller, call, under, asks⟩
    · exact Or.inl (promised.mono before)
    · exact Or.inr ⟨caller, call, under, asks.mono before⟩

theorem Call.Asks.before (asks : call.Asks time) : time ≤ call.time := by
  cases call with
  | checking now => exact False.elim asks
  | passed now => exact False.elim asks
  | stamped now => exact asks
  | deferring now => exact asks
  | sending now => exact asks

/-! ## Frames -/

theorem sendPli_eq : state.sendPli = { state with plis := state.sendPli.plis } := by
  unfold sendPli
  split_ifs <;> rfl

theorem mem_sendPli {sent : Int} (member : sent ∈ state.plis) : sent ∈ state.sendPli.plis := by
  unfold sendPli
  split_ifs
  · exact member
  · exact List.mem_append_left _ member

/-- A PLI goes out when the port is known. -/
theorem clock_mem_sendPli (unknown : state.endpoint ≠ .unknown) (addressed : state.endpoint ≠ .addressed)
    (ssrc : 0 ≤ state.videoSsrc) : state.clock ∈ state.sendPli.plis := by
  have sends : ¬ (state.endpoint = .unknown ∨ state.endpoint = .addressed ∨ state.videoSsrc < 0) := by
    rintro (impossible | impossible | impossible)
    · exact unknown impossible
    · exact addressed impossible
    · exact absurd ssrc (Int.not_le.mpr impossible)
  rw [sendPli, if_neg sends]
  exact List.mem_append_right _ (List.mem_singleton.mpr rfl)

theorem finish_eq : state.finish caller =
    { state with
      calls := Function.update state.calls caller none
      done := (state.finish caller).done
      running := (state.finish caller).running } := by
  cases caller <;> rfl

theorem clock_le (does : state.Does action next) : state.clock ≤ next.clock := by
  cases does with
  | tick elapsed => exact Int.le_add_of_nonneg_right (Int.natCast_nonneg elapsed)
  | throttle caller => exact finish_eq ▸ Int.le_refl _
  | defer caller => exact finish_eq ▸ Int.le_refl _
  | send caller => exact Int.le_of_eq (by rw [finish_eq, sendPli_eq])
  | flushed => exact Int.le_of_eq (by rw [sendPli_eq])
  | autoPli => exact Int.le_of_eq (by rw [sendPli_eq])
  | _ => exact Int.le_refl _

theorem set_calls_of_ne {other : Caller} (different : caller ≠ other) :
    (state.set other call).calls caller = state.calls caller := Function.update_of_ne different _ _

theorem set_calls_self : (state.set caller call).calls caller = some call := Function.update_self _ _ _

theorem finish_calls_of_ne {other : Caller} (different : caller ≠ other) :
    (state.finish other).calls caller = state.calls caller := by
  rw [finish_eq]
  exact Function.update_of_ne different _ _

theorem finish_calls_self : (state.finish caller).calls caller = none := by
  rw [finish_eq]
  exact Function.update_self _ _ _

/-- A call only goes on by an action of its own. -/
theorem calls_kept (does : state.Does action next) (under : state.calls caller = some call) :
    next.calls caller = some call ∨ action = .proceed caller := by
  by_cases own : action = .proceed caller
  · exact Or.inr own
  refine Or.inl ?_
  cases does with
  | run decoder drop posted idle =>
      have different : caller ≠ .codec := by
        rintro rfl
        cases idle.symm.trans under
      rw [set_calls_of_ne different]
      exact under
  | enter other idle =>
      have different : caller ≠ other := by
        rintro rfl
        cases idle.symm.trans under
      rw [set_calls_of_ne different]
      exact under
  | throttle other =>
      rw [finish_calls_of_ne (by rintro rfl; exact own rfl)]
      exact under
  | pass other =>
      rw [set_calls_of_ne (by rintro rfl; exact own rfl)]
      exact under
  | stamp other =>
      rw [set_calls_of_ne (by rintro rfl; exact own rfl)]
      exact under
  | leave other =>
      rw [set_calls_of_ne (by rintro rfl; exact own rfl)]
      exact under
  | address other =>
      rw [set_calls_of_ne (by rintro rfl; exact own rfl)]
      exact under
  | defer other =>
      rw [finish_calls_of_ne (by rintro rfl; exact own rfl)]
      exact under
  | send other =>
      rw [finish_calls_of_ne (by rintro rfl; exact own rfl), sendPli_eq]
      exact under
  | flushed =>
      rw [sendPli_eq]
      exact under
  | autoPli =>
      rw [sendPli_eq]
      exact under
  | _ => exact under

/-! ## Nothing promised is lost -/

theorem Promised.finish (promised : state.Promised time) : (state.finish caller).Promised time := by
  rw [finish_eq]
  exact promised

theorem Promised.sendPli (promised : state.Promised time) : state.sendPli.Promised time := by
  rcases promised with ⟨sent, member, late⟩ | loop
  · exact Or.inl ⟨sent, mem_sendPli member, late⟩
  · rw [sendPli_eq]
    exact Or.inr loop

/-- The loop looks for a pending request behind the port, and sends a PLI for one
that it has found. -/
theorem Promised.step (promised : state.Promised time) (past : time ≤ state.clock)
    (timely : state.Timely action) (does : state.Does action next) : next.Promised time := by
  cases does with
  | throttle caller => exact promised.finish
  | defer caller =>
      refine Promised.finish ?_
      rcases promised with sent | ⟨_, unread⟩ | flushes
      · exact Or.inl sent
      · exact Or.inr (Or.inl ⟨rfl, unread⟩)
      · exact Or.inr (Or.inr flushes)
  | send caller => exact promised.sendPli.finish
  | learn is =>
      rcases promised with sent | ⟨pending, _⟩ | flushing | sending
      · exact Or.inl sent
      · exact Or.inr (Or.inl ⟨pending, Or.inr (Or.inl rfl)⟩)
      · cases is.symm.trans flushing
      · cases is.symm.trans sending
  | port is =>
      rcases promised with sent | ⟨pending, _⟩ | flushing | sending
      · exact Or.inl sent
      · exact Or.inr (Or.inl ⟨pending, Or.inr (Or.inr rfl)⟩)
      · cases is.symm.trans flushing
      · cases is.symm.trans sending
  | pending is pending => exact Or.inr (Or.inr (Or.inl rfl))
  | nothing is nothing =>
      rcases promised with sent | ⟨pending, _⟩ | flushing | sending
      · exact Or.inl sent
      · exact absurd pending nothing
      · cases is.symm.trans flushing
      · cases is.symm.trans sending
  | flush is => exact Or.inr (Or.inr (Or.inr rfl))
  | flushed is =>
      refine Or.inl ⟨state.clock, ?_, past⟩
      refine clock_mem_sendPli ?_ ?_ (timely is)
      · rw [is]
        exact Endpoint.noConfusion
      · rw [is]
        exact Endpoint.noConfusion
  | autoPli => exact promised.sendPli
  | _ => exact promised

/-- A call that has passed the throttle goes on asking until a PLI is promised. -/
theorem Call.Asks.step (asks : call.Asks time) (under : state.calls caller = some call)
    (past : call.time ≤ state.clock) (reached : ∀ now, call = .sending now → state.endpoint ≠ .unknown)
    (timely : state.Timely (.proceed caller)) (does : state.Does (.proceed caller) next) :
    next.Promised time ∨ ∃ later, next.calls caller = some later ∧ later.Asks time := by
  have before := asks.before
  have timely := timely call under
  cases does with
  | throttle _ now is =>
      cases is.symm.trans under
      exact False.elim asks
  | pass _ now is =>
      cases is.symm.trans under
      exact False.elim asks
  | stamp _ now is =>
      cases is.symm.trans under
      exact False.elim asks
  | leave _ now is =>
      cases is.symm.trans under
      exact Or.inr ⟨.deferring now, set_calls_self, asks⟩
  | address _ now is =>
      cases is.symm.trans under
      exact Or.inr ⟨.sending now, set_calls_self, asks⟩
  | defer _ now is =>
      cases is.symm.trans under
      refine Or.inl (Promised.finish ?_)
      rcases state.endpoint.progress with unread | flushes | known
      · exact Or.inr (Or.inl ⟨rfl, unread⟩)
      · exact Or.inr (Or.inr flushes)
      · obtain ⟨sent, member, late⟩ := timely known
        exact Or.inl ⟨sent, member, Int.le_trans asks late⟩
  | send _ now is =>
      cases is.symm.trans under
      refine Or.inl (Promised.finish ?_)
      obtain ⟨ssrc, pending⟩ := timely
      by_cases addressed : state.endpoint = .addressed
      · exact Promised.sendPli (Or.inr (Or.inl ⟨pending addressed, Or.inr (Or.inl addressed)⟩))
      · exact Or.inl ⟨state.clock, clock_mem_sendPli (reached now rfl) addressed ssrc, Int.le_trans before past⟩

theorem Covered.step (covered : state.Covered time) (sound : state.Sound) (timely : state.Timely action)
    (does : state.Does action next) : next.Covered time where
  past := Int.le_trans covered.past (clock_le does)
  asked := by
    rcases covered.asked with promised | ⟨caller, call, under, asks⟩
    · exact Or.inl (promised.step covered.past timely does)
    · rcases calls_kept does under with kept | rfl
      · exact Or.inr ⟨caller, call, kept, asks⟩
      · have reached : ∀ now, call = .sending now → state.endpoint ≠ .unknown := by
          rintro now rfl
          exact sound.reached caller now under
        rcases asks.step under (sound.calls caller call under) reached timely does with
          promised | ⟨later, goesOn, asks⟩
        · exact Or.inl promised
        · exact Or.inr ⟨caller, later, goesOn, asks⟩

/-! ## The invariant -/

theorem sound_start (clock videoSsrc : Int) : (start clock videoSsrc).Sound where
  last := fun impossible => absurd impossible (Int.lt_irrefl 0)
  calls := by
    intro caller call impossible
    cases impossible
  reached := by
    intro caller now impossible
    cases impossible
  posted := by
    intro drop impossible
    cases impossible
  running := by
    intro drop impossible
    cases impossible
  done := by
    intro drop impossible
    cases impossible

/-- What a step makes of the call of a caller. -/
inductive Goes (state : KeyframeRequests) : Option Call → Option Call → Prop where
  | stays (call : Option Call) : Goes state call call
  | enters : Goes state none (some (.checking state.clock))
  | passes (now : Int) : Goes state (some (.checking now)) (some (.passed now))
  | stamps (now : Int) : Goes state (some (.passed now)) (some (.stamped now))
  | leaves (now : Int) : Goes state (some (.stamped now)) (some (.deferring now))
  | addresses (now : Int) (learned : state.endpoint ≠ .unknown) :
      Goes state (some (.stamped now)) (some (.sending now))
  | returns (call : Call) : Goes state (some call) none

theorem goes_set {middle : KeyframeRequests} {other : Caller} (same : middle.calls = state.calls)
    (goes : state.Goes (state.calls other) (some call)) (caller : Caller) :
    state.Goes (state.calls caller) ((middle.set other call).calls caller) := by
  by_cases own : caller = other
  · rw [own, set_calls_self]
    exact goes
  · rw [set_calls_of_ne own, same]
    exact .stays _

theorem goes_finish {middle : KeyframeRequests} {other : Caller} (same : middle.calls = state.calls)
    (under : state.calls other = some call) (caller : Caller) :
    state.Goes (state.calls caller) ((middle.finish other).calls caller) := by
  by_cases own : caller = other
  · rw [own, finish_calls_self, under]
    exact .returns call
  · rw [finish_calls_of_ne own, same]
    exact .stays _

theorem goes_of_does (does : state.Does action next) (caller : Caller) :
    state.Goes (state.calls caller) (next.calls caller) := by
  cases does with
  | run decoder drop posted idle => exact goes_set rfl (idle ▸ .enters) caller
  | enter other idle => exact goes_set rfl (idle ▸ .enters) caller
  | throttle other now under => exact goes_finish rfl under caller
  | pass other now under => exact goes_set rfl (under ▸ .passes now) caller
  | stamp other now under => exact goes_set rfl (under ▸ .stamps now) caller
  | leave other now under => exact goes_set rfl (under ▸ .leaves now) caller
  | address other now under learned => exact goes_set rfl (under ▸ .addresses now learned) caller
  | defer other now under => exact goes_finish (by rfl) under caller
  | send other now under =>
      rw [sendPli_eq]
      exact goes_finish (by rfl) under caller
  | flushed =>
      rw [sendPli_eq]
      exact .stays _
  | autoPli =>
      rw [sendPli_eq]
      exact .stays _
  | _ => exact .stays _

theorem Goes.time_le {before : Option Call} (goes : state.Goes before (some call))
    (past : ∀ earlier, before = some earlier → earlier.time ≤ state.clock) : call.time ≤ state.clock := by
  cases goes with
  | stays => exact past call rfl
  | enters => exact Int.le_refl _
  | passes now => exact past (.checking now) rfl
  | stamps now => exact past (.passed now) rfl
  | leaves now => exact past (.stamped now) rfl
  | addresses now => exact past (.stamped now) rfl

theorem unknown_of_does (does : state.Does action next) (unknown : next.endpoint = .unknown) :
    state.endpoint = .unknown := by
  cases does with
  | throttle =>
      rw [finish_eq] at unknown
      exact unknown
  | defer =>
      rw [finish_eq] at unknown
      exact unknown
  | send =>
      rw [finish_eq, sendPli_eq] at unknown
      exact unknown
  | autoPli =>
      rw [sendPli_eq] at unknown
      exact unknown
  | learn is => exact is
  | port => cases unknown
  | pending => cases unknown
  | nothing => cases unknown
  | flush => cases unknown
  | flushed => cases unknown
  | _ => exact unknown

theorem last_of_does (does : state.Does action next) :
    next.lastExternalPliMs = state.lastExternalPliMs ∨
      ∃ caller now, state.calls caller = some (.passed now) ∧ next.calls caller = some (.stamped now) ∧
        next.lastExternalPliMs = now := by
  cases does with
  | throttle =>
      rw [finish_eq]
      exact Or.inl rfl
  | stamp caller now under => exact Or.inr ⟨caller, now, under, set_calls_self, rfl⟩
  | defer =>
      rw [finish_eq]
      exact Or.inl rfl
  | send =>
      rw [finish_eq, sendPli_eq]
      exact Or.inl rfl
  | flushed =>
      rw [sendPli_eq]
      exact Or.inl rfl
  | autoPli =>
      rw [sendPli_eq]
      exact Or.inl rfl
  | _ => exact Or.inl rfl

/-- A drop is posted at the time of the clock. -/
theorem posted_of_does (does : state.Does action next) {drop : Drop} (member : drop ∈ next.posted) :
    drop ∈ state.posted ∨ drop.time = state.clock := by
  cases does with
  | run decoder first posted idle isFirst => exact Or.inl (isFirst ▸ List.mem_cons_of_mem first member)
  | throttle =>
      rw [finish_eq] at member
      exact Or.inl member
  | defer =>
      rw [finish_eq] at member
      exact Or.inl member
  | send =>
      rw [finish_eq, sendPli_eq] at member
      exact Or.inl member
  | flushed =>
      rw [sendPli_eq] at member
      exact Or.inl member
  | autoPli =>
      rw [sendPli_eq] at member
      exact Or.inl member
  | decode _ _ posted now =>
      rcases List.mem_append.mp member with old | new
      · exact Or.inl old
      · exact Or.inr (now drop new)
  | _ => exact Or.inl member

theorem finish_running {drop : Drop} (member : drop ∈ (state.finish caller).running) :
    caller ≠ .codec ∧ drop ∈ state.running := by
  cases caller with
  | codec => cases member
  | session => exact ⟨by decide, member⟩
  | loop => exact ⟨by decide, member⟩

theorem finish_done {drop : Drop} (member : drop ∈ (state.finish caller).done) :
    drop ∈ state.done ∨ caller = .codec ∧ drop ∈ state.running := by
  cases caller with
  | codec =>
      rcases List.mem_append.mp member with old | new
      · exact Or.inl old
      · exact Or.inr ⟨rfl, Option.mem_toList.mp new⟩
  | session => exact Or.inl member
  | loop => exact Or.inl member

theorem calls_of_set_none {other : Caller} (idle : (state.set other call).calls caller = none) :
    state.calls caller = none := by
  by_cases own : caller = other
  · rw [own, set_calls_self] at idle
    cases idle
  · rwa [set_calls_of_ne own] at idle

/-- A request that is run is one that was run, whose call goes on, or one that was
posted. -/
theorem running_of_does (does : state.Does action next) {drop : Drop} (member : drop ∈ next.running) :
    (drop ∈ state.running ∧ (next.calls .codec = none → state.calls .codec = none)) ∨
      (drop ∈ state.posted ∧ next.calls .codec = some (.checking state.clock)) := by
  cases does with
  | run decoder first posted idle isFirst =>
      cases member
      rw [isFirst]
      exact Or.inr ⟨List.mem_cons_self, set_calls_self⟩
  | enter => exact Or.inl ⟨member, calls_of_set_none⟩
  | throttle caller =>
      obtain ⟨other, member⟩ := finish_running member
      refine Or.inl ⟨member, ?_⟩
      rw [finish_calls_of_ne other.symm]
      exact id
  | pass => exact Or.inl ⟨member, calls_of_set_none⟩
  | stamp =>
      refine Or.inl ⟨member, fun idle => ?_⟩
      have was := calls_of_set_none idle
      exact was
  | leave => exact Or.inl ⟨member, calls_of_set_none⟩
  | address => exact Or.inl ⟨member, calls_of_set_none⟩
  | defer caller =>
      obtain ⟨other, member⟩ := finish_running member
      refine Or.inl ⟨member, ?_⟩
      rw [finish_calls_of_ne other.symm]
      exact id
  | send caller =>
      obtain ⟨other, member⟩ := finish_running member
      rw [sendPli_eq] at member ⊢
      refine Or.inl ⟨member, ?_⟩
      rw [finish_calls_of_ne other.symm]
      exact id
  | flushed =>
      rw [sendPli_eq] at member ⊢
      exact Or.inl ⟨member, id⟩
  | autoPli =>
      rw [sendPli_eq] at member ⊢
      exact Or.inl ⟨member, id⟩
  | _ => exact Or.inl ⟨member, id⟩

/-- A request that is done was done, or the codec thread has just returned from it. -/
theorem done_of_does (does : state.Does action next) {drop : Drop} (member : drop ∈ next.done) :
    drop ∈ state.done ∨ drop ∈ state.running ∧ action = .proceed .codec ∧ next.calls .codec = none := by
  cases does with
  | throttle caller =>
      rcases finish_done member with old | ⟨rfl, new⟩
      · exact Or.inl old
      · exact Or.inr ⟨new, rfl, finish_calls_self⟩
  | defer caller =>
      rcases finish_done member with old | ⟨rfl, new⟩
      · exact Or.inl old
      · exact Or.inr ⟨new, rfl, finish_calls_self⟩
  | send caller =>
      rw [sendPli_eq] at member
      rcases finish_done member with old | ⟨rfl, new⟩
      · exact Or.inl old
      · exact Or.inr ⟨new, rfl, finish_calls_self⟩
  | flushed =>
      rw [sendPli_eq] at member
      exact Or.inl member
  | autoPli =>
      rw [sendPli_eq] at member
      exact Or.inl member
  | _ => exact Or.inl member

/-- A call returns when it is throttled, or when it has asked. -/
theorem returned_of_does (does : state.Does (.proceed caller) next) (under : state.calls caller = some call)
    (returned : next.calls caller = none) :
    (∃ now, call = .checking now ∧ now - state.lastExternalPliMs < EXTERNAL_PLI_MIN_INTERVAL_MS) ∨
      call.Asks call.time := by
  cases does with
  | throttle _ now is soon =>
      cases is.symm.trans under
      exact Or.inl ⟨now, rfl, soon⟩
  | pass => cases set_calls_self.symm.trans returned
  | stamp => cases set_calls_self.symm.trans returned
  | leave => cases set_calls_self.symm.trans returned
  | address => cases set_calls_self.symm.trans returned
  | defer _ now is =>
      cases is.symm.trans under
      exact Or.inr (Int.le_refl now)
  | send _ now is =>
      cases is.symm.trans under
      exact Or.inr (Int.le_refl now)

/-- When the request of a drop that closed the input chain returns, the drop is
covered. -/
theorem Sound.returned (sound : state.Sound) (timely : state.Timely (.proceed .codec))
    (does : state.Does (.proceed .codec) next) (returned : next.calls .codec = none) {drop : Drop}
    (member : drop ∈ state.running) (closing : drop.closing = true) : state.Covered drop.time := by
  obtain ⟨call, under, before⟩ := sound.running drop member
  have past := sound.calls .codec call under
  rcases returned_of_does does under returned with ⟨now, rfl, soon⟩ | asks
  · rcases timely (.checking now) under rfl soon drop member closing with sent | ⟨positive, late⟩
    · exact ⟨Int.le_trans before past, Or.inl (Or.inl sent)⟩
    · exact (sound.last positive).mono late
  · exact ⟨Int.le_trans before past, Or.inr ⟨.codec, call, under, asks.mono before⟩⟩

theorem Goes.time_eq {later : Call} (goes : state.Goes (some call) (some later)) : later.time = call.time := by
  cases goes <;> rfl

theorem Sound.step (sound : state.Sound) (timely : state.Timely action) (does : state.Does action next) :
    next.Sound where
  last := by
    intro positive
    rcases last_of_does does with same | ⟨caller, now, under, stamped, same⟩
    · rw [same] at positive ⊢
      exact (sound.last positive).step sound timely does
    · rw [same]
      exact ⟨Int.le_trans (sound.calls caller _ under) (clock_le does),
        Or.inr ⟨caller, .stamped now, stamped, Int.le_refl now⟩⟩
  calls := by
    intro caller call under
    have goes := goes_of_does does caller
    rw [under] at goes
    exact Int.le_trans (goes.time_le (sound.calls caller)) (clock_le does)
  reached := by
    intro caller now under unknown
    have was := unknown_of_does does unknown
    have goes := goes_of_does does caller
    rw [under] at goes
    generalize isBefore : state.calls caller = before at goes
    cases goes with
    | stays => exact sound.reached caller now isBefore was
    | addresses _ learned => exact learned was
  posted := by
    intro drop member
    rcases posted_of_does does member with old | new
    · exact Int.le_trans (sound.posted drop old) (clock_le does)
    · exact new ▸ clock_le does
  running := by
    intro drop member
    rcases running_of_does does member with ⟨old, goesOn⟩ | ⟨posted, begun⟩
    · obtain ⟨call, under, before⟩ := sound.running drop old
      have goes := goes_of_does does .codec
      cases after : next.calls .codec with
      | none => cases (goesOn after).symm.trans under
      | some later =>
          rw [under, after] at goes
          exact ⟨later, rfl, goes.time_eq.symm ▸ before⟩
    · exact ⟨.checking state.clock, begun, sound.posted drop posted⟩
  done := by
    intro drop member closing
    rcases done_of_does does member with old | ⟨running, rfl, returned⟩
    · exact (sound.done drop old closing).step sound timely does
    · exact (sound.returned timely does returned running closing).step sound timely does

/-! ## Every request of a drop is answered -/

/-- No call is under way, and the loop has not received anything, or is past the
first packet. -/
structure Settled (state : KeyframeRequests) : Prop where
  returned : ∀ caller, state.calls caller = none
  between : state.endpoint = .unknown ∨ state.endpoint = .known

theorem settled_of_calls (calls : [.codec, .session, .loop].map state.calls = [none, none, none])
    (between : state.endpoint = .unknown ∨ state.endpoint = .known) : state.Settled where
  between := between
  returned := by
    intro caller
    simp only [List.map_cons, List.map_nil, List.cons.injEq] at calls
    obtain ⟨codec, session, loop, _⟩ := calls
    cases caller with
    | codec => exact codec
    | session => exact session
    | loop => exact loop

/-- The drop has been answered by a PLI, or the loop will answer it. -/
def Answered (state : KeyframeRequests) (drop : Drop) : Prop :=
  (∃ sent ∈ state.plis, drop.time ≤ sent) ∨ (state.pliPending = true ∧ state.endpoint = .unknown)

theorem Covered.answered {drop : Drop} (covered : state.Covered drop.time) (settled : state.Settled) :
    state.Answered drop := by
  rcases covered.asked with (sent | ⟨pending, unread⟩ | flushes) | ⟨caller, call, under, _⟩
  · exact Or.inl sent
  · refine Or.inr ⟨pending, ?_⟩
    rcases settled.between with unknown | known
    · exact unknown
    · rcases unread with is | is | is <;> cases is.symm.trans known
  · rcases settled.between with is | is <;> rcases flushes with other | other <;> cases is.symm.trans other
  · cases (settled.returned caller).symm.trans under

/-- In a run all of whose steps meet the condition, every drop that closed the
input chain and whose request has run is answered, once the calls under way have
returned. -/
theorem keyframe_requested {clock videoSsrc : Int} {actions : List Action} {state : KeyframeRequests}
    (timely : Throughout step (start clock videoSsrc) Timely actions)
    (ran : run step (start clock videoSsrc) actions = some state) (settled : state.Settled) (drop : Drop)
    (member : drop ∈ state.done) (closing : drop.closing = true) : state.Answered drop := by
  have preserved : ∀ state action next, state.Sound → state.Timely action →
      step state action = some next → next.Sound :=
    fun state action next sound timely stepped => sound.step timely (does_of_step stepped)
  have sound := run_invariant_throughout preserved (sound_start clock videoSsrc) timely ran
  exact (sound.done drop member closing).answered settled

/-- A keyframe expires in the queue, some time after the request behind START. -/
def expired (elapsed : Nat) : List Action :=
  [.call .session, .proceed .session, .proceed .session, .proceed .session, .proceed .session] ++
    List.replicate 5 .publish ++
    [.decode (.feed ⟨1000, true⟩), .decode (.enqueue 1000 1000), .tick elapsed, .decode .drain, .decode .check,
      .decode (.take (1000 + elapsed)), .call .codec]

theorem keyframe_requested_sample : ∃ state,
    run step (start 1000 1) (expired 300 ++ List.replicate 4 (.proceed .codec)) = some state ∧
      state.done = [⟨1300, true⟩] ∧ state.Answered ⟨1300, true⟩ := by
  have ends : (run step (start 1000 1) (expired 300 ++ List.replicate 4 (.proceed .codec))).map
      (fun state => (state.endpoint, state.done, [.codec, .session, .loop].map state.calls)) =
        some (.known, [⟨1300, true⟩], [none, none, none]) := by decide +kernel
  obtain ⟨state, ran, isEnd⟩ := Option.map_eq_some_iff.mp ends
  simp only [Prod.mk.injEq] at isEnd
  obtain ⟨known, isDone, calls⟩ := isEnd
  have timely : Throughout step (start 1000 1) Timely (expired 300 ++ List.replicate 4 (.proceed .codec)) := by
    decide +kernel
  refine ⟨state, ran, isDone, ?_⟩
  refine keyframe_requested timely ran (settled_of_calls calls (Or.inr known)) ⟨1300, true⟩ ?_ rfl
  rw [isDone]
  exact List.mem_singleton.mpr rfl

/-- The request of the drop is throttled, as the PLI behind START went out a
moment before.  The input chain stays closed. -/
theorem keyframe_not_always_requested : ¬ ∀ clock videoSsrc actions state,
    run step (start clock videoSsrc) actions = some state → state.Settled →
      ∀ drop ∈ state.done, drop.closing = true → state.Answered drop := by
  intro always
  have ends : (run step (start 1000 1) (expired 150 ++ [.proceed .codec])).map
      (fun state => ((state.endpoint, state.done, [.codec, .session, .loop].map state.calls), state.plis,
        state.pliPending)) =
        some ((.known, [⟨1150, true⟩], [none, none, none]), [1000], false) := by decide +kernel
  obtain ⟨state, ran, isEnd⟩ := Option.map_eq_some_iff.mp ends
  simp only [Prod.mk.injEq] at isEnd
  obtain ⟨⟨known, isDone, calls⟩, plis, pending⟩ := isEnd
  have member : ⟨1150, true⟩ ∈ state.done := by
    rw [isDone]
    exact List.mem_singleton.mpr rfl
  rcases always 1000 1 _ state ran (settled_of_calls calls (Or.inr known)) ⟨1150, true⟩ member rfl with
    ⟨sent, isSent, late⟩ | ⟨impossible, _⟩
  · rw [plis] at isSent
    cases List.mem_singleton.mp isSent
    exact absurd late (by decide)
  · cases pending.symm.trans impossible

end KeyframeRequests
end MetaShare
