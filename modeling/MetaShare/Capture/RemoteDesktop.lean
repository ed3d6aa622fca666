import MetaShare.Server.InputEvents
import Mathlib.Algebra.Order.Ring.Rat
import Mathlib.Data.List.Induction

namespace MetaShare

open Transitions

/-!
# The remote desktop

The source of a captured desktop also injects input into it.  Each event becomes
calls of the RemoteDesktop portal, to which no reply is expected but which may
fail.  The positions are given in pixels of the stream.  After sixteen errors
injection is disabled for good.
-/

namespace RemoteDesktop

/-- A call of the portal. -/
inductive Call where
  | pointerMotionAbsolute (x y : ℚ)
  | pointerButton (button : Int) (state : Nat)
  | pointerAxisDiscrete (axis : Nat) (steps : Int)
  | keyboardKeysym (keysym : Int) (state : Nat)
  deriving DecidableEq

end RemoteDesktop

/-- The size of the stream, whether injection is enabled and the proxy exists,
and a position with the size that it is relative to.  The calls with their
success and the former sizes only serve to state properties. -/
structure RemoteDesktop where
  width : Int32
  height : Int32
  inputReady : Bool
  portal : Bool
  inputErrors : Nat
  aimed : Option ((ℚ × ℚ) × Int32 × Int32)
  calls : List (RemoteDesktop.Call × Bool)
  sizes : List (Int32 × Int32)
  deriving DecidableEq

namespace RemoteDesktop

open StreamSession (Control)

def maxErrors : Nat := 16

def resize (desktop : RemoteDesktop) (width height : UInt32) : RemoteDesktop :=
  { desktop with
    width := width.toInt32
    height := height.toInt32
    sizes := desktop.sizes ++ [(width.toInt32, height.toInt32)] }

/-- The source when a session with remote input has been started. -/
def started (width height : UInt32) : RemoteDesktop :=
  resize ⟨0, 0, true, true, 0, none, [], []⟩ width height

def inputError (desktop : RemoteDesktop) : RemoteDesktop :=
  { desktop with
    inputErrors := desktop.inputErrors + 1
    inputReady := if desktop.inputErrors + 1 = maxErrors then false else desktop.inputReady }

def callMethod (desktop : RemoteDesktop) (call : Call) (sent : Bool) : RemoteDesktop :=
  let called := { desktop with calls := desktop.calls ++ [(call, sent)] }
  if sent then called else called.inputError

/-- Whether an event leads to calls at all. -/
def ready (desktop : RemoteDesktop) : Bool := desktop.inputReady && desktop.portal

/-- The first section of `pointer_motion` reads the size under a lock of its own. -/
def aim (desktop : RemoteDesktop) (nx ny : ℚ) : RemoteDesktop :=
  if desktop.width.toInt ≤ 0 ∨ desktop.height.toInt ≤ 0 then desktop
  else { desktop with aimed := some ((nx, ny), desktop.width, desktop.height) }

/-- The second section of `pointer_motion`. -/
def point (desktop : RemoteDesktop) (rounding : Rounding) (aimed : (ℚ × ℚ) × Int32 × Int32) (sent : Bool) :
    RemoteDesktop :=
  let free := { desktop with aimed := none }
  if desktop.ready then
    free.callMethod (.pointerMotionAbsolute (rounding.double (aimed.1.1 * aimed.2.1.toInt))
      (rounding.double (aimed.1.2 * aimed.2.2.toInt))) sent
  else free

def state (pressed : Bool) : Nat := if pressed then 1 else 0

def pointerButton (desktop : RemoteDesktop) (evdevButton : Int) (pressed sent : Bool) : RemoteDesktop :=
  if desktop.ready then desktop.callMethod (.pointerButton evdevButton (state pressed)) sent else desktop

/-- One axis of a scroll.  No call is made for 0 steps. -/
def scrollAxis (desktop : RemoteDesktop) (axis : Nat) (steps : Int) (sent : Bool) : RemoteDesktop :=
  if steps = 0 then desktop else desktop.callMethod (.pointerAxisDiscrete axis steps) sent

def pointerScroll (desktop : RemoteDesktop) (vSteps hSteps : Int) (sent sentToo : Bool) : RemoteDesktop :=
  if desktop.ready then (desktop.scrollAxis 0 vSteps sent).scrollAxis 1 hSteps sentToo else desktop

def key (desktop : RemoteDesktop) (keysym : Nat) (pressed sent : Bool) : RemoteDesktop :=
  if desktop.ready then desktop.callMethod (.keyboardKeysym ((keysym : Int).bmod (2 ^ 32))
    (state pressed)) sent else desktop

/-- What the host does with an event. -/
def onInput (desktop : RemoteDesktop) (event : InputEvent) (sent sentToo : Bool) : RemoteDesktop :=
  match event with
  | .move x y => desktop.aim x y
  | .button button pressed => desktop.pointerButton button pressed sent
  | .scroll v h => desktop.pointerScroll v h sent sentToo
  | .key keysym pressed => desktop.key keysym pressed sent

/-- The end of `stop`. -/
def stop (desktop : RemoteDesktop) : RemoteDesktop := { desktop with inputReady := false, portal := false }

/-- A critical section of the PipeWire thread, of the signaling thread or of the
one that stops the source, with the success of the calls. -/
inductive Action where
  | resize (width height : UInt32)
  | receive (body : List UInt8) (sent sentToo : Bool)
  | point (sent : Bool)
  | stop

/-- The signaling thread handles one body after the other. -/
def step (rounding : Rounding) (desktop : RemoteDesktop) : Action → Option RemoteDesktop
  | .resize width height => some (desktop.resize width height)
  | .receive body sent sentToo =>
      if desktop.aimed = none then
        match InputEvent.parse rounding body with
        | some event => some (desktop.onInput event sent sentToo)
        | none => some desktop
      else none
  | .point sent => desktop.aimed.map (fun aimed => desktop.point rounding aimed sent)
  | .stop => some desktop.stop

/-! ## Sound calls -/

/-- What an accepted body can say. -/
def Valid : InputEvent → Prop
  | .move x y => (0 ≤ x ∧ x ≤ 1) ∧ 0 ≤ y ∧ y ≤ 1
  | .button button _ => Decimal.FitsInt button
  | .scroll v h => Decimal.FitsInt v ∧ Decimal.FitsInt h
  | .key keysym _ => keysym < 2 ^ 32

/-- The position lies on a stream of this size. -/
def Inside (x y : ℚ) (size : Int32 × Int32) : Prop := (0 ≤ x ∧ x ≤ size.1.toInt) ∧ 0 ≤ y ∧ y ≤ size.2.toInt

/-- A call that is right for a stream of one of these sizes. -/
def Call.Sound (sizes : List (Int32 × Int32)) : Call → Prop
  | .pointerMotionAbsolute x y => ∃ size ∈ sizes, Inside x y size
  | .pointerButton button state => Decimal.FitsInt button ∧ state ≤ 1
  | .pointerAxisDiscrete axis steps => axis ≤ 1 ∧ steps ≠ 0 ∧ Decimal.FitsInt steps
  | .keyboardKeysym keysym state => Decimal.FitsInt keysym ∧ state ≤ 1

theorem sscanf_eq_some {First Second : Type} {first : List UInt8 → Option (First × List UInt8)}
    {second : List UInt8 → Option (Second × List UInt8)} {text : List UInt8} {found : First × Second}
    (scanned : InputEvent.sscanf first second text = some found) :
    ∃ rest last, first text = some (found.1, rest) ∧ second rest = some (found.2, last) := by
  obtain ⟨⟨one, rest⟩, isFirst, more⟩ := Option.bind_eq_some_iff.mp scanned
  obtain ⟨⟨other, last⟩, isSecond, same⟩ := Option.bind_eq_some_iff.mp more
  cases same
  exact ⟨rest, last, isFirst, isSecond⟩

theorem fits_of_scanInt {text rest : List UInt8} {number : Int}
    (scanned : InputEvent.scanInt text = some (number, rest)) : Decimal.FitsInt number := by
  obtain ⟨found, _, same⟩ := Option.map_eq_some_iff.mp scanned
  cases same
  exact Decimal.fits_bmod _

theorem lt_of_scanUnsigned {text rest : List UInt8} {number : Nat}
    (scanned : InputEvent.scanUnsigned text = some (number, rest)) : number < 2 ^ 32 := by
  obtain ⟨found, _, same⟩ := Option.map_eq_some_iff.mp scanned
  cases same
  exact Decimal.toUnsigned_lt _

/-- The host accepts valid events only, whatever a body says. -/
theorem valid_of_event {rounding : Rounding} {kind : UInt8} {rest : List UInt8} {event : InputEvent}
    (accepted : InputEvent.event rounding kind rest = some event) : Valid event := by
  unfold InputEvent.event at accepted
  split at accepted
  · obtain ⟨found, _, inside⟩ := Option.bind_eq_some_iff.mp accepted
    dsimp only at inside
    split at inside
    · rename_i bounds
      cases inside
      exact bounds
    · cases inside
  split at accepted
  · obtain ⟨found, scanned, rfl⟩ := Option.map_eq_some_iff.mp accepted
    obtain ⟨_, _, first, _⟩ := sscanf_eq_some scanned
    exact fits_of_scanInt first
  split at accepted
  · obtain ⟨found, scanned, rfl⟩ := Option.map_eq_some_iff.mp accepted
    obtain ⟨_, _, first, second⟩ := sscanf_eq_some scanned
    exact ⟨fits_of_scanInt first, fits_of_scanInt second⟩
  split at accepted
  · obtain ⟨found, scanned, rfl⟩ := Option.map_eq_some_iff.mp accepted
    obtain ⟨_, _, first, _⟩ := sscanf_eq_some scanned
    exact lt_of_scanUnsigned first
  · cases accepted

theorem valid_of_parse {rounding : Rounding} {body : List UInt8} {event : InputEvent}
    (parsed : InputEvent.parse rounding body = some event) : Valid event := by
  unfold InputEvent.parse at parsed
  split at parsed
  · exact valid_of_event parsed
  · cases parsed

def failures (calls : List (Call × Bool)) : Nat := (calls.filter (fun call => !call.2)).length

theorem failures_append (calls more : List (Call × Bool)) :
    failures (calls ++ more) = failures calls + failures more := by
  rw [failures, List.filter_append, List.length_append]
  rfl

/-- The calls so far are sound, and the errors are counted. -/
structure Contained (desktop : RemoteDesktop) : Prop where
  sound : ∀ call ∈ desktop.calls, call.1.Sound desktop.sizes
  counted : failures desktop.calls = desktop.inputErrors
  few : desktop.inputErrors ≤ maxErrors + 1
  enabled : desktop.inputReady = true ↔ desktop.portal = true ∧ desktop.inputErrors < maxErrors
  current : (desktop.width, desktop.height) ∈ desktop.sizes
  aimed : ∀ aimed ∈ desktop.aimed, aimed.2 ∈ desktop.sizes ∧ 0 < aimed.2.1.toInt ∧ 0 < aimed.2.2.toInt ∧
    Valid (.move aimed.1.1 aimed.1.2)

theorem contained_started (width height : UInt32) : (started width height).Contained where
  sound := fun _ member => nomatch member
  counted := rfl
  few := Nat.zero_le _
  enabled := ⟨fun _ => ⟨rfl, (by decide : 0 < maxErrors)⟩, fun _ => rfl⟩
  current := List.mem_singleton_self _
  aimed := fun _ member => nomatch member

theorem Call.Sound.mono {call : Call} {sizes more : List (Int32 × Int32)} (sound : call.Sound sizes) :
    call.Sound (sizes ++ more) := by
  cases call with
  | pointerMotionAbsolute x y =>
      obtain ⟨size, member, inside⟩ := sound
      exact ⟨size, List.mem_append_left _ member, inside⟩
  | pointerButton button state => exact sound
  | pointerAxisDiscrete axis steps => exact sound
  | keyboardKeysym keysym state => exact sound

namespace Contained

variable {desktop next : RemoteDesktop} {rounding : Rounding}

theorem lt_of_ready (contained : desktop.Contained) (isReady : desktop.ready = true) :
    desktop.inputErrors < maxErrors :=
  (contained.enabled.mp (Bool.and_eq_true_iff.mp isReady).1).2

/-- Only a call that is made with at most sixteen errors keeps the bound. -/
theorem callMethod (contained : desktop.Contained) {call : Call} (sound : call.Sound desktop.sizes)
    (few : desktop.inputErrors ≤ maxErrors) (sent : Bool) : (desktop.callMethod call sent).Contained := by
  have sounds : ∀ other ∈ desktop.calls ++ [(call, sent)], other.1.Sound desktop.sizes := by
    intro other member
    rcases List.mem_append.mp member with early | last
    · exact contained.sound other early
    · rw [List.mem_singleton.mp last]
      exact sound
  have counted := contained.counted
  cases sent with
  | true =>
      refine ⟨sounds, ?_, contained.few, contained.enabled, contained.current, contained.aimed⟩
      change failures (desktop.calls ++ [(call, true)]) = desktop.inputErrors
      rw [failures_append, counted]
      rfl
  | false =>
      refine ⟨sounds, ?_, Nat.succ_le_succ few, ?_, contained.current, contained.aimed⟩
      · change failures (desktop.calls ++ [(call, false)]) = desktop.inputErrors + 1
        rw [failures_append, counted]
        rfl
      · change (if desktop.inputErrors + 1 = maxErrors then false else desktop.inputReady) = true ↔
          desktop.portal = true ∧ desktop.inputErrors + 1 < maxErrors
        split
        · rename_i last
          rw [last]
          simp
        · rename_i other
          rw [contained.enabled]
          apply and_congr_right'
          omega

theorem errors_callMethod (desktop : RemoteDesktop) (call : Call) (sent : Bool) :
    (desktop.callMethod call sent).inputErrors ≤ desktop.inputErrors + 1 := by
  cases sent
  · exact Nat.le_refl _
  · exact Nat.le_succ _

theorem resize (contained : desktop.Contained) (width height : UInt32) : (desktop.resize width height).Contained where
  sound := fun call member => (contained.sound call member).mono
  counted := contained.counted
  few := contained.few
  enabled := contained.enabled
  current := List.mem_append_right _ (List.mem_singleton_self _)
  aimed := by
    intro aimed member
    obtain ⟨former, rest⟩ := contained.aimed aimed member
    exact ⟨List.mem_append_left _ former, rest⟩

theorem stop (contained : desktop.Contained) : desktop.stop.Contained where
  sound := contained.sound
  counted := contained.counted
  few := contained.few
  enabled := ⟨fun impossible => Bool.noConfusion impossible, fun gone => Bool.noConfusion gone.1⟩
  current := contained.current
  aimed := contained.aimed

theorem aim (contained : desktop.Contained) {x y : ℚ} (valid : Valid (.move x y)) : (desktop.aim x y).Contained := by
  rw [RemoteDesktop.aim]
  split
  · exact contained
  · rename_i proper
    have positive : 0 < desktop.width.toInt ∧ 0 < desktop.height.toInt := by omega
    refine ⟨contained.sound, contained.counted, contained.few, contained.enabled,
      contained.current, ?_⟩
    intro aimed isAimed
    cases isAimed
    exact ⟨contained.current, positive.1, positive.2, valid⟩

/-- A rounded position lies on the stream. -/
theorem inside (rounding : Rounding) {fraction : ℚ} {size : Int32} (low : 0 ≤ fraction) (high : fraction ≤ 1)
    (positive : 0 < size.toInt) :
    0 ≤ rounding.double (fraction * size.toInt) ∧ rounding.double (fraction * size.toInt) ≤ size.toInt := by
  have nonneg : (0 : ℚ) ≤ size.toInt := by exact_mod_cast positive.le
  constructor
  · rw [← rounding.double_zero]
    apply rounding.monotone
    exact mul_nonneg low nonneg
  · have small : size.toInt.natAbs ≤ 2 ^ 53 := by
      have bound := size.toInt_lt
      omega
    have bound := rounding.monotone (mul_le_of_le_one_left nonneg high)
    rw [rounding.exact size.toInt small] at bound
    exact bound

theorem point (contained : desktop.Contained) {aimed : (ℚ × ℚ) × Int32 × Int32} (isAimed : aimed ∈ desktop.aimed)
    (sent : Bool) : (desktop.point rounding aimed sent).Contained := by
  have free : { desktop with aimed := none }.Contained :=
    ⟨contained.sound, contained.counted, contained.few, contained.enabled, contained.current,
      fun _ member => nomatch member⟩
  obtain ⟨former, wide, high, xInside, yInside⟩ := contained.aimed aimed isAimed
  rw [RemoteDesktop.point]
  split
  · rename_i isReady
    apply free.callMethod
    · refine ⟨aimed.2, former, ?_, ?_⟩
      · exact inside rounding xInside.1 xInside.2 wide
      · exact inside rounding yInside.1 yInside.2 high
    · exact (contained.lt_of_ready isReady).le
  · exact free

theorem state_le (pressed : Bool) : state pressed ≤ 1 := by
  cases pressed <;> decide

theorem scrollAxis (contained : desktop.Contained) {axis : Nat} {steps : Int} (isAxis : axis ≤ 1)
    (fits : Decimal.FitsInt steps) (few : desktop.inputErrors ≤ maxErrors) (sent : Bool) :
    (desktop.scrollAxis axis steps sent).Contained := by
  rw [RemoteDesktop.scrollAxis]
  split
  · exact contained
  · rename_i someSteps
    have sound : (Call.pointerAxisDiscrete axis steps).Sound desktop.sizes := ⟨isAxis, someSteps, fits⟩
    exact contained.callMethod sound few sent

theorem errors_scrollAxis (desktop : RemoteDesktop) (axis : Nat) (steps : Int) (sent : Bool) :
    (desktop.scrollAxis axis steps sent).inputErrors ≤ desktop.inputErrors + 1 := by
  rw [RemoteDesktop.scrollAxis]
  split
  · exact Nat.le_succ _
  · exact errors_callMethod desktop _ sent

theorem onInput (contained : desktop.Contained) {event : InputEvent} (valid : Valid event) (sent sentToo : Bool) :
    (desktop.onInput event sent sentToo).Contained := by
  cases event with
  | move x y => exact contained.aim valid
  | button button pressed =>
      rw [RemoteDesktop.onInput, pointerButton]
      split
      · rename_i isReady
        have sound : (Call.pointerButton button (state pressed)).Sound desktop.sizes := ⟨valid, state_le pressed⟩
        exact contained.callMethod sound (contained.lt_of_ready isReady).le sent
      · exact contained
  | scroll v h =>
      rw [RemoteDesktop.onInput, pointerScroll]
      split
      · rename_i isReady
        have few := contained.lt_of_ready isReady
        -- The second axis is scrolled even if the first call was the last error allowed.
        apply (contained.scrollAxis (by decide) valid.1 few.le sent).scrollAxis (by decide) valid.2
        exact Nat.le_trans (errors_scrollAxis desktop 0 v sent) few
      · exact contained
  | key keysym pressed =>
      rw [RemoteDesktop.onInput, RemoteDesktop.key]
      split
      · rename_i isReady
        have sound : (Call.keyboardKeysym ((keysym : Int).bmod (2 ^ 32)) (state pressed)).Sound desktop.sizes :=
          ⟨Decimal.fits_bmod keysym, state_le pressed⟩
        exact contained.callMethod sound (contained.lt_of_ready isReady).le sent
      · exact contained

end Contained

theorem contained_step (rounding : Rounding) (desktop : RemoteDesktop) (action : Action) (next : RemoteDesktop)
    (contained : desktop.Contained) (stepped : step rounding desktop action = some next) : next.Contained := by
  cases action with
  | resize width height =>
      cases stepped
      exact contained.resize width height
  | receive body sent sentToo =>
      obtain ⟨_, handled⟩ := Option.ite_none_right_eq_some.mp stepped
      split at handled
      · rename_i event parsed
        cases handled
        exact contained.onInput (valid_of_parse parsed) sent sentToo
      · cases handled
        exact contained
  | point sent =>
      obtain ⟨aimed, isAimed, same⟩ := Option.map_eq_some_iff.mp stepped
      cases same
      exact contained.point isAimed sent
  | stop =>
      cases stepped
      exact contained.stop

/-- Once injection is disabled, nothing is called and nothing enables it. -/
theorem disabled_step (rounding : Rounding) (calls : List (Call × Bool)) (desktop : RemoteDesktop) (action : Action)
    (next : RemoteDesktop) (disabled : desktop.inputReady = false ∧ desktop.calls = calls)
    (stepped : step rounding desktop action = some next) : next.inputReady = false ∧ next.calls = calls := by
  have notReady : desktop.ready = false := by
    rw [ready, disabled.1, Bool.false_and]
  cases action with
  | resize width height =>
      cases stepped
      exact disabled
  | receive body sent sentToo =>
      obtain ⟨_, handled⟩ := Option.ite_none_right_eq_some.mp stepped
      split at handled
      · rename_i event parsed
        cases handled
        cases event with
        | move x y =>
            rw [onInput, aim]
            split <;> exact disabled
        | button button pressed =>
            rw [onInput, pointerButton, notReady]
            exact disabled
        | scroll v h =>
            rw [onInput, pointerScroll, notReady]
            exact disabled
        | key keysym pressed =>
            rw [onInput, key, notReady]
            exact disabled
      · cases handled
        exact disabled
  | point sent =>
      obtain ⟨aimed, _, same⟩ := Option.map_eq_some_iff.mp stepped
      cases same
      rw [point, notReady]
      exact disabled
  | stop =>
      cases stepped
      exact ⟨rfl, disabled.2⟩

/-- Whatever a client sends, every call is in range and every position lies on
the stream as it was at some time.  At most seventeen calls ever fail, and from
the sixteenth failed call or the end of the source on nothing is injected. -/
theorem injection_contained (rounding : Rounding) (width height : UInt32) {actions : List Action}
    {desktop : RemoteDesktop} (ran : run (step rounding) (started width height) actions = some desktop) :
    (∀ call ∈ desktop.calls, call.1.Sound desktop.sizes) ∧ failures desktop.calls ≤ maxErrors + 1 ∧
      (desktop.inputReady = true ↔ desktop.portal = true ∧ failures desktop.calls < maxErrors) ∧
      ∀ more later, run (step rounding) desktop more = some later → desktop.inputReady = false →
        later.inputReady = false ∧ later.calls = desktop.calls := by
  have contained : desktop.Contained :=
    run_invariant (contained_step rounding) (contained_started width height) ran
  refine ⟨contained.sound, ?_, ?_, ?_⟩
  · rw [contained.counted]
    exact contained.few
  · rw [contained.counted]
    exact contained.enabled
  · intro more later ranOn disabled
    exact run_invariant (disabled_step rounding desktop.calls) ⟨disabled, rfl⟩ ranOn

/-- Both calls of a scroll fail, and then the source is stopped. -/
theorem injection_contained_sample :
    failures ((started 640 480).onInput (.scroll 1 (-1)) false false).stop.calls ≤ maxErrors + 1 := by
  let scrolled := (started 640 480).onInput (.scroll 1 (-1)) false false
  have scroll : InputEvent.parse .unrounded [115, 32, 49, 32, 45, 49] = some (.scroll 1 (-1)) := by decide +kernel
  have stepped : step .unrounded (started 640 480) (.receive [115, 32, 49, 32, 45, 49] false false) =
      some scrolled := by
    rw [step, scroll]
    rfl
  have ran : run (step .unrounded) (started 640 480) [.receive [115, 32, 49, 32, 45, 49] false false, .stop] =
      some scrolled.stop :=
    run_cons_iff.mpr ⟨scrolled, stepped, rfl⟩
  exact (injection_contained .unrounded 640 480 ran).2.1

/-! ## The effect on the desktop -/

/-- What is held down on the desktop, and where its pointer has been put. -/
structure Seat where
  pressed : Control → Bool
  pointer : Option (ℚ × ℚ)

def Call.apply (seat : Seat) : Call → Seat
  | .pointerMotionAbsolute x y => { seat with pointer := some (x, y) }
  | .pointerButton button state => { seat with pressed := Function.update seat.pressed (.button button) (state ≠ 0) }
  | .pointerAxisDiscrete _ _ => seat
  | .keyboardKeysym keysym state => { seat with pressed := Function.update seat.pressed (.key keysym) (state ≠ 0) }

def seatOf (calls : List Call) : Seat := calls.foldl Call.apply ⟨fun _ => false, none⟩

/-- The calls that an event leads to on a stream of this size. -/
def callsOf (rounding : Rounding) (size : Int32 × Int32) : InputEvent → List Call
  | .move x y =>
      [.pointerMotionAbsolute (rounding.double (x * size.1.toInt)) (rounding.double (y * size.2.toInt))]
  | .button button pressed => [.pointerButton button (state pressed)]
  | .scroll v h =>
      (if v = 0 then [] else [.pointerAxisDiscrete 0 v]) ++ if h = 0 then [] else [.pointerAxisDiscrete 1 h]
  | .key keysym pressed => [.keyboardKeysym ((keysym : Int).bmod (2 ^ 32)) (state pressed)]

/-- The seat is as the user's lines leave it: the same buttons and keys are held
down, and the pointer is where the last move puts it. -/
structure Mirrors (rounding : Rounding) (size : Int32 × Int32) (effect : StreamSession.Effect) (seat : Seat) :
    Prop where
  pressed : seat.pressed = effect.pressed
  unmoved : effect.position = none → seat.pointer = none
  moved : ∀ position ∈ effect.position, ∃ x y, position = (StreamSession.coordinate x, StreamSession.coordinate y) ∧
    seat.pointer = some (rounding.double (rounding.double (x / 10 ^ 4) * size.1.toInt),
      rounding.double (rounding.double (y / 10 ^ 4) * size.2.toInt))

variable {rounding : Rounding} {size : Int32 × Int32}

theorem pressed_state (pressed : Bool) : decide (state pressed ≠ 0) = pressed := by
  cases pressed <;> rfl

theorem mirrors_apply {input : StreamSession.Input} {event : InputEvent} {effect : StreamSession.Effect} {seat : Seat}
    (meant : StreamSession.Meant rounding input event) (mirrors : Mirrors rounding size effect seat) :
    Mirrors rounding size (input.apply effect) ((callsOf rounding size event).foldl Call.apply seat) := by
  cases meant with
  | @move x y left top =>
      refine ⟨mirrors.pressed, fun impossible => (by cases impossible), ?_⟩
      intro position isPosition
      cases isPosition
      exact ⟨x, y, rfl, rfl⟩
  | @button button fits pressed =>
      refine ⟨?_, mirrors.unmoved, mirrors.moved⟩
      change Function.update seat.pressed _ (decide (state pressed ≠ 0)) = _
      rw [mirrors.pressed, pressed_state]
      rfl
  | @scroll v h vertical horizontal =>
      have same : (callsOf rounding size (.scroll v h)).foldl Call.apply seat = seat := by
        rw [callsOf]
        split <;> split <;> rfl
      rw [same]
      exact mirrors
  | @key keysym fits pressed =>
      have same : ((keysym % 2 ^ 32).toNat : Int).bmod (2 ^ 32) = keysym := by
        rw [Int.toNat_of_nonneg (Int.emod_nonneg _ (by decide))]
        exact (Int.emod_bmod keysym (2 ^ 32)).trans (Int.bmod_eq_of_le fits.1 fits.2)
      have called : callsOf rounding size (.key (keysym % 2 ^ 32).toNat pressed) =
          [.keyboardKeysym keysym (state pressed)] := by
        rw [callsOf, same]
      rw [called]
      refine ⟨?_, mirrors.unmoved, mirrors.moved⟩
      change Function.update seat.pressed _ (decide (state pressed ≠ 0)) = _
      rw [mirrors.pressed, pressed_state]
      rfl

theorem mirrors_lines {inputs : List StreamSession.Input} {events : List InputEvent}
    (meant : List.Forall₂ (StreamSession.Meant rounding) inputs events) :
    Mirrors rounding size (StreamSession.effectOf inputs) (seatOf (events.flatMap (callsOf rounding size))) := by
  suffices general : ∀ effect seat, Mirrors rounding size effect seat → Mirrors rounding size
      (inputs.foldl StreamSession.Input.apply effect)
      ((events.flatMap (callsOf rounding size)).foldl Call.apply seat) by
    apply general
    exact ⟨rfl, fun _ => rfl, fun _ impossible => nomatch impossible⟩
  induction meant with
  | nil => exact fun _ _ mirrors => mirrors
  | cons own others inductionHypothesis =>
      intro effect seat mirrors
      rw [List.foldl_cons, List.flatMap_cons, List.foldl_append]
      exact inductionHypothesis _ _ (mirrors_apply own mirrors)

/-! ## A session without failures -/

def Action.body? : Action → Option (List UInt8)
  | .receive body _ _ => some body
  | _ => none

/-- The action neither fails nor changes what the positions are relative to. -/
def Action.Undisturbed : Action → Prop
  | .receive _ sent sentToo => sent = true ∧ sentToo = true
  | .point sent => sent = true
  | .resize _ _ | .stop => False

/-- The calls so far are those of the events so far, except that a move may wait
for its second section. -/
structure Served (rounding : Rounding) (size : Int32 × Int32) (events : List InputEvent) (desktop : RemoteDesktop) :
    Prop where
  ready : desktop.ready = true
  sized : (desktop.width, desktop.height) = size
  served : ∃ handled, desktop.calls.map Prod.fst = handled.flatMap (callsOf rounding size) ∧
    ((desktop.aimed = none ∧ events = handled) ∨
      ∃ x y, desktop.aimed = some ((x, y), size) ∧ events = handled ++ [.move x y])

theorem Served.extend {events : List InputEvent} {desktop next : RemoteDesktop} {event : InputEvent}
    (served : Served rounding size events desktop) (free : desktop.aimed = none) (ready : next.ready = true)
    (sized : (next.width, next.height) = size) (stillFree : next.aimed = none)
    (called : next.calls.map Prod.fst = desktop.calls.map Prod.fst ++ callsOf rounding size event) :
    Served rounding size (events ++ [event]) next := by
  obtain ⟨handled, soFar, ⟨_, same⟩ | ⟨x, y, aimed, _⟩⟩ := served.served
  · refine ⟨ready, sized, handled ++ [event], ?_, Or.inl ⟨stillFree, ?_⟩⟩
    · rw [called, soFar, List.flatMap_append, List.flatMap_singleton]
    · rw [same]
  · rw [free] at aimed
    cases aimed

theorem served_onInput {events : List InputEvent} {desktop : RemoteDesktop} (event : InputEvent)
    (served : Served rounding size events desktop) (free : desktop.aimed = none)
    (proper : 0 < size.1.toInt ∧ 0 < size.2.toInt) :
    Served rounding size (events ++ [event]) (desktop.onInput event true true) := by
  have isReady := served.ready
  have sized := served.sized
  have appended (call : Call) : (desktop.calls ++ [(call, true)]).map Prod.fst =
      desktop.calls.map Prod.fst ++ [call] :=
    List.map_append
  cases event with
  | move x y =>
      rw [← sized] at proper
      have positive : ¬ (desktop.width.toInt ≤ 0 ∨ desktop.height.toInt ≤ 0) := by
        have wide := proper.1
        have high := proper.2
        dsimp only at wide high
        omega
      obtain ⟨handled, soFar, ⟨_, same⟩ | ⟨x, y, aimed, _⟩⟩ := served.served
      · rw [onInput, aim, if_neg positive]
        refine ⟨isReady, sized, handled, soFar, Or.inr ⟨x, y, ?_, ?_⟩⟩
        · rw [← sized]
        · rw [same]
      · rw [free] at aimed
        cases aimed
  | button button pressed =>
      rw [onInput, pointerButton, if_pos isReady]
      exact served.extend free isReady sized free (appended _)
  | scroll v h =>
      rw [onInput, pointerScroll, if_pos isReady]
      apply served.extend free
      · rw [scrollAxis, scrollAxis]
        split <;> split <;> exact isReady
      · rw [scrollAxis, scrollAxis]
        split <;> split <;> exact sized
      · rw [scrollAxis, scrollAxis]
        split <;> split <;> exact free
      · rw [scrollAxis, scrollAxis, callsOf]
        split <;> split <;> simp [callMethod]
  | key keysym pressed =>
      rw [onInput, key, if_pos isReady]
      exact served.extend free isReady sized free (appended _)

theorem served_step {events : List InputEvent} {desktop next : RemoteDesktop} {action : Action}
    (served : Served rounding size events desktop) (proper : 0 < size.1.toInt ∧ 0 < size.2.toInt)
    (undisturbed : action.Undisturbed) (stepped : step rounding desktop action = some next) :
    Served rounding size (events ++ action.body?.toList.filterMap (InputEvent.parse rounding)) next := by
  cases action with
  | resize width height => exact undisturbed.elim
  | receive body sent sentToo =>
      obtain ⟨rfl, rfl⟩ := undisturbed
      obtain ⟨free, handled⟩ := Option.ite_none_right_eq_some.mp stepped
      cases parsed : InputEvent.parse rounding body with
      | none =>
          rw [parsed] at handled
          cases handled
          have nothing : (Action.receive body true true).body?.toList.filterMap (InputEvent.parse rounding) = [] := by
            rw [Action.body?, Option.toList_some, List.filterMap_cons, parsed]
            rfl
          rw [nothing, List.append_nil]
          exact served
      | some event =>
          rw [parsed] at handled
          cases handled
          have one : (Action.receive body true true).body?.toList.filterMap (InputEvent.parse rounding) =
              [event] := by
            rw [Action.body?, Option.toList_some, List.filterMap_cons, parsed]
            rfl
          rw [one]
          exact served_onInput event served free proper
  | point sent =>
      cases undisturbed
      obtain ⟨aimed, isAimed, same⟩ := Option.map_eq_some_iff.mp stepped
      cases same
      have isReady := served.ready
      obtain ⟨handled, soFar, ⟨free, _⟩ | ⟨x, y, at_, same⟩⟩ := served.served
      · rw [free] at isAimed
        cases isAimed
      · rw [at_] at isAimed
        cases isAimed
        rw [point, if_pos isReady]
        refine ⟨isReady, served.sized, handled ++ [.move x y], ?_, Or.inl ⟨rfl, ?_⟩⟩
        · have called : (desktop.calls ++ [(Call.pointerMotionAbsolute (rounding.double (x * size.1.toInt))
              (rounding.double (y * size.2.toInt)), true)]).map Prod.fst =
                desktop.calls.map Prod.fst ++ callsOf rounding size (.move x y) := List.map_append
          rw [List.flatMap_append, List.flatMap_singleton, ← soFar]
          exact called
        · rw [same]
          exact List.append_nil _
  | stop => exact undisturbed.elim

theorem served_of_run {width height : UInt32} {actions : List Action} {desktop : RemoteDesktop}
    (proper : 0 < width.toInt32.toInt ∧ 0 < height.toInt32.toInt)
    (undisturbed : ∀ action ∈ actions, action.Undisturbed)
    (ran : run (step rounding) (started width height) actions = some desktop) :
    Served rounding (width.toInt32, height.toInt32)
      ((actions.filterMap Action.body?).filterMap (InputEvent.parse rounding)) desktop := by
  induction actions using List.reverseRecOn generalizing desktop with
  | nil =>
      cases ran
      exact ⟨rfl, rfl, [], rfl, Or.inl ⟨rfl, rfl⟩⟩
  | append_singleton actions action inductionHypothesis =>
      obtain ⟨before, early, stepped⟩ := run_concat_iff.mp ran
      have soFar := inductionHypothesis (fun other member => undisturbed other (List.mem_append_left _ member)) early
      have own := served_step soFar proper (undisturbed action (List.mem_append_right _ (List.mem_singleton_self _)))
        stepped
      rw [List.filterMap_append, List.filterMap_append]
      have last : [action].filterMap Action.body? = action.body?.toList := by
        cases action <;> rfl
      rw [last]
      exact own

/-- Everything the user has done reaches the desktop: once the queue is empty and
all bytes have arrived, the buttons and keys held down on the desktop and the
position of its pointer are those that the user has left, provided that the queue
discarded no line that matters, that no call failed, and that the stream kept its size
and was not stopped. -/
theorem input_applied (rounding : Rounding) {inputs : List StreamSession.InputAction}
    {channel : StreamSession.BackChannel} (ran : run StreamSession.inputStep .opened inputs = some channel)
    (sparing : Throughout StreamSession.inputStep .opened StreamSession.Sparing inputs)
    (isOpen : channel.inputOpen = true) (drained : channel.inputQueue = []) (idle : channel.sending = none)
    (sensible : ∀ input ∈ channel.enqueued, ∃ event, StreamSession.Meant rounding input event)
    {client : List StreamSession.ClientLine}
    (interleaved : client.filterMap StreamSession.ClientLine.input? = channel.written) {recvs : List Signal.Recv}
    (arrived : Signal.LineReader.bytes recvs = client.flatMap (fun line => line.octets ++ [10]))
    {width height : UInt32} (proper : 0 < width.toInt32.toInt ∧ 0 < height.toInt32.toInt)
    {actions : List Action} {desktop : RemoteDesktop}
    (handled : run (step rounding) (started width height) actions = some desktop)
    (received : actions.filterMap Action.body? = Signal.inputBodies
      (Signal.clientLoop (Signal.LineReader.readLines recvs Signal.LineReader.new)))
    (undisturbed : ∀ action ∈ actions, action.Undisturbed) (settled : desktop.aimed = none) :
    Mirrors rounding (width.toInt32, height.toInt32) (StreamSession.effectOf channel.enqueued)
      (seatOf (desktop.calls.map Prod.fst)) := by
  have properLines := StreamSession.proper_of_sensible ran sensible interleaved
  obtain ⟨delivered, _, meant, all⟩ := StreamSession.meant_received properLines ⟨[],
    (List.append_nil _).trans arrived⟩
  have every : delivered = channel.written := (all arrived).trans interleaved
  have effect := (StreamSession.kept_of_run ran sparing isOpen).effect
  rw [StreamSession.BackChannel.taken, idle, drained, Option.toList_none, List.append_nil, List.append_nil] at effect
  obtain ⟨events, called, ⟨_, same⟩ | ⟨x, y, waits, _⟩⟩ := (served_of_run proper undisturbed handled).served
  · have isReceived : events = StreamSession.received rounding recvs := by
      rw [← same, received]
      rfl
    rw [called, isReceived, ← effect, ← every]
    exact mirrors_lines meant
  · rw [settled] at waits
    cases waits

/-- The user points at the middle of a stream of 640 by 480, and the left button is
pressed there and released. -/
theorem input_applied_sample :
    Mirrors .unrounded (640, 480)
      (StreamSession.effectOf [.move (StreamSession.coordinate 5000) (StreamSession.coordinate 5000),
        .button 272 true, .button 272 false])
      (seatOf [.pointerMotionAbsolute 320 240, .pointerButton 272 1, .pointerButton 272 0]) := by
  let move : StreamSession.Input := .move (StreamSession.coordinate 5000) (StreamSession.coordinate 5000)
  let inputs : List StreamSession.Input := [move, .button 272 true, .button 272 false]
  let actions : List StreamSession.InputAction := [.enqueue move, .poll, .enqueue (.button 272 true), .write,
    .enqueue (.button 272 false), .poll, .write, .poll, .write]
  have ran : run StreamSession.inputStep .opened actions = some ⟨[], true, none, inputs, inputs⟩ := by
    decide +kernel
  have sensible : ∀ input ∈ inputs, ∃ event, StreamSession.Meant .unrounded input event := by
    refine List.forall_mem_cons.mpr ⟨⟨_, .move (by decide) (by decide)⟩, ?_⟩
    intro input member
    rcases List.mem_pair.mp member with rfl | rfl <;> exact ⟨_, .button (by decide) _⟩
  let client : List StreamSession.ClientLine := inputs.map .input
  let lines : List (List UInt8) := ["INPUT m 0.5000 0.5000", "INPUT b 272 1", "INPUT b 272 0"].map
    (fun text => Decimal.octets text.toList)
  let recvs : List Signal.Recv := [.received (lines.flatMap (fun line => line ++ [10])) (by decide +kernel)]
  have interleaved : client.filterMap StreamSession.ClientLine.input? = inputs := rfl
  have arrived : Signal.LineReader.bytes recvs = client.flatMap (fun line => line.octets ++ [10]) := by
    decide +kernel
  have read : Signal.LineReader.readLines recvs Signal.LineReader.new = lines := by
    have bytes : Signal.LineReader.bytes recvs = lines.flatMap (fun line => line ++ [10]) := List.append_nil _
    rw [Signal.LineReader.readLines_new, bytes, Lines.lines_flatMap]
    decide +kernel
  let bodies : List (List UInt8) := lines.map (List.drop 6)
  have isReceived : Signal.inputBodies (Signal.clientLoop lines) = bodies := by decide +kernel
  have proper : 0 < (640 : UInt32).toInt32.toInt ∧ 0 < (480 : UInt32).toInt32.toInt := by decide
  have handled : run (step .unrounded) (started 640 480) [.receive bodies[0] true true, .point true,
      .receive bodies[1] true true, .receive bodies[2] true true] = some ⟨640, 480, true, true, 0, none,
        [(.pointerMotionAbsolute 320 240, true), (.pointerButton 272 1, true), (.pointerButton 272 0, true)],
        [(640, 480)]⟩ := by
    decide +kernel
  refine input_applied .unrounded ran (StreamSession.sparing_of_short (by decide)) rfl rfl rfl sensible interleaved
    arrived proper handled ?_ ?_ rfl
  · rw [read, isReceived]
    rfl
  · simp [Action.Undisturbed]

end RemoteDesktop
end MetaShare
