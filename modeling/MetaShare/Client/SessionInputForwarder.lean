import MetaShare.Client.RemoteInput
import Mathlib.Data.Nat.Bitwise
import Mathlib.Tactic.Common

namespace MetaShare

open StreamSession

/-!
# From the views of Android to input lines

Pointer events become transitions of three buttons: the forwarder compares the
buttons of each event with those it holds.  A touch has no button, so it holds
the primary one on its own until the contact ends.
-/

namespace SessionInputForwarder

/-- The actions of a motion event that the forwarder or its description names. -/
inductive MotionAction where
  | down
  | up
  | move
  | cancel
  | scroll
  | hoverEnter
  | hoverMove
  | hoverExit
  | buttonPress
  | buttonRelease
  | other (code : Int)
  deriving DecidableEq

def BUTTON_PRIMARY : UInt32 := 1
def BUTTON_SECONDARY : UInt32 := 2
def BUTTON_TERTIARY : UInt32 := 4

def BTN_LEFT : Int := 272
def BTN_RIGHT : Int := 273
def BTN_MIDDLE : Int := 274

/-- A pointer event.  The coordinates are decimal texts, and how far the wheel was
turned is a floating-point number. -/
structure PointerEvent (Amount : Type) where
  action : MotionAction
  x : String
  y : String
  verticalScroll : Amount
  buttons : UInt32

/-- The floating-point operations on what the wheel has been turned: addition,
truncation, and subtraction of whole steps. -/
structure Wheel (Amount : Type) where
  add : Amount → Amount → Amount
  steps : Amount → Int
  less : Amount → Int → Amount

end SessionInputForwarder

/-- Whether a session is bound, the buttons that are held, and what is left of the
wheel. -/
structure SessionInputForwarder (Amount : Type) where
  session : Bool
  heldButtons : UInt32
  syntheticPrimary : Bool
  scrollAccum : Amount

namespace SessionInputForwarder

variable {Amount : Type}

/-- What the action means for the contact and the wheel. -/
def begin (wheel : Wheel Amount) (forwarder : SessionInputForwarder Amount) (event : PointerEvent Amount) :
    SessionInputForwarder Amount × List Input :=
  match event.action with
  | .down => (if event.buttons = 0 then { forwarder with syntheticPrimary := true } else forwarder, [])
  | .up | .cancel => ({ forwarder with syntheticPrimary := false }, [])
  | .scroll =>
      let turned := wheel.add forwarder.scrollAccum event.verticalScroll
      let steps := wheel.steps turned
      if steps = 0 then ({ forwarder with scrollAccum := turned }, [])
      -- Android counts away from the user, the wire towards the user.
      else ({ forwarder with scrollAccum := wheel.less turned steps }, [.scroll ((-steps).bmod (2 ^ 32)) 0])
  | _ => (forwarder, [])

/-- The position goes before the buttons, with these actions. -/
def position (event : PointerEvent Amount) : List Input :=
  match event.action with
  | .down | .up | .move | .hoverEnter | .hoverMove | .buttonPress | .buttonRelease => [.move event.x event.y]
  | _ => []

def emit (changed now androidBit : UInt32) (evdevButton : Int) : List Input :=
  if changed &&& androidBit ≠ 0 then [.button evdevButton (now &&& androidBit != 0)] else []

def onPointerInput (wheel : Wheel Amount) (forwarder : SessionInputForwarder Amount) (event : PointerEvent Amount) :
    SessionInputForwarder Amount × List Input :=
  if forwarder.session then
    let (forwarder, scrolled) := forwarder.begin wheel event
    let now := event.buttons ||| (if forwarder.syntheticPrimary then BUTTON_PRIMARY else 0)
    let changed := now ^^^ forwarder.heldButtons
    if changed ≠ 0 then
      ({ forwarder with heldButtons := now },
        scrolled ++ position event ++ emit changed now BUTTON_PRIMARY BTN_LEFT ++
          emit changed now BUTTON_SECONDARY BTN_RIGHT ++ emit changed now BUTTON_TERTIARY BTN_MIDDLE)
    else (forwarder, scrolled ++ position event)
  else (forwarder, [])

/-- A forwarder whose session has just been bound. -/
def bound (scrollAccum : Amount) : SessionInputForwarder Amount := ⟨true, 0, false, scrollAccum⟩

/-- The events one after another, and the lines that they cause. -/
def deliver (wheel : Wheel Amount) (forwarder : SessionInputForwarder Amount) (events : List (PointerEvent Amount)) :
    SessionInputForwarder Amount × List Input :=
  events.foldl (fun state event =>
    ((state.1.onPointerInput wheel event).1, state.2 ++ (state.1.onPointerInput wheel event).2)) (forwarder, [])

/-! ## What the transitions should be -/

inductive Button where
  | left
  | right
  | middle
  deriving DecidableEq

namespace Button

def androidBit : Button → UInt32
  | left => BUTTON_PRIMARY
  | right => BUTTON_SECONDARY
  | middle => BUTTON_TERTIARY

def evdevButton : Button → Int
  | left => BTN_LEFT
  | right => BTN_RIGHT
  | middle => BTN_MIDDLE

/-- The button is in the mask. -/
def isIn (button : Button) (mask : UInt32) : Bool := mask &&& button.androidBit != 0

/-- The transitions of a button among the lines: true for a press. -/
def transitions (button : Button) (lines : List Input) : List Bool :=
  lines.filterMap (fun
    | .button evdevButton pressed => if evdevButton = button.evdevButton then some pressed else none
    | _ => none)

/-- The last transition was a press. -/
def held (button : Button) (lines : List Input) : Bool := (button.transitions lines).getLast?.getD false

end Button

/-- The transitions are in turn, beginning with this one. -/
def Alternates : Bool → List Bool → Prop
  | _, [] => True
  | next, pressed :: rest => pressed = next ∧ Alternates (!next) rest

/-- What an event does to a contact without a button. -/
def touch (down : Bool) (event : PointerEvent Amount) : Bool :=
  match event.action with
  | .down => down || event.buttons == 0
  | .up | .cancel => false
  | _ => down

/-- A contact without a button began and has not ended. -/
def contact (events : List (PointerEvent Amount)) : Bool := events.foldl touch false

/-- The buttons of the latest event, and the primary one for a contact without. -/
def mask (events : List (PointerEvent Amount)) : UInt32 :=
  events.getLast?.elim 0 PointerEvent.buttons ||| (if contact events then BUTTON_PRIMARY else 0)

/-- The event is a down, up, move, hover or button event. -/
def MotionAction.IsPlaced : MotionAction → Prop
  | .down | .up | .move | .hoverEnter | .hoverMove | .hoverExit | .buttonPress | .buttonRelease => True
  | .cancel | .scroll | .other _ => False

/-- The transitions are consistent: they alternate, they amount to the mask after
every event, nothing is held when a contact has ended without buttons, and the
position goes first. -/
structure Consistent (wheel : Wheel Amount) (scrollAccum : Amount) (events : List (PointerEvent Amount)) : Prop where
  alternates : ∀ button : Button, Alternates true (button.transitions (deliver wheel (bound scrollAccum) events).2)
  mirrored : ∀ early event late, events = early ++ event :: late → ∀ button : Button,
    button.held (deliver wheel (bound scrollAccum) (early ++ [event])).2 =
      button.isIn (event.buttons ||| (if contact (early ++ [event]) then BUTTON_PRIMARY else 0))
  released : ∀ early event late, events = early ++ event :: late → event.action = .up ∨ event.action = .cancel →
    event.buttons = 0 → ∀ button : Button,
      button.held (deliver wheel (bound scrollAccum) (early ++ [event])).2 = false
  placed : ∀ early event late, events = early ++ event :: late → event.action.IsPlaced →
    ∀ before evdevButton pressed after,
      ((deliver wheel (bound scrollAccum) early).1.onPointerInput wheel event).2 =
        before ++ .button evdevButton pressed :: after → .move event.x event.y ∈ before

/-! ## Bits -/

namespace Button

def index : Button → Nat
  | left => 0
  | right => 1
  | middle => 2

theorem isIn_eq_testBit (button : Button) (mask : UInt32) : button.isIn mask = mask.toNat.testBit button.index := by
  have bit : button.androidBit.toNat = 2 ^ button.index := by cases button <;> rfl
  rw [Bool.eq_iff_iff, isIn, bne_iff_ne, ne_eq, ← UInt32.toNat_inj, UInt32.toNat_and, bit, UInt32.toNat_zero,
    Nat.and_two_pow]
  cases mask.toNat.testBit button.index <;> simp

theorem isIn_xor (button : Button) (first second : UInt32) :
    button.isIn (first ^^^ second) = (button.isIn first ^^ button.isIn second) := by
  rw [isIn_eq_testBit, isIn_eq_testBit, isIn_eq_testBit, UInt32.toNat_xor, Nat.testBit_xor]

theorem isIn_zero (button : Button) : button.isIn 0 = false := by
  cases button <;> rfl

@[simp] theorem transitions_append (button : Button) (early late : List Input) :
    button.transitions (early ++ late) = button.transitions early ++ button.transitions late :=
  List.filterMap_append

/-- The line of one button says nothing about the others. -/
theorem transitions_emit (button other : Button) (changed now : UInt32) :
    button.transitions (emit changed now other.androidBit other.evdevButton) =
      if button = other ∧ button.isIn changed = true then [button.isIn now] else [] := by
  by_cases same : button = other
  · subst same
    by_cases set : button.isIn changed = true
    · have differs : changed &&& button.androidBit ≠ 0 := bne_iff_ne.mp set
      rw [if_pos ⟨rfl, set⟩, emit, if_pos differs]
      simp [transitions, isIn]
    · have zero : ¬ changed &&& button.androidBit ≠ 0 := fun differs => set (bne_iff_ne.mpr differs)
      rw [if_neg (fun both => set both.2), emit, if_neg zero]
      rfl
  · have apart : other.evdevButton ≠ button.evdevButton := by
      cases button <;> cases other <;> first | exact absurd rfl same | decide
    rw [if_neg (fun both => same both.1), emit]
    split
    · simp [transitions, apart]
    · rfl

end Button

/-! ## One event -/

theorem alternates_concat {next pressed : Bool} {list : List Bool} (alternates : Alternates next list)
    (turn : pressed = list.getLast?.elim next (!·)) : Alternates next (list ++ [pressed]) := by
  induction list generalizing next with
  | nil => exact ⟨turn, trivial⟩
  | cons first rest inductionHypothesis =>
      obtain ⟨rfl, later⟩ := alternates
      refine ⟨rfl, inductionHypothesis later ?_⟩
      cases rest with
      | nil => exact turn
      | cons second rest =>
          rw [turn, List.getLast?_cons_cons]
          simp only [List.getLast?_cons, Option.elim_some]

section Event

variable (wheel : Wheel Amount) (forwarder : SessionInputForwarder Amount) (event : PointerEvent Amount)

/-- The buttons that are held after the event. -/
def now : UInt32 :=
  event.buttons ||| (if touch forwarder.syntheticPrimary event then BUTTON_PRIMARY else 0)

theorem begin_eq : (forwarder.begin wheel event).1.session = forwarder.session ∧
    (forwarder.begin wheel event).1.heldButtons = forwarder.heldButtons ∧
    (forwarder.begin wheel event).1.syntheticPrimary = touch forwarder.syntheticPrimary event := by
  rw [begin, touch]
  cases event.action
  case down =>
    by_cases none : event.buttons = 0
    · simp [none]
    · simp [none]
  case scroll =>
    simp only
    split <;> exact ⟨rfl, rfl, rfl⟩
  all_goals exact ⟨rfl, rfl, rfl⟩

/-- Only the wheel is heard before the position. -/
theorem begin_lines : ∀ line ∈ (forwarder.begin wheel event).2, event.action = .scroll ∧
    ∃ vSteps hSteps, line = .scroll vSteps hSteps := by
  intro line member
  rw [begin] at member
  cases action : event.action <;> rw [action] at member
  case scroll =>
    simp only at member
    split at member
    · cases member
    · exact ⟨rfl, _, _, List.mem_singleton.mp member⟩
  all_goals cases member

theorem position_lines : ∀ line ∈ position event, line = .move event.x event.y := by
  intro line member
  rw [position] at member
  cases action : event.action <;> rw [action] at member
  all_goals first | exact List.mem_singleton.mp member | cases member

/-- The lines of the three buttons. -/
def buttonLines (changed now : UInt32) : List Input :=
  emit changed now BUTTON_PRIMARY BTN_LEFT ++ emit changed now BUTTON_SECONDARY BTN_RIGHT ++
    emit changed now BUTTON_TERTIARY BTN_MIDDLE

theorem buttonLines_zero (now : UInt32) : buttonLines 0 now = [] := rfl

/-- With a session an event sets what is held, and sends the wheel, the position
and the buttons that have changed. -/
theorem onPointerInput_eq (isBound : forwarder.session = true) :
    (forwarder.onPointerInput wheel event).1.session = true ∧
      (forwarder.onPointerInput wheel event).1.syntheticPrimary = touch forwarder.syntheticPrimary event ∧
      (forwarder.onPointerInput wheel event).1.heldButtons = now forwarder event ∧
      (forwarder.onPointerInput wheel event).2 = (forwarder.begin wheel event).2 ++ position event ++
        buttonLines (now forwarder event ^^^ forwarder.heldButtons) (now forwarder event) := by
  obtain ⟨session, buttons, contact⟩ := begin_eq wheel forwarder event
  rw [onPointerInput, if_pos isBound]
  generalize isBegun : forwarder.begin wheel event = begun at *
  obtain ⟨begun, scrolled⟩ := begun
  simp only at session buttons contact ⊢
  rw [buttons, contact, ← now]
  by_cases changed : now forwarder event ^^^ forwarder.heldButtons = 0
  · rw [if_neg (not_not.mpr changed), changed, buttonLines_zero, List.append_nil]
    exact ⟨session.trans isBound, contact, buttons.trans (UInt32.xor_eq_zero_iff.mp changed).symm, rfl⟩
  · rw [if_pos changed, buttonLines]
    exact ⟨session.trans isBound, rfl, rfl, by simp only [List.append_assoc]⟩

theorem transitions_onPointerInput (isBound : forwarder.session = true) (button : Button) :
    button.transitions (forwarder.onPointerInput wheel event).2 =
      if button.isIn (now forwarder event ^^^ forwarder.heldButtons) = true then
        [button.isIn (now forwarder event)] else [] := by
  have wheelOnly : button.transitions (forwarder.begin wheel event).2 = [] := by
    rw [Button.transitions, List.filterMap_eq_nil_iff]
    intro line member
    obtain ⟨_, vSteps, hSteps, rfl⟩ := begin_lines wheel forwarder event line member
    rfl
  have moveOnly : button.transitions (position event) = [] := by
    rw [Button.transitions, List.filterMap_eq_nil_iff]
    intro line member
    rw [position_lines event line member]
  have primary := button.transitions_emit .left (now forwarder event ^^^ forwarder.heldButtons)
    (now forwarder event)
  have secondary := button.transitions_emit .right (now forwarder event ^^^ forwarder.heldButtons)
    (now forwarder event)
  have tertiary := button.transitions_emit .middle (now forwarder event ^^^ forwarder.heldButtons)
    (now forwarder event)
  simp only [Button.androidBit, Button.evdevButton] at primary secondary tertiary
  rw [(onPointerInput_eq wheel forwarder event isBound).2.2.2, buttonLines]
  simp only [Button.transitions_append, wheelOnly, moveOnly, primary, secondary, tertiary, List.nil_append]
  cases button <;> simp

end Event

/-! ## All events -/

section Events

variable (wheel : Wheel Amount) (scrollAccum : Amount)

theorem deliver_concat (forwarder : SessionInputForwarder Amount) (events : List (PointerEvent Amount))
    (event : PointerEvent Amount) : deliver wheel forwarder (events ++ [event]) =
      (((deliver wheel forwarder events).1.onPointerInput wheel event).1,
        (deliver wheel forwarder events).2 ++ ((deliver wheel forwarder events).1.onPointerInput wheel event).2) :=
  List.foldl_concat _ _ _ _

theorem contact_concat (events : List (PointerEvent Amount)) (event : PointerEvent Amount) :
    contact (events ++ [event]) = touch (contact events) event :=
  List.foldl_concat _ _ _ _

theorem mask_concat (events : List (PointerEvent Amount)) (event : PointerEvent Amount) :
    mask (events ++ [event]) =
      event.buttons ||| (if contact (events ++ [event]) then BUTTON_PRIMARY else 0) := by
  rw [mask, List.getLast?_concat]
  rfl

/-- What the forwarder holds behind the events, and what has been sent for it. -/
structure Delivered (events : List (PointerEvent Amount)) : Prop where
  session : (deliver wheel (bound scrollAccum) events).1.session = true
  isContact : (deliver wheel (bound scrollAccum) events).1.syntheticPrimary = contact events
  isMask : (deliver wheel (bound scrollAccum) events).1.heldButtons = mask events
  alternates : ∀ button : Button, Alternates true (button.transitions (deliver wheel (bound scrollAccum) events).2)
  held : ∀ button : Button, button.held (deliver wheel (bound scrollAccum) events).2 = button.isIn (mask events)

theorem delivered (events : List (PointerEvent Amount)) : Delivered wheel scrollAccum events := by
  induction events using List.reverseRecOn with
  | nil =>
      have empty : mask ([] : List (PointerEvent Amount)) = 0 := UInt32.or_zero
      refine ⟨rfl, rfl, empty.symm, fun _ => trivial, fun button => ?_⟩
      rw [empty, button.isIn_zero]
      rfl
  | append_singleton events event inductionHypothesis =>
      obtain ⟨session, isContact, isMask, alternates, held⟩ := inductionHypothesis
      obtain ⟨nextSession, nextContact, nextMask, _⟩ := onPointerInput_eq wheel _ event session
      have isNow : now (deliver wheel (bound scrollAccum) events).1 event = mask (events ++ [event]) := by
        rw [now, isContact, mask_concat, contact_concat]
      have sent := fun button => transitions_onPointerInput wheel _ event session button
      rw [isNow, isMask] at sent
      rw [isNow] at nextMask
      -- A button that changed is the opposite of what was sent for it last.
      have turn : ∀ button : Button,
          button.isIn (mask (events ++ [event]) ^^^ mask events) = true →
            button.isIn (mask (events ++ [event])) =
              !(button.held (deliver wheel (bound scrollAccum) events).2) := by
        intro button changed
        rw [Button.isIn_xor, ← held button] at changed
        cases isIn : button.isIn (mask (events ++ [event])) <;>
          cases wasHeld : button.held (deliver wheel (bound scrollAccum) events).2 <;>
          simp_all
      constructor
      · rw [deliver_concat]
        exact nextSession
      · rw [deliver_concat, contact_concat, ← isContact]
        exact nextContact
      · rw [deliver_concat]
        exact nextMask
      · intro button
        rw [deliver_concat, Button.transitions_append, sent]
        split
        · rename_i changed
          apply alternates_concat (alternates button)
          rw [turn button changed, Button.held]
          cases (button.transitions (deliver wheel (bound scrollAccum) events).2).getLast? <;> rfl
        · rw [List.append_nil]
          exact alternates button
      · intro button
        rw [deliver_concat, Button.held, Button.transitions_append, sent]
        split
        · rw [List.getLast?_concat]
          rfl
        · rename_i same
          rw [Button.isIn_xor] at same
          rw [List.append_nil, ← Button.held, held]
          cases isIn : button.isIn (mask (events ++ [event])) <;>
            cases wasIn : button.isIn (mask events) <;> simp_all

/-- The lines of an event that is placed: its position first, unless the pointer
stops hovering. -/
theorem placed_lines (forwarder : SessionInputForwarder Amount) {event : PointerEvent Amount}
    (isBound : forwarder.session = true) (isPlaced : event.action.IsPlaced) :
    (forwarder.onPointerInput wheel event).2 =
      (if event.action = .hoverExit then [] else [.move event.x event.y]) ++
        buttonLines (now forwarder event ^^^ forwarder.heldButtons) (now forwarder event) := by
  have noWheel : (forwarder.begin wheel event).2 = [] := by
    apply List.eq_nil_iff_forall_not_mem.mpr
    intro line member
    rw [(begin_lines wheel forwarder event line member).1] at isPlaced
    exact isPlaced
  rw [(onPointerInput_eq wheel forwarder event isBound).2.2.2, noWheel, List.nil_append]
  congr 1
  rw [position]
  cases action : event.action <;> rw [action] at isPlaced <;> first | rfl | exact isPlaced.elim

/-- Among the lines of the buttons there is no move. -/
theorem buttonLines_buttons (changed now : UInt32) :
    ∀ line ∈ buttonLines changed now, ∃ evdevButton pressed, line = .button evdevButton pressed := by
  have one : ∀ androidBit evdevButton, ∀ line ∈ emit changed now androidBit evdevButton,
      ∃ evdevButton pressed, line = .button evdevButton pressed := by
    intro androidBit evdevButton line member
    rw [emit] at member
    split at member
    · exact ⟨_, _, List.mem_singleton.mp member⟩
    · cases member
  intro line member
  rw [buttonLines, List.mem_append, List.mem_append] at member
  rcases member with (first | second) | third
  · exact one _ _ line first
  · exact one _ _ line second
  · exact one _ _ line third

theorem buttonLines_eq_nil_iff (changed now : UInt32) :
    buttonLines changed now = [] ↔ ∀ button : Button, button.isIn changed = false := by
  have one : ∀ button : Button, emit changed now button.androidBit button.evdevButton = [] ↔
      button.isIn changed = false := by
    intro button
    rw [emit, Button.isIn, bne_eq_false_iff_eq]
    split
    · rename_i differs
      exact ⟨fun impossible => absurd impossible (List.cons_ne_nil _ _), fun zero => absurd zero differs⟩
    · rename_i same
      exact ⟨fun _ => not_not.mp same, fun _ => rfl⟩
  have primary := one .left
  have secondary := one .right
  have tertiary := one .middle
  simp only [Button.androidBit, Button.evdevButton] at primary secondary tertiary
  rw [buttonLines, List.append_eq_nil_iff, List.append_eq_nil_iff, primary, secondary, tertiary]
  constructor
  · rintro ⟨⟨left, right⟩, middle⟩ button
    cases button <;> assumption
  · exact fun all => ⟨⟨all .left, all .right⟩, all .middle⟩

/-- The buttons that change with an event are those in which the masks differ. -/
theorem changed_lines (early : List (PointerEvent Amount)) {event : PointerEvent Amount}
    (isPlaced : event.action.IsPlaced) :
    ((deliver wheel (bound scrollAccum) early).1.onPointerInput wheel event).2 =
      (if event.action = .hoverExit then [] else [.move event.x event.y]) ++
        buttonLines (mask (early ++ [event]) ^^^ mask early) (mask (early ++ [event])) := by
  have sofar := delivered wheel scrollAccum early
  have isNow : now (deliver wheel (bound scrollAccum) early).1 event = mask (early ++ [event]) := by
    rw [now, sofar.isContact, mask_concat, contact_concat]
  rw [placed_lines wheel _ sofar.session isPlaced, isNow, sofar.isMask]

/-- The transitions are consistent exactly when the pointer never stops hovering
with a change of buttons: this is the one event that is placed without sending its
position. -/
theorem buttons_consistent (events : List (PointerEvent Amount)) :
    Consistent wheel scrollAccum events ↔ ∀ early event late, events = early ++ event :: late →
      event.action = .hoverExit → ∀ button : Button,
        button.isIn (mask (early ++ [event])) = button.isIn (mask early) := by
  constructor
  · intro consistent early event late split exits button
    by_contra differs
    have isPlaced : event.action.IsPlaced := by
      rw [exits]
      trivial
    have lines := changed_lines wheel scrollAccum early isPlaced
    rw [if_pos exits, List.nil_append] at lines
    have some : buttonLines (mask (early ++ [event]) ^^^ mask early) (mask (early ++ [event])) ≠ [] := by
      intro nothing
      have same := (buttonLines_eq_nil_iff _ _).mp nothing button
      rw [Button.isIn_xor] at same
      exact differs (by simpa using same)
    obtain ⟨line, rest, isLines⟩ := List.exists_cons_of_ne_nil some
    have isButton := buttonLines_buttons _ _ line (isLines ▸ List.mem_cons_self)
    obtain ⟨evdevButton, pressed, rfl⟩ := isButton
    rw [isLines] at lines
    exact absurd (consistent.placed early event late split isPlaced [] evdevButton pressed rest lines)
      List.not_mem_nil
  · intro steady
    have mirrored : ∀ early event late, events = early ++ event :: late → ∀ button : Button,
        button.held (deliver wheel (bound scrollAccum) (early ++ [event])).2 =
          button.isIn (event.buttons ||| (if contact (early ++ [event]) then BUTTON_PRIMARY else 0)) := by
      intro early event late _ button
      rw [(delivered wheel scrollAccum (early ++ [event])).held, mask_concat]
    refine ⟨(delivered wheel scrollAccum events).alternates, mirrored, ?_, ?_⟩
    · intro early event late split ended empty button
      have apart : contact (early ++ [event]) = false := by
        rw [contact_concat, touch]
        rcases ended with up | cancel
        · rw [up]
        · rw [cancel]
      rw [mirrored early event late split, apart, empty]
      exact button.isIn_zero
    · intro early event late split isPlaced before evdevButton pressed after lines
      rw [changed_lines wheel scrollAccum early isPlaced] at lines
      by_cases exits : event.action = .hoverExit
      · have nothing : buttonLines (mask (early ++ [event]) ^^^ mask early) (mask (early ++ [event])) = [] := by
          apply (buttonLines_eq_nil_iff _ _).mpr
          intro button
          rw [Button.isIn_xor, steady early event late split exits button, Bool.xor_self]
        rw [if_pos exits, nothing, List.append_nil] at lines
        exact absurd (congrArg List.length lines) (by simp)
      · rw [if_neg exits] at lines
        cases before with
        | nil => exact nomatch (List.cons.inj lines).1
        | cons line before =>
            rw [(List.cons.inj lines).1]
            exact List.mem_cons_self

end Events

/-- The pointer hovers at one place without buttons, and leaves at another with the
primary button down: the press is sent while the host still has the first place. -/
theorem press_elsewhere :
    let wheel : Wheel Unit := ⟨fun _ _ => (), fun _ => 0, fun _ _ => ()⟩
    let hover : PointerEvent Unit := ⟨.hoverMove, "0.1", "0.1", (), 0⟩
    let leave : PointerEvent Unit := ⟨.hoverExit, "0.9", "0.9", (), BUTTON_PRIMARY⟩
    (deliver wheel (bound ()) [hover, leave]).2 = [.move "0.1" "0.1", .button BTN_LEFT true] ∧
      ¬ Consistent wheel () [hover, leave] := by
  intro wheel hover leave
  refine ⟨by decide, fun consistent => ?_⟩
  have first := consistent.placed [hover] leave [] rfl trivial [] BTN_LEFT true [] (by decide)
  exact absurd first List.not_mem_nil

end SessionInputForwarder
end MetaShare
