import MetaShare.Foundation.Decimal
import MetaShare.Client.RemoteInput
import MetaShare.Server.LineReader
import Mathlib.Data.List.TakeWhile

namespace MetaShare

open RtpServer Transitions

/-!
# Input events

The host decodes an event from the body of every INPUT line.  The coordinates of
a move are fractions of the surface, and everything else is a whole number.  A
body that does not say what it should is dropped.
-/

/-- How a number is rounded to a double.  Small integers are doubles. -/
structure Rounding where
  double : ℚ → ℚ
  monotone : Monotone double
  exact (number : Int) (small : number.natAbs ≤ 2 ^ 53) : double number = number

namespace Rounding

variable (rounding : Rounding)

theorem double_zero : rounding.double 0 = 0 := rounding.exact 0 (by decide)

theorem double_one : rounding.double 1 = 1 := rounding.exact 1 (by decide)

/-- Every number counts as a double. -/
def unrounded : Rounding := ⟨id, monotone_id, fun _ _ => rfl⟩

end Rounding

inductive InputEvent where
  | move (x y : ℚ)
  | button (button : Int) (pressed : Bool)
  | scroll (v h : Int)
  | key (keysym : Nat) (pressed : Bool)
  deriving DecidableEq

namespace InputEvent

/-- Two conversions, one after the other. -/
def sscanf {First Second : Type} (first : List UInt8 → Option (First × List UInt8))
    (second : List UInt8 → Option (Second × List UInt8)) (text : List UInt8) : Option (First × Second) := do
  let (one, rest) ← first text
  let (other, _) ← second rest
  some (one, other)

def scanInt (text : List UInt8) : Option (Int × List UInt8) :=
  (Decimal.scan text).map (fun found => (Decimal.toInt found.1, found.2))

def scanUnsigned (text : List UInt8) : Option (Nat × List UInt8) :=
  (Decimal.scan text).map (fun found => (Decimal.toUnsigned found.1, found.2))

/-- An infinite coordinate, or one that is not a number, is never on the surface. -/
def scanDouble (rounding : Rounding) (text : List UInt8) : Option (ℚ × List UInt8) :=
  (Decimal.scanReal text).map (fun found => (rounding.double found.1, found.2))

/-- The event of what follows the letter. -/
def event (rounding : Rounding) (kind : UInt8) (rest : List UInt8) : Option InputEvent :=
  if kind = 'm'.toUInt8 then
    (sscanf (scanDouble rounding) (scanDouble rounding) rest).bind (fun (x, y) =>
      if (0 ≤ x ∧ x ≤ 1) ∧ (0 ≤ y ∧ y ≤ 1) then some (.move x y) else none)
  else if kind = 'b'.toUInt8 then
    (sscanf scanInt scanInt rest).map (fun (b, s) => .button b (s ≠ 0))
  else if kind = 's'.toUInt8 then
    (sscanf scanInt scanInt rest).map (fun (v, h) => .scroll v h)
  else if kind = 'k'.toUInt8 then
    (sscanf scanUnsigned scanInt rest).map (fun (sym, s) => .key sym (s ≠ 0))
  else none

/-- The event of a body.  The conversions stop at a NUL. -/
def parse (rounding : Rounding) (body : List UInt8) : Option InputEvent :=
  match body with
  | kind :: 32 :: first :: others => event rounding kind ((first :: others).takeWhile (fun octet => octet ≠ 0))
  | _ => none

/-- Without a NUL, everything behind the first blank is converted. -/
theorem parse_eq (rounding : Rounding) (kind : UInt8) {text : List UInt8} (someText : text ≠ [])
    (noNul : ∀ octet ∈ text, octet ≠ 0) : parse rounding (kind :: 32 :: text) = event rounding kind text := by
  obtain ⟨first, others, isCons⟩ := List.exists_cons_of_ne_nil someText
  have whole : text.takeWhile (fun octet => octet ≠ 0) = text := by
    rw [List.takeWhile_eq_self_iff]
    intro octet member
    exact decide_eq_true (noNul octet member)
  rw [isCons] at whole ⊢
  exact congrArg (event rounding kind) whole

end InputEvent

namespace Signal

/-- The messages of a connection that reach the owner of the server.  A malformed
line is skipped, and BYE is the last message. -/
def clientLoop : List (List UInt8) → List Message
  | [] => []
  | line :: lines =>
      match parse line ⟨.hello, []⟩ with
      | none => clientLoop lines
      | some message => if message.type = .bye then [message] else message :: clientLoop lines

/-- The bodies of the INPUT messages. -/
def inputBodies (messages : List Message) : List (List UInt8) :=
  messages.filterMap (fun message => if message.type = .input then some message.body else none)

/-- The events that the messages carry. -/
def inputEvents (rounding : Rounding) (messages : List Message) : List InputEvent :=
  (inputBodies messages).filterMap (InputEvent.parse rounding)

end Signal

namespace StreamSession

/-! ## Bodies -/

/-- A coordinate with four digits behind the point, as a number of ten-thousandths. -/
def coordinate (units : Nat) : String := String.ofList (Decimal.scaled 4 units)

/-- The line tells the host of this event. -/
inductive Meant (rounding : Rounding) : Input → InputEvent → Prop where
  | move {x y : Nat} (left : x ≤ 10000) (top : y ≤ 10000) : Meant rounding (.move (coordinate x) (coordinate y))
      (.move (rounding.double (x / 10 ^ 4)) (rounding.double (y / 10 ^ 4)))
  | button {evdevButton : Int} (fits : Decimal.FitsInt evdevButton) (pressed : Bool) :
      Meant rounding (.button evdevButton pressed) (.button evdevButton pressed)
  | scroll {vSteps hSteps : Int} (vertical : Decimal.FitsInt vSteps) (horizontal : Decimal.FitsInt hSteps) :
      Meant rounding (.scroll vSteps hSteps) (.scroll vSteps hSteps)
  | key {keysym : Int} (fits : Decimal.FitsInt keysym) (pressed : Bool) :
      Meant rounding (.key keysym pressed) (.key (keysym % 2 ^ 32).toNat pressed)

/-- The text of a number, as a body holds it. -/
structure NumberText (text : List UInt8) : Prop where
  printable : ∀ octet ∈ text, 32 ≤ octet
  short : text.length ≤ 11

theorem numberText_ofInt {number : Int} (fits : Decimal.FitsInt number) : NumberText (Decimal.ofInt number) := by
  obtain ⟨low, high⟩ := fits
  exact ⟨Decimal.printable_ofInt number, Decimal.length_ofInt_le (by decide) (by omega)⟩

theorem numberText_scaled {units : Nat} (inside : units ≤ 10000) :
    NumberText (Decimal.octets (Decimal.scaled 4 units)) := by
  have whole : (Decimal.ofNat (units / 10 ^ 4)).length ≤ 1 :=
    Decimal.length_ofNat_le (by decide) (by omega)
  have written : Decimal.octets (Decimal.scaled 4 units) =
      Decimal.ofNat (units / 10 ^ 4) ++ 46 :: Decimal.octets (Decimal.fixed 4 units) :=
    List.map_append
  rw [written]
  constructor
  · intro octet member
    rcases List.mem_append.mp member with digit | behind
    · exact Decimal.printable_of_isDigit (Decimal.isDigit_of_mem_ofNat digit)
    · rcases List.mem_cons.mp behind with rfl | decimal
      · decide
      · obtain ⟨character, listed, rfl⟩ := List.mem_map.mp decimal
        exact Decimal.printable_of_isDigit (Decimal.toUInt8_of_isDigit (Decimal.isDigit_of_mem_fixed listed)).1
  · rw [List.length_append, List.length_cons, Decimal.octets, List.length_map, Decimal.length_fixed]
    omega

/-- What comes before the second number of a body that ends with a transition. -/
theorem octetsOf_transition (pressed : Bool) :
    octetsOf (transition pressed).toList = 32 :: Decimal.ofInt (if pressed then 1 else 0) := by
  cases pressed <;> decide

theorem body_move (x y : Nat) : octetsOf (body (.move (coordinate x) (coordinate y))).toList =
    109 :: 32 :: (Decimal.octets (Decimal.scaled 4 x) ++ 32 :: Decimal.octets (Decimal.scaled 4 y)) := by
  simp only [body, coordinate, String.toList_append, String.toList_ofList, octetsOf, List.map_append]
  rw [List.append_assoc]
  rfl

theorem body_button (evdevButton : Int) (pressed : Bool) : octetsOf (body (.button evdevButton pressed)).toList =
    98 :: 32 :: (Decimal.ofInt evdevButton ++ 32 :: Decimal.ofInt (if pressed then 1 else 0)) := by
  rw [← octetsOf_transition]
  simp only [body, String.toList_append, octetsOf, List.map_append]
  rfl

theorem body_scroll (vSteps hSteps : Int) : octetsOf (body (.scroll vSteps hSteps)).toList =
    115 :: 32 :: (Decimal.ofInt vSteps ++ 32 :: Decimal.ofInt hSteps) := by
  simp only [body, String.toList_append, octetsOf, List.map_append]
  rw [List.append_assoc]
  rfl

theorem body_key (keysym : Int) (pressed : Bool) : octetsOf (body (.key keysym pressed)).toList =
    107 :: 32 :: (Decimal.ofInt keysym ++ 32 :: Decimal.ofInt (if pressed then 1 else 0)) := by
  rw [← octetsOf_transition]
  simp only [body, String.toList_append, octetsOf, List.map_append]
  rfl

variable {rounding : Rounding} {input : Input} {event : InputEvent}

theorem fits_transition (pressed : Bool) : Decimal.FitsInt (if pressed then 1 else 0) := by
  cases pressed <;> decide

/-- A body is a letter and two numbers. -/
theorem Meant.shape (meant : Meant rounding input event) : ∃ letter one other,
    octetsOf (body input).toList = letter :: 32 :: (one ++ 32 :: other) ∧ 32 ≤ letter ∧ NumberText one ∧
      NumberText other := by
  cases meant with
  | move left top => exact ⟨_, _, _, body_move _ _, by decide, numberText_scaled left, numberText_scaled top⟩
  | button fits pressed =>
      exact ⟨_, _, _, body_button _ _, by decide, numberText_ofInt fits, numberText_ofInt (fits_transition pressed)⟩
  | scroll vertical horizontal =>
      exact ⟨_, _, _, body_scroll _ _, by decide, numberText_ofInt vertical, numberText_ofInt horizontal⟩
  | key fits pressed =>
      exact ⟨_, _, _, body_key _ _, by decide, numberText_ofInt fits, numberText_ofInt (fits_transition pressed)⟩

theorem Meant.printable (meant : Meant rounding input event) :
    ∀ octet ∈ octetsOf (body input).toList, 32 ≤ octet := by
  obtain ⟨letter, one, other, same, isLetter, first, second⟩ := meant.shape
  rw [same]
  intro octet member
  simp only [List.mem_cons, List.mem_append] at member
  rcases member with rfl | rfl | member | rfl | member
  · exact isLetter
  · decide
  · exact first.printable octet member
  · decide
  · exact second.printable octet member

theorem Meant.short (meant : Meant rounding input event) : (octetsOf (body input).toList).length ≤ 25 := by
  obtain ⟨letter, one, other, same, _, first, second⟩ := meant.shape
  have one := first.short
  have other := second.short
  rw [same]
  simp only [List.length_cons, List.length_append]
  omega

/-! ## Reading a body back -/

theorem scanInt_ofInt {number : Int} (fits : Decimal.FitsInt number) {blanks rest : List UInt8}
    (areBlanks : ∀ blank ∈ blanks, Decimal.isSpace blank = true)
    (ends : ∀ next ∈ rest.head?, Decimal.isDigit next = false) :
    InputEvent.scanInt (blanks ++ (Decimal.ofInt number ++ rest)) = some (number, rest) := by
  rw [InputEvent.scanInt, Decimal.scan_ofInt number areBlanks ends, Option.map_some, Decimal.toInt_of_fits fits]

theorem scanUnsigned_ofInt {number : Int} (fits : Decimal.FitsInt number) {rest : List UInt8}
    (ends : ∀ next ∈ rest.head?, Decimal.isDigit next = false) :
    InputEvent.scanUnsigned (Decimal.ofInt number ++ rest) = some ((number % 2 ^ 32).toNat, rest) := by
  have found : Decimal.scan ([] ++ (Decimal.ofInt number ++ rest)) = some (number, rest) :=
    Decimal.scan_ofInt number (List.forall_mem_nil _) ends
  have same : Decimal.toUnsigned number = (number % 2 ^ 32).toNat := by
    rw [← Decimal.toUnsigned_of_fits fits, Int.toNat_natCast]
  rw [List.nil_append] at found
  rw [InputEvent.scanUnsigned, found, Option.map_some, same]

theorem scanDouble_scaled (rounding : Rounding) (units : Nat) {blanks rest : List UInt8}
    (areBlanks : ∀ blank ∈ blanks, Decimal.isSpace blank = true)
    (ends : ∀ next ∈ rest.head?, Decimal.isDigit next = false ∧ next ≠ 101 ∧ next ≠ 69) :
    InputEvent.scanDouble rounding (blanks ++ (Decimal.octets (Decimal.scaled 4 units) ++ rest)) =
      some (rounding.double (units / 10 ^ 4), rest) := by
  rw [InputEvent.scanDouble, Decimal.scanReal_scaled 4 units areBlanks ends, Option.map_some]

/-- What comes behind the first number of a body. -/
theorem ends_blank {next : UInt8} {rest : List UInt8} (isNext : next ∈ (32 :: rest : List UInt8).head?) :
    Decimal.isDigit next = false ∧ next ≠ 101 ∧ next ≠ 69 := by
  rw [← Option.some.inj isNext]
  decide

theorem blanks_single : ∀ blank ∈ [(32 : UInt8)], Decimal.isSpace blank = true :=
  List.all_eq_true.mp (by decide)

theorem sscanf_ints {one other : Int} (first : Decimal.FitsInt one) (second : Decimal.FitsInt other) :
    InputEvent.sscanf InputEvent.scanInt InputEvent.scanInt (Decimal.ofInt one ++ 32 :: Decimal.ofInt other) =
      some (one, other) := by
  have found : InputEvent.scanInt ([] ++ (Decimal.ofInt one ++ 32 :: Decimal.ofInt other)) =
      some (one, 32 :: Decimal.ofInt other) :=
    scanInt_ofInt first (List.forall_mem_nil _) (fun _ isNext => (ends_blank isNext).1)
  have behind : InputEvent.scanInt ([32] ++ (Decimal.ofInt other ++ [])) = some (other, []) :=
    scanInt_ofInt second blanks_single (fun next isNext => absurd isNext (Option.not_mem_none next))
  rw [List.nil_append] at found
  rw [List.append_nil] at behind
  simp only [InputEvent.sscanf, found, Option.bind_eq_bind, Option.bind_some]
  exact congrArg (Option.bind · _) behind

theorem sscanf_key {keysym other : Int} (first : Decimal.FitsInt keysym) (second : Decimal.FitsInt other) :
    InputEvent.sscanf InputEvent.scanUnsigned InputEvent.scanInt (Decimal.ofInt keysym ++ 32 :: Decimal.ofInt other) =
      some ((keysym % 2 ^ 32).toNat, other) := by
  have found : InputEvent.scanUnsigned (Decimal.ofInt keysym ++ 32 :: Decimal.ofInt other) =
      some ((keysym % 2 ^ 32).toNat, 32 :: Decimal.ofInt other) :=
    scanUnsigned_ofInt first (fun _ isNext => (ends_blank isNext).1)
  have behind : InputEvent.scanInt ([32] ++ (Decimal.ofInt other ++ [])) = some (other, []) :=
    scanInt_ofInt second blanks_single (fun next isNext => absurd isNext (Option.not_mem_none next))
  rw [List.append_nil] at behind
  simp only [InputEvent.sscanf, found, Option.bind_eq_bind, Option.bind_some]
  exact congrArg (Option.bind · _) behind

theorem sscanf_coordinates (rounding : Rounding) (x y : Nat) :
    InputEvent.sscanf (InputEvent.scanDouble rounding) (InputEvent.scanDouble rounding)
        (Decimal.octets (Decimal.scaled 4 x) ++ 32 :: Decimal.octets (Decimal.scaled 4 y)) =
      some (rounding.double (x / 10 ^ 4), rounding.double (y / 10 ^ 4)) := by
  have found : InputEvent.scanDouble rounding ([] ++ (Decimal.octets (Decimal.scaled 4 x) ++
      32 :: Decimal.octets (Decimal.scaled 4 y))) =
        some (rounding.double (x / 10 ^ 4), 32 :: Decimal.octets (Decimal.scaled 4 y)) :=
    scanDouble_scaled rounding x (List.forall_mem_nil _) (fun _ isNext => ends_blank isNext)
  have behind : InputEvent.scanDouble rounding ([32] ++ (Decimal.octets (Decimal.scaled 4 y) ++ [])) =
      some (rounding.double (y / 10 ^ 4), []) :=
    scanDouble_scaled rounding y blanks_single (fun next isNext => absurd isNext (Option.not_mem_none next))
  rw [List.nil_append] at found
  rw [List.append_nil] at behind
  simp only [InputEvent.sscanf, found, Option.bind_eq_bind, Option.bind_some]
  exact congrArg (Option.bind · _) behind

/-- Rounding keeps a coordinate on the surface. -/
theorem double_inside (rounding : Rounding) {units : Nat} (inside : units ≤ 10000) :
    0 ≤ rounding.double (units / 10 ^ 4) ∧ rounding.double (units / 10 ^ 4) ≤ 1 := by
  constructor
  · rw [← rounding.double_zero]
    apply rounding.monotone
    exact div_nonneg (Nat.cast_nonneg _) (by positivity)
  · rw [← rounding.double_one]
    apply rounding.monotone
    rw [div_le_one (by positivity)]
    exact_mod_cast inside

/-- The body of a line is read as the event that it tells of. -/
theorem Meant.parse (meant : Meant rounding input event) :
    InputEvent.parse rounding (octetsOf (body input).toList) = some event := by
  have opened {letter : UInt8} {one other : List UInt8}
      (same : octetsOf (body input).toList = letter :: 32 :: (one ++ 32 :: other)) :
      InputEvent.parse rounding (octetsOf (body input).toList) =
        InputEvent.event rounding letter (one ++ 32 :: other) := by
    rw [same]
    apply InputEvent.parse_eq
    · exact List.append_ne_nil_of_right_ne_nil one (List.cons_ne_nil 32 other)
    · rintro octet member rfl
      have printable := meant.printable
      rw [same] at printable
      exact absurd (printable 0 (List.mem_cons_of_mem _ (List.mem_cons_of_mem _ member))) (by decide)
  have pressedBit (pressed : Bool) : decide ((if pressed then 1 else 0 : Int) ≠ 0) = pressed := by
    cases pressed <;> rfl
  cases meant with
  | @move x y left top =>
      rw [opened (body_move x y)]
      change (InputEvent.sscanf _ _ _).bind _ = _
      rw [sscanf_coordinates]
      exact if_pos ⟨double_inside rounding left, double_inside rounding top⟩
  | button fits pressed =>
      rw [opened (body_button _ pressed)]
      change (InputEvent.sscanf _ _ _).map _ = _
      rw [sscanf_ints fits (fits_transition pressed), Option.map_some]
      exact congrArg (fun bit => some (InputEvent.button _ bit)) (pressedBit pressed)
  | scroll vertical horizontal =>
      rw [opened (body_scroll _ _)]
      change (InputEvent.sscanf _ _ _).map _ = _
      rw [sscanf_ints vertical horizontal, Option.map_some]
  | key fits pressed =>
      rw [opened (body_key _ pressed)]
      change (InputEvent.sscanf _ _ _).map _ = _
      rw [sscanf_key fits (fits_transition pressed), Option.map_some]
      exact congrArg (fun bit => some (InputEvent.key _ bit)) (pressedBit pressed)

/-! ## The connection -/

/-- The body of READY, with the local port of the receiver. -/
def readyBody (udpPort : UInt16) : List UInt8 :=
  octetsOf ['{', '"', 'p', 'o', 'r', 't', '"', ':'] ++ Decimal.ofNat udpPort.toNat ++ octetsOf ['}']

theorem printable_readyBody (udpPort : UInt16) : ∀ octet ∈ readyBody udpPort, 32 ≤ octet := by
  have key : (octetsOf ['{', '"', 'p', 'o', 'r', 't', '"', ':']).all (fun octet => decide (32 ≤ octet)) = true := by
    decide
  intro octet member
  rcases List.mem_append.mp member with early | brace
  · rcases List.mem_append.mp early with first | digit
    · exact of_decide_eq_true (List.all_eq_true.mp key octet first)
    · exact Decimal.printable_of_isDigit (Decimal.isDigit_of_mem_ofNat digit)
  · rw [List.mem_singleton.mp brace]
    decide

/-- A line that the client writes to the connection. -/
inductive ClientLine where
  | ready (port : UInt16)
  | ping
  | input (input : Input)

namespace ClientLine

def octets : ClientLine → List UInt8
  | .ready port => octetsOf ['R', 'E', 'A', 'D', 'Y', ' ', '{', '"', 'p', 'o', 'r', 't', '"', ':'] ++
      Decimal.ofNat port.toNat ++ octetsOf ['}']
  | .ping => octetsOf ['P', 'I', 'N', 'G']
  | .input input => octetsOf (line input).toList

def message : ClientLine → Signal.Message
  | .ready port => ⟨.ready, readyBody port⟩
  | .ping => ⟨.ping, []⟩
  | .input input => ⟨.input, octetsOf (body input).toList⟩

def input? : ClientLine → Option Input
  | .input input => some input
  | _ => none

theorem octets_eq (line : ClientLine) : line.octets = Signal.serialize line.message := by
  cases line with
  | ready port => rfl
  | ping => rfl
  | input input =>
      rw [octets, StreamSession.line, String.toList_append, octetsOf, List.map_append]
      rfl

/-- The host reads the line if it tells of an event. -/
def Proper (rounding : Rounding) : ClientLine → Prop
  | .input input => ∃ event, Meant rounding input event
  | _ => True

theorem body_printable {line : ClientLine} (proper : line.Proper rounding) :
    ∀ octet ∈ line.message.body, 32 ≤ octet := by
  cases line with
  | ready port => exact printable_readyBody port
  | ping => exact List.forall_mem_nil _
  | input input =>
      obtain ⟨event, meant⟩ := proper
      exact meant.printable

theorem sendable {line : ClientLine} (proper : line.Proper rounding) : line.message.Sendable := by
  have plain := Signal.sendable_of_printable (body_printable proper)
  cases line with
  | ping => rfl
  | ready port => exact plain
  | input input => exact plain

theorem length_octets {line : ClientLine} (proper : line.Proper rounding) :
    line.octets.length ≤ Signal.maxLine := by
  cases line with
  | ready port =>
      have digits : (Decimal.ofNat port.toNat).length ≤ 5 :=
        Decimal.length_ofNat_le (by decide) (Nat.lt_of_lt_of_le port.toNat_lt (by decide))
      rw [octets, List.length_append, List.length_append]
      exact Nat.le_trans (Nat.add_le_add_right (Nat.add_le_add_left digits _) _) (by decide)
  | ping => decide
  | input input =>
      obtain ⟨event, meant⟩ := proper
      have short := meant.short
      rw [octets_eq, message, Signal.serialize, List.length_append]
      exact Nat.le_trans (Nat.add_le_add_left short _) (by decide)

end ClientLine

/-- The host gets the messages of the lines it reads. -/
theorem clientLoop_octets (client : List ClientLine) (proper : ∀ line ∈ client, line.Proper rounding) :
    Signal.clientLoop (client.map ClientLine.octets) = client.map ClientLine.message := by
  induction client with
  | nil => rfl
  | cons line client inductionHypothesis =>
      have own := proper line List.mem_cons_self
      have parsed : Signal.parse line.octets ⟨.hello, []⟩ = some line.message := by
        rw [ClientLine.octets_eq]
        exact Signal.parse_serialize (ClientLine.sendable own) rfl
      have noBye : line.message.type ≠ .bye := by
        cases line <;> exact Signal.MessageType.noConfusion
      rw [List.map_cons, List.map_cons, Signal.clientLoop, parsed]
      simp only [if_neg noBye]
      rw [inductionHypothesis (fun other member => proper other (List.mem_cons_of_mem _ member))]

/-- The events are those of the user's lines. -/
theorem meant_inputEvents (client : List ClientLine) (proper : ∀ line ∈ client, line.Proper rounding) :
    List.Forall₂ (Meant rounding) (client.filterMap ClientLine.input?)
      (Signal.inputEvents rounding (client.map ClientLine.message)) := by
  induction client with
  | nil => exact .nil
  | cons line client inductionHypothesis =>
      have later := inductionHypothesis (fun other member => proper other (List.mem_cons_of_mem _ member))
      cases line with
      | ready port => exact later
      | ping => exact later
      | input input =>
          obtain ⟨event, meant⟩ := proper (.input input) List.mem_cons_self
          have own : Signal.inputEvents rounding ((ClientLine.input input :: client).map ClientLine.message) =
              event :: Signal.inputEvents rounding (client.map ClientLine.message) := by
            have first : Signal.inputBodies ((ClientLine.input input :: client).map ClientLine.message) =
                octetsOf (body input).toList :: Signal.inputBodies (client.map ClientLine.message) := rfl
            rw [Signal.inputEvents, first, List.filterMap_cons, meant.parse]
            rfl
          rw [own]
          exact .cons meant later

/-! ## Order -/

/-- What has been taken and what is queued has been enqueued in this order. -/
def BackChannel.Ordered (channel : BackChannel) : Prop :=
  List.Sublist (channel.taken ++ channel.inputQueue) channel.enqueued

theorem enqueueInput_sublist (channel : BackChannel) (input : Input) (isOpen : channel.inputOpen = true) :
    List.Sublist (channel.enqueueInput input).inputQueue (channel.inputQueue ++ [input]) := by
  have kept : List.Sublist ((if coalesces channel.inputQueue input then channel.inputQueue.dropLast
      else channel.inputQueue) ++ [input]) (channel.inputQueue ++ [input]) := by
    split
    · exact (List.dropLast_sublist _).append_right _
    · exact List.Sublist.refl _
  rw [BackChannel.enqueueInput, if_pos isOpen]
  generalize (if coalesces channel.inputQueue input then channel.inputQueue.dropLast
    else channel.inputQueue) = queue at kept
  dsimp only
  split
  · exact (List.tail_sublist _).trans kept
  · exact kept

theorem ordered_step (channel : BackChannel) (action : InputAction) (next : BackChannel) (ordered : channel.Ordered)
    (stepped : inputStep channel action = some next) : next.Ordered := by
  cases action with
  | enqueue input =>
      cases stepped
      by_cases isOpen : channel.inputOpen = true
      · have longer : List.Sublist (channel.taken ++ (channel.enqueueInput input).inputQueue)
            (channel.enqueued ++ [input]) := by
          apply ((enqueueInput_sublist channel input isOpen).append_left _).trans
          rw [← List.append_assoc]
          exact ordered.append_right _
        rw [BackChannel.enqueueInput, if_pos isOpen] at longer ⊢
        exact longer
      · rw [BackChannel.enqueueInput, if_neg isOpen]
        exact ordered
  | poll =>
      have polled : channel.poll = some next := stepped
      unfold BackChannel.poll at polled
      split at polled
      case h_1 first rest isOpen idle queue =>
        cases polled
        rw [BackChannel.Ordered, BackChannel.taken, idle, queue] at ordered
        rw [BackChannel.Ordered, BackChannel.taken]
        simpa using ordered
      case h_2 => cases polled
  | write =>
      have wrote : channel.write = some next := stepped
      unfold BackChannel.write at wrote
      split at wrote
      case h_1 input holds =>
        cases wrote
        rw [BackChannel.Ordered, BackChannel.taken, holds] at ordered
        rw [BackChannel.Ordered, BackChannel.taken]
        simpa using ordered
      case h_2 => cases wrote
  | close =>
      cases stepped
      apply List.Sublist.trans _ ordered
      exact (List.nil_sublist _).append_left _

theorem written_sublist {actions : List InputAction} {channel : BackChannel}
    (ran : run inputStep .opened actions = some channel) : List.Sublist channel.written channel.enqueued := by
  have opened : BackChannel.opened.Ordered := List.Sublist.refl []
  have ordered : channel.Ordered := run_invariant ordered_step opened ran
  apply List.Sublist.trans _ ordered
  rw [BackChannel.taken, List.append_assoc]
  exact List.sublist_append_left _ _

/-! ## Delivery -/

theorem proper_of_sensible {actions : List InputAction} {channel : BackChannel}
    (ran : run inputStep .opened actions = some channel)
    (sensible : ∀ input ∈ channel.enqueued, ∃ event, Meant rounding input event) {client : List ClientLine}
    (interleaved : client.filterMap ClientLine.input? = channel.written) :
    ∀ line ∈ client, line.Proper rounding := by
  intro line member
  cases line with
  | ready port => trivial
  | ping => trivial
  | input input =>
      apply sensible
      apply (written_sublist ran).subset
      rw [← interleaved]
      exact List.mem_filterMap.mpr ⟨_, member, rfl⟩

/-- The events that the host gets from what has arrived. -/
def received (rounding : Rounding) (recvs : List Signal.Recv) : List InputEvent :=
  Signal.inputEvents rounding (Signal.clientLoop (Signal.LineReader.readLines recvs Signal.LineReader.new))

theorem meant_received {client : List ClientLine} (proper : ∀ line ∈ client, line.Proper rounding)
    {recvs : List Signal.Recv}
    (arrived : Signal.LineReader.bytes recvs <+: client.flatMap (fun line => line.octets ++ [10])) :
    ∃ delivered, delivered <+: client.filterMap ClientLine.input? ∧
      List.Forall₂ (Meant rounding) delivered (received rounding recvs) ∧
      (Signal.LineReader.bytes recvs = client.flatMap (fun line => line.octets ++ [10]) →
        delivered = client.filterMap ClientLine.input?) := by
  have lines : ∀ line ∈ client.map ClientLine.octets, 10 ∉ line ∧ line.length ≤ Signal.maxLine := by
    intro octets member
    obtain ⟨line, isLine, rfl⟩ := List.mem_map.mp member
    refine ⟨?_, ClientLine.length_octets (proper line isLine)⟩
    rw [ClientLine.octets_eq]
    exact Signal.newline_not_mem_serialize (ClientLine.sendable (proper line isLine))
  have written : client.flatMap (fun line => line.octets ++ [10]) =
      (client.map ClientLine.octets).flatMap (fun line => line ++ [10]) := by
    rw [List.flatMap_map]
  rw [received, Signal.LineReader.readLines_new]
  obtain ⟨missing, whole⟩ := Lines.lines_prefix lines (written ▸ arrived)
  obtain ⟨early, late, isClient, isRead, _⟩ := List.map_eq_append_iff.mp whole.symm
  have earlyProper : ∀ line ∈ early, line.Proper rounding := by
    intro line member
    apply proper
    rw [isClient]
    exact List.mem_append_left _ member
  refine ⟨early.filterMap ClientLine.input?, ?_, ?_, ?_⟩
  · rw [isClient, List.filterMap_append]
    exact List.prefix_append _ _
  · rw [← isRead, clientLoop_octets early earlyProper]
    exact meant_inputEvents early earlyProper
  · intro all
    have every : Lines.lines 10 Signal.maxLine (Signal.LineReader.bytes recvs) = client.map ClientLine.octets := by
      rw [all, written, Lines.lines_flatMap lines]
    rw [every] at isRead
    have same : early.length = client.length := by
      rw [← List.length_map ClientLine.octets, isRead, List.length_map]
    have none : late = [] := by
      rw [isClient, List.length_append] at same
      exact List.length_eq_zero_iff.mp (by omega)
    rw [isClient, none, List.append_nil]

/-- The host gets the events of the lines that arrive, in the order in which the
user brought them about and none twice, wherever the connection cuts the bytes
and however keepalives come in between.  It gets the events of all lines that
were written unless bytes are lost at the end. -/
theorem input_delivered (rounding : Rounding) {actions : List InputAction} {channel : BackChannel}
    (ran : run inputStep .opened actions = some channel)
    (sensible : ∀ input ∈ channel.enqueued, ∃ event, Meant rounding input event)
    {client : List ClientLine} (interleaved : client.filterMap ClientLine.input? = channel.written)
    {recvs : List Signal.Recv}
    (arrived : Signal.LineReader.bytes recvs <+: client.flatMap (fun line => line.octets ++ [10])) :
    List.Sublist channel.written channel.enqueued ∧ ∃ delivered, delivered <+: channel.written ∧
      List.Forall₂ (Meant rounding) delivered (received rounding recvs) ∧
      (Signal.LineReader.bytes recvs = client.flatMap (fun line => line.octets ++ [10]) →
        delivered = channel.written) := by
  refine ⟨written_sublist ran, ?_⟩
  rw [← interleaved]
  exact meant_received (proper_of_sensible ran sensible interleaved) arrived

/-- The left button is pressed and released, and the end of the second line does
not arrive. -/
theorem input_delivered_sample :
    ∃ delivered, delivered <+: [Input.button 272 true, .button 272 false] ∧
      List.Forall₂ (Meant .unrounded) delivered (received .unrounded
        [.received [73, 78, 80, 85, 84, 32, 98, 32, 50] (by decide), .interrupted,
          .received [55, 50, 32, 49, 10, 73] (by decide), .failed]) := by
  let client : List ClientLine := [.input (.button 272 true), .input (.button 272 false)]
  let recvs : List Signal.Recv := [.received [73, 78, 80, 85, 84, 32, 98, 32, 50] (by decide), .interrupted,
    .received [55, 50, 32, 49, 10, 73] (by decide), .failed]
  have ran : run inputStep .opened [.enqueue (.button 272 true), .poll, .enqueue (.button 272 false), .write, .poll,
      .write] = some ⟨[], true, none, [.button 272 true, .button 272 false],
        [.button 272 true, .button 272 false]⟩ := by decide
  have sensible : ∀ input ∈ [Input.button 272 true, .button 272 false], ∃ event, Meant .unrounded input event := by
    intro input member
    rcases List.mem_pair.mp member with rfl | rfl
    · exact ⟨_, .button (by decide) true⟩
    · exact ⟨_, .button (by decide) false⟩
  have interleaved : client.filterMap ClientLine.input? = [.button 272 true, .button 272 false] := rfl
  have arrived : Signal.LineReader.bytes recvs <+: client.flatMap (fun line => line.octets ++ [10]) :=
    ⟨[78, 80, 85, 84, 32, 98, 32, 50, 55, 50, 32, 48, 10], by decide +kernel⟩
  obtain ⟨_, delivered, isPrefix, meant, _⟩ := input_delivered .unrounded ran sensible interleaved arrived
  exact ⟨delivered, isPrefix, meant⟩

end StreamSession
end MetaShare
