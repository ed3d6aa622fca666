import MetaShare.Foundation.Lines
import MetaShare.Foundation.Octets

namespace MetaShare
namespace Signal

/-!
# Signaling messages

A client and the streamer exchange typed messages over TCP before and during a
session.  Only READY carries something that the media path depends on, the UDP
port of the client.
-/

inductive MessageType where
  | hello | ready | start | bye | ping | input
  deriving DecidableEq

/-- A decoded message.  The body is a string of octets. -/
structure Message where
  type : MessageType
  body : List UInt8
  deriving DecidableEq

end Signal

namespace RtpServer

/-- The octets of an ASCII text. -/
def octetsOf (text : List Char) : List UInt8 := text.map Char.toUInt8

/-- The rest of a string from the first occurrence of a pattern on. -/
def findFrom (pattern : List UInt8) : List UInt8 → Option (List UInt8)
  | [] => if pattern = [] then some [] else none
  | octet :: rest => if pattern.isPrefixOf (octet :: rest) then some (octet :: rest) else findFrom pattern rest

def isBlank (octet : UInt8) : Bool := octet = 32 || octet = 9 || octet = 10

def isDigit (octet : UInt8) : Bool := decide (48 ≤ octet) && decide (octet ≤ 57)

/-- The value of a run of digits in a 64-bit unsigned long, which wraps. -/
def digitsValue (digits : List UInt8) : Nat :=
  digits.foldl (fun v digit => (v * 10 + (digit.toNat - 48)) % 2 ^ 64) 0

/-- The port in a READY body, unless the body is malformed. -/
def parseReadyPort (body : List UInt8) : Option UInt16 := do
  let fromKey ← findFrom (octetsOf ['"', 'p', 'o', 'r', 't', '"']) body
  let fromColon ← findFrom (octetsOf [':']) fromKey
  let value := (fromColon.drop 1).dropWhile isBlank
  let digits := value.takeWhile isDigit
  if digits = [] then none
  else
    let v := digitsValue digits
    if v = 0 ∨ 65535 < v then none else some (UInt16.ofNat v)

/-- An accepted port is not zero. -/
theorem parseReadyPort_ne_zero {body : List UInt8} {port : UInt16} (parsed : parseReadyPort body = some port) :
    port ≠ 0 := by
  rw [parseReadyPort] at parsed
  obtain ⟨fromKey, _, rest⟩ := Option.bind_eq_some_iff.mp parsed
  obtain ⟨fromColon, _, last⟩ := Option.bind_eq_some_iff.mp rest
  simp only at last
  split at last
  · cases last
  split at last
  · cases last
  rename_i inRange
  cases last
  intro zero
  have value := congrArg UInt16.toNat zero
  rw [UInt16.toNat_ofNat'] at value
  change _ = 0 at value
  omega

example : parseReadyPort (octetsOf ['{', '"', 'p', 'o', 'r', 't', '"', ':', ' ', '5', '0', '0', '4', '}']) =
    some 5004 := by decide

end RtpServer

namespace Signal

open RtpServer

/-! ## Messages on the wire -/

/-- The line of a message, without its newline. -/
def serialize (message : Message) : List UInt8 :=
  match message.type with
  | .hello => octetsOf ['H', 'E', 'L', 'L', 'O', ' '] ++ message.body
  | .ready => octetsOf ['R', 'E', 'A', 'D', 'Y', ' '] ++ message.body
  | .input => octetsOf ['I', 'N', 'P', 'U', 'T', ' '] ++ message.body
  | .start => octetsOf ['S', 'T', 'A', 'R', 'T']
  | .bye => octetsOf ['B', 'Y', 'E']
  | .ping => octetsOf ['P', 'I', 'N', 'G']

/-- Drop the carriage return of a peer that ends its lines with CRLF. -/
def stripReturn (line : List UInt8) : List UInt8 :=
  if line.getLast? = some 13 then line.dropLast else line

/-- The message of a line, written over a message that the caller provides. -/
def parse (line : List UInt8) (out : Message) : Option Message :=
  let line := stripReturn line
  if line = octetsOf ['S', 'T', 'A', 'R', 'T'] then some { out with type := .start }
  else if line = octetsOf ['B', 'Y', 'E'] then some { out with type := .bye }
  else if line = octetsOf ['P', 'I', 'N', 'G'] then some { out with type := .ping }
  else
    match Lines.cut 32 line with
    | none => none
    | some (cmd, rest) =>
        if cmd = octetsOf ['H', 'E', 'L', 'L', 'O'] then some ⟨.hello, rest⟩
        else if cmd = octetsOf ['R', 'E', 'A', 'D', 'Y'] then some ⟨.ready, rest⟩
        else if cmd = octetsOf ['I', 'N', 'P', 'U', 'T'] then some ⟨.input, rest⟩
        else none

/-- A message that a peer may send: a body that fits on a line, or none where
the type carries none. -/
def Message.Sendable (message : Message) : Prop :=
  match message.type with
  | .hello | .ready | .input => 10 ∉ message.body ∧ message.body.getLast? ≠ some 13
  | .start | .bye | .ping => message.body = []

/-- The command of a message with a body. -/
def MessageType.command : MessageType → Option (List UInt8)
  | .hello => some (octetsOf ['H', 'E', 'L', 'L', 'O'])
  | .ready => some (octetsOf ['R', 'E', 'A', 'D', 'Y'])
  | .input => some (octetsOf ['I', 'N', 'P', 'U', 'T'])
  | _ => none

theorem stripReturn_command (command body : List UInt8) (noReturn : body.getLast? ≠ some 13) :
    stripReturn (command ++ 32 :: body) = command ++ 32 :: body := by
  refine if_neg ?_
  rw [List.getLast?_append, List.getLast?_cons]
  cases last : body.getLast? with
  | none =>
      intro isReturn
      have blank : (32 : UInt8) = 13 := Option.some.inj isReturn
      exact absurd blank (by decide)
  | some octet =>
      intro isReturn
      exact noReturn (last.trans isReturn)

/-- The command of a line with a body is what stands before the first blank. -/
theorem parse_command (type : MessageType) {command : List UInt8} (isCommand : type.command = some command)
    {body : List UInt8} (noReturn : body.getLast? ≠ some 13) (out : Message) :
    parse (command ++ 32 :: body) out = some ⟨type, body⟩ := by
  have noBlank : (32 : UInt8) ∉ command := by
    cases type <;> cases isCommand <;> decide
  have other : ∀ word : List UInt8, 32 ∉ word → command ++ 32 :: body ≠ word := by
    rintro word absent rfl
    exact absent (List.mem_append_right _ List.mem_cons_self)
  rw [parse, stripReturn_command command body noReturn]
  simp only [if_neg (other (octetsOf ['S', 'T', 'A', 'R', 'T']) (by decide)),
    if_neg (other (octetsOf ['B', 'Y', 'E']) (by decide)), if_neg (other (octetsOf ['P', 'I', 'N', 'G']) (by decide)),
    Lines.cut_line noBlank]
  cases type <;> cases isCommand <;> rfl

/-- A sent message is read back, over any fresh one. -/
theorem parse_serialize {message : Message} (sendable : message.Sendable) {out : Message} (fresh : out.body = []) :
    parse (serialize message) out = some message := by
  obtain ⟨type, body⟩ := message
  cases type
  case hello => exact parse_command .hello rfl sendable.2 out
  case ready => exact parse_command .ready rfl sendable.2 out
  case input => exact parse_command .input rfl sendable.2 out
  all_goals
    rw [show body = [] from sendable, ← fresh]
    rfl

/-- A body of printable octets fits on a line. -/
theorem sendable_of_printable {body : List UInt8} (printable : ∀ octet ∈ body, 32 ≤ octet) :
    10 ∉ body ∧ body.getLast? ≠ some 13 := by
  refine ⟨fun newline => absurd (printable 10 newline) (by decide), fun isReturn => ?_⟩
  exact absurd (printable 13 (List.mem_of_getLast? isReturn)) (by decide)

/-- The line of a message contains no newline. -/
theorem newline_not_mem_serialize {message : Message} (sendable : message.Sendable) :
    10 ∉ serialize message := by
  obtain ⟨type, body⟩ := message
  have ofBody : ∀ command : List UInt8, 10 ∉ command → 10 ∉ body → 10 ∉ command ++ body := by
    intro command noCommand noBody member
    exact (List.mem_append.mp member).elim noCommand noBody
  cases type
  case hello => exact ofBody _ (by decide) sendable.1
  case ready => exact ofBody _ (by decide) sendable.1
  case input => exact ofBody _ (by decide) sendable.1
  case start => exact (by decide : 10 ∉ octetsOf ['S', 'T', 'A', 'R', 'T'])
  case bye => exact (by decide : 10 ∉ octetsOf ['B', 'Y', 'E'])
  case ping => exact (by decide : 10 ∉ octetsOf ['P', 'I', 'N', 'G'])

end Signal
end MetaShare
