import MetaShare.Server.Signaling

namespace MetaShare
namespace RtpServer

/-!
# The port in a READY body

The parser finds the first key, the first colon behind it, and the digits behind
optional blanks.  It computes their value in an unsigned type of 64 bits and
checks the range behind the loop.  So the value that it checks is the remainder
of the number that was written.
-/

/-- The number that a run of digits stands for. -/
def decimal (digits : List UInt8) : Nat := digits.foldl (fun v digit => v * 10 + (digit.toNat - 48)) 0

/-- The parser with its out parameter. -/
def parseReadyPortInto (body : List UInt8) (portOut : UInt16) : Bool × UInt16 :=
  match parseReadyPort body with
  | some port => (true, port)
  | none => (false, portOut)

def portKey : List UInt8 := octetsOf ['"', 'p', 'o', 'r', 't', '"']

/-- The first key of the body is followed by a first colon, blanks and a maximal
run of digits. -/
def PortField (body digits : List UInt8) : Prop :=
  ∃ before between blanks rest, body = before ++ (portKey ++ (between ++ 58 :: (blanks ++ (digits ++ rest)))) ∧
    (∀ early late, body = early ++ (portKey ++ late) → before.length ≤ early.length) ∧
    58 ∉ between ∧ (∀ blank ∈ blanks, isBlank blank = true) ∧ (∀ digit ∈ digits, isDigit digit = true) ∧
    ∀ next ∈ rest.head?, isDigit next = false ∧ (digits = [] → isBlank next = false)

/-- The parser accepts exactly the ports, and leaves its out parameter alone
otherwise. -/
def PortExact (body : List UInt8) : Prop :=
  (∀ portOut, (parseReadyPortInto body portOut).1 = false → (parseReadyPortInto body portOut).2 = portOut) ∧
    ∀ digits, PortField body digits → ∀ portOut,
      ((parseReadyPortInto body portOut).1 = true ↔ 1 ≤ decimal digits ∧ decimal digits ≤ 65535) ∧
        ((parseReadyPortInto body portOut).1 = true → (parseReadyPortInto body portOut).2.toNat = decimal digits)

/-! ## What the parser reads -/

/-- The search finds the first occurrence. -/
theorem findFrom_first {pattern list before late : List UInt8} (filled : pattern ≠ [])
    (split : list = before ++ (pattern ++ late))
    (first : ∀ early rest, list = early ++ (pattern ++ rest) → before.length ≤ early.length) :
    findFrom pattern list = some (pattern ++ late) := by
  induction before generalizing list with
  | nil =>
      obtain ⟨octet, others, rfl⟩ := List.exists_cons_of_ne_nil filled
      rw [split, List.nil_append, List.cons_append, findFrom, if_pos]
      rw [List.isPrefixOf_iff_prefix]
      exact List.prefix_append _ _
  | cons octet before inductionHypothesis =>
      have later := inductionHypothesis rfl (by
        intro early rest same
        have bound := first (octet :: early) rest (by rw [split, List.cons_append, same, List.cons_append])
        exact Nat.le_of_succ_le_succ bound)
      rw [split, List.cons_append, findFrom, if_neg, later]
      intro here
      obtain ⟨rest, same⟩ := List.isPrefixOf_iff_prefix.mp here
      have bound := first [] rest (by rw [split, List.cons_append, ← same, List.nil_append])
      exact absurd bound (Nat.not_succ_le_zero _)

/-- The search for a single octet. -/
theorem findFrom_octet {octet : UInt8} {before late : List UInt8} (absent : octet ∉ before) :
    findFrom [octet] (before ++ octet :: late) = some (octet :: late) := by
  induction before with
  | nil => rw [List.nil_append, findFrom, if_pos (by simp)]
  | cons other before inductionHypothesis =>
      have different : octet ≠ other := fun same => absent (same ▸ List.mem_cons_self)
      rw [List.cons_append, findFrom, if_neg (by simp [different]),
        inductionHypothesis (fun member => absent (List.mem_cons_of_mem _ member))]

/-- The accumulator holds the remainder of the number. -/
theorem digitsValue_eq (digits : List UInt8) : digitsValue digits = decimal digits % 2 ^ 64 := by
  induction digits using List.reverseRecOn with
  | nil => rfl
  | append_singleton digits digit inductionHypothesis =>
      have wrapped : digitsValue (digits ++ [digit]) = (digitsValue digits * 10 + (digit.toNat - 48)) % 2 ^ 64 :=
        List.foldl_concat _ _ _ _
      have exact : decimal (digits ++ [digit]) = decimal digits * 10 + (digit.toNat - 48) :=
        List.foldl_concat _ _ _ _
      rw [wrapped, exact, inductionHypothesis]
      omega

theorem isDigit_of_isBlank {octet : UInt8} (blank : isBlank octet = true) : isDigit octet = false := by
  rw [isBlank, Bool.or_eq_true, Bool.or_eq_true, decide_eq_true_eq, decide_eq_true_eq, decide_eq_true_eq] at blank
  rcases blank with (rfl | rfl) | rfl <;> rfl

theorem dropWhile_stop {α : Type} {test : α → Bool} {list : List α} (stops : ∀ next ∈ list.head?, test next = false) :
    list.dropWhile test = list := by
  cases list with
  | nil => rfl
  | cons next rest => rw [List.dropWhile_cons_of_neg (by rw [stops next rfl]; exact Bool.false_ne_true)]

theorem takeWhile_stop {α : Type} {test : α → Bool} {list : List α} (stops : ∀ next ∈ list.head?, test next = false) :
    list.takeWhile test = [] := by
  cases list with
  | nil => rfl
  | cons next rest => rw [List.takeWhile_cons_of_neg (by rw [stops next rfl]; exact Bool.false_ne_true)]

/-- On a body with the field the parser checks the value of its digits. -/
theorem parseReadyPort_eq {body digits : List UInt8} (field : PortField body digits) :
    parseReadyPort body =
      if digits = [] then none
      else if digitsValue digits = 0 ∨ 65535 < digitsValue digits then none
      else some (UInt16.ofNat (digitsValue digits)) := by
  obtain ⟨before, between, blanks, rest, split, first, noColon, blank, digit, ends⟩ := field
  have key : findFrom portKey body = some (portKey ++ (between ++ 58 :: (blanks ++ (digits ++ rest)))) :=
    findFrom_first (by decide) split first
  have clear : (58 : UInt8) ∉ portKey ++ between := by
    intro member
    exact (List.mem_append.mp member).elim (by decide) noColon
  have colon : findFrom (octetsOf [':']) (portKey ++ (between ++ 58 :: (blanks ++ (digits ++ rest)))) =
      some (58 :: (blanks ++ (digits ++ rest))) := by
    rw [← List.append_assoc]
    exact findFrom_octet clear
  have value : (blanks ++ (digits ++ rest)).dropWhile isBlank = digits ++ rest := by
    rw [List.dropWhile_append_of_pos blank, dropWhile_stop]
    intro next isNext
    cases digits with
    | nil => exact (ends next isNext).2 rfl
    | cons other others =>
        cases isNext
        apply Bool.eq_false_iff.mpr
        intro isBlank
        exact Bool.false_ne_true ((isDigit_of_isBlank isBlank).symm.trans (digit _ List.mem_cons_self))
  have number : (digits ++ rest).takeWhile isDigit = digits := by
    rw [List.takeWhile_append_of_pos digit, takeWhile_stop (fun next isNext => (ends next isNext).1), List.append_nil]
  rw [parseReadyPort, ← portKey, key, Option.bind_eq_bind, Option.bind_some, colon]
  simp only [Option.bind_some, List.drop_one, List.tail_cons, value, number]

/-- With the out parameter: the value that is checked and written. -/
theorem parseReadyPortInto_eq {body digits : List UInt8} (field : PortField body digits) (portOut : UInt16) :
    parseReadyPortInto body portOut =
      if 1 ≤ decimal digits % 2 ^ 64 ∧ decimal digits % 2 ^ 64 ≤ 65535 then
        (true, UInt16.ofNat (decimal digits % 2 ^ 64))
      else (false, portOut) := by
  rw [parseReadyPortInto, parseReadyPort_eq field, digitsValue_eq]
  by_cases none : digits = []
  · rw [if_pos none, none, if_neg (by decide)]
  rw [if_neg none]
  by_cases inRange : 1 ≤ decimal digits % 2 ^ 64 ∧ decimal digits % 2 ^ 64 ≤ 65535
  · rw [if_neg (by omega), if_pos inRange]
  · rw [if_pos (by omega), if_neg inRange]

theorem parseReadyPortInto_refused {body : List UInt8} {portOut : UInt16}
    (refused : (parseReadyPortInto body portOut).1 = false) : (parseReadyPortInto body portOut).2 = portOut := by
  rw [parseReadyPortInto] at refused ⊢
  split
  · rename_i port parsed
    rw [parsed] at refused
    cases refused
  · rfl

/-- The parser is exact except where the number leaves 64 bits and comes back as
a port. -/
theorem ready_port_exact (body : List UInt8) :
    PortExact body ↔ ∀ digits, PortField body digits →
      ¬ (2 ^ 64 ≤ decimal digits ∧ 1 ≤ decimal digits % 2 ^ 64 ∧ decimal digits % 2 ^ 64 ≤ 65535) := by
  constructor
  · rintro ⟨_, exact⟩ digits field ⟨large, inRange⟩
    have accepted : (parseReadyPortInto body 0).1 = true := by
      rw [parseReadyPortInto_eq field, if_pos inRange]
    have small := ((exact digits field 0).1.mp accepted).2
    omega
  · intro within
    refine ⟨fun portOut => parseReadyPortInto_refused, fun digits field portOut => ?_⟩
    have small := within digits field
    rw [parseReadyPortInto_eq field]
    by_cases inRange : 1 ≤ decimal digits % 2 ^ 64 ∧ decimal digits % 2 ^ 64 ≤ 65535
    · have same : decimal digits % 2 ^ 64 = decimal digits := Nat.mod_eq_of_lt (by omega)
      rw [if_pos inRange]
      rw [same] at inRange ⊢
      refine ⟨⟨fun _ => inRange, fun _ => rfl⟩, fun _ => ?_⟩
      exact UInt16.toNat_ofNat_of_lt (Nat.lt_succ_of_le inRange.2)
    · rw [if_neg inRange]
      refine ⟨⟨fun impossible => absurd impossible Bool.false_ne_true, fun isPort => ?_⟩,
        fun impossible => absurd impossible Bool.false_ne_true⟩
      have same : decimal digits % 2 ^ 64 = decimal digits := Nat.mod_eq_of_lt (by omega)
      rw [same] at inRange
      exact absurd isPort inRange

/-- The digits of 2^64 + 5. -/
def wrappedDigits : List UInt8 :=
  octetsOf ['1', '8', '4', '4', '6', '7', '4', '4', '0', '7', '3', '7', '0', '9', '5', '5', '1', '6', '2', '1']

def wrappedBody : List UInt8 :=
  octetsOf ['{'] ++ (portKey ++ ([] ++ 58 :: (octetsOf [' '] ++ (wrappedDigits ++ octetsOf ['}']))))

/-- Port 2^64 + 5 is taken for port 5. -/
theorem ready_port_wraps : parseReadyPort wrappedBody = some 5 ∧ decimal wrappedDigits = 2 ^ 64 + 5 ∧
    PortField wrappedBody wrappedDigits ∧ ¬ PortExact wrappedBody := by
  have parsed : parseReadyPort wrappedBody = some 5 := by decide
  have number : decimal wrappedDigits = 2 ^ 64 + 5 := by decide
  have field : PortField wrappedBody wrappedDigits := by
    refine ⟨octetsOf ['{'], [], octetsOf [' '], octetsOf ['}'], rfl, ?_, by decide, by decide +kernel,
      by decide +kernel, by decide +kernel⟩
    intro early late same
    cases early with
    | nil => exact absurd (List.cons.inj same).1 (by decide)
    | cons octet rest => exact Nat.succ_le_succ (Nat.zero_le _)
  refine ⟨parsed, number, field, ?_⟩
  rintro ⟨_, exact⟩
  have accepted : (parseReadyPortInto wrappedBody 0).1 = true := by
    rw [parseReadyPortInto, parsed]
  have small := ((exact wrappedDigits field 0).1.mp accepted).2
  rw [number] at small
  exact absurd small (by decide)

end RtpServer
end MetaShare
