import MetaShare.Foundation.Decimal
import MetaShare.Foundation.Lines

namespace MetaShare
namespace Json

/-!
# Compact JSON

Objects of texts, whole numbers and further objects, written without blanks, and
the reader that inverts the writer.  Texts need no escapes: they contain neither
quotation marks nor backslashes.
-/

mutual

inductive Value where
  | text (octets : List UInt8)
  | number (value : Int)
  | object (members : Members)

/-- The members of an object in the order in which they are written. -/
inductive Members where
  | nil
  | cons (name : List UInt8) (value : Value) (rest : Members)

end

def quote (octets : List UInt8) : List UInt8 := 34 :: (octets ++ [34])

mutual

def Value.write : Value → List UInt8
  | .text octets => quote octets
  | .number value => Decimal.ofInt value
  | .object members => 123 :: members.write true

/-- The members and the closing brace.  Only the first has no comma in front. -/
def Members.write (first : Bool) : Members → List UInt8
  | .nil => [125]
  | .cons name value rest =>
      (if first then [] else [44]) ++ (quote name ++ 58 :: (value.write ++ rest.write false))

end

mutual

/-- How many values and members there are. -/
def Value.size : Value → Nat
  | .text _ | .number _ => 1
  | .object members => members.size + 1

def Members.size : Members → Nat
  | .nil => 1
  | .cons _ value rest => value.size + rest.size + 1

end

/-- The value that a name stands for.  A later member replaces an earlier one of
the same name. -/
def Members.lookup (name : List UInt8) : Members → Option Value
  | .nil => none
  | .cons other value rest => (rest.lookup name).or (if other = name then some value else none)

/-! ## Reading -/

/-- The rest of a text that begins with this octet. -/
def expect (octet : UInt8) : List UInt8 → Option (List UInt8)
  | first :: rest => if first = octet then some rest else none
  | [] => none

def readQuoted (text : List UInt8) : Option (List UInt8 × List UInt8) := (expect 34 text).bind (Lines.cut 34)

mutual

/-- Read a value and return what follows it.  The fuel bounds its size. -/
def readValue : Nat → List UInt8 → Option (Value × List UInt8)
  | 0, _ => none
  | fuel + 1, text =>
      if text.head? = some 123 then
        (readMembers fuel true text.tail).map (fun found => (.object found.1, found.2))
      else if text.head? = some 34 then (readQuoted text).map (fun found => (.text found.1, found.2))
      else (Decimal.scan text).map (fun found => (.number found.1, found.2))

def readMembers : Nat → Bool → List UInt8 → Option (Members × List UInt8)
  | 0, _, _ => none
  | fuel + 1, first, text =>
      if text.head? = some 125 then some (.nil, text.tail)
      else do
        let quoted ← if first then some text else expect 44 text
        let name ← readQuoted quoted
        let colon ← expect 58 name.2
        let value ← readValue fuel colon
        let rest ← readMembers fuel false value.2
        return (.cons name.1 value.1 rest.1, rest.2)

end

/-- Read a text that is an object and nothing else. -/
def readObject (text : List UInt8) : Option Members :=
  match readValue (text.length + 1) text with
  | some (.object members, []) => some members
  | _ => none

/-! ## What is written can be read -/

/-- An octet that stands for itself between quotation marks. -/
def isPlain (octet : UInt8) : Bool := decide (32 ≤ octet) && decide (octet < 127) && octet != 34 && octet != 92

mutual

/-- Texts are plain, and numbers fit into 64 bits. -/
def Value.Plain : Value → Prop
  | .text octets => octets.all isPlain = true
  | .number value => -2 ^ 63 ≤ value ∧ value < 2 ^ 63
  | .object members => members.Plain

def Members.Plain : Members → Prop
  | .nil => True
  | .cons name value rest => name.all isPlain = true ∧ value.Plain ∧ rest.Plain

end

@[simp] theorem expect_cons (octet : UInt8) (rest : List UInt8) : expect octet (octet :: rest) = some rest :=
    if_pos rfl

theorem readQuoted_quote {octets : List UInt8} (plain : octets.all isPlain = true) (rest : List UInt8) :
    readQuoted (quote octets ++ rest) = some (octets, rest) := by
  have noQuote : (34 : UInt8) ∉ octets := fun member => absurd (List.all_eq_true.mp plain 34 member) (by decide)
  rw [readQuoted, quote, List.cons_append, List.append_assoc, expect_cons]
  exact Lines.cut_line noQuote rest

/-- A number begins with a digit or a minus sign. -/
theorem head?_ofInt (number : Int) (rest : List UInt8) {octet : UInt8} (noDigit : Decimal.isDigit octet = false)
    (noSign : octet ≠ 45) : (Decimal.ofInt number ++ rest).head? ≠ some octet := by
  intro isFirst
  rw [Decimal.ofInt_eq] at isFirst
  split at isFirst
  · obtain ⟨first, others, isCons⟩ := List.exists_cons_of_ne_nil (Decimal.ofNat_ne_nil number.toNat)
    have member : first ∈ Decimal.ofNat number.toNat := isCons ▸ List.mem_cons_self
    have digit := Decimal.isDigit_of_mem_ofNat member
    rw [isCons, List.cons_append, List.head?_cons, Option.some_inj] at isFirst
    rw [isFirst, noDigit] at digit
    cases digit
  · rw [List.cons_append, List.head?_cons, Option.some_inj] at isFirst
    exact noSign isFirst.symm

theorem noDigit_write (members : Members) (rest : List UInt8) :
    ∀ next ∈ (members.write false ++ rest).head?, Decimal.isDigit next = false := by
  intro next isNext
  cases members with
  | nil =>
      cases isNext
      rfl
  | cons name value others =>
      cases isNext
      rfl

mutual

theorem readValue_write (value : Value) (plain : value.Plain) (fuel : Nat) (enough : value.size ≤ fuel)
    (rest : List UInt8) (ends : ∀ next ∈ rest.head?, Decimal.isDigit next = false) :
    readValue fuel (value.write ++ rest) = some (value, rest) := by
  cases value with
  | text octets =>
      obtain ⟨fuel, rfl⟩ := Nat.exists_eq_add_of_le' enough
      rw [Value.write, Value.size, readValue, if_neg (by simp [quote]), if_pos (by simp [quote]),
        readQuoted_quote plain]
      rfl
  | number number =>
      obtain ⟨fuel, rfl⟩ := Nat.exists_eq_add_of_le' enough
      have found : Decimal.scan ([] ++ (Decimal.ofInt number ++ rest)) = some (number, rest) :=
        Decimal.scan_ofInt number (List.forall_mem_nil _) ends
      rw [List.nil_append] at found
      rw [Value.write, Value.size, readValue, if_neg (head?_ofInt number rest (by decide) (by decide)),
        if_neg (head?_ofInt number rest (by decide) (by decide)), found]
      rfl
  | object members =>
      rw [Value.size] at enough
      obtain ⟨fuel, rfl⟩ := Nat.exists_eq_add_of_le' (Nat.le_trans (Nat.le_add_left 1 _) enough)
      rw [Value.write, readValue, List.cons_append, List.head?_cons, if_pos rfl, List.tail_cons,
        readMembers_write members plain fuel (by omega) true rest ends]
      rfl

theorem readMembers_write (members : Members) (plain : members.Plain) (fuel : Nat) (enough : members.size ≤ fuel)
    (first : Bool) (rest : List UInt8) (ends : ∀ next ∈ rest.head?, Decimal.isDigit next = false) :
    readMembers fuel first (members.write first ++ rest) = some (members, rest) := by
  cases members with
  | nil =>
      obtain ⟨fuel, rfl⟩ := Nat.exists_eq_add_of_le' enough
      rw [Members.write, Members.size, readMembers]
      rfl
  | cons name value others =>
      obtain ⟨plainName, plainValue, plainOthers⟩ := plain
      rw [Members.size] at enough
      obtain ⟨fuel, rfl⟩ := Nat.exists_eq_add_of_le' (Nat.le_trans (Nat.le_add_left 1 _) enough)
      have later := readValue_write value plainValue fuel (by omega) (others.write false ++ rest)
        (noDigit_write others rest)
      have last := readMembers_write others plainOthers fuel (by omega) false rest ends
      rw [Members.write, readMembers]
      cases first with
      | true =>
          simp only [if_true, List.nil_append, List.append_assoc, List.cons_append]
          rw [if_neg (by simp [quote]), Option.bind_eq_bind, Option.bind_some, readQuoted_quote plainName]
          simp [later, last]
      | false =>
          simp only [Bool.false_eq_true, if_false, List.append_assoc, List.cons_append, List.nil_append]
          rw [if_neg (by simp), expect_cons, Option.bind_eq_bind, Option.bind_some, readQuoted_quote plainName]
          simp [later, last]

end

mutual

theorem size_le_write (value : Value) (plain : value.Plain) : value.size ≤ value.write.length := by
  cases value with
  | text octets => simp [Value.size, Value.write, quote]
  | number number =>
      rw [Value.size, Value.write, Decimal.ofInt_eq]
      split
      · exact List.length_pos_of_ne_nil (Decimal.ofNat_ne_nil _)
      · exact Nat.succ_pos _
  | object members =>
      rw [Value.size, Value.write, List.length_cons]
      exact Nat.succ_le_succ (size_le_writeMembers members plain true)

theorem size_le_writeMembers (members : Members) (plain : members.Plain) (first : Bool) :
    members.size ≤ (members.write first).length := by
  cases members with
  | nil => exact Nat.le_refl 1
  | cons name value rest =>
      have front := size_le_write value plain.2.1
      have back := size_le_writeMembers rest plain.2.2 false
      simp only [Members.size, Members.write, List.length_append, List.length_cons]
      omega

end

/-- Reading a written object gives the object back. -/
theorem readObject_write {members : Members} (plain : members.Plain) :
    readObject (Value.object members).write = some members := by
  have small := size_le_write (.object members) plain
  have found := readValue_write (.object members) plain ((Value.object members).write.length + 1) (by omega) []
    (fun next isNext => absurd isNext (Option.not_mem_none next))
  rw [List.append_nil] at found
  rw [readObject, found]

end Json
end MetaShare
