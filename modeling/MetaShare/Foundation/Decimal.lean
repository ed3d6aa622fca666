import Mathlib.Algebra.Order.Ring.Rat
import Mathlib.Algebra.Order.Field.Basic
import Mathlib.Data.List.Basic
import Mathlib.Data.List.Induction
import Mathlib.Tactic.FieldSimp
import Mathlib.Tactic.Ring

namespace MetaShare
namespace Decimal

/-!
# Numbers in decimal text

Programs write numbers as decimal text and read them back with the conversions of
the C library: blanks in front are skipped, a sign may follow, and reading ends
with the first octet that does not belong to the number.  Texts are lists of
octets.  A conversion that finds no digit fails.
-/

def octets (text : List Char) : List UInt8 := text.map Char.toUInt8

def isDigit (octet : UInt8) : Bool := decide (48 ≤ octet) && decide (octet ≤ 57)

/-- What `isspace` accepts. -/
def isSpace (octet : UInt8) : Bool := octet = 32 || decide (9 ≤ octet) && decide (octet ≤ 13)

/-- The number that digits stand for. -/
def value (digits : List UInt8) : Nat := digits.foldl (fun sofar digit => 10 * sofar + (digit.toNat - 48)) 0

def ofNat (number : Nat) : List UInt8 := octets (Nat.toDigits 10 number)

def ofInt (number : Int) : List UInt8 := octets (toString number).toList

/-! ## Digits -/

theorem toUInt8_of_isDigit {character : Char} (digit : character.isDigit = true) :
    isDigit character.toUInt8 = true ∧ character.toUInt8.toNat = character.toNat := by
  rw [Char.isDigit, Bool.and_eq_true, decide_eq_true_iff, decide_eq_true_iff, ge_iff_le, UInt32.le_iff_toNat_le,
    UInt32.le_iff_toNat_le] at digit
  have low : 48 ≤ character.toNat := digit.1
  have high : character.toNat ≤ 57 := digit.2
  have same : character.toUInt8.toNat = character.toNat := by
    rw [Char.toUInt8, UInt32.toNat_toUInt8]
    exact Nat.mod_eq_of_lt (Nat.lt_of_le_of_lt high (by decide))
  rw [isDigit, Bool.and_eq_true, decide_eq_true_iff, decide_eq_true_iff, UInt8.le_iff_toNat_le,
    UInt8.le_iff_toNat_le, same]
  exact ⟨⟨low, high⟩, rfl⟩

theorem isDigit_of_mem_ofNat {number : Nat} {octet : UInt8} (member : octet ∈ ofNat number) :
    isDigit octet = true := by
  obtain ⟨character, listed, rfl⟩ := List.mem_map.mp member
  exact (toUInt8_of_isDigit (Nat.isDigit_of_mem_toDigits (by decide) (by decide) listed)).1

theorem ofNat_ne_nil (number : Nat) : ofNat number ≠ [] := by
  rw [ofNat, octets, ne_eq, List.map_eq_nil_iff]
  exact Nat.toDigits_ne_nil

theorem value_octets {digits : List Char} (areDigits : ∀ digit ∈ digits, digit.isDigit = true) :
    value (octets digits) = Nat.ofDigitChars 10 digits 0 := by
  rw [value, octets, List.foldl_map, Nat.ofDigitChars_eq_foldl]
  induction digits using List.reverseRecOn with
  | nil => rfl
  | append_singleton digits digit inductionHypothesis =>
      rw [List.foldl_append, List.foldl_append,
        inductionHypothesis (fun other member => areDigits other (List.mem_append_left _ member)), List.foldl_cons,
        List.foldl_cons, (toUInt8_of_isDigit (areDigits digit (List.mem_append_right _ List.mem_cons_self))).2]
      rfl

theorem value_ofNat (number : Nat) : value (ofNat number) = number := by
  rw [ofNat, value_octets (fun _ => Nat.isDigit_of_mem_toDigits (by decide) (by decide)),
    Nat.ofDigitChars_ten_toDigits]

theorem value_append (early late : List UInt8) :
    value (early ++ late) = value early * 10 ^ late.length + value late := by
  induction late using List.reverseRecOn with
  | nil => rw [List.append_nil, List.length_nil, pow_zero, mul_one]; rfl
  | append_singleton late digit inductionHypothesis =>
      have last (digits : List UInt8) : value (digits ++ [digit]) = 10 * value digits + (digit.toNat - 48) := by
        rw [value, List.foldl_append]
        rfl
      rw [← List.append_assoc, last, last, inductionHypothesis, List.length_append, List.length_singleton, pow_succ]
      ring

/-- A number below a power of ten has no more digits than the power. -/
theorem length_ofNat_le {number width : Nat} (positive : 0 < width) (small : number < 10 ^ width) :
    (ofNat number).length ≤ width := by
  rw [ofNat, octets, List.length_map]
  exact (Nat.length_toDigits_le_iff (by decide) positive).mpr small

theorem ofInt_eq (number : Int) :
    ofInt number = if 0 ≤ number then ofNat number.toNat else 45 :: ofNat (-number).toNat := by
  rw [ofInt, Int.toString_eq_repr, Int.repr_eq_if]
  split
  · rw [Nat.toList_repr]
    rfl
  · rw [String.toList_append, Nat.toList_repr]
    rfl

theorem length_ofInt_le {number : Int} {width : Nat} (positive : 0 < width) (small : number.natAbs < 10 ^ width) :
    (ofInt number).length ≤ width + 1 := by
  rw [ofInt_eq]
  split
  · exact Nat.le_succ_of_le (length_ofNat_le positive (by omega))
  · exact Nat.succ_le_succ (length_ofNat_le positive (by omega))

theorem printable_of_isDigit {octet : UInt8} (digit : isDigit octet = true) : 32 ≤ octet := by
  simp only [isDigit, Bool.and_eq_true, decide_eq_true_iff, UInt8.le_iff_toNat_le] at digit ⊢
  exact Nat.le_trans (by decide) digit.1

theorem printable_ofInt (number : Int) : ∀ octet ∈ ofInt number, 32 ≤ octet := by
  intro octet member
  rw [ofInt_eq] at member
  split at member
  · exact printable_of_isDigit (isDigit_of_mem_ofNat member)
  · rcases List.mem_cons.mp member with rfl | digit
    · decide
    · exact printable_of_isDigit (isDigit_of_mem_ofNat digit)

/-- The text of a number never begins with a blank. -/
theorem isSpace_of_isDigit {octet : UInt8} (digit : isDigit octet = true) : isSpace octet = false := by
  simp only [isDigit, Bool.and_eq_true, decide_eq_true_iff, UInt8.le_iff_toNat_le] at digit
  simp only [isSpace, Bool.or_eq_false_iff, decide_eq_false_iff_not, Bool.and_eq_false_iff, ← UInt8.toNat_inj,
    UInt8.le_iff_toNat_le]
  have low : 48 ≤ octet.toNat := digit.1
  refine ⟨fun same => ?_, Or.inr (fun small => ?_)⟩
  · have is : octet.toNat = 32 := same
    omega
  · have is : octet.toNat ≤ 13 := small
    omega

/-- Digits up to something else are taken whole. -/
theorem takeWhile_digits {digits rest : List UInt8} (areDigits : ∀ digit ∈ digits, isDigit digit = true)
    (ends : ∀ next ∈ rest.head?, isDigit next = false) : (digits ++ rest).takeWhile isDigit = digits := by
  rw [List.takeWhile_append_of_pos areDigits]
  cases rest with
  | nil => exact List.append_nil digits
  | cons next rest =>
      rw [List.takeWhile_cons_of_neg (by rw [ends next rfl]; exact Bool.false_ne_true), List.append_nil]

theorem dropWhile_digits {digits rest : List UInt8} (areDigits : ∀ digit ∈ digits, isDigit digit = true)
    (ends : ∀ next ∈ rest.head?, isDigit next = false) : (digits ++ rest).dropWhile isDigit = rest := by
  rw [List.dropWhile_append_of_pos areDigits]
  cases rest with
  | nil => rfl
  | cons next rest => exact List.dropWhile_cons_of_neg (by rw [ends next rfl]; exact Bool.false_ne_true)

/-! ## Reading whole numbers -/

/-- Whether a minus sign comes first, and the text behind a sign. -/
def sign : List UInt8 → Bool × List UInt8
  | 43 :: rest => (false, rest)
  | 45 :: rest => (true, rest)
  | text => (false, text)

def signed (negative : Bool) (number : Nat) : Int := if negative then -number else number

/-- Read a whole number, whatever its size, and return what follows it. -/
def scan (text : List UInt8) : Option (Int × List UInt8) :=
  let found := sign (text.dropWhile isSpace)
  let digits := found.2.takeWhile isDigit
  if digits = [] then none else some (signed found.1 (value digits), found.2.dropWhile isDigit)

theorem sign_of_isDigit {first : UInt8} (digit : isDigit first = true) (rest : List UInt8) :
    sign (first :: rest) = (false, first :: rest) := by
  have noPlus : first ≠ 43 := by
    rintro rfl
    exact absurd digit (by decide)
  have noMinus : first ≠ 45 := by
    rintro rfl
    exact absurd digit (by decide)
  rw [sign]
  · exact fun rest same => noPlus (List.cons.inj same).1
  · exact fun rest same => noMinus (List.cons.inj same).1

/-- Reading a written number gives the number back, and leaves the rest. -/
theorem scan_ofInt (number : Int) {blanks rest : List UInt8} (areBlanks : ∀ blank ∈ blanks, isSpace blank = true)
    (ends : ∀ next ∈ rest.head?, isDigit next = false) :
    scan (blanks ++ (ofInt number ++ rest)) = some (number, rest) := by
  have digits (size : Nat) : ∀ digit ∈ ofNat size, isDigit digit = true := fun _ => isDigit_of_mem_ofNat
  obtain ⟨first, others, isCons⟩ := List.exists_cons_of_ne_nil (ofNat_ne_nil number.toNat)
  have firstDigit : isDigit first = true := digits number.toNat first (isCons ▸ List.mem_cons_self)
  rw [scan, List.dropWhile_append_of_pos areBlanks, ofInt_eq]
  by_cases positive : 0 ≤ number
  · rw [if_pos positive, isCons, List.cons_append, List.dropWhile_cons_of_neg (by
      rw [isSpace_of_isDigit firstDigit]; exact Bool.false_ne_true), sign_of_isDigit firstDigit, ← List.cons_append,
      ← isCons]
    dsimp only
    rw [takeWhile_digits (digits _) ends, dropWhile_digits (digits _) ends, if_neg (ofNat_ne_nil _), value_ofNat]
    rw [signed, if_neg Bool.false_ne_true, Int.toNat_of_nonneg positive]
  · rw [if_neg positive, List.cons_append, List.dropWhile_cons_of_neg (by decide), sign]
    dsimp only
    rw [takeWhile_digits (digits _) ends, dropWhile_digits (digits _) ends, if_neg (ofNat_ne_nil _), value_ofNat]
    rw [signed, if_pos rfl, Int.toNat_of_nonneg (by omega), Int.neg_neg]

/-- A value that `strtol` returns: it saturates. -/
def long (number : Int) : Int := max (-2 ^ 63) (min number (2 ^ 63 - 1))

/-- The `int` that `%d` and `atoi` make of a number. -/
def toInt (number : Int) : Int := (long number).bmod (2 ^ 32)

/-- The `unsigned int` that `%u` makes of a number: `strtoul` takes a negative one
modulo 2 ^ 64, and saturates. -/
def toUnsigned (number : Int) : Nat :=
  (if 2 ^ 64 ≤ number.natAbs then 2 ^ 64 - 1 else (number % 2 ^ 64).toNat) % 2 ^ 32

/-- Whether an `int` of 32 bits can hold the number. -/
def FitsInt (number : Int) : Prop := -2 ^ 31 ≤ number ∧ number < 2 ^ 31

instance (number : Int) : Decidable (FitsInt number) := inferInstanceAs (Decidable (_ ∧ _))

/-- A number taken modulo 2 ^ 32 into the range around 0 is an `int`. -/
theorem fits_bmod (number : Int) : FitsInt (number.bmod (2 ^ 32)) :=
  ⟨Int.le_bmod (by decide), Int.bmod_lt (by decide)⟩

theorem toInt_of_fits {number : Int} (fits : FitsInt number) : toInt number = number := by
  obtain ⟨low, high⟩ := fits
  rw [toInt, long, min_eq_left (by omega), max_eq_right (by omega)]
  exact Int.bmod_eq_of_le (by omega) (by omega)

theorem toUnsigned_lt (number : Int) : toUnsigned number < 2 ^ 32 := Nat.mod_lt _ (by decide)

theorem toUnsigned_of_fits {number : Int} (fits : FitsInt number) : (toUnsigned number : Int) = number % 2 ^ 32 := by
  obtain ⟨low, high⟩ := fits
  rw [toUnsigned, if_neg (by omega)]
  omega

/-- `atoi`, with 0 for a text without a number. -/
def atoi (text : List UInt8) : Int := (scan text).elim 0 (fun found => toInt found.1)

theorem atoi_ofInt {number : Int} (fits : FitsInt number) : atoi (ofInt number) = number := by
  have found : scan ([] ++ (ofInt number ++ [])) = some (number, []) :=
    scan_ofInt number (fun _ member => nomatch member) (fun _ member => nomatch member)
  rw [List.append_nil, List.nil_append] at found
  rw [atoi, found]
  exact toInt_of_fits fits

/-! ## Fractions -/

/-- The last digits of a number, as many as the width says. -/
def fixed : Nat → Nat → List Char
  | 0, _ => []
  | width + 1, number => fixed width (number / 10) ++ [Nat.digitChar (number % 10)]

/-- A number of units of 10 ^ -width, with that many digits behind the point. -/
def scaled (width units : Nat) : List Char := Nat.toDigits 10 (units / 10 ^ width) ++ '.' :: fixed width units

theorem isDigit_digitChar (number : Nat) : (Nat.digitChar (number % 10)).isDigit = true := by
  have small : number % 10 < 10 := Nat.mod_lt _ (by decide)
  exact (by decide : ∀ digit < 10, (Nat.digitChar digit).isDigit = true) _ small

theorem isDigit_of_mem_fixed {width number : Nat} {character : Char} (member : character ∈ fixed width number) :
    character.isDigit = true := by
  induction width generalizing number with
  | zero => cases member
  | succ width inductionHypothesis =>
      rcases List.mem_append.mp member with early | last
      · exact inductionHypothesis early
      · rw [List.mem_singleton.mp last]
        exact isDigit_digitChar number

theorem length_fixed (width number : Nat) : (fixed width number).length = width := by
  induction width generalizing number with
  | zero => rfl
  | succ width inductionHypothesis => rw [fixed, List.length_append, inductionHypothesis, List.length_singleton]

theorem value_fixed (width number : Nat) : value (octets (fixed width number)) = number % 10 ^ width := by
  induction width generalizing number with
  | zero => exact (Nat.mod_one number).symm
  | succ width inductionHypothesis =>
      have digit : value (octets [Nat.digitChar (number % 10)]) = number % 10 := by
        have small : number % 10 < 10 := Nat.mod_lt _ (by decide)
        exact (by decide : ∀ digit < 10, value (octets [Nat.digitChar digit]) = digit) _ small
      have split : octets (fixed (width + 1) number) =
          octets (fixed width (number / 10)) ++ octets [Nat.digitChar (number % 10)] :=
        List.map_append
      rw [split, value_append, inductionHypothesis, digit]
      change number / 10 % 10 ^ width * 10 ^ 1 + number % 10 = number % 10 ^ (width + 1)
      rw [pow_one, Nat.pow_succ', Nat.mod_mul, Nat.add_comm, Nat.mul_comm]

def isHexDigit (octet : UInt8) : Bool :=
  isDigit octet || (decide (97 ≤ octet) && decide (octet ≤ 102) || decide (65 ≤ octet) && decide (octet ≤ 70))

/-- The number that hexadecimal digits stand for. -/
def hexValue (digits : List UInt8) : Nat :=
  digits.foldl (fun sofar digit =>
    16 * sofar + if isDigit digit then digit.toNat - 48 else digit.toNat % 32 + 9) 0

/-- The digits behind a point, if there is one. -/
def fraction (digit : UInt8 → Bool) (text : List UInt8) : List UInt8 × List UInt8 :=
  match text with
  | 46 :: rest => (rest.takeWhile digit, rest.dropWhile digit)
  | _ => ([], text)

/-- The exponent behind a small or a capital letter.  The letter and the sign are read
even if no digit follows, and then it is 0. -/
def exponent (letter : UInt8) (text : List UInt8) : Int × List UInt8 :=
  match text with
  | first :: rest =>
      if first = letter ∨ first + 32 = letter then
        let found := sign rest
        (signed found.1 (value (found.2.takeWhile isDigit)), found.2.dropWhile isDigit)
      else (0, text)
  | [] => (0, text)

/-- A number with an exponent to the base 10. -/
def decimal (text : List UInt8) : Option (ℚ × List UInt8) :=
  let whole := text.takeWhile isDigit
  let parts := fraction isDigit (text.dropWhile isDigit)
  if whole ++ parts.1 = [] then none
  else
    let power := exponent 101 parts.2
    some (value (whole ++ parts.1) * 10 ^ (power.1 - parts.1.length), power.2)

/-- What follows `0x`, with an exponent to the base 2.  A point without digits is taken,
and the `0` is the number then. -/
def hexadecimal (text : List UInt8) : Option (ℚ × List UInt8) :=
  let whole := text.takeWhile isHexDigit
  let parts := fraction isHexDigit (text.dropWhile isHexDigit)
  if whole ++ parts.1 = [] then
    if text.head? = some 46 then some (0, parts.2) else none
  else
    let power := exponent 112 parts.2
    some (hexValue (whole ++ parts.1) * 2 ^ (power.1 - 4 * parts.1.length), power.2)

def isHexadecimal (text : List UInt8) : Bool :=
  text.head? = some 48 && text.tail.head?.any (fun letter => letter = 120 || letter = 88)

/-- Read a number as `%lf` does, exactly.  What is infinite or not a number counts as
none. -/
def scanReal (text : List UInt8) : Option (ℚ × List UInt8) :=
  let found := sign (text.dropWhile isSpace)
  let number := if isHexadecimal found.2 then hexadecimal (found.2.drop 2) else decimal found.2
  number.map (fun read => (if found.1 then -read.1 else read.1, read.2))

theorem exponent_of_ends {rest : List UInt8} (ends : ∀ next ∈ rest.head?, next ≠ 101 ∧ next ≠ 69) :
    exponent 101 rest = (0, rest) := by
  cases rest with
  | nil => rfl
  | cons next rest =>
      obtain ⟨small, capital⟩ := ends next rfl
      refine if_neg (not_or.mpr ⟨small, ?_⟩)
      intro same
      rw [← UInt8.toNat_inj, UInt8.toNat_add] at same
      have small : next.toNat < 256 := next.toNat_lt
      have letter : next.toNat = 69 := by
        simp only [UInt8.toNat_ofNat] at same
        omega
      exact capital (UInt8.toNat_inj.mp letter)

/-- A point behind digits is not the letter of a hexadecimal number. -/
theorem not_isHexadecimal {digits : List UInt8} (areDigits : ∀ digit ∈ digits, isDigit digit = true)
    (some : digits ≠ []) (rest : List UInt8) : isHexadecimal (digits ++ 46 :: rest) = false := by
  have noLetter : ∀ {octet : UInt8}, isDigit octet = true → (octet = 120 || octet = 88 : Bool) = false := by
    intro octet digit
    rw [Bool.or_eq_false_iff, decide_eq_false_iff_not, decide_eq_false_iff_not]
    constructor <;> rintro rfl <;> exact absurd digit (by decide)
  rw [isHexadecimal, Bool.and_eq_false_iff]
  right
  cases digits with
  | nil => exact absurd rfl some
  | cons first others =>
      cases others with
      | nil => rfl
      | cons second others =>
          exact noLetter (areDigits second (List.mem_cons_of_mem _ List.mem_cons_self))

theorem decimal_scaled (width units : Nat) {rest : List UInt8}
    (ends : ∀ next ∈ rest.head?, isDigit next = false ∧ next ≠ 101 ∧ next ≠ 69) :
    decimal (ofNat (units / 10 ^ width) ++ 46 :: (octets (fixed width units) ++ rest)) =
      some ((units : ℚ) / 10 ^ width, rest) := by
  have digits : ∀ digit ∈ ofNat (units / 10 ^ width), isDigit digit = true := fun _ => isDigit_of_mem_ofNat
  have decimals : ∀ digit ∈ octets (fixed width units), isDigit digit = true := by
    intro digit member
    obtain ⟨character, listed, rfl⟩ := List.mem_map.mp member
    exact (toUInt8_of_isDigit (isDigit_of_mem_fixed listed)).1
  have noDigit : ∀ next ∈ rest.head?, isDigit next = false := fun next isNext => (ends next isNext).1
  have noExponent := exponent_of_ends (fun next isNext => (ends next isNext).2)
  have point : ∀ next ∈ (46 :: (octets (fixed width units) ++ rest)).head?, isDigit next = false := by
    intro next isNext
    rw [← Option.some.inj isNext]
    decide
  rw [decimal]
  dsimp only
  rw [takeWhile_digits digits point, dropWhile_digits digits point, fraction]
  dsimp only
  rw [takeWhile_digits decimals noDigit, dropWhile_digits decimals noDigit, noExponent, if_neg (fun none =>
    ofNat_ne_nil _ (List.append_eq_nil_iff.mp none).1), value_append, value_ofNat, value_fixed]
  have length : (octets (fixed width units)).length = width := by
    rw [octets, List.length_map, length_fixed]
  have whole : units / 10 ^ width * 10 ^ width + units % 10 ^ width = units := Nat.div_add_mod' units (10 ^ width)
  rw [length, whole, Int.zero_sub, zpow_neg, zpow_natCast, div_eq_mul_inv]

/-- Reading a written fraction gives exactly the number of units back. -/
theorem scanReal_scaled (width units : Nat) {blanks rest : List UInt8}
    (areBlanks : ∀ blank ∈ blanks, isSpace blank = true)
    (ends : ∀ next ∈ rest.head?, isDigit next = false ∧ next ≠ 101 ∧ next ≠ 69) :
    scanReal (blanks ++ (octets (scaled width units) ++ rest)) = some ((units : ℚ) / 10 ^ width, rest) := by
  have digits : ∀ digit ∈ ofNat (units / 10 ^ width), isDigit digit = true := fun _ => isDigit_of_mem_ofNat
  have written : octets (scaled width units) ++ rest =
      ofNat (units / 10 ^ width) ++ 46 :: (octets (fixed width units) ++ rest) := by
    rw [scaled, octets, List.map_append, List.append_assoc]
    rfl
  obtain ⟨first, others, isCons⟩ := List.exists_cons_of_ne_nil (ofNat_ne_nil (units / 10 ^ width))
  have firstDigit : isDigit first = true := digits first (isCons ▸ List.mem_cons_self)
  have noBlank : ¬isSpace first = true := by
    rw [isSpace_of_isDigit firstDigit]
    exact Bool.false_ne_true
  have unsigned : sign ((blanks ++ (octets (scaled width units) ++ rest)).dropWhile isSpace) =
      (false, ofNat (units / 10 ^ width) ++ 46 :: (octets (fixed width units) ++ rest)) := by
    rw [List.dropWhile_append_of_pos areBlanks, written, isCons, List.cons_append,
      List.dropWhile_cons_of_neg noBlank, sign_of_isDigit firstDigit]
  rw [scanReal, unsigned]
  dsimp only
  rw [not_isHexadecimal digits (ofNat_ne_nil _), if_neg Bool.false_ne_true, decimal_scaled width units ends]
  rfl

/-- A hexadecimal number, and one whose exponent has no digits. -/
example : scanReal (octets "0x.8 1e+".toList) = some (1 / 2, octets " 1e+".toList) ∧
    scanReal (octets " 1e+".toList) = some (1, []) := by decide +kernel

end Decimal
end MetaShare
