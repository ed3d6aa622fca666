import Mathlib.Algebra.Order.Ring.Int
import Mathlib.Data.List.Chain
import Mathlib.Data.List.Forall2
import Mathlib.Data.List.Induction
import Mathlib.Data.List.Infix
import Mathlib.Tactic.Common

namespace MetaShare
namespace Octets

/-!
# Words and slices of octet strings

Network formats store a word as consecutive octets, the most significant one
first.  A writer truncates shifted copies of a machine word; a reader combines
the octets again with shifts and bitwise or.  The two directions are related
here once, as equations between natural numbers, so that no later proof has to
unfold a shift.
-/

/-- The two octets of a 16-bit word in network order. -/
def ofWord16 (word : UInt16) : List UInt8 :=
  [(word >>> 8).toUInt8, word.toUInt8]

/-- The four octets of a 32-bit word in network order. -/
def ofWord32 (word : UInt32) : List UInt8 :=
  [(word >>> 24).toUInt8, (word >>> 16).toUInt8, (word >>> 8).toUInt8, word.toUInt8]

/-- Combine two octets read in network order. -/
def word16 (high low : UInt8) : Nat :=
  (high.toNat <<< 8) ||| low.toNat

/-- Combine four octets read in network order. -/
def word32 (first second third fourth : UInt8) : Nat :=
  (first.toNat <<< 24) ||| (second.toNat <<< 16) ||| (third.toNat <<< 8) ||| fourth.toNat

@[simp] theorem ofWord16_length (word : UInt16) : (ofWord16 word).length = 2 := rfl

@[simp] theorem ofWord32_length (word : UInt32) : (ofWord32 word).length = 4 := rfl

/-- A bitwise or of disjoint bit ranges is a sum. -/
theorem shift_or_eq_add (high low width : Nat) (fits : low < 2 ^ width) :
    (high <<< width) ||| low = high * 2 ^ width + low := by
  rw [← Nat.shiftLeft_add_eq_or_of_lt fits, Nat.shiftLeft_eq]

theorem word16_eq_add (high low : UInt8) :
    word16 high low = high.toNat * 256 + low.toNat :=
  shift_or_eq_add high.toNat low.toNat 8 low.toNat_lt

theorem word32_eq_add (first second third fourth : UInt8) :
    word32 first second third fourth =
      first.toNat * 16777216 + second.toNat * 65536 + third.toNat * 256 + fourth.toNat := by
  have secondFits := second.toNat_lt
  have thirdFits := third.toNat_lt
  have fourthFits := fourth.toNat_lt
  -- Regroup to the right, so that each or joins a word with a shorter tail.
  have tail : (third.toNat <<< 8) ||| fourth.toNat = third.toNat * 256 + fourth.toNat :=
    shift_or_eq_add _ _ 8 fourthFits
  have middle : (second.toNat <<< 16) ||| (third.toNat * 256 + fourth.toNat) =
      second.toNat * 65536 + (third.toNat * 256 + fourth.toNat) :=
    shift_or_eq_add _ _ 16 (by omega)
  have whole : (first.toNat <<< 24) ||| (second.toNat * 65536 + (third.toNat * 256 + fourth.toNat)) =
      first.toNat * 16777216 + (second.toNat * 65536 + (third.toNat * 256 + fourth.toNat)) :=
    shift_or_eq_add _ _ 24 (by omega)
  rw [word32, Nat.or_assoc, Nat.or_assoc, tail, middle, whole]
  omega

theorem word16_lt (high low : UInt8) : word16 high low < 65536 := by
  have highFits := high.toNat_lt
  have lowFits := low.toNat_lt
  rw [word16_eq_add]
  omega

/-- Reading back a stored 16-bit word. -/
@[simp] theorem word16_ofWord16 (word : UInt16) :
    word16 (word >>> 8).toUInt8 word.toUInt8 = word.toNat := by
  have fits := word.toNat_lt
  rw [word16_eq_add]
  simp only [UInt16.toNat_toUInt8, UInt16.toNat_shiftRight, Nat.shiftRight_eq_div_pow,
    UInt16.reduceToNat, Nat.reduceMod, Nat.reducePow]
  omega

/-- Reading back a stored 32-bit word. -/
@[simp] theorem word32_ofWord32 (word : UInt32) :
    word32 (word >>> 24).toUInt8 (word >>> 16).toUInt8 (word >>> 8).toUInt8 word.toUInt8 =
      word.toNat := by
  have fits := word.toNat_lt
  rw [word32_eq_add]
  simp only [UInt32.toNat_toUInt8, UInt32.toNat_shiftRight, Nat.shiftRight_eq_div_pow,
    UInt32.reduceToNat, Nat.reduceMod, Nat.reducePow]
  omega

@[simp] theorem ofWord16_word16 (high low : UInt8) :
    ofWord16 (UInt16.ofNat (word16 high low)) = [high, low] := by
  have highBound := high.toNat_lt
  have lowBound := low.toNat_lt
  have front : (UInt16.ofNat (word16 high low) >>> 8).toUInt8 = high := by
    apply UInt8.toNat_inj.mp
    rw [word16_eq_add]
    simp only [UInt16.toNat_toUInt8, UInt16.toNat_shiftRight, UInt16.toNat_ofNat', Nat.shiftRight_eq_div_pow,
      UInt16.reduceToNat, Nat.reduceMod, Nat.reducePow]
    omega
  have back : (UInt16.ofNat (word16 high low)).toUInt8 = low := by
    apply UInt8.toNat_inj.mp
    rw [word16_eq_add]
    simp only [UInt16.toNat_toUInt8, UInt16.toNat_ofNat', Nat.reducePow]
    omega
  rw [ofWord16, front, back]

/-- A property of octets holds of all of them when it holds of all 256 bit
patterns, which a decision procedure can enumerate. -/
theorem forall_of_bits {property : UInt8 → Prop}
    (holds : ∀ bits : BitVec 8, property ⟨bits⟩) (octet : UInt8) : property octet := by
  cases octet with
  | ofBitVec bits => exact holds bits

/-! ## Slices -/

/-- The octets `[start, start + length)` of a string. -/
def slice (octets : List UInt8) (start length : Nat) : List UInt8 :=
  (octets.drop start).take length

theorem slice_length (octets : List UInt8) (start length : Nat)
    (inside : start + length ≤ octets.length) : (slice octets start length).length = length := by
  rw [slice, List.length_take, List.length_drop]
  omega

@[simp] theorem slice_all (octets : List UInt8) : slice octets 0 octets.length = octets := by
  rw [slice, List.drop_zero, List.take_length]

/-- The part of a string that follows a header of known length. -/
theorem slice_append (header body : List UInt8) :
    slice (header ++ body) header.length body.length = body := by
  rw [slice, List.drop_left, List.take_length]

theorem getElem?_slice (octets : List UInt8) (start length index : Nat) (inside : index < length) :
    (slice octets start length)[index]? = octets[start + index]? := by
  rw [slice, List.getElem?_take, if_pos inside, List.getElem?_drop]

/-- Slicing a slice is slicing the original at the summed offset. -/
theorem slice_slice (octets : List UInt8) (start length skip count : Nat)
    (inside : skip + count ≤ length) :
    slice (slice octets start length) skip count = slice octets (start + skip) count := by
  apply List.ext_getElem?
  intro index
  by_cases within : index < count
  · rw [getElem?_slice _ _ _ _ within, getElem?_slice _ _ _ _ within,
      getElem?_slice _ _ _ _ (by omega), Nat.add_assoc]
  · simp only [slice, List.getElem?_take, if_neg within]

end Octets
end MetaShare
