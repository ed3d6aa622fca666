import Mathlib.Algebra.Order.Ring.Nat
import Mathlib.Data.List.Basic
import Mathlib.Tactic.Common

namespace MetaShare

/-!
# Ring buffers and bounded queues

A ring buffer keeps a queue in an array of fixed size.  The queue begins at a
position in the array and goes on at the front of the array when the end is
reached.  Values are copied in and out in one piece or two.
-/

namespace RingBuffer

variable {α : Type}

/-- What the queue holds: so many cells from a position on, going round once. -/
def contents (cells : List α) (position count : Nat) : List α := ((cells ++ cells).drop position).take count

/-- The values from a position on are replaced. -/
def overwrite (cells : List α) (position : Nat) (values : List α) : List α :=
  cells.take position ++ values ++ cells.drop (position + values.length)

/-- How much of a copy of some length lies before the end. -/
def untilEnd (cells : List α) (position count : Nat) : Nat := min count (cells.length - position)

/-- Copy values in behind the queue. -/
def copyIn (cells : List α) (position : Nat) (values : List α) : List α :=
  overwrite (overwrite cells position (values.take (untilEnd cells position values.length))) 0
    (values.drop (untilEnd cells position values.length))

/-- Copy values out from the position of the queue. -/
def copyOut (cells : List α) (position count : Nat) : List α :=
  (cells.drop position).take (untilEnd cells position count) ++ cells.take (count - untilEnd cells position count)

variable {cells values : List α} {position count : Nat}

theorem length_overwrite (fits : position + values.length ≤ cells.length) :
    (overwrite cells position values).length = cells.length := by
  unfold overwrite
  simp only [List.length_append, List.length_take, List.length_drop]
  omega

theorem getElem?_overwrite (fits : position + values.length ≤ cells.length) (index : Nat) :
    (overwrite cells position values)[index]? =
      if position ≤ index ∧ index < position + values.length then values[index - position]? else cells[index]? := by
  unfold overwrite
  have front : (cells.take position).length = position := List.length_take_of_le (by omega)
  rw [List.append_assoc, List.getElem?_append, front]
  by_cases before : index < position
  · rw [if_pos before, if_neg (by omega), List.getElem?_take_of_lt before]
  · rw [if_neg before, List.getElem?_append]
    by_cases inside : index - position < values.length
    · rw [if_pos inside, if_pos (by omega)]
    · rw [if_neg inside, if_neg (by omega), List.getElem?_drop]
      congr 1
      omega

/-- The front stays when all that follows it is replaced. -/
theorem overwrite_append {front rest : List α} (same : values.length = rest.length) :
    overwrite (front ++ rest) front.length values = front ++ values := by
  unfold overwrite
  have whole : (front ++ rest).length ≤ front.length + values.length := by
    rw [List.length_append, same]
  rw [List.take_left, List.drop_of_length_le whole, List.append_nil]

theorem untilEnd_le : untilEnd cells position count ≤ count := Nat.min_le_left _ _

theorem length_contents (short : count ≤ cells.length) (within : position ≤ cells.length) :
    (contents cells position count).length = count := by
  unfold contents
  simp only [List.length_take, List.length_drop, List.length_append]
  omega

theorem getElem?_contents {index : Nat} (short : index < count) :
    (contents cells position count)[index]? =
      if position + index < cells.length then cells[position + index]?
      else cells[position + index - cells.length]? := by
  unfold contents
  rw [List.getElem?_take_of_lt short, List.getElem?_drop, List.getElem?_append]

/-! ## Copying in and out -/

/-- The values come to lie behind the queue. -/
theorem copyOut_eq (within : position ≤ cells.length) (short : count ≤ cells.length) :
    copyOut cells position count = contents cells position count := by
  unfold copyOut contents untilEnd
  rw [List.drop_append_of_le_length within, List.take_append, List.length_drop]
  congr 1
  · rw [List.take_eq_take_iff, List.length_drop]
    omega
  · rw [List.take_eq_take_iff]
    omega

theorem wrap_eq {size index : Nat} (twice : index < 2 * size) :
    index % size = if index < size then index else index - size := by
  by_cases before : index < size
  · rw [if_pos before, Nat.mod_eq_of_lt before]
  · rw [if_neg before, Nat.mod_eq_sub_mod (by omega), Nat.mod_eq_of_lt (by omega)]

theorem length_copyIn (within : position < cells.length) (fits : values.length ≤ cells.length) :
    (copyIn cells position values).length = cells.length := by
  have first : (overwrite cells position (values.take (untilEnd cells position values.length))).length =
      cells.length := by
    apply length_overwrite
    rw [List.length_take, untilEnd]
    omega
  unfold copyIn
  rw [length_overwrite]
  · exact first
  · rw [first, List.length_drop]
    omega

/-- The values that do not fit before the end lie at the front. -/
theorem getElem?_copyIn (within : position < cells.length) (fits : values.length ≤ cells.length) {index : Nat}
    (inside : index < cells.length) :
    (copyIn cells position values)[index]? =
      if position ≤ index ∧ index < position + values.length then values[index - position]?
      else if index + cells.length < position + values.length then values[index + cells.length - position]?
      else cells[index]? := by
  have first : (values.take (untilEnd cells position values.length)).length =
      untilEnd cells position values.length := List.length_take_of_le untilEnd_le
  have bound : position + untilEnd cells position values.length ≤ cells.length := by
    unfold untilEnd
    omega
  have firstFits : position + (values.take (untilEnd cells position values.length)).length ≤ cells.length := by
    rw [first]
    exact bound
  unfold copyIn
  rw [getElem?_overwrite, getElem?_overwrite firstFits, first, List.length_drop, List.getElem?_drop]
  · unfold untilEnd at bound ⊢
    by_cases front : index + cells.length < position + values.length
    · rw [if_pos (by omega), if_neg (by omega), if_pos front]
      congr 1
      omega
    · rw [if_neg (by omega), if_neg front]
      by_cases behind : position ≤ index ∧ index < position + values.length
      · rw [if_pos (by omega), if_pos behind, List.getElem?_take_of_lt (by omega)]
      · rw [if_neg (by omega), if_neg behind]
  · rw [length_overwrite firstFits, List.length_drop]
    omega

/-- Copying in behind the queue appends to it. -/
theorem contents_copyIn (within : position < cells.length) (fits : count + values.length ≤ cells.length) :
    contents (copyIn cells ((position + count) % cells.length) values) position (count + values.length) =
      contents cells position count ++ values := by
  have behind : (position + count) % cells.length < cells.length := Nat.mod_lt _ (by omega)
  have wrapped : (position + count) % cells.length =
      if position + count < cells.length then position + count else position + count - cells.length :=
    wrap_eq (by omega)
  have size : (copyIn cells ((position + count) % cells.length) values).length = cells.length :=
    length_copyIn behind (by omega)
  apply List.ext_getElem?
  intro index
  by_cases inside : index < count + values.length
  · rw [getElem?_contents inside, size, List.getElem?_append, length_contents (by omega) within.le]
    have fewer : values.length ≤ cells.length := by omega
    have copied {index : Nat} (inside : index < cells.length) := getElem?_copyIn behind fewer inside
    generalize (position + count) % cells.length = start at wrapped behind copied
    -- The queue may go round the end before it ends, behind it, or not at all.
    by_cases old : index < count
    · rw [if_pos old, getElem?_contents old]
      by_cases around : position + index < cells.length
      · rw [if_pos around, if_pos around, copied around, if_neg, if_neg]
        · split at wrapped <;> omega
        · split at wrapped <;> omega
      · rw [if_neg around, if_neg around, copied (by omega), if_neg, if_neg]
        · split at wrapped <;> omega
        · split at wrapped <;> omega
    · rw [if_neg old]
      by_cases around : position + index < cells.length
      · rw [if_pos around, copied around, if_pos]
        · congr 1
          split at wrapped <;> omega
        · split at wrapped <;> omega
      · rw [if_neg around, copied (by omega)]
        by_cases second : position + count < cells.length
        · rw [if_pos second] at wrapped
          rw [if_neg (by omega), if_pos (by omega)]
          congr 1
          omega
        · rw [if_neg second] at wrapped
          rw [if_pos (by omega)]
          congr 1
          omega
  · have short : (contents (copyIn cells ((position + count) % cells.length) values) position
        (count + values.length)).length = count + values.length := by
      apply length_contents
      · rw [size]
        exact fits
      · rw [size]
        exact within.le
    rw [List.getElem?_eq_none (by omega), List.getElem?_eq_none]
    rw [List.length_append, length_contents (by omega) within.le]
    omega

/-- Moving the position on drops what the queue begins with. -/
theorem contents_advance (within : position < cells.length) (short : count ≤ cells.length) {dropped : Nat}
    (few : dropped ≤ count) :
    contents cells ((position + dropped) % cells.length) (count - dropped) =
      (contents cells position count).drop dropped := by
  have wrapped : (position + dropped) % cells.length =
      if position + dropped < cells.length then position + dropped else position + dropped - cells.length :=
    wrap_eq (by omega)
  have inside : (position + dropped) % cells.length < cells.length := Nat.mod_lt _ (by omega)
  apply List.ext_getElem?
  intro index
  rw [List.getElem?_drop]
  by_cases early : index < count - dropped
  · rw [getElem?_contents early, getElem?_contents (by omega), wrapped]
    split <;> split <;> split <;> (congr 1; omega)
  · rw [List.getElem?_eq_none, List.getElem?_eq_none]
    · rw [length_contents short within.le]
      omega
    · rw [length_contents (by omega) inside.le]
      omega

/-! ## What a ring buffer represents -/

/-- The cells hold the items, from the position on. -/
structure Holds (cells : List α) (position count : Nat) (items : List α) : Prop where
  within : position < cells.length
  few : count ≤ cells.length
  contents : contents cells position count = items

variable {items : List α}

theorem holds_empty (within : 0 < cells.length) : Holds cells 0 0 [] := ⟨within, Nat.zero_le _, rfl⟩

theorem Holds.length (holds : Holds cells position count items) : items.length = count := by
  rw [← holds.contents]
  exact length_contents holds.few holds.within.le

theorem Holds.discard (holds : Holds cells position count items) {dropped : Nat} (few : dropped ≤ count) :
    Holds cells ((position + dropped) % cells.length) (count - dropped) (items.drop dropped) where
  within := Nat.mod_lt _ (Nat.zero_lt_of_lt holds.within)
  few := (Nat.sub_le _ _).trans holds.few
  contents := by
    rw [← holds.contents]
    exact contents_advance holds.within holds.few few

theorem Holds.append (holds : Holds cells position count items) (fits : count + values.length ≤ cells.length) :
    Holds (copyIn cells ((position + count) % cells.length) values) position (count + values.length)
      (items ++ values) := by
  have behind : (position + count) % cells.length < cells.length := Nat.mod_lt _ (Nat.zero_lt_of_lt holds.within)
  have size : (copyIn cells ((position + count) % cells.length) values).length = cells.length :=
    length_copyIn behind ((Nat.le_add_left _ _).trans fits)
  constructor
  · rw [size]
    exact holds.within
  · rw [size]
    exact fits
  · rw [← holds.contents]
    exact contents_copyIn holds.within fits

theorem Holds.copyOut (holds : Holds cells position count items) {taken : Nat} (few : taken ≤ count) :
    copyOut cells position taken = items.take taken := by
  rw [copyOut_eq holds.within.le (few.trans holds.few), ← holds.contents]
  unfold RingBuffer.contents
  rw [List.take_take, Nat.min_eq_left few]

end RingBuffer

/-! ## Bounded queues -/

/-- A queue that holds so many items at most. -/
structure BoundedQueue (α : Type) (capacity : Nat) where
  items : List α
  bounded : items.length ≤ capacity

namespace BoundedQueue

variable {α : Type} {capacity : Nat}

def empty : BoundedQueue α capacity := ⟨[], Nat.zero_le _⟩

/-- The last values, so many at most. -/
def newest (capacity : Nat) (values : List α) : List α := values.drop (values.length - capacity)

theorem length_newest (capacity : Nat) (values : List α) :
    (newest capacity values).length = min values.length capacity := by
  unfold newest
  rw [List.length_drop]
  omega

/-- On overflow the oldest items are lost. -/
def push (queue : BoundedQueue α capacity) (values : List α) : BoundedQueue α capacity where
  items := newest capacity (queue.items ++ values)
  bounded := by
    rw [length_newest]
    exact Nat.min_le_right _ _

/-- So many items are taken from the head, or none. -/
def pop (queue : BoundedQueue α capacity) (count : Nat) : BoundedQueue α capacity × Option (List α) :=
  if count ≤ queue.items.length then
    (⟨queue.items.drop count, (List.length_drop ▸ Nat.sub_le _ _).trans queue.bounded⟩,
      some (queue.items.take count))
  else (queue, none)

/-- What is left of the items and of the values when both do not fit. -/
theorem push_items (queue : BoundedQueue α capacity) (values : List α) :
    (queue.push values).items =
      queue.items.drop (queue.items.length + (newest capacity values).length - capacity) ++
        newest capacity values := by
  have bounded := queue.bounded
  unfold push
  dsimp only
  rw [length_newest]
  unfold newest
  rw [List.length_append, List.drop_append]
  congr 1
  · rw [List.drop_eq_drop_iff]
    omega
  · congr 1
    omega

end BoundedQueue
end MetaShare
