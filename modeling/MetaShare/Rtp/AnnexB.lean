import MetaShare.Rtp.Packetizer

namespace MetaShare
namespace Rtp

open Octets

/-!
# Annex B byte strings

An Annex B access unit is a concatenation of NAL units, each behind a start
code of three or four octets.  Splitting such a string recovers exactly the
units it was written from.  The two scans of the source recognise a start code
by separately written tests; `StartsAt` is the common condition that both are
shown to decide.
-/

/-- The three-octet start code, or the four-octet one. -/
def startCode (long : Bool) : List UInt8 :=
  if long then [0, 0, 0, 1] else [0, 0, 1]

/-- NAL units, each behind a start code of either length. -/
def annexB (units : List (Bool × List UInt8)) : List UInt8 :=
  units.flatMap (fun unit => startCode unit.1 ++ unit.2)

/-- The canonical form: every unit behind the four-octet start code. -/
def canonicalAnnexB (nals : List (List UInt8)) : List UInt8 :=
  nals.flatMap (fun nal => startCode true ++ nal)

@[simp] theorem annexB_nil : annexB [] = [] := rfl

@[simp] theorem annexB_cons (long : Bool) (nal : List UInt8) (units : List (Bool × List UInt8)) :
    annexB ((long, nal) :: units) = startCode long ++ (nal ++ annexB units) := by
  simp [annexB]

/-- A unit that an encoder may emit: a header at least, no start code inside
(emulation prevention), and a last octet that is not zero. -/
structure WellFormedNal (nal : List UInt8) : Prop where
  size : 2 ≤ nal.length
  noStartCode : ¬ [0, 0, 1] <:+: nal
  lastNonzero : nal.getLast? ≠ some 0

/-- A start code of either length begins at index `k`. -/
def StartsAt (data : List UInt8) (k : Nat) : Prop :=
  data[k]? = some 0 ∧ data[k + 1]? = some 0 ∧
    (data[k + 2]? = some 1 ∨ (data[k + 2]? = some 0 ∧ data[k + 3]? = some 1))

theorem startsAt_iff (data : List UInt8) (k : Nat) (first : k < data.length)
    (second : k + 1 < data.length) (inside : k + 2 < data.length) :
    StartsAt data k ↔ data[k] = 0 ∧ data[k + 1] = 0 ∧
      (data[k + 2] = 1 ∨ ∃ _ : k + 3 < data.length, data[k + 2] = 0 ∧ data[k + 3] = 1) := by
  rw [StartsAt, List.getElem?_eq_getElem first, List.getElem?_eq_getElem second,
    List.getElem?_eq_getElem inside]
  simp only [Option.some.injEq, List.getElem?_eq_some_iff]
  constructor
  · rintro ⟨first, second, one | ⟨third, long, fourth⟩⟩
    · exact ⟨first, second, Or.inl one⟩
    · exact ⟨first, second, Or.inr ⟨long, third, fourth⟩⟩
  · rintro ⟨first, second, one | ⟨long, third, fourth⟩⟩
    · exact ⟨first, second, Or.inl one⟩
    · exact ⟨first, second, Or.inr ⟨third, long, fourth⟩⟩

theorem StartsAt.inside {data : List UInt8} {k : Nat} (starts : StartsAt data k) :
    k + 2 < data.length := by
  rcases starts with ⟨_, _, one | ⟨zero, _⟩⟩
  · exact (List.getElem?_eq_some_iff.mp one).1
  · exact (List.getElem?_eq_some_iff.mp zero).1

/-- The search for the end of a unit stops at the first start code. -/
theorem findEnd_eq (data : List UInt8) (k stop : Nat) (before : k ≤ stop)
    (clear : ∀ j, k ≤ j → j < stop → ¬ StartsAt data j)
    (found : stop = data.length ∨ StartsAt data stop) : findEnd data k = stop := by
  induction k using findEnd.induct data with
  | case1 k inside here =>
      rw [findEnd, dif_pos inside, if_pos here]
      have starts := (startsAt_iff data k (by omega) (by omega) inside).mpr here
      by_contra different
      exact clear k le_rfl (by omega) starts
  | case2 k inside other inductionHypothesis =>
      rw [findEnd, dif_pos inside, if_neg other]
      have notHere : ¬ StartsAt data k := fun starts =>
        other ((startsAt_iff data k (by omega) (by omega) inside).mp starts)
      have different : k ≠ stop := by
        intro same
        rcases found with finished | starts
        · omega
        · exact notHere (same ▸ starts)
      exact inductionHypothesis (by omega) (fun j low high => clear j (by omega) high)
  | case3 k short =>
      rw [findEnd, dif_neg short]
      rcases found with finished | starts
      · exact finished.symm
      · have := starts.inside
        omega

/-- At a start code the search for the next unit steps over it. -/
theorem findStart_startCode (front : List UInt8) (long : Bool) (rest : List UInt8) :
    findStart (front ++ (startCode long ++ rest)) front.length =
      front.length + (startCode long).length := by
  cases long <;> rw [findStart] <;> simp [startCode]

theorem findStart_end (data : List UInt8) : findStart data data.length = data.length :=
  findStart_of_short data data.length (by omega)

/-- A start code begins where one was written. -/
theorem startsAt_startCode (front : List UInt8) (long : Bool) (rest : List UInt8) :
    StartsAt (front ++ (startCode long ++ rest)) front.length := by
  cases long <;> simp [StartsAt, startCode]

theorem noStartCode_at {nal : List UInt8} (noStartCode : ¬ [0, 0, 1] <:+: nal) (j : Nat) :
    ¬ (nal[j]? = some 0 ∧ nal[j + 1]? = some 0 ∧ nal[j + 2]? = some 1) := by
  rintro ⟨first, second, third⟩
  apply noStartCode
  have inside := (List.getElem?_eq_some_iff.mp third).1
  refine List.infix_iff_getElem?.mpr ⟨j, by simp only [List.length_cons, List.length_nil]; omega, ?_⟩
  intro i bound
  match i, bound with
  | 0, _ => simpa using first
  | 1, _ => simpa [Nat.add_comm] using second
  | 2, _ => simpa [Nat.add_comm] using third

/-- Inside a well-formed unit no start code begins, not even one that would
extend into whatever follows: its last octet is not zero. -/
theorem WellFormedNal.not_startsAt {nal : List UInt8} (wellFormed : WellFormedNal nal)
    (front rest : List UInt8) (j : Nat) (low : front.length ≤ j)
    (high : j < front.length + nal.length) : ¬ StartsAt (front ++ (nal ++ rest)) j := by
  obtain ⟨i, rfl⟩ := Nat.exists_eq_add_of_le low
  have within : i < nal.length := by omega
  have size := wellFormed.size
  have read : ∀ d, i + d < nal.length → (front ++ (nal ++ rest))[front.length + i + d]? = nal[i + d]? := by
    intro d bound
    rw [Nat.add_assoc, List.getElem?_append_right (by omega), Nat.add_sub_cancel_left,
      List.getElem?_append_left bound]
  have last : nal[nal.length - 1]? ≠ some 0 := by
    rw [← List.getLast?_eq_getElem?]
    exact wellFormed.lastNonzero
  rintro ⟨first, second, third⟩
  rw [show (front ++ (nal ++ rest))[front.length + i]? = nal[i]? from read 0 within] at first
  -- The three or four octets cannot straddle the end of the unit.
  have room : i + 1 < nal.length := by
    by_contra full
    exact last ((show nal.length - 1 = i by omega) ▸ first)
  rw [read 1 room] at second
  have room : i + 2 < nal.length := by
    by_contra full
    exact last ((show nal.length - 1 = i + 1 by omega) ▸ second)
  rw [read 2 room] at third
  rcases third with one | ⟨zero, four⟩
  · exact noStartCode_at wellFormed.noStartCode i ⟨first, second, one⟩
  have room : i + 3 < nal.length := by
    by_contra full
    exact last ((show nal.length - 1 = i + 2 by omega) ▸ zero)
  rw [read 3 room] at four
  exact noStartCode_at wellFormed.noStartCode (i + 1) ⟨second, zero, four⟩

theorem trimZeros_le (data : List UInt8) (nalStart stop : Nat) (inside : stop ≤ data.length) :
    trimZeros data nalStart stop inside ≤ stop := by
  induction stop with
  | zero => exact le_rfl
  | succ stop inductionHypothesis =>
      rw [trimZeros]
      split
      · exact Nat.le_succ_of_le (inductionHypothesis _)
      · exact le_rfl

theorem trimZeros_of_nonzero (data : List UInt8) (nalStart stop : Nat) (inside : stop ≤ data.length)
    (nonzero : data[stop - 1]? ≠ some 0) : trimZeros data nalStart stop inside = stop := by
  cases stop with
  | zero => rfl
  | succ stop =>
      rw [trimZeros, if_neg]
      rintro ⟨_, zero⟩
      rw [Nat.add_sub_cancel, List.getElem?_eq_getElem inside, zero] at nonzero
      exact nonzero rfl

/-- One turn of the splitting loop: a well-formed unit that ends the input or
is followed by a start code is reported whole. -/
theorem nalsFrom_unit (front nal rest : List UInt8) (wellFormed : WellFormedNal nal)
    (ended : rest = [] ∨ ∃ long later, rest = startCode long ++ later) :
    nalsFrom (front ++ (nal ++ rest)) front.length =
      nal :: nalsFrom (front ++ (nal ++ rest))
        (findStart (front ++ (nal ++ rest)) (front.length + nal.length)) := by
  have size := wellFormed.size
  have stop : findEnd (front ++ (nal ++ rest)) front.length = front.length + nal.length := by
    apply findEnd_eq _ _ _ (by omega) (wellFormed.not_startsAt front rest)
    rcases ended with rfl | ⟨long, later, rfl⟩
    · exact Or.inl (by simp)
    · right
      have starts := startsAt_startCode (front ++ nal) long later
      rwa [List.length_append, List.append_assoc] at starts
  have inside : front.length < (front ++ (nal ++ rest)).length := by
    simp only [List.length_append]
    omega
  have last : (front ++ (nal ++ rest))[front.length + nal.length - 1]? ≠ some 0 := by
    rw [show front.length + nal.length - 1 = front.length + (nal.length - 1) by omega,
      List.getElem?_append_right (by omega), Nat.add_sub_cancel_left,
      List.getElem?_append_left (by omega), ← List.getLast?_eq_getElem?]
    exact wellFormed.lastNonzero
  have unit : slice (front ++ (nal ++ rest)) front.length nal.length = nal := by
    rw [slice, List.drop_left, List.take_left]
  have trimmed : ∀ bound, trimZeros (front ++ (nal ++ rest)) front.length
      (front.length + nal.length) bound = front.length + nal.length :=
    fun bound => trimZeros_of_nonzero _ _ _ bound last
  rw [nalsFrom, dif_pos inside]
  simp only [stop, trimmed, Nat.add_sub_cancel_left, if_pos size, unit]

/-- Splitting recovers the units, whatever stands in front of the first one. -/
theorem nalsFrom_annexB (units : List (Bool × List UInt8)) (front nal : List UInt8)
    (wellFormed : WellFormedNal nal) (allWellFormed : ∀ unit ∈ units, WellFormedNal unit.2) :
    nalsFrom (front ++ (nal ++ annexB units)) front.length = nal :: units.map Prod.snd := by
  induction units generalizing front nal with
  | nil =>
      have finished : findStart (front ++ (nal ++ annexB [])) (front.length + nal.length) =
          (front ++ (nal ++ annexB [])).length := by
        apply findStart_of_short
        simp
      rw [nalsFrom_unit front nal (annexB []) wellFormed (Or.inl rfl), finished, nalsFrom,
        dif_neg (Nat.lt_irrefl _)]
      rfl
  | cons unit units inductionHypothesis =>
      obtain ⟨long, next⟩ := unit
      have nextUnit := inductionHypothesis (front ++ nal ++ startCode long) next
        (allWellFormed _ List.mem_cons_self)
        (fun other member => allWellFormed other (List.mem_cons_of_mem _ member))
      have start := findStart_startCode (front ++ nal) long (next ++ annexB units)
      rw [annexB_cons, nalsFrom_unit front nal _ wellFormed (Or.inr ⟨long, _, rfl⟩)]
      simp only [List.append_assoc, List.length_append] at nextUnit start
      rw [start, Nat.add_assoc, nextUnit]
      rfl

/-- Splitting inverts writing. -/
theorem forEachNal_annexB (units : List (Bool × List UInt8))
    (wellFormed : ∀ unit ∈ units, WellFormedNal unit.2) :
    forEachNal (annexB units) = units.map Prod.snd := by
  cases units with
  | nil =>
      rw [forEachNal, annexB_nil, findStart_of_short _ _ (by simp), nalsFrom, dif_neg (by simp)]
      rfl
  | cons unit units =>
      obtain ⟨long, nal⟩ := unit
      have start := findStart_startCode [] long (nal ++ annexB units)
      rw [List.nil_append, List.length_nil, Nat.zero_add] at start
      rw [forEachNal, annexB_cons, start]
      exact nalsFrom_annexB units (startCode long) nal (wellFormed _ List.mem_cons_self)
        (fun other member => wellFormed other (List.mem_cons_of_mem _ member))

/-- Whatever the input, a reported unit has at least two octets. -/
theorem two_le_length_of_mem_nalsFrom (data : List UInt8) (nalStart : Nat) :
    ∀ nal ∈ nalsFrom data nalStart, 2 ≤ nal.length := by
  induction nalStart using nalsFrom.induct data with
  | case1 nalStart inside nalEnd stop long inductionHypothesis =>
      intro nal member
      rw [nalsFrom, dif_pos inside, if_pos (by exact long)] at member
      rcases List.mem_cons.mp member with same | later
      · have := trimZeros_le data nalStart _ (findEnd_le data nalStart)
        have := findEnd_le data nalStart
        rw [same, slice_length _ _ _ (by omega)]
        exact long
      · exact inductionHypothesis nal later
  | case2 nalStart inside nalEnd stop short inductionHypothesis =>
      intro nal member
      rw [nalsFrom, dif_pos inside, if_neg (by exact short)] at member
      exact inductionHypothesis nal member
  | case3 nalStart finished =>
      intro nal member
      rw [nalsFrom, dif_neg finished] at member
      cases member

theorem two_le_length_of_mem_forEachNal (data : List UInt8) :
    ∀ nal ∈ forEachNal data, 2 ≤ nal.length :=
  two_le_length_of_mem_nalsFrom data (findStart data 0)

end Rtp
end MetaShare
