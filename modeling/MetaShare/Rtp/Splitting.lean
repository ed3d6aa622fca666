import MetaShare.Rtp.AnnexB
import Mathlib.Data.List.DropRight

namespace MetaShare
namespace Rtp

open Octets

/-!
# What splitting an Annex B byte string means

The reference definition cuts a byte string at every start code, without indices
or look-ahead.  The two scans of the source find the same start codes: the one
for the end of a unit stops where the next start code begins, and the one for
the next unit resumes there and steps over it.
-/

/-- The length of the start code with which a byte string begins, if any. -/
def codeLength (data : List UInt8) : Nat :=
  if startCode true <+: data then 4 else if startCode false <+: data then 3 else 0

/-- Cut at every start code.  The first piece stands before the first start code. -/
def cut : List UInt8 → List (List UInt8)
  | [] => [[]]
  | octet :: rest =>
      if codeLength (octet :: rest) = 0 then (cut rest).modifyHead (octet :: ·)
      else [] :: cut (rest.drop (codeLength (octet :: rest) - 1))
termination_by data => data.length

def stripZeros (piece : List UInt8) : List UInt8 := piece.rdropWhile (· == 0)

/-- The pieces behind a start code, without trailing zeros, that have at least two
octets. -/
def referenceNals (data : List UInt8) : List (List UInt8) :=
  ((cut data).tail.map stripZeros).filter (fun nal => decide (2 ≤ nal.length))

/-! ## Start codes -/

/-- The tests of the source, on the octets at an index. -/
theorem codeLength_drop (data : List UInt8) (k : Nat) (first : k < data.length) (second : k + 1 < data.length)
    (inside : k + 2 < data.length) :
    codeLength (data.drop k) =
      if data[k] = 0 ∧ data[k + 1] = 0 then
        if data[k + 2] = 1 then 3
        else if long : k + 3 < data.length then if data[k + 2] = 0 ∧ data[k + 3] = 1 then 4 else 0 else 0
      else 0 := by
  have octets : data.drop k = data[k] :: data[k + 1] :: data[k + 2] :: data.drop (k + 3) := by
    rw [List.drop_eq_getElem_cons first, List.drop_eq_getElem_cons second, List.drop_eq_getElem_cons inside]
  rw [octets]
  by_cases long : k + 3 < data.length
  · rw [List.drop_eq_getElem_cons long]
    simp only [codeLength, startCode, if_true, Bool.false_eq_true, if_false, List.cons_prefix_cons,
      List.nil_prefix, and_true, long, dif_pos]
    grind
  · rw [List.drop_eq_nil_of_le (by omega)]
    simp only [codeLength, startCode, if_true, Bool.false_eq_true, if_false, List.cons_prefix_cons,
      and_true, long, dif_neg, not_false_eq_true, List.prefix_nil, reduceCtorEq, and_false]
    grind

theorem codeLength_short {data : List UInt8} (short : data.length ≤ 2) : codeLength data = 0 := by
  have absent : ∀ long, ¬ startCode long <+: data := by
    intro long begins
    have := begins.length_le
    cases long <;> simp only [startCode, if_true, Bool.false_eq_true, if_false, List.length_cons,
      List.length_nil] at this <;> omega
  rw [codeLength, if_neg (absent true), if_neg (absent false)]

theorem codeLength_drop_short {data : List UInt8} {k : Nat} (short : data.length ≤ k + 2) :
    codeLength (data.drop k) = 0 := by
  apply codeLength_short
  rw [List.length_drop]
  omega

theorem codeLength_le (data : List UInt8) : codeLength data ≤ data.length := by
  rw [codeLength]
  split
  · rename_i begins
    exact begins.length_le
  split
  · rename_i begins
    exact begins.length_le
  · exact Nat.zero_le _

/-! ## The two scans stop at the same start codes -/

/-- The scan for the end of a unit, one octet at a time. -/
theorem findEnd_step {data : List UInt8} {k : Nat} (inside : k < data.length) :
    findEnd data k = if codeLength (data.drop k) = 0 then findEnd data (k + 1) else k := by
  by_cases room : k + 2 < data.length
  · rw [codeLength_drop data k inside (by omega) room, findEnd, dif_pos room]
    grind
  · rw [codeLength_drop_short (by omega), if_pos rfl, findEnd, dif_neg room, findEnd, dif_neg (by omega)]

/-- The scan for the next unit, one octet at a time. -/
theorem findStart_step {data : List UInt8} {k : Nat} (inside : k < data.length) :
    findStart data k =
      if codeLength (data.drop k) = 0 then findStart data (k + 1) else k + codeLength (data.drop k) := by
  by_cases room : k + 2 < data.length
  · rw [codeLength_drop data k inside (by omega) room, findStart, dif_pos room]
    by_cases zeros : data[k] = 0 ∧ data[k + 1] = 0
    · rw [if_pos zeros, if_pos zeros]
      by_cases one : data[k + 2] = 1
      · rw [if_pos one, if_pos one, if_neg (by decide)]
      rw [if_neg one, if_neg one]
      by_cases long : k + 3 < data.length
      · rw [dif_pos long, dif_pos long]
        by_cases four : data[k + 2] = 0 ∧ data[k + 3] = 1
        · rw [if_pos four, if_pos four, if_neg (by decide)]
        · rw [if_neg four, if_neg four, if_pos rfl]
      · rw [dif_neg long, dif_neg long, if_pos rfl]
    · rw [if_neg zeros, if_neg zeros, if_pos rfl]
  · rw [codeLength_drop_short (by omega), if_pos rfl, findStart_of_short _ _ (by omega),
      findStart_of_short _ _ (by omega)]

theorem findEnd_end (data : List UInt8) : findEnd data data.length = data.length := by
  rw [findEnd, dif_neg (by omega)]

/-- What holds at the end and passes from each index to the one before holds from
any index on. -/
theorem downward {length : Nat} (holds : Nat → Prop) (last : holds length)
    (before : ∀ k, k < length → holds (k + 1) → holds k) {k : Nat} (inside : k ≤ length) : holds k :=
  Nat.decreasingInduction (fun k below later => before k below later) last inside

theorem findStart_le {data : List UInt8} {k : Nat} (inside : k ≤ data.length) :
    findStart data k ≤ data.length := by
  refine downward (fun k => findStart data k ≤ data.length) (findStart_end data).le ?_ inside
  intro k below later
  rw [findStart_step below]
  split
  · exact later
  · have code := codeLength_le (data.drop k)
    rw [List.length_drop] at code
    omega

/-- The scan for the next unit finds what the scan for the end of this one has
stopped at. -/
theorem findStart_findEnd {data : List UInt8} {k : Nat} (inside : k ≤ data.length) :
    findStart data (findEnd data k) = findStart data k := by
  refine downward (fun k => findStart data (findEnd data k) = findStart data k) ?_ ?_ inside
  · rw [findEnd_end]
  · intro k below later
    rw [findEnd_step below]
    split
    · rename_i noCode
      rw [later, findStart_step below, if_pos noCode]
    · rfl

theorem slice_succ {data : List UInt8} {k stop : Nat} (before : k < stop) (inside : k < data.length) :
    slice data k (stop - k) = data[k] :: slice data (k + 1) (stop - (k + 1)) := by
  rw [slice, slice, List.drop_eq_getElem_cons inside, show stop - k = stop - (k + 1) + 1 by omega,
    List.take_succ_cons]

/-- The first piece ends where the scan for the end of a unit stops, and the next
one begins where the scan for the next unit resumes. -/
theorem cut_drop {data : List UInt8} {k : Nat} (inside : k ≤ data.length) :
    cut (data.drop k) = slice data k (findEnd data k - k) ::
      if findEnd data k < data.length then cut (data.drop (findStart data (findEnd data k))) else [] := by
  refine downward (fun k => cut (data.drop k) = slice data k (findEnd data k - k) ::
    if findEnd data k < data.length then cut (data.drop (findStart data (findEnd data k))) else []) ?_ ?_ inside
  · rw [findEnd_end, if_neg (Nat.lt_irrefl _), List.drop_length, Nat.sub_self, cut, slice, List.take_zero]
  · intro k below later
    have octets := List.drop_eq_getElem_cons below
    have stop := findEnd_step below
    by_cases noCode : codeLength (data.drop k) = 0
    · rw [if_pos noCode] at stop
      have beyond := le_findEnd data (k + 1) below
      rw [octets] at noCode
      rw [octets, cut, if_pos noCode, later, List.modifyHead_cons, stop, slice_succ (by omega) below]
    · rw [if_neg noCode] at stop
      have next := findStart_step below
      rw [if_neg noCode] at next
      have positive := Nat.pos_of_ne_zero noCode
      have resumed : (data.drop (k + 1)).drop (codeLength (data.drop k) - 1) =
          data.drop (k + codeLength (data.drop k)) := by
        rw [List.drop_drop]
        congr 1
        omega
      rw [stop, if_pos below, next, Nat.sub_self, ← resumed, slice, List.take_zero]
      rw [octets] at noCode
      nth_rewrite 1 [octets]
      rw [cut, if_neg noCode, octets]

/-! ## Units -/

/-- Stepping back over zeros strips them from the unit. -/
theorem slice_trimZeros (data : List UInt8) (nalStart stop : Nat) (inside : stop ≤ data.length)
    (begun : nalStart ≤ stop) :
    slice data nalStart (trimZeros data nalStart stop inside - nalStart) =
      stripZeros (slice data nalStart (stop - nalStart)) := by
  have empty : slice data nalStart 0 = [] := List.take_zero
  induction stop with
  | zero =>
      rw [trimZeros, Nat.zero_sub, empty]
      rfl
  | succ stop inductionHypothesis =>
      rcases Nat.eq_or_lt_of_le begun with same | more
      · rw [trimZeros, if_neg (by omega), ← same, Nat.sub_self, empty]
        rfl
      · have last : slice data nalStart (stop + 1 - nalStart) =
            slice data nalStart (stop - nalStart) ++ [data[stop]] := by
          have within : stop - nalStart < (data.drop nalStart).length := by
            rw [List.length_drop]
            omega
          rw [slice, slice, show stop + 1 - nalStart = stop - nalStart + 1 by omega,
            List.take_succ_eq_append_getElem within, List.getElem_drop]
          simp only [show nalStart + (stop - nalStart) = stop by omega]
        rw [trimZeros, last, stripZeros, List.rdropWhile_concat]
        by_cases zero : data[stop] = 0
        · rw [if_pos ⟨more, zero⟩, if_pos (beq_iff_eq.mpr zero)]
          exact inductionHypothesis _ (by omega)
        · rw [if_neg (fun both => zero both.2), if_neg (fun isZero => zero (beq_iff_eq.mp isZero)), last]

/-- What is reported of pieces. -/
def reported (pieces : List (List UInt8)) : List (List UInt8) :=
  (pieces.map stripZeros).filter (fun nal => decide (2 ≤ nal.length))

theorem reported_cons (piece : List UInt8) (pieces : List (List UInt8)) :
    reported (piece :: pieces) =
      if 2 ≤ (stripZeros piece).length then stripZeros piece :: reported pieces else reported pieces := by
  simp only [reported, List.map_cons, List.filter_cons, decide_eq_true_eq]

theorem reported_cut_nil : reported (cut []) = [] := by
  rw [cut]
  rfl

/-- One turn of the splitting loop reports what the piece ahead of it amounts to. -/
theorem nalsFrom_turn {data : List UInt8} {nalStart : Nat} (inside : nalStart < data.length)
    (later : nalsFrom data (findStart data (findEnd data nalStart)) =
      reported (cut (data.drop (findStart data (findEnd data nalStart))))) :
    nalsFrom data nalStart = reported (cut (data.drop nalStart)) := by
  have begun := le_findEnd data nalStart inside.le
  have bound := findEnd_le data nalStart
  have within := trimZeros_le data nalStart _ bound
  have strip := slice_trimZeros data nalStart _ bound begun
  have ahead : reported (cut (data.drop nalStart)) =
      if 2 ≤ (stripZeros (slice data nalStart (findEnd data nalStart - nalStart))).length then
        stripZeros (slice data nalStart (findEnd data nalStart - nalStart)) ::
          nalsFrom data (findStart data (findEnd data nalStart))
      else nalsFrom data (findStart data (findEnd data nalStart)) := by
    rw [cut_drop inside.le, reported_cons]
    by_cases more : findEnd data nalStart < data.length
    · rw [if_pos more, later]
    · have finished : findEnd data nalStart = data.length := le_antisymm bound (not_lt.mp more)
      rw [if_neg more, finished, findStart_end, nalsFrom, dif_neg (Nat.lt_irrefl _)]
      rfl
  rw [ahead, ← strip, slice_length _ _ _ (by omega), nalsFrom, dif_pos inside]

/-- The splitting loop reports what the pieces ahead of it amount to. -/
theorem nalsFrom_eq (data : List UInt8) (nalStart : Nat) :
    nalsFrom data nalStart = reported (cut (data.drop nalStart)) := by
  induction nalStart using nalsFrom.induct data with
  | case1 nalStart inside nalEnd stop long inductionHypothesis => exact nalsFrom_turn inside inductionHypothesis
  | case2 nalStart inside nalEnd stop short inductionHypothesis => exact nalsFrom_turn inside inductionHypothesis
  | case3 nalStart finished =>
      rw [nalsFrom, dif_neg finished, List.drop_eq_nil_of_le (not_lt.mp finished), reported_cut_nil]

/-- Splitting is what the reference definition says. -/
theorem forEachNal_eq (data : List UInt8) : forEachNal data = referenceNals data := by
  have pieces := cut_drop (Nat.zero_le data.length)
  have first := findStart_findEnd (Nat.zero_le data.length)
  rw [List.drop_zero] at pieces
  rw [forEachNal, nalsFrom_eq, referenceNals, pieces, List.tail_cons, ← reported]
  by_cases more : findEnd data 0 < data.length
  · rw [if_pos more, first]
  · have finished : findEnd data 0 = data.length := le_antisymm (findEnd_le data 0) (not_lt.mp more)
    rw [if_neg more, ← first, finished, findStart_end, List.drop_length, reported_cut_nil]
    rfl

/-! ## What is reported -/

/-- The first piece is a prefix. -/
theorem cut_first (data : List UInt8) : ∃ first others, cut data = first :: others ∧ first <+: data := by
  induction data with
  | nil => exact ⟨[], [], by rw [cut], List.nil_prefix⟩
  | cons octet rest inductionHypothesis =>
      obtain ⟨first, others, isCut, begins⟩ := inductionHypothesis
      rw [cut]
      split
      · rw [isCut, List.modifyHead_cons]
        exact ⟨octet :: first, others, rfl, List.cons_prefix_cons.mpr ⟨rfl, begins⟩⟩
      · exact ⟨[], _, rfl, List.nil_prefix⟩

/-- A piece lies inside the string, with no start code in it. -/
theorem piece_of_mem_cut (data : List UInt8) :
    ∀ piece ∈ cut data, piece <:+: data ∧ ¬ startCode false <:+: piece := by
  have empty : ¬ startCode false <:+: [] := by decide
  induction data using cut.induct with
  | case1 =>
      rw [cut]
      intro piece member
      rw [List.mem_singleton.mp member]
      exact ⟨List.infix_rfl, empty⟩
  | case2 octet rest noCode inductionHypothesis =>
      obtain ⟨first, others, isCut, begins⟩ := cut_first rest
      have here : octet :: first <+: octet :: rest := List.cons_prefix_cons.mpr ⟨rfl, begins⟩
      rw [cut, if_pos noCode, isCut, List.modifyHead_cons]
      rw [isCut] at inductionHypothesis
      intro piece member
      rcases List.mem_cons.mp member with same | later
      · rw [same]
        refine ⟨here.isInfix, ?_⟩
        rw [List.infix_cons_iff]
        rintro (code | behind)
        · rw [codeLength] at noCode
          split at noCode
          · cases noCode
          · rw [if_pos (code.trans here)] at noCode
            cases noCode
        · exact (inductionHypothesis first List.mem_cons_self).2 behind
      · obtain ⟨inside, clear⟩ := inductionHypothesis piece (List.mem_cons_of_mem _ later)
        exact ⟨inside.trans (List.suffix_cons octet rest).isInfix, clear⟩
  | case3 octet rest code inductionHypothesis =>
      rw [cut, if_neg code]
      intro piece member
      rcases List.mem_cons.mp member with same | later
      · rw [same]
        exact ⟨List.nil_infix, empty⟩
      · obtain ⟨inside, clear⟩ := inductionHypothesis piece later
        exact ⟨(inside.trans (List.drop_suffix _ _).isInfix).trans (List.suffix_cons octet rest).isInfix, clear⟩

theorem stripZeros_lastNonzero (piece : List UInt8) : (stripZeros piece).getLast? ≠ some 0 := by
  intro last
  rw [List.getLast?_eq_some_iff] at last
  obtain ⟨front, same⟩ := last
  have again : stripZeros (stripZeros piece) = stripZeros piece := List.rdropWhile_idempotent _ _
  rw [same, stripZeros, List.rdropWhile_concat, if_pos (by rfl)] at again
  have shorter := (List.rdropWhile_prefix (· == 0) (l := front)).length_le
  rw [again, List.length_append, List.length_singleton] at shorter
  omega

/-- Whatever the input, a reported unit lies inside it and is one that an encoder
may emit. -/
theorem nal_of_mem_forEachNal {data : List UInt8} : ∀ nal ∈ forEachNal data, nal <:+: data ∧ WellFormedNal nal := by
  intro nal member
  rw [forEachNal_eq, referenceNals, List.mem_filter, List.mem_map] at member
  obtain ⟨⟨piece, isPiece, rfl⟩, long⟩ := member
  obtain ⟨inside, clear⟩ := piece_of_mem_cut data piece (List.mem_of_mem_tail isPiece)
  have begins : stripZeros piece <+: piece := List.rdropWhile_prefix _ piece
  refine ⟨begins.isInfix.trans inside, of_decide_eq_true long, ?_, stripZeros_lastNonzero piece⟩
  intro code
  exact clear (code.trans begins.isInfix)

/-- On every byte string the scans stay inside it and make progress, the units
reported are those of the reference definition, each of them is well formed, and
writing them behind start codes of either length and splitting again recovers
them. -/
theorem splitting_exact (data : List UInt8) :
    (∀ k, k ≤ data.length → k ≤ findEnd data k ∧ findEnd data k ≤ data.length ∧ findStart data k ≤ data.length ∧
      (findEnd data k < data.length → findEnd data k < findStart data (findEnd data k))) ∧
      forEachNal data = referenceNals data ∧
      (∀ nal ∈ forEachNal data, nal <:+: data ∧ ¬ [0, 0, 1] <:+: nal ∧ nal.getLast? ≠ some 0) ∧
      ∀ parts : List (Bool × List UInt8), parts.map Prod.snd = forEachNal data →
        forEachNal (annexB parts) = forEachNal data := by
  refine ⟨?_, forEachNal_eq data, ?_, ?_⟩
  · intro k inside
    exact ⟨le_findEnd data k inside, findEnd_le data k, findStart_le inside, lt_findStart data _⟩
  · intro nal member
    obtain ⟨inside, wellFormed⟩ := nal_of_mem_forEachNal nal member
    exact ⟨inside, wellFormed.noStartCode, wellFormed.lastNonzero⟩
  · intro parts same
    rw [forEachNal_annexB parts, same]
    intro part member
    have listed : part.2 ∈ forEachNal data := same ▸ List.mem_map_of_mem member
    exact (nal_of_mem_forEachNal part.2 listed).2

end Rtp
end MetaShare
