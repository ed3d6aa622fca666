import Mathlib.Data.List.Basic
import Mathlib.Tactic.Common

namespace MetaShare
namespace Lines

/-!
# Lines of a stream

A stream is divided into lines by a terminator.  A reader with a limit gives up
at the first line that is too long or is not terminated.
-/

variable {Symbol : Type} [DecidableEq Symbol] (stop : Symbol)

/-- The first line of a stream, and what follows its terminator. -/
def cut : List Symbol → Option (List Symbol × List Symbol)
  | [] => none
  | symbol :: rest =>
      if symbol = stop then some ([], rest) else (cut rest).map (fun found => (symbol :: found.1, found.2))

variable {stop}

theorem cut_append {front : List Symbol} (absent : stop ∉ front) (rest : List Symbol) :
    cut stop (front ++ rest) = (cut stop rest).map (fun found => (front ++ found.1, found.2)) := by
  induction front with
  | nil => exact Option.map_id'.symm
  | cons symbol front inductionHypothesis =>
      rw [List.mem_cons, not_or] at absent
      rw [List.cons_append, cut, if_neg (Ne.symm absent.1), inductionHypothesis absent.2, Option.map_map]
      rfl

theorem cut_line {line : List Symbol} (absent : stop ∉ line) (rest : List Symbol) :
    cut stop (line ++ stop :: rest) = some (line, rest) := by
  rw [cut_append absent, cut, if_pos rfl, Option.map_some, List.append_nil]

theorem eq_of_cut {stream line rest : List Symbol} (found : cut stop stream = some (line, rest)) :
    stream = line ++ stop :: rest ∧ stop ∉ line := by
  induction stream generalizing line with
  | nil => cases found
  | cons symbol stream inductionHypothesis =>
      rw [cut] at found
      split at found
      · rename_i isStop
        cases found
        exact ⟨congrArg (· :: rest) isStop, List.not_mem_nil⟩
      · rename_i other
        obtain ⟨⟨later, _⟩, isLater, same⟩ := Option.map_eq_some_iff.mp found
        cases same
        obtain ⟨whole, absent⟩ := inductionHypothesis isLater
        refine ⟨congrArg (symbol :: ·) whole, fun member => ?_⟩
        exact (List.mem_cons.mp member).elim (fun same => other same.symm) absent

theorem cut_append_of_some {front line rest : List Symbol} (found : cut stop front = some (line, rest))
    (later : List Symbol) : cut stop (front ++ later) = some (line, rest ++ later) := by
  obtain ⟨whole, absent⟩ := eq_of_cut found
  rw [whole, List.append_assoc]
  exact cut_line absent _

theorem not_mem_of_cut {stream : List Symbol} (none : cut stop stream = none) : stop ∉ stream := by
  induction stream with
  | nil => exact List.not_mem_nil
  | cons symbol stream inductionHypothesis =>
      rw [cut] at none
      split at none
      · cases none
      · rename_i other
        intro member
        refine (List.mem_cons.mp member).elim (fun same => other same.symm) ?_
        exact inductionHypothesis (Option.map_eq_none_iff.mp none)

theorem length_of_cut {stream line rest : List Symbol} (found : cut stop stream = some (line, rest)) :
    line.length + 1 + rest.length = stream.length := by
  rw [(eq_of_cut found).1, List.length_append, List.length_cons]
  omega

variable (stop)

/-- The lines that a reader with this limit gets before it gives up. -/
def lines (limit : Nat) (stream : List Symbol) : List (List Symbol) :=
  match _found : cut stop stream with
  | none => []
  | some (line, rest) => if line.length ≤ limit then line :: lines limit rest else []
termination_by stream.length
decreasing_by
  have length := length_of_cut _found
  omega

variable {stop}

theorem lines_of_none {limit : Nat} {stream : List Symbol} (none : cut stop stream = none) :
    lines stop limit stream = [] := by
  rw [lines]
  split
  · rfl
  · rename_i found
    rw [none] at found
    cases found

theorem lines_of_some {limit : Nat} {stream line rest : List Symbol} (found : cut stop stream = some (line, rest)) :
    lines stop limit stream = if line.length ≤ limit then line :: lines stop limit rest else [] := by
  rw [lines]
  split
  · rename_i none
    rw [none] at found
    cases found
  · rename_i line' rest' isFound
    rw [isFound] at found
    cases found
    rfl

/-- Lines that are written one after the other are read one after the other. -/
theorem lines_flatMap {limit : Nat} {written : List (List Symbol)}
    (proper : ∀ line ∈ written, stop ∉ line ∧ line.length ≤ limit) :
    lines stop limit (written.flatMap (fun line => line ++ [stop])) = written := by
  induction written with
  | nil => exact lines_of_none rfl
  | cons line written inductionHypothesis =>
      obtain ⟨absent, short⟩ := proper line List.mem_cons_self
      have found : cut stop ((line :: written).flatMap (fun line => line ++ [stop])) =
          some (line, written.flatMap (fun line => line ++ [stop])) := by
        rw [List.flatMap_cons, List.append_assoc, List.singleton_append]
        exact cut_line absent _
      rw [lines_of_some found, if_pos short, inductionHypothesis (fun line member =>
        proper line (List.mem_cons_of_mem _ member))]

/-- What has arrived of written lines is read as the first of them. -/
theorem lines_prefix {limit : Nat} {written : List (List Symbol)}
    (proper : ∀ line ∈ written, stop ∉ line ∧ line.length ≤ limit) {arrived : List Symbol}
    (isPrefix : arrived <+: written.flatMap (fun line => line ++ [stop])) :
    lines stop limit arrived <+: written := by
  induction written generalizing arrived with
  | nil =>
      have nothing : lines stop limit arrived = [] := by
        rw [List.prefix_nil.mp isPrefix]
        exact lines_of_none rfl
      exact nothing ▸ List.nil_prefix
  | cons line written inductionHypothesis =>
      cases found : cut stop arrived with
      | none =>
          rw [lines_of_none found]
          exact List.nil_prefix
      | some cuts =>
          obtain ⟨first, rest⟩ := cuts
          obtain ⟨absent, short⟩ := proper line List.mem_cons_self
          obtain ⟨missing, whole⟩ := isPrefix
          have early := cut_append_of_some found missing
          rw [whole, List.flatMap_cons, List.append_assoc, List.singleton_append, cut_line absent] at early
          obtain ⟨same, later⟩ := Prod.mk.inj (Option.some.inj early)
          rw [lines_of_some found, ← same, if_pos short]
          apply List.cons_prefix_cons.mpr
          refine ⟨rfl, inductionHypothesis (fun other member => proper other (List.mem_cons_of_mem _ member)) ?_⟩
          exact ⟨missing, later.symm⟩

end Lines
end MetaShare
