import Mathlib.Data.Option.Basic
import Mathlib.Data.List.Basic
import Mathlib.Data.List.Induction

namespace MetaShare
namespace Transitions

/-!
# Runs of a partial step function

A concurrent component is a step function on explicit states: an action is one
critical section of one thread, and a step is undefined when the action is not
enabled.  A run is any list of actions, so whatever holds of all runs holds of
all interleavings.
-/

variable {State Action : Type}

/-- Take the actions one after the other, as long as each is enabled. -/
def run (step : State → Action → Option State) (start : State) (actions : List Action) : Option State :=
  actions.foldlM step start

variable {step : State → Action → Option State}

@[simp] theorem run_nil (start : State) : run step start [] = some start := rfl

theorem run_cons_iff {start finish : State} {action : Action} {rest : List Action} :
    run step start (action :: rest) = some finish ↔
      ∃ next, step start action = some next ∧ run step next rest = some finish := by
  rw [run, List.foldlM_cons]
  exact Option.bind_eq_some_iff

theorem run_append_iff {start finish : State} {early late : List Action} :
    run step start (early ++ late) = some finish ↔
      ∃ middle, run step start early = some middle ∧ run step middle late = some finish := by
  rw [run, List.foldlM_append]
  exact Option.bind_eq_some_iff

theorem run_concat_iff {start finish : State} {actions : List Action} {action : Action} :
    run step start (actions ++ [action]) = some finish ↔
      ∃ previous, run step start actions = some previous ∧ step previous action = some finish := by
  rw [run_append_iff]
  refine exists_congr (fun previous => and_congr_right (fun _ => ?_))
  rw [run_cons_iff]
  constructor
  · rintro ⟨next, stepped, ended⟩
    cases ended
    exact stepped
  · exact fun stepped => ⟨finish, stepped, rfl⟩

/-- What an action with a guard does. -/
theorem eq_of_guarded {guard : Prop} [Decidable guard] {state next : State}
    (stepped : (if guard then some state else none) = some next) : guard ∧ next = state := by
  obtain ⟨enabled, same⟩ := Option.ite_none_right_eq_some.mp stepped
  exact ⟨enabled, (Option.some.inj same).symm⟩

/-- What every step preserves, every run preserves. -/
theorem run_invariant {invariant : State → Prop}
    (preserved : ∀ state action next, invariant state → step state action = some next → invariant next)
    {start finish : State} {actions : List Action} (holds : invariant start)
    (ran : run step start actions = some finish) : invariant finish := by
  induction actions generalizing start with
  | nil => exact Option.some.inj ran ▸ holds
  | cons action rest inductionHypothesis =>
      obtain ⟨next, stepped, later⟩ := run_cons_iff.mp ran
      exact inductionHypothesis (preserved start action next holds stepped) later

/-! ## Conditions on the steps -/

/-- Every step of the run meets the condition, in the state in which it is taken. -/
def Throughout (step : State → Action → Option State) (start : State) (condition : State → Action → Prop)
    (actions : List Action) : Prop :=
  ∀ early action late, actions = early ++ action :: late →
    ∀ state, run step start early = some state → condition state action

section Throughout

variable {condition : State → Action → Prop} {start next finish : State} {action : Action} {actions : List Action}

theorem throughout_nil : Throughout step start condition [] := by
  intro early action late impossible
  exact absurd impossible.symm (by simp)

theorem throughout_cons_iff : Throughout step start condition (action :: actions) ↔
    condition start action ∧ ∀ next, step start action = some next → Throughout step next condition actions := by
  constructor
  · intro throughout
    refine ⟨throughout [] action actions rfl start rfl, ?_⟩
    intro next stepped early other late same state ran
    refine throughout (action :: early) other late ?_ state ?_
    · rw [same, List.cons_append]
    · exact run_cons_iff.mpr ⟨next, stepped, ran⟩
  · rintro ⟨first, later⟩ early other late same state ran
    cases early with
    | nil =>
        cases same
        cases ran
        exact first
    | cons head early =>
        cases same
        obtain ⟨next, stepped, ran⟩ := run_cons_iff.mp ran
        exact later next stepped early other late rfl state ran

/-- A run that meets a condition meets it in each of its parts. -/
theorem Throughout.split {late : List Action} (throughout : Throughout step start condition (actions ++ late)) :
    Throughout step start condition actions ∧
      ∀ middle, run step start actions = some middle → Throughout step middle condition late := by
  constructor
  · intro early action rest same state ran
    refine throughout early action (rest ++ late) ?_ state ran
    rw [same, List.append_assoc, List.cons_append]
  · intro middle reached early action rest same state ran
    refine throughout (actions ++ early) action rest ?_ state ?_
    · rw [same, List.append_assoc]
    · exact run_append_iff.mpr ⟨middle, reached, ran⟩

theorem Throughout.append {late : List Action} (throughout : Throughout step start condition actions)
    (later : ∀ middle, run step start actions = some middle → Throughout step middle condition late) :
    Throughout step start condition (actions ++ late) := by
  induction actions generalizing start with
  | nil => exact later start rfl
  | cons action actions inductionHypothesis =>
      obtain ⟨now, afterwards⟩ := throughout_cons_iff.mp throughout
      refine throughout_cons_iff.mpr ⟨now, ?_⟩
      intro next stepped
      refine inductionHypothesis (afterwards next stepped) ?_
      intro middle reached
      exact later middle (run_cons_iff.mpr ⟨next, stepped, reached⟩)

/-- Actions that meet a condition in every state. -/
theorem throughout_of_forall (always : ∀ action ∈ actions, ∀ state, condition state action) :
    Throughout step start condition actions := by
  intro early action late same state _
  apply always
  rw [same]
  exact List.mem_append_right _ List.mem_cons_self

/-- A condition that can be decided can be decided for a whole run. -/
def decideThroughout [∀ state action, Decidable (condition state action)] :
    (start : State) → (actions : List Action) → Decidable (Throughout step start condition actions)
  | _, [] => isTrue throughout_nil
  | start, action :: rest =>
      have : DecidablePred fun next => Throughout step next condition rest := fun next => decideThroughout next rest
      decidable_of_iff (condition start action ∧ ∀ next ∈ step start action, Throughout step next condition rest)
        throughout_cons_iff.symm

instance [∀ state action, Decidable (condition state action)] :
    Decidable (Throughout step start condition actions) := decideThroughout start actions

/-- What every step that meets the condition preserves, a run of such steps
preserves. -/
theorem run_invariant_throughout {invariant : State → Prop}
    (preserved : ∀ state action next, invariant state → condition state action →
      step state action = some next → invariant next)
    (holds : invariant start) (throughout : Throughout step start condition actions)
    (ran : run step start actions = some finish) : invariant finish := by
  induction actions generalizing start with
  | nil => exact Option.some.inj ran ▸ holds
  | cons action rest inductionHypothesis =>
      obtain ⟨next, stepped, later⟩ := run_cons_iff.mp ran
      obtain ⟨now, afterwards⟩ := throughout_cons_iff.mp throughout
      exact inductionHypothesis (preserved start action next holds now stepped) (afterwards next stepped) later

end Throughout

/-! ## Since when -/

/-- The last time a property began to hold: the actions until then, those since,
and the state in which it began. -/
structure Since (step : State → Action → Option State) (start : State) (property : State → Prop)
    (early late : List Action) (began finish : State) : Prop where
  reached : run step start early = some began
  later : run step began late = some finish
  before : ∀ action ∈ early.getLast?, ∀ state ∈ run step start early.dropLast, ¬ property state
  holds : ∀ middle rest, late = middle ++ rest → ∀ state ∈ run step began middle, property state

variable {start previous finish : State} {property : State → Prop} {early late : List Action} {action : Action}

theorem since_start (holds : property start) : Since step start property [] [] start start where
  reached := rfl
  later := rfl
  before := by
    intro action impossible
    cases impossible
  holds := by
    intro middle rest same state isState
    rw [(List.append_eq_nil_iff.mp same.symm).1] at isState
    cases isState
    exact holds

/-- The property begins to hold with the last action. -/
theorem since_now (reached : run step start early = some previous) (stepped : step previous action = some finish)
    (before : ¬ property previous) (holds : property finish) :
    Since step start property (early ++ [action]) [] finish finish where
  reached := run_concat_iff.mpr ⟨previous, reached, stepped⟩
  later := rfl
  before := by
    intro _ _ state isState
    rw [List.dropLast_concat] at isState
    cases isState.symm.trans reached
    exact before
  holds := by
    intro middle rest same state isState
    rw [(List.append_eq_nil_iff.mp same.symm).1] at isState
    cases isState
    exact holds

/-- The property goes on holding. -/
theorem Since.snoc {began : State} (since : Since step start property early late began previous)
    (stepped : step previous action = some finish) (holds : property finish) :
    Since step start property early (late ++ [action]) began finish where
  reached := since.reached
  later := run_concat_iff.mpr ⟨previous, since.later, stepped⟩
  before := since.before
  holds := by
    intro middle rest same state isState
    rcases List.eq_nil_or_concat rest with rfl | ⟨most, last, isRest⟩
    · rw [List.append_nil] at same
      rw [← same] at isState
      obtain ⟨other, isOther, ended⟩ := run_append_iff.mp isState
      cases isOther.symm.trans since.later
      obtain ⟨_, final, ended⟩ := run_cons_iff.mp ended
      cases final.symm.trans stepped
      cases ended
      exact holds
    · rw [List.concat_eq_append] at isRest
      rw [isRest, ← List.append_assoc] at same
      exact since.holds middle most (List.append_inj' same rfl).1 state isState

/-- A property that holds at the end of a run began to hold at some time. -/
theorem exists_since {actions : List Action} (reached : run step start actions = some finish)
    (holds : property finish) :
    ∃ early late began, actions = early ++ late ∧ Since step start property early late began finish := by
  induction actions using List.reverseRecOn generalizing finish with
  | nil =>
      cases reached
      exact ⟨[], [], start, rfl, since_start holds⟩
  | append_singleton actions action inductionHypothesis =>
      obtain ⟨previous, reachedPrevious, stepped⟩ := run_concat_iff.mp reached
      by_cases was : property previous
      · obtain ⟨early, late, began, rfl, since⟩ := inductionHypothesis reachedPrevious was
        exact ⟨early, late ++ [action], began, List.append_assoc _ _ _, since.snoc stepped holds⟩
      · exact ⟨actions ++ [action], [], finish, (List.append_nil _).symm, since_now reachedPrevious stepped was holds⟩

end Transitions
end MetaShare
