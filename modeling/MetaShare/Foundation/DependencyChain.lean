import Mathlib.Data.List.Chain
import Mathlib.Tactic.Common

namespace MetaShare
namespace DependencyChain

/-!
# A queue that keeps a dependency chain

The units of a stream depend on their predecessors, except those that are
independent.  A queue between a producer and a consumer may drop units, but
what it hands on must stay decodable: a dependent unit may only follow directly
on a complete predecessor.  A gate does this.  It closes whenever something is
dropped, and only an independent unit opens it again.
-/

/-- What matters of a unit: into how many parts it is cut, and whether it
depends on its predecessor. -/
structure Shape where
  size : Nat
  independent : Bool
  deriving DecidableEq

/-- A part of a unit, by number. -/
structure Part where
  unit : Nat
  index : Nat
  deriving DecidableEq

def Independent (units : List Shape) (unit : Nat) : Prop :=
  ∃ shape, units[unit]? = some shape ∧ shape.independent = true

/-- The part exists. -/
def Within (units : List Shape) (part : Part) : Prop :=
  ∃ shape, units[part.unit]? = some shape ∧ part.index < shape.size

/-- The part ends its unit. -/
def Ends (units : List Shape) (part : Part) : Prop :=
  ∃ shape, units[part.unit]? = some shape ∧ part.index + 1 = shape.size

/-- A part is followed by the next one of its unit or by the first one of a
later unit.  If that unit is dependent, then the unit before it is complete. -/
def Follows (units : List Shape) (earlier later : Part) : Prop :=
  (later.unit = earlier.unit ∧ later.index = earlier.index + 1) ∨
    (earlier.unit < later.unit ∧ later.index = 0 ∧
      (Independent units later.unit ∨ (later.unit = earlier.unit + 1 ∧ Ends units earlier)))

/-- All that was produced, what has been handed on, what is still queued, and
whether the gate is closed. -/
structure Line where
  units : List Shape
  sent : List Part
  pending : List Part
  closed : Bool

def empty : Line := ⟨[], [], [], true⟩

/-- The first parts of a unit. -/
def partsOf (unit count : Nat) : List Part := (List.range count).map (Part.mk unit)

/-- What can happen to the queue. -/
inductive Step : Line → Line → Prop where
  | refuse (line : Line) (shape : Shape) (shut : line.closed = true) :
      Step line { line with units := line.units ++ [shape] }
  | enter (line : Line) (shape : Shape) (filled : 0 < shape.size)
      (passes : line.closed = true → shape.independent = true) :
      Step line { line with
        units := line.units ++ [shape]
        pending := line.pending ++ partsOf line.units.length shape.size
        closed := false }
  | send (line : Line) (part : Part) (rest : List Part) (first : line.pending = part :: rest) :
      Step line { line with sent := line.sent ++ [part], pending := rest }
  | drop (line : Line) : Step line { line with pending := [], closed := true }

/-- The invariant of the queue.  What was handed on and what is queued form one
chain, which begins with an independent unit; while the gate is open the chain
reaches to the latest unit. -/
structure Line.WellFormed (line : Line) : Prop where
  chain : (line.sent ++ line.pending).IsChain (Follows line.units)
  opens : ∀ first ∈ (line.sent ++ line.pending).head?, first.index = 0 ∧ Independent line.units first.unit
  within : ∀ part ∈ line.sent ++ line.pending, Within line.units part
  gate : line.closed = true → line.pending = []
  latest : line.closed = false → ∃ last ∈ (line.sent ++ line.pending).getLast?,
    last.unit + 1 = line.units.length ∧ Ends line.units last
  dense : ∀ part ∈ line.pending, ∀ unit, part.unit < unit → unit < line.units.length →
    ∃ other ∈ line.pending, other.unit = unit

theorem wellFormed_empty : empty.WellFormed where
  chain := .nil
  opens := by
    intro first impossible
    cases impossible
  within := by
    intro part impossible
    cases impossible
  gate := fun _ => rfl
  latest := by
    intro impossible
    cases impossible
  dense := by
    intro part impossible
    cases impossible

/-! ## More units -/

theorem getElem?_grow {units : List Shape} {unit : Nat} {shape : Shape} (more : List Shape)
    (found : units[unit]? = some shape) : (units ++ more)[unit]? = some shape := by
  rw [List.getElem?_append_left (List.getElem?_eq_some_iff.mp found).1]
  exact found

theorem Independent.grow {units : List Shape} {unit : Nat} (more : List Shape)
    (independent : Independent units unit) : Independent (units ++ more) unit := by
  obtain ⟨shape, found, holds⟩ := independent
  exact ⟨shape, getElem?_grow more found, holds⟩

theorem Within.grow {units : List Shape} {part : Part} (more : List Shape)
    (within : Within units part) : Within (units ++ more) part := by
  obtain ⟨shape, found, holds⟩ := within
  exact ⟨shape, getElem?_grow more found, holds⟩

theorem Within.lt {units : List Shape} {part : Part} (within : Within units part) :
    part.unit < units.length := by
  obtain ⟨shape, found, _⟩ := within
  exact (List.getElem?_eq_some_iff.mp found).1

theorem Ends.grow {units : List Shape} {part : Part} (more : List Shape)
    (ends : Ends units part) : Ends (units ++ more) part := by
  obtain ⟨shape, found, holds⟩ := ends
  exact ⟨shape, getElem?_grow more found, holds⟩

theorem Follows.grow {units : List Shape} {earlier later : Part} (more : List Shape)
    (follows : Follows units earlier later) : Follows (units ++ more) earlier later := by
  rcases follows with same | ⟨before, first, independent | ⟨next, ends⟩⟩
  · exact Or.inl same
  · exact Or.inr ⟨before, first, Or.inl (independent.grow more)⟩
  · exact Or.inr ⟨before, first, Or.inr ⟨next, ends.grow more⟩⟩

theorem Follows.le {units : List Shape} {earlier later : Part} (follows : Follows units earlier later) :
    earlier.unit ≤ later.unit := by
  rcases follows with ⟨same, _⟩ | ⟨before, _⟩
  · exact same.ge
  · exact before.le

/-! ## The parts of one unit -/

theorem partsOf_succ (unit count : Nat) :
    partsOf unit (count + 1) = partsOf unit count ++ [⟨unit, count⟩] := by
  rw [partsOf, List.range_succ, List.map_append]
  rfl

theorem mem_partsOf {unit count : Nat} {part : Part} :
    part ∈ partsOf unit count ↔ part.unit = unit ∧ part.index < count := by
  rw [partsOf, List.mem_map]
  constructor
  · rintro ⟨index, below, rfl⟩
    exact ⟨rfl, List.mem_range.mp below⟩
  · rintro ⟨rfl, below⟩
    exact ⟨part.index, List.mem_range.mpr below, rfl⟩

theorem partsOf_chain (units : List Shape) (unit count : Nat) :
    (partsOf unit count).IsChain (Follows units) := by
  induction count with
  | zero => exact .nil
  | succ count inductionHypothesis =>
      rw [partsOf_succ]
      refine List.isChain_append.mpr ⟨inductionHypothesis, .singleton _, ?_⟩
      intro last isLast next isNext
      cases isNext
      cases count with
      | zero => cases isLast
      | succ count =>
          rw [partsOf_succ, List.getLast?_concat] at isLast
          cases isLast
          exact Or.inl ⟨rfl, rfl⟩

/-! ## Every step keeps the invariant -/

namespace Line.WellFormed

variable {line : Line}

theorem refuse (wellFormed : line.WellFormed) (shape : Shape) (shut : line.closed = true) :
    WellFormed { line with units := line.units ++ [shape] } where
  chain := wellFormed.chain.imp (fun _ _ follows => follows.grow [shape])
  opens := by
    intro first isFirst
    obtain ⟨zero, independent⟩ := wellFormed.opens first isFirst
    exact ⟨zero, independent.grow [shape]⟩
  within := fun part member => (wellFormed.within part member).grow [shape]
  gate := wellFormed.gate
  latest := by
    intro isOpen
    exact absurd (shut.symm.trans isOpen) Bool.noConfusion
  dense := by
    intro part member
    rw [show line.pending = [] from wellFormed.gate shut] at member
    cases member

/-- No queued part belongs to an earlier unit than the first one. -/
theorem head_le (wellFormed : line.WellFormed) {part : Part} {rest : List Part}
    (first : line.pending = part :: rest) : ∀ other ∈ rest, part.unit ≤ other.unit := by
  have chain := (List.isChain_append.mp wellFormed.chain).2.1
  rw [first] at chain
  have ordered : (part :: rest).IsChain (fun earlier later => earlier.unit ≤ later.unit) :=
    chain.imp (fun _ _ follows => follows.le)
  have transitive : IsTrans Part (fun earlier later => earlier.unit ≤ later.unit) :=
    ⟨fun _ _ _ => Nat.le_trans⟩
  exact (List.pairwise_cons.mp ordered.pairwise).1

theorem send (wellFormed : line.WellFormed) {part : Part} {rest : List Part}
    (first : line.pending = part :: rest) :
    WellFormed { line with sent := line.sent ++ [part], pending := rest } := by
  have same : (line.sent ++ [part]) ++ rest = line.sent ++ line.pending := by
    rw [first, List.append_assoc, List.singleton_append]
  constructor
  case chain => exact same ▸ wellFormed.chain
  case opens => exact same ▸ wellFormed.opens
  case within => exact same ▸ wellFormed.within
  case gate =>
    intro shut
    have nothing := wellFormed.gate shut
    rw [first] at nothing
    cases nothing
  case latest => exact same ▸ wellFormed.latest
  case dense =>
    intro other member unit above below
    have listed : other ∈ line.pending := by
      rw [first]
      exact List.mem_cons_of_mem _ member
    obtain ⟨found, isFound, same⟩ := wellFormed.dense other listed unit above below
    rw [first] at isFound
    rcases List.mem_cons.mp isFound with rfl | later
    · exact absurd (wellFormed.head_le first other member) (by omega)
    · exact ⟨found, later, same⟩

theorem enter (wellFormed : line.WellFormed) (shape : Shape) (filled : 0 < shape.size)
    (passes : line.closed = true → shape.independent = true) :
    WellFormed { line with
      units := line.units ++ [shape]
      pending := line.pending ++ partsOf line.units.length shape.size
      closed := false } := by
  have found : (line.units ++ [shape])[line.units.length]? = some shape := by
    rw [List.getElem?_append_right (Nat.le_refl _), Nat.sub_self]
    rfl
  obtain ⟨rest, isRest⟩ : ∃ rest, partsOf line.units.length shape.size =
    rest ++ [⟨line.units.length, shape.size - 1⟩] := by
    obtain ⟨count, isCount⟩ := Nat.exists_eq_succ_of_ne_zero filled.ne'
    rw [isCount, partsOf_succ]
    exact ⟨_, rfl⟩
  have first : (partsOf line.units.length shape.size).head? = some ⟨line.units.length, 0⟩ := by
    obtain ⟨count, isCount⟩ := Nat.exists_eq_succ_of_ne_zero filled.ne'
    rw [isCount, partsOf, List.range_succ_eq_map]
    rfl
  constructor
  case chain =>
    rw [← List.append_assoc]
    refine List.isChain_append.mpr ⟨wellFormed.chain.imp (fun _ _ follows => follows.grow [shape]),
      partsOf_chain _ _ _, ?_⟩
    intro last isLast next isNext
    rw [first] at isNext
    cases isNext
    refine Or.inr ⟨(wellFormed.within last (List.mem_of_getLast? isLast)).lt, rfl, ?_⟩
    -- Behind an open gate the chain reaches to the predecessor.
    cases shut : line.closed with
    | true => exact Or.inl ⟨shape, found, passes shut⟩
    | false =>
        obtain ⟨latest, isLatest, number, ends⟩ := wellFormed.latest shut
        cases Option.some.inj (isLast.symm.trans isLatest)
        exact Or.inr ⟨number.symm, ends.grow [shape]⟩
  case opens =>
    intro opening isOpening
    rw [← List.append_assoc, List.head?_append] at isOpening
    rcases Option.or_eq_some_iff.mp isOpening with older | ⟨nothing, own⟩
    · obtain ⟨zero, independent⟩ := wellFormed.opens opening older
      exact ⟨zero, independent.grow [shape]⟩
    · rw [first] at own
      cases own
      refine ⟨rfl, shape, found, passes ?_⟩
      cases shut : line.closed with
      | true => rfl
      | false =>
          obtain ⟨latest, isLatest, _⟩ := wellFormed.latest shut
          rw [List.head?_eq_none_iff.mp nothing] at isLatest
          cases isLatest
  case within =>
    intro part member
    rw [← List.append_assoc] at member
    rcases List.mem_append.mp member with older | own
    · exact (wellFormed.within part older).grow [shape]
    · obtain ⟨isUnit, below⟩ := mem_partsOf.mp own
      exact ⟨shape, by rw [isUnit]; exact found, below⟩
  case gate =>
    intro impossible
    cases impossible
  case latest =>
    intro _
    refine ⟨⟨line.units.length, shape.size - 1⟩, ?_, ?_, shape, found, ?_⟩
    · rw [isRest, ← List.append_assoc, ← List.append_assoc, List.getLast?_concat]
      rfl
    · rw [List.length_append]
      rfl
    · exact Nat.succ_pred_eq_of_pos filled
  case dense =>
    intro part member unit above below
    rw [List.length_append, List.length_singleton] at below
    rcases Nat.lt_succ_iff_lt_or_eq.mp below with inside | isNew
    · rcases List.mem_append.mp member with older | own
      · obtain ⟨other, listed, same⟩ := wellFormed.dense part older unit above inside
        exact ⟨other, List.mem_append_left _ listed, same⟩
      · have isUnit := (mem_partsOf.mp own).1
        omega
    · exact ⟨⟨line.units.length, 0⟩, List.mem_append_right _ (List.mem_of_mem_head? first), isNew.symm⟩

theorem refuseAll (wellFormed : line.WellFormed) (shapes : List Shape) (shut : line.closed = true) :
    WellFormed { line with units := line.units ++ shapes } := by
  induction shapes generalizing line with
  | nil =>
      rw [List.append_nil]
      exact wellFormed
  | cons shape shapes inductionHypothesis =>
      have later := inductionHypothesis (wellFormed.refuse shape shut) shut
      rw [List.append_assoc, List.singleton_append] at later
      exact later

/-- What was handed on last turns out to be lost, and the gate closes. -/
theorem retract (wellFormed : line.WellFormed) {before after : List Part} (split : line.sent = before ++ after) :
    WellFormed { line with sent := before, pending := [], closed := true } where
  chain := by
    have chain := wellFormed.chain
    rw [split, List.append_assoc] at chain
    rw [List.append_nil]
    exact (List.isChain_append.mp chain).1
  opens := by
    intro first isFirst
    rw [List.append_nil] at isFirst
    apply wellFormed.opens
    rw [split, List.append_assoc, List.head?_append, Option.mem_def.mp isFirst]
    rfl
  within := by
    intro part member
    rw [List.append_nil] at member
    refine wellFormed.within part (List.mem_append_left _ ?_)
    rw [split]
    exact List.mem_append_left _ member
  gate := fun _ => rfl
  latest := by
    intro impossible
    cases impossible
  dense := by
    intro part impossible
    cases impossible

theorem drop (wellFormed : line.WellFormed) : WellFormed { line with pending := [], closed := true } :=
  wellFormed.retract (List.append_nil line.sent).symm

/-- The consumer starts afresh with what is queued, if that begins with an
independent unit. -/
theorem restart (wellFormed : line.WellFormed) (fresh : line.closed = false →
    ∃ first ∈ line.pending.head?, first.index = 0 ∧ Independent line.units first.unit) :
    WellFormed { line with sent := [] } where
  chain := (List.isChain_append.mp wellFormed.chain).2.1
  opens := by
    intro first isFirst
    rw [List.nil_append] at isFirst
    cases shut : line.closed with
    | true =>
        rw [wellFormed.gate shut] at isFirst
        cases isFirst
    | false =>
        obtain ⟨other, isOther, independent⟩ := fresh shut
        cases isFirst.symm.trans isOther
        exact independent
  within := fun part member => wellFormed.within part (List.mem_append_right _ member)
  gate := wellFormed.gate
  latest := by
    intro isOpen
    obtain ⟨last, isLast, reaches⟩ := wellFormed.latest isOpen
    obtain ⟨first, isFirst, _⟩ := fresh isOpen
    refine ⟨last, ?_, reaches⟩
    have filled : line.pending ≠ [] := List.ne_nil_of_mem (List.mem_of_mem_head? isFirst)
    rw [List.getLast?_append_of_ne_nil _ filled] at isLast
    exact isLast
  dense := wellFormed.dense

end Line.WellFormed

theorem Step.wellFormed {line next : Line} (step : Step line next) (wellFormed : line.WellFormed) :
    next.WellFormed := by
  cases step with
  | refuse shape shut => exact wellFormed.refuse shape shut
  | enter shape filled passes => exact wellFormed.enter shape filled passes
  | send part rest first => exact wellFormed.send first
  | drop => exact wellFormed.drop

/-! ## What has been handed on -/

/-- The chain of the parts handed on, and where it begins. -/
structure Sent (units : List Shape) (sent : List Part) : Prop where
  chain : sent.IsChain (Follows units)
  opens : ∀ first ∈ sent.head?, first.index = 0 ∧ Independent units first.unit
  within : ∀ part ∈ sent, Within units part

theorem Line.WellFormed.sent {line : Line} (wellFormed : line.WellFormed) : Sent line.units line.sent where
  chain := (List.isChain_append.mp wellFormed.chain).1
  opens := by
    intro first isFirst
    apply wellFormed.opens
    rw [List.head?_append, Option.mem_def.mp isFirst]
    rfl
  within := fun part member => wellFormed.within part (List.mem_append_left _ member)

/-- The last part of the unit has been handed on. -/
def Complete (units : List Shape) (sent : List Part) (unit : Nat) : Prop :=
  ∃ part ∈ sent, part.unit = unit ∧ Ends units part

namespace Sent

variable {units : List Shape} {sent : List Part}

theorem early {before later : List Part} (holds : Sent units (before ++ later)) : Sent units before where
  chain := (List.isChain_append.mp holds.chain).1
  opens := by
    intro first isFirst
    apply holds.opens
    rw [List.head?_append, Option.mem_def.mp isFirst]
    rfl
  within := fun part member => holds.within part (List.mem_append_left _ member)

/-- The parts are prefixes of units, one after the other. -/
structure Prefixes (units : List Shape) (sent : List Part) (runs : List (Nat × Nat)) : Prop where
  ordered : runs.Pairwise (fun earlier later => earlier.1 < later.1)
  bounded : ∀ run ∈ runs, ∃ shape, units[run.1]? = some shape ∧ 0 < run.2 ∧ run.2 ≤ shape.size
  latest : ∀ last ∈ sent.getLast?, runs.getLast? = some (last.unit, last.index + 1)
  same : sent = runs.flatMap (fun run => partsOf run.1 run.2)

namespace Prefixes

variable {runs : List (Nat × Nat)} {part : Part}

theorem nil : Prefixes units [] [] where
  ordered := .nil
  bounded := by
    intro run impossible
    cases impossible
  latest := by
    intro last impossible
    cases impossible
  same := rfl

theorem eq_nil (prefixes : Prefixes units [] runs) : runs = [] := by
  cases runs with
  | nil => rfl
  | cons run runs =>
      obtain ⟨_, _, positive, _⟩ := prefixes.bounded run List.mem_cons_self
      have same := prefixes.same
      rw [List.flatMap_cons] at same
      have count := congrArg List.length (List.append_eq_nil_iff.mp same.symm).1
      rw [partsOf, List.length_map, List.length_range] at count
      exact absurd count positive.ne'

/-- The first part of a unit beyond all others begins a prefix. -/
theorem begin (prefixes : Prefixes units sent runs) (zero : part.index = 0) (within : Within units part)
    (beyond : ∀ run ∈ runs, run.1 < part.unit) : Prefixes units (sent ++ [part]) (runs ++ [(part.unit, 1)]) where
  ordered := by
    rw [List.pairwise_append]
    refine ⟨prefixes.ordered, List.pairwise_singleton _ _, fun run member other isOther => ?_⟩
    rw [List.mem_singleton.mp isOther]
    exact beyond run member
  bounded := by
    obtain ⟨shape, found, below⟩ := within
    intro run member
    rcases List.mem_append.mp member with older | own
    · exact prefixes.bounded run older
    · rw [List.mem_singleton.mp own]
      exact ⟨shape, found, Nat.one_pos, by omega⟩
  latest := by
    intro last isLast
    rw [List.getLast?_concat] at isLast
    cases isLast
    rw [List.getLast?_concat, zero]
  same := by
    rw [List.flatMap_append, ← prefixes.same, List.flatMap_singleton]
    simp [partsOf, ← zero]

/-- The next part of the latest unit extends its prefix. -/
theorem extend {most : List (Nat × Nat)} {last : Part}
    (prefixes : Prefixes units sent (most ++ [(last.unit, last.index + 1)])) (sameUnit : part.unit = last.unit)
    (next : part.index = last.index + 1) (within : Within units part) :
    Prefixes units (sent ++ [part]) (most ++ [(part.unit, part.index + 1)]) where
  ordered := by
    have ordered := List.pairwise_append.mp prefixes.ordered
    rw [List.pairwise_append]
    refine ⟨ordered.1, List.pairwise_singleton _ _, fun run member other isOther => ?_⟩
    rw [List.mem_singleton.mp isOther, sameUnit]
    exact ordered.2.2 run member (last.unit, last.index + 1) List.mem_cons_self
  bounded := by
    obtain ⟨shape, found, below⟩ := within
    intro run member
    rcases List.mem_append.mp member with older | own
    · exact prefixes.bounded run (List.mem_append_left _ older)
    · rw [List.mem_singleton.mp own]
      exact ⟨shape, found, Nat.succ_pos _, below⟩
  latest := by
    intro other isOther
    rw [List.getLast?_concat] at isOther
    cases isOther
    rw [List.getLast?_concat]
  same := by
    rw [prefixes.same, List.flatMap_append, List.flatMap_append, List.append_assoc, List.flatMap_singleton,
      List.flatMap_singleton, sameUnit, ← next, partsOf_succ, ← sameUnit]

end Prefixes

theorem prefixes (holds : Sent units sent) : ∃ runs, Prefixes units sent runs := by
  induction sent using List.reverseRecOn with
  | nil => exact ⟨[], .nil⟩
  | append_singleton sent part inductionHypothesis =>
      obtain ⟨runs, soFar⟩ := inductionHypothesis holds.early
      have within := holds.within part List.mem_concat_self
      rcases List.eq_nil_or_concat' sent with rfl | ⟨before, last, rfl⟩
      · -- The first part of all begins the first prefix.
        refine ⟨_, soFar.begin (holds.opens part rfl).1 within ?_⟩
        rw [soFar.eq_nil]
        intro run impossible
        cases impossible
      · obtain ⟨most, rfl⟩ := List.getLast?_eq_some_iff.mp (soFar.latest last List.getLast?_concat)
        have follows : Follows units last part :=
          (List.isChain_append.mp holds.chain).2.2 last List.getLast?_concat part rfl
        rcases follows with ⟨sameUnit, next⟩ | ⟨after, zero, _⟩
        · exact ⟨_, soFar.extend sameUnit next within⟩
        · refine ⟨_, soFar.begin zero within (fun run member => ?_)⟩
          rcases List.mem_append.mp member with older | own
          · have lower := (List.pairwise_append.mp soFar.ordered).2.2 run older _ List.mem_cons_self
            exact lower.trans after
          · rw [List.mem_singleton.mp own]
            exact after

/-- Behind an incomplete unit the next one that is handed on is independent. -/
theorem independent_after_loss (holds : Sent units sent) {lost unit : Nat} (later : lost < unit)
    (incomplete : ¬ Complete units sent lost) {part : Part} (handedOn : part ∈ sent)
    (isUnit : part.unit = unit)
    (next : ∀ other ∈ sent, lost < other.unit → unit ≤ other.unit) : Independent units unit := by
  induction sent using List.reverseRecOn generalizing part with
  | nil => cases handedOn
  | append_singleton sent last inductionHypothesis =>
      by_cases before : ∃ other ∈ sent, other.unit = unit
      · obtain ⟨other, listed, same⟩ := before
        refine inductionHypothesis holds.early ?_ listed same
          (fun other member => next other (List.mem_append_left _ member))
        rintro ⟨ending, member, isLost, ends⟩
        exact incomplete ⟨ending, List.mem_append_left _ member, isLost, ends⟩
      have own : last.unit = unit := by
        rcases List.mem_append.mp handedOn with older | new
        · exact absurd ⟨part, older, isUnit⟩ before
        · rw [← List.mem_singleton.mp new]
          exact isUnit
      rcases List.eq_nil_or_concat sent with rfl | ⟨most, predecessor, isPredecessor⟩
      · exact own ▸ (holds.opens last rfl).2
      rw [List.concat_eq_append] at isPredecessor
      have listed : predecessor ∈ sent := by
        rw [isPredecessor]
        exact List.mem_concat_self
      have follows : Follows units predecessor last :=
        (List.isChain_append.mp holds.chain).2.2 predecessor
          (by rw [isPredecessor, List.getLast?_concat]; rfl) last rfl
      rcases follows with ⟨same, _⟩ | ⟨after, _, independent | ⟨successor, ends⟩⟩
      · exact absurd ⟨predecessor, listed, same.symm.trans own⟩ before
      · exact own ▸ independent
      · -- The predecessor is complete, so it is not the lost unit and lies beyond it.
        have notLost : predecessor.unit ≠ lost := fun same =>
          incomplete ⟨predecessor, List.mem_append_left _ listed, same, ends⟩
        have := next predecessor (List.mem_append_left _ listed) (by omega)
        omega

end Sent

/-- A unit that was produced, is not complete and is not queued any more. -/
def Line.Lost (line : Line) (unit : Nat) : Prop :=
  unit < line.units.length ∧ ¬ Complete line.units line.sent unit ∧ ∀ part ∈ line.pending, part.unit ≠ unit

/-- If nothing beyond a lost unit has been handed on yet, then the next part
is the first one of an independent unit beyond it. -/
theorem Line.WellFormed.next_after_loss {line : Line} (wellFormed : line.WellFormed) {lost : Nat}
    (isLost : line.Lost lost) (latest : ∀ part ∈ line.sent, part.unit ≤ lost) {part : Part}
    {rest : List Part} (first : line.pending = part :: rest) :
    lost < part.unit ∧ part.index = 0 ∧ Independent line.units part.unit := by
  obtain ⟨inside, incomplete, absent⟩ := isLost
  have queued : part ∈ line.pending := by
    rw [first]
    exact List.mem_cons_self
  have different := absent part queued
  have beyond : lost < part.unit := by
    by_contra notBeyond
    obtain ⟨other, member, same⟩ := wellFormed.dense part queued lost (by omega) inside
    exact absent other member same
  refine ⟨beyond, ?_⟩
  rcases List.eq_nil_or_concat line.sent with none | ⟨most, last, isLast⟩
  · exact wellFormed.opens part (by rw [none, first]; rfl)
  rw [List.concat_eq_append] at isLast
  have listed : last ∈ line.sent := by
    rw [isLast]
    exact List.mem_concat_self
  have bound := latest last listed
  have follows : Follows line.units last part :=
    (List.isChain_append.mp wellFormed.chain).2.2 last (by rw [isLast, List.getLast?_concat]; rfl)
      part (by rw [first]; rfl)
  rcases follows with ⟨same, _⟩ | ⟨after, zero, independent | ⟨successor, ends⟩⟩
  · omega
  · exact ⟨zero, independent⟩
  · exact absurd ⟨last, listed, by omega, ends⟩ incomplete

end DependencyChain
end MetaShare
