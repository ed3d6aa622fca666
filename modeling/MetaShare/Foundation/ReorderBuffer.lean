import Mathlib.Algebra.Order.Ring.Int
import Mathlib.Data.List.Chain
import Mathlib.Data.List.Forall2
import Mathlib.Data.List.Induction
import Mathlib.Data.List.Infix
import Mathlib.Tactic.Common

namespace MetaShare

/-!
# Reordering a numbered stream

A receiver that may get numbered items late, twice or not at all holds early
items back until the missing ones have arrived or are given up.  This module
describes such a buffer for arbitrary items.  Two operations drive it: `offer`
takes an arriving item, `release` gives up waiting for whatever precedes the
lowest held item.  Nothing is said about *when* an item is released; every
result holds for all sequences of operations, so an implementation is free to
decide by age, by the number of held items, or not at all.
-/

namespace SerialNumber

/-!
## Unwrapping serial numbers

A counter that is sent modulo `m` can be followed without limit by a receiver
that remembers its own unwrapped value: it takes the signed distance between
the residues, the representative of least absolute value, as the distance
between the counters.  The answer is the true one for as long as consecutive
values stay less than half the modulus apart, whatever the order in which they
arrive and however often the counter has wrapped.
-/

/-- The number congruent to `residue` that lies closest to `reference`. -/
def unwrap (modulus : Nat) (reference residue : Int) : Int :=
  reference + (residue - reference % modulus).bmod modulus

/-- Only the signed distance between the two counters matters, not how often
either of them has wrapped. -/
theorem unwrap_emod (modulus : Nat) (reference value : Int) :
    unwrap modulus reference (value % modulus) = reference + (value - reference).bmod modulus := by
  rw [unwrap, Int.sub_emod_bmod, Int.emod_sub_bmod]

/-- A counter less than half the modulus away from the reference is recovered
exactly. -/
theorem unwrap_of_near (modulus : Nat) (reference value : Int)
    (behind : -modulus ≤ (value - reference) * 2) (ahead : (value - reference) * 2 < modulus) :
    unwrap modulus reference (value % modulus) = value := by
  rw [unwrap_emod, Int.bmod_eq_of_le_mul_two behind ahead]
  omega

end SerialNumber

namespace OrderedMap

variable {α : Type}

/-- Store a value under a key in a list ordered by key, replacing the value
of an equal key. -/
def put (key : Int) (value : α) : List (Int × α) → List (Int × α)
  | [] => [(key, value)]
  | entry :: rest =>
      if key < entry.1 then (key, value) :: entry :: rest
      else if key = entry.1 then (key, value) :: rest
      else entry :: put key value rest

def containsKey (key : Int) (entries : List (Int × α)) : Bool :=
  entries.any (fun entry => entry.1 == key)

/-- Keys grow strictly along the list. -/
def Ordered (entries : List (Int × α)) : Prop :=
  entries.Pairwise (fun first second => first.1 < second.1)

theorem containsKey_eq_false_iff (key : Int) (entries : List (Int × α)) :
    containsKey key entries = false ↔ ∀ entry ∈ entries, entry.1 ≠ key := by
  simp [containsKey]

/-- With a new key, storing adds exactly one entry. -/
theorem mem_put (key : Int) (value : α) (entries : List (Int × α))
    (absent : containsKey key entries = false) (entry : Int × α) :
    entry ∈ put key value entries ↔ entry = (key, value) ∨ entry ∈ entries := by
  induction entries with
  | nil => simp [put]
  | cons first rest inductionHypothesis =>
      have fresh := (containsKey_eq_false_iff key _).mp absent
      have different : key ≠ first.1 := Ne.symm (fresh first List.mem_cons_self)
      have tail := inductionHypothesis ((containsKey_eq_false_iff key rest).mpr
        (fun other member => fresh other (List.mem_cons_of_mem first member)))
      by_cases before : key < first.1
      · simp [put, before]
      · simp only [put, if_neg before, if_neg different, List.mem_cons, tail]
        tauto

theorem length_put (key : Int) (value : α) (entries : List (Int × α))
    (absent : containsKey key entries = false) :
    (put key value entries).length = entries.length + 1 := by
  induction entries with
  | nil => rfl
  | cons first rest inductionHypothesis =>
      have fresh := (containsKey_eq_false_iff key _).mp absent
      have different : key ≠ first.1 := Ne.symm (fresh first List.mem_cons_self)
      have tail := inductionHypothesis ((containsKey_eq_false_iff key rest).mpr
        (fun other member => fresh other (List.mem_cons_of_mem first member)))
      by_cases before : key < first.1
      · simp [put, before]
      · simp [put, before, different, tail]

theorem put_ordered (key : Int) (value : α) (entries : List (Int × α))
    (absent : containsKey key entries = false) (ordered : Ordered entries) :
    Ordered (put key value entries) := by
  induction entries with
  | nil => exact List.pairwise_singleton _ _
  | cons first rest inductionHypothesis =>
      have fresh := (containsKey_eq_false_iff key _).mp absent
      have different : key ≠ first.1 := Ne.symm (fresh first List.mem_cons_self)
      have absentTail : containsKey key rest = false := (containsKey_eq_false_iff key rest).mpr
        (fun other member => fresh other (List.mem_cons_of_mem first member))
      have parts := List.pairwise_cons.mp ordered
      by_cases before : key < first.1
      · rw [put, if_pos before]
        refine List.pairwise_cons.mpr ⟨?_, ordered⟩
        intro entry member
        rcases List.mem_cons.mp member with same | later
        · exact same ▸ before
        · exact Int.lt_trans before (parts.1 entry later)
      · rw [put, if_neg before, if_neg different]
        refine List.pairwise_cons.mpr ⟨?_, inductionHypothesis absentTail parts.2⟩
        intro entry member
        rcases (mem_put key value rest absentTail entry).mp member with same | later
        · rw [same]
          show first.1 < key
          omega
        · exact parts.1 entry later

/-! Changing the values leaves the keys alone. -/

theorem containsKey_map {β : Type} (change : α → β) (key : Int) (entries : List (Int × α)) :
    containsKey key (entries.map (fun entry => (entry.1, change entry.2))) = containsKey key entries := by
  simp only [containsKey, List.any_map, Function.comp_def]

theorem put_map {β : Type} (change : α → β) (key : Int) (value : α) (entries : List (Int × α)) :
    (put key value entries).map (fun entry => (entry.1, change entry.2)) =
      put key (change value) (entries.map (fun entry => (entry.1, change entry.2))) := by
  induction entries with
  | nil => rfl
  | cons entry rest inductionHypothesis =>
      simp only [put, List.map_cons]
      split
      · rfl
      split
      · rfl
      · rw [List.map_cons, inductionHypothesis]

/-! ## Ages

Values carry a stamp.  Looking at the first entry tells about all of them as
long as entries that do not directly follow another one are no younger than
what lies behind them.
-/

section Ages

variable (stamp : α → Int)

/-- Whatever follows neither `next` nor a held key directly is at least as old
as all entries behind it. -/
def InTurn (next : Int) (entries : List (Int × α)) : Prop :=
  ∀ head ∈ entries, head.1 ≠ next → containsKey (head.1 - 1) entries = false →
    ∀ entry ∈ entries, head.1 < entry.1 → stamp head.2 ≤ stamp entry.2

variable {stamp} {next key : Int} {value : α} {entries rest : List (Int × α)}

/-- Nothing is older than the first entry, unless that is the next one. -/
theorem InTurn.first (turns : InTurn stamp next ((key, value) :: rest)) (ordered : Ordered ((key, value) :: rest))
    (skipped : key ≠ next) : ∀ entry ∈ rest, stamp value ≤ stamp entry.2 := by
  have above := (List.pairwise_cons.mp ordered).1
  have alone : containsKey (key - 1) ((key, value) :: rest) = false := by
    apply (containsKey_eq_false_iff _ _).mpr
    intro entry member
    rcases List.mem_cons.mp member with same | later
    · rw [same]
      show key ≠ key - 1
      omega
    · have := above entry later
      omega
  intro entry member
  exact turns (key, value) List.mem_cons_self skipped alone entry (List.mem_cons_of_mem _ member) (above entry member)

/-- Taking the first entry away keeps the turns. -/
theorem InTurn.tail (turns : InTurn stamp next ((key, value) :: rest)) (ordered : Ordered ((key, value) :: rest))
    (current : next ≤ key) : InTurn stamp (key + 1) rest := by
  have above := (List.pairwise_cons.mp ordered).1
  intro head member skipped alone entry later behind
  have beyond := above head member
  refine turns head (List.mem_cons_of_mem _ member) (by omega) ?_ entry (List.mem_cons_of_mem _ later) behind
  apply (containsKey_eq_false_iff _ _).mpr
  intro other listed
  rcases List.mem_cons.mp listed with same | early
  · rw [same]
    show key ≠ head.1 - 1
    omega
  · exact (containsKey_eq_false_iff _ _).mp alone other early

/-- Where nothing held is next, the playout point may move. -/
theorem InTurn.move (turns : InTurn stamp next entries) (ahead : ∀ entry ∈ entries, entry.1 ≠ next) (later : Int) :
    InTurn stamp later entries := fun head member _ alone =>
  turns head member (ahead head member) alone

/-- A new entry is the youngest; behind it there must be no older one, unless it
directly follows another one. -/
theorem InTurn.put (turns : InTurn stamp next entries) (absent : containsKey key entries = false)
    (youngest : ∀ entry ∈ entries, entry.1 < key → stamp entry.2 ≤ stamp value)
    (unshielded : containsKey (key - 1) entries = false → ∀ entry ∈ entries, key < entry.1 →
      stamp value ≤ stamp entry.2) : InTurn stamp next (put key value entries) := by
  intro head member skipped alone entry later behind
  have aloneBefore : containsKey (head.1 - 1) entries = false := by
    apply (containsKey_eq_false_iff _ _).mpr
    intro other listed
    exact (containsKey_eq_false_iff _ _).mp alone other ((mem_put key value entries absent other).mpr (Or.inr listed))
  rcases (mem_put key value entries absent head).mp member with rfl | old
  · rcases (mem_put key value entries absent entry).mp later with rfl | oldEntry
    · exact le_refl _
    · exact unshielded aloneBefore entry oldEntry behind
  · rcases (mem_put key value entries absent entry).mp later with rfl | oldEntry
    · exact youngest head old behind
    · exact turns head old skipped aloneBefore entry oldEntry behind

end Ages

end OrderedMap

namespace ReorderBuffer

open OrderedMap

variable {α : Type}

/-- One item handed on, and whether a gap was announced in front of it. -/
structure Delivery (α : Type) where
  gap : Bool
  key : Int
  value : α

/-- The buffer together with everything it has handed on so far.  The playout
point `next` is the number expected to be handed on next; there is none before
the first item. -/
structure Buffer (α : Type) where
  next : Option Int
  held : List (Int × α)
  delivered : List (Delivery α)

namespace Buffer

def empty : Buffer α := ⟨none, [], []⟩

/-- Hand an item on; the gap flag says that some number before it was skipped. -/
def deliver (buffer : Buffer α) (key : Int) (value : α) : Buffer α :=
  { buffer with
    next := some (key + 1)
    delivered := buffer.delivered ++ [⟨buffer.next.any (fun next => next != key), key, value⟩] }

/-- An arriving item is stale, due at once, a duplicate, or held back. -/
def offer (buffer : Buffer α) (key : Int) (value : α) : Buffer α :=
  match buffer.next with
  | none => buffer.deliver key value
  | some next =>
      if key < next then buffer
      else if key = next then buffer.deliver key value
      else if containsKey key buffer.held then buffer
      else { buffer with held := put key value buffer.held }

/-- Hand on the lowest held item, whether or not its predecessors arrived. -/
def release (buffer : Buffer α) : Buffer α :=
  match buffer.held with
  | [] => buffer
  | (key, value) :: rest => { buffer with held := rest }.deliver key value

/-! ## The order invariant -/

/-- Consecutive deliveries grow, and a gap is announced exactly where a number
was skipped. -/
def Follows (first second : Delivery α) : Prop :=
  first.key < second.key ∧ (second.gap = true ↔ second.key ≠ first.key + 1)

/-- What holds of the buffer at any moment: held items lie at or beyond the
playout point, in order, and the deliveries so far form a chain that ends just
before it. -/
structure WellFormed (buffer : Buffer α) : Prop where
  ordered : Ordered buffer.held
  ahead : ∀ next ∈ buffer.next, ∀ entry ∈ buffer.held, next ≤ entry.1
  fresh : buffer.next = none → buffer.held = []
  latest : buffer.next = buffer.delivered.getLast?.map (fun last => last.key + 1)
  chain : buffer.delivered.IsChain Follows
  first : ∀ delivery ∈ buffer.delivered.head?, delivery.gap = false

theorem wellFormed_empty : WellFormed (empty : Buffer α) where
  ordered := List.Pairwise.nil
  ahead := by intro next member; cases member
  fresh := fun _ => rfl
  latest := rfl
  chain := List.IsChain.nil
  first := by intro delivery member; cases member

/-- Handing on an item that is not stale, below everything held, keeps order. -/
theorem deliver_wellFormed {buffer : Buffer α} (wellFormed : WellFormed buffer)
    (key : Int) (value : α)
    (current : ∀ next ∈ buffer.next, next ≤ key)
    (below : ∀ entry ∈ buffer.held, key < entry.1) :
    WellFormed (buffer.deliver key value) where
  ordered := wellFormed.ordered
  ahead := by
    intro next member entry held
    have same : key + 1 = next := Option.some.inj member
    have := below entry held
    omega
  fresh := by intro impossible; cases impossible
  latest := by simp [deliver]
  chain := by
    refine List.isChain_append.mpr ⟨wellFormed.chain, List.IsChain.singleton _, ?_⟩
    intro last isLast new isNew
    have last_next : buffer.next = some (last.key + 1) := by
      rw [wellFormed.latest, isLast]; rfl
    have notStale := current (last.key + 1) last_next
    have same := Option.some.inj isNew
    subst same
    refine ⟨?_, ?_⟩
    · show last.key < key
      omega
    · simp only [last_next, Option.any_some, bne_iff_ne]
      exact ne_comm
  first := by
    intro delivery member
    cases history : buffer.delivered with
    | nil =>
        have unset : buffer.next = none := by rw [wellFormed.latest, history]; rfl
        have same : _ = delivery := Option.some.inj (by simpa [deliver, history] using member)
        rw [← same, unset]
        rfl
    | cons head tail =>
        apply wellFormed.first
        simpa [deliver, history] using member

/-- No held item is due: every one lies strictly beyond the playout point. -/
def Settled (buffer : Buffer α) : Prop :=
  ∀ next ∈ buffer.next, ∀ entry ∈ buffer.held, next < entry.1

/-- The four things that can happen to an offered item: it is handed on, it is
stale, it is a duplicate of a held item, or it is held. -/
theorem offer_cases (buffer : Buffer α) (key : Int) (value : α) :
    (buffer.offer key value = buffer.deliver key value ∧ ∀ next ∈ buffer.next, next = key) ∨
    (buffer.offer key value = buffer ∧ ∃ next ∈ buffer.next, key < next) ∨
    (buffer.offer key value = buffer ∧ containsKey key buffer.held = true) ∨
    (buffer.offer key value = { buffer with held := put key value buffer.held } ∧
      containsKey key buffer.held = false ∧ ∃ next ∈ buffer.next, next < key) := by
  cases position : buffer.next with
  | none => exact Or.inl ⟨by simp only [offer, position], by intro next member; cases member⟩
  | some next =>
      by_cases stale : key < next
      · exact Or.inr (Or.inl ⟨by simp only [offer, position, stale, if_true], next, rfl, stale⟩)
      by_cases due : key = next
      · refine Or.inl ⟨by simp only [offer, position, if_neg stale, if_pos due], ?_⟩
        intro other member
        cases member
        exact due.symm
      cases present : containsKey key buffer.held with
      | true =>
          exact Or.inr (Or.inr (Or.inl
            ⟨by simp only [offer, position, if_neg stale, if_neg due, present, if_true], rfl⟩))
      | false =>
          refine Or.inr (Or.inr (Or.inr ⟨?_, rfl, next, rfl, by omega⟩))
          simp only [offer, position, if_neg stale, if_neg due, present, Bool.false_eq_true, if_false]

/-- Releasing hands on the lowest held item, if there is one. -/
theorem release_cases (buffer : Buffer α) :
    (buffer.release = buffer ∧ buffer.held = []) ∨
    ∃ key value rest, buffer.held = (key, value) :: rest ∧
      buffer.release = { buffer with held := rest }.deliver key value := by
  cases contents : buffer.held with
  | nil => exact Or.inl ⟨by simp only [release, contents], rfl⟩
  | cons entry rest => exact Or.inr ⟨entry.1, entry.2, rest, rfl, by simp only [release, contents]⟩

theorem offer_wellFormed {buffer : Buffer α} (wellFormed : WellFormed buffer)
    (settled : Settled buffer) (key : Int) (value : α) : WellFormed (buffer.offer key value) := by
  rcases offer_cases buffer key value with ⟨same, due⟩ | ⟨same, _⟩ | ⟨same, _⟩ |
    ⟨same, absent, next, position, later⟩
  · rw [same]
    refine deliver_wellFormed wellFormed key value (fun next member => (due next member).le) ?_
    intro entry member
    cases position : buffer.next with
    | none =>
        rw [wellFormed.fresh position] at member
        cases member
    | some next => exact due next position ▸ settled next position entry member
  · rw [same]
    exact wellFormed
  · rw [same]
    exact wellFormed
  · rw [same]
    refine ⟨put_ordered key value _ absent wellFormed.ordered, ?_, ?_, wellFormed.latest,
      wellFormed.chain, wellFormed.first⟩
    · intro other member entry held
      cases Option.mem_unique position member
      rcases (mem_put key value _ absent entry).mp held with new | old
      · exact new ▸ later.le
      · exact wellFormed.ahead next position entry old
    · intro unset
      cases position.symm.trans unset

theorem release_wellFormed {buffer : Buffer α} (wellFormed : WellFormed buffer) :
    WellFormed buffer.release := by
  rcases release_cases buffer with ⟨same, _⟩ | ⟨key, value, rest, contents, same⟩
  · rw [same]
    exact wellFormed
  · have parts := List.pairwise_cons.mp (contents ▸ wellFormed.ordered)
    rw [same]
    apply deliver_wellFormed
    · refine ⟨parts.2, ?_, ?_, wellFormed.latest, wellFormed.chain, wellFormed.first⟩
      · intro next member other held
        exact wellFormed.ahead next member other (contents ▸ List.mem_cons_of_mem _ held)
      · intro unset
        cases contents.symm.trans (wellFormed.fresh unset)
    · intro next member
      exact wellFormed.ahead next member (key, value) (contents ▸ List.mem_cons_self)
    · exact parts.1

/-! ## Runs -/

/-- A run from one buffer to another, with the items offered on the way.  An
item is offered only when nothing held is due any more. -/
inductive Steps (start : Buffer α) : List (Int × α) → Buffer α → Prop where
  | refl : Steps start [] start
  | release {offered : List (Int × α)} {buffer : Buffer α} :
      Steps start offered buffer → Steps start offered buffer.release
  | offer {offered : List (Int × α)} {buffer : Buffer α} (key : Int) (value : α) :
      Steps start offered buffer → Settled buffer →
        Steps start (offered ++ [(key, value)]) (buffer.offer key value)

theorem Steps.trans {start middle finish : Buffer α} {early late : List (Int × α)}
    (first : Steps start early middle) (second : Steps middle late finish) :
    Steps start (early ++ late) finish := by
  induction second with
  | refl => simpa using first
  | release _ inductionHypothesis => exact inductionHypothesis.release
  | offer key value _ settled inductionHypothesis =>
      rw [← List.append_assoc]
      exact inductionHypothesis.offer key value settled

theorem Steps.wellFormed {start finish : Buffer α} {offered : List (Int × α)}
    (steps : Steps start offered finish) (initial : WellFormed start) : WellFormed finish := by
  induction steps with
  | refl => exact initial
  | release _ inductionHypothesis => exact release_wellFormed inductionHypothesis
  | offer key value _ settled inductionHypothesis =>
      exact offer_wellFormed inductionHypothesis settled key value

/-- An item is accounted for when it has been handed on or is still held. -/
def Accounted (buffer : Buffer α) (key : Int) (value : α) : Prop :=
  (∃ gap, ⟨gap, key, value⟩ ∈ buffer.delivered) ∨ (key, value) ∈ buffer.held

theorem deliver_accounted (buffer : Buffer α) (key : Int) (value : α) :
    Accounted (buffer.deliver key value) key value :=
  Or.inl ⟨_, List.mem_append_right _ List.mem_cons_self⟩

theorem Accounted.deliver {buffer : Buffer α} {key : Int} {value : α}
    (accounted : Accounted buffer key value) (other : Int) (item : α) :
    Accounted (buffer.deliver other item) key value := by
  rcases accounted with ⟨gap, member⟩ | held
  · exact Or.inl ⟨gap, List.mem_append_left _ member⟩
  · exact Or.inr held

theorem Accounted.offer {buffer : Buffer α} {key : Int} {value : α}
    (accounted : Accounted buffer key value) (other : Int) (item : α) :
    Accounted (buffer.offer other item) key value := by
  rcases offer_cases buffer other item with ⟨same, _⟩ | ⟨same, _⟩ | ⟨same, _⟩ | ⟨same, absent, _⟩
  · rw [same]
    exact accounted.deliver other item
  · rw [same]
    exact accounted
  · rw [same]
    exact accounted
  · rw [same]
    exact accounted.imp_right (fun held => (mem_put other item _ absent _).mpr (Or.inr held))

theorem Accounted.release {buffer : Buffer α} {key : Int} {value : α}
    (accounted : Accounted buffer key value) : Accounted buffer.release key value := by
  rcases release_cases buffer with ⟨same, _⟩ | ⟨other, item, rest, contents, same⟩
  · rw [same]
    exact accounted
  rw [same]
  rcases accounted with delivered | held
  · have kept : Accounted { buffer with held := rest } key value := Or.inl delivered
    exact kept.deliver other item
  rcases List.mem_cons.mp (contents ▸ held) with first | later
  · cases first
    exact deliver_accounted _ _ _
  · have kept : Accounted { buffer with held := rest } key value := Or.inr later
    exact kept.deliver other item

/-- Nothing that has been accounted for is ever lost. -/
theorem Steps.accounted {start finish : Buffer α} {offered : List (Int × α)}
    (steps : Steps start offered finish) {key : Int} {value : α}
    (initial : Accounted start key value) : Accounted finish key value := by
  induction steps with
  | refl => exact initial
  | release _ inductionHypothesis => exact inductionHypothesis.release
  | offer other item _ _ inductionHypothesis => exact inductionHypothesis.offer other item

/-- The first copy of an item at or beyond the playout point is accounted for
from then on. -/
theorem offer_accounted (buffer : Buffer α) (key : Int) (value : α)
    (current : ∀ next ∈ buffer.next, next ≤ key) (new : containsKey key buffer.held = false) :
    Accounted (buffer.offer key value) key value := by
  rcases offer_cases buffer key value with ⟨same, _⟩ | ⟨_, next, position, stale⟩ |
    ⟨_, present⟩ | ⟨same, absent, _⟩
  · exact same ▸ deliver_accounted buffer key value
  · have := current next position
    omega
  · cases new.symm.trans present
  · exact same ▸ Or.inr ((mem_put key value _ absent _).mpr (Or.inl rfl))

/-- The playout point never moves back. -/
theorem ahead_of_offer {buffer : Buffer α} {key bound : Int} {value : α}
    (ahead : ∀ next ∈ (buffer.offer key value).next, next ≤ bound) : ∀ next ∈ buffer.next, next ≤ bound := by
  intro next position
  rcases offer_cases buffer key value with ⟨same, due⟩ | ⟨same, _⟩ | ⟨same, _⟩ | ⟨same, _⟩ <;>
    rw [same] at ahead
  · have moved := ahead (key + 1) rfl
    have := due next position
    omega
  · exact ahead next position
  · exact ahead next position
  · exact ahead next position

theorem ahead_of_release {buffer : Buffer α} (wellFormed : WellFormed buffer) {bound : Int}
    (ahead : ∀ next ∈ buffer.release.next, next ≤ bound) : ∀ next ∈ buffer.next, next ≤ bound := by
  intro next position
  rcases release_cases buffer with ⟨same, _⟩ | ⟨key, value, rest, contents, same⟩ <;> rw [same] at ahead
  · exact ahead next position
  · have moved := ahead (key + 1) rfl
    have := wellFormed.ahead next position (key, value) (contents ▸ List.mem_cons_self)
    show next ≤ bound
    omega

/-- Whatever was offered and lies at or beyond the playout point is accounted
for, by its first copy. -/
theorem Steps.accounted_ahead {start finish : Buffer α} {offered : List (Int × α)}
    (steps : Steps start offered finish) (initial : WellFormed start) {key : Int} {value : α}
    (listed : (key, value) ∈ offered) (ahead : ∀ next ∈ finish.next, next ≤ key) :
    ∃ value, Accounted finish key value := by
  induction steps with
  | refl => cases listed
  | @release offered buffer earlier inductionHypothesis =>
      obtain ⟨own, accounted⟩ :=
        inductionHypothesis listed (ahead_of_release (earlier.wellFormed initial) ahead)
      exact ⟨own, accounted.release⟩
  | @offer offered buffer other item earlier _ inductionHypothesis =>
      have current := ahead_of_offer ahead
      rcases List.mem_append.mp listed with old | new
      · obtain ⟨own, accounted⟩ := inductionHypothesis old current
        exact ⟨own, accounted.offer other item⟩
      · cases List.mem_singleton.mp new
        cases present : containsKey key buffer.held with
        | false => exact ⟨value, offer_accounted buffer key value current present⟩
        | true =>
            obtain ⟨entry, held, same⟩ := List.any_eq_true.mp present
            have isKey : entry.1 = key := beq_iff_eq.mp same
            exact ⟨entry.2, Accounted.offer (Or.inr (isKey ▸ held)) key value⟩

/-- Every delivered or held item was offered under its own key. -/
theorem Steps.offered_of_accounted {start finish : Buffer α} {offered : List (Int × α)}
    (steps : Steps start offered finish) {key : Int} {value : α}
    (accounted : Accounted finish key value) :
    Accounted start key value ∨ (key, value) ∈ offered := by
  induction steps with
  | refl => exact Or.inl accounted
  | @release offered buffer _ inductionHypothesis =>
      apply inductionHypothesis
      rcases release_cases buffer with ⟨same, _⟩ | ⟨other, item, rest, contents, same⟩
      · exact same ▸ accounted
      rw [same] at accounted
      rcases accounted with ⟨gap, member⟩ | held
      · rcases List.mem_append.mp member with old | new
        · exact Or.inl ⟨gap, old⟩
        · cases List.mem_singleton.mp new
          exact Or.inr (contents ▸ List.mem_cons_self)
      · exact Or.inr (contents ▸ List.mem_cons_of_mem _ held)
  | @offer offered buffer other item _ _ inductionHypothesis =>
      have earlier : Accounted buffer key value ∨ (key, value) = (other, item) := by
        rcases offer_cases buffer other item with ⟨same, _⟩ | ⟨same, _⟩ | ⟨same, _⟩ |
          ⟨same, absent, _⟩ <;> rw [same] at accounted
        · rcases accounted with ⟨gap, member⟩ | held
          · rcases List.mem_append.mp member with old | new
            · exact Or.inl (Or.inl ⟨gap, old⟩)
            · cases List.mem_singleton.mp new
              exact Or.inr rfl
          · exact Or.inl (Or.inr held)
        · exact Or.inl accounted
        · exact Or.inl accounted
        · rcases accounted with delivered | held
          · exact Or.inl (Or.inl delivered)
          · exact ((mem_put other item _ absent _).mp held).symm.imp_left Or.inr
      rcases earlier with old | new
      · exact (inductionHypothesis old).imp_right (List.mem_append_left _)
      · exact Or.inr (List.mem_append_right _ (new ▸ List.mem_cons_self))

/-- What has been delivered stays delivered. -/
theorem Steps.delivered_grows {start finish : Buffer α} {offered : List (Int × α)}
    (steps : Steps start offered finish) : start.delivered <+: finish.delivered := by
  induction steps with
  | refl => exact List.prefix_rfl
  | @release offered buffer _ inductionHypothesis =>
      rcases release_cases buffer with ⟨same, _⟩ | ⟨key, value, rest, _, same⟩ <;> rw [same]
      · exact inductionHypothesis
      · exact inductionHypothesis.trans (List.prefix_append _ _)
  | @offer offered buffer key value _ _ inductionHypothesis =>
      rcases offer_cases buffer key value with ⟨same, _⟩ | ⟨same, _⟩ | ⟨same, _⟩ | ⟨same, _⟩ <;> rw [same]
      · exact inductionHypothesis.trans (List.prefix_append _ _)
      · exact inductionHypothesis
      · exact inductionHypothesis
      · exact inductionHypothesis

/-- The buffer has seen nothing beyond a number. -/
structure Within (buffer : Buffer α) (bound : Int) : Prop where
  next : ∀ next ∈ buffer.next, next ≤ bound + 1
  held : ∀ entry ∈ buffer.held, entry.1 ≤ bound

theorem Within.release {buffer : Buffer α} {bound : Int} (within : Within buffer bound) :
    Within buffer.release bound := by
  rcases release_cases buffer with ⟨same, _⟩ | ⟨key, value, rest, contents, same⟩ <;> rw [same]
  · exact within
  · refine ⟨?_, fun entry member => within.held entry (contents ▸ List.mem_cons_of_mem _ member)⟩
    intro next position
    have moved : key + 1 = next := Option.some.inj position
    have low : key ≤ bound := within.held (key, value) (contents ▸ List.mem_cons_self)
    omega

/-- An item beyond everything seen so far is taken. -/
theorem Within.offer {buffer : Buffer α} {bound key : Int} (within : Within buffer bound) (value : α)
    (beyond : bound < key) :
    Within (buffer.offer key value) key ∧ Accounted (buffer.offer key value) key value := by
  have current : ∀ next ∈ buffer.next, next ≤ key := by
    intro next position
    have := within.next next position
    omega
  have absent : containsKey key buffer.held = false := by
    refine (containsKey_eq_false_iff _ _).mpr (fun entry member same => ?_)
    have := within.held entry member
    omega
  refine ⟨?_, offer_accounted buffer key value current absent⟩
  rcases offer_cases buffer key value with ⟨same, _⟩ | ⟨_, next, position, stale⟩ | ⟨_, present⟩ |
    ⟨same, _, _⟩
  · rw [same]
    refine ⟨fun next position => (Option.some.inj position).ge, fun entry member => ?_⟩
    have := within.held entry member
    omega
  · have := current next position
    omega
  · cases absent.symm.trans present
  · rw [same]
    refine ⟨fun next position => ?_, fun entry member => ?_⟩
    · have := within.next next position
      omega
    · rcases (mem_put key value _ absent entry).mp member with new | old
      · exact new ▸ le_rfl
      · have := within.held entry old
        omega

/-- An item within what has been seen changes nothing about that. -/
theorem Within.offer_seen {buffer : Buffer α} {bound key : Int} (within : Within buffer bound) (value : α)
    (seen : key ≤ bound) : Within (buffer.offer key value) bound := by
  rcases offer_cases buffer key value with ⟨same, _⟩ | ⟨same, _⟩ | ⟨same, _⟩ | ⟨same, absent, _⟩ <;> rw [same]
  · refine ⟨fun next position => ?_, within.held⟩
    have moved : key + 1 = next := Option.some.inj position
    omega
  · exact within
  · exact within
  · refine ⟨within.next, fun entry member => ?_⟩
    rcases (mem_put key value _ absent entry).mp member with new | old
    · exact new ▸ seen
    · exact within.held entry old

/-- Each item lies beyond everything before it, or is a copy of an earlier one. -/
def Onward (bound : Int) (offered : List (Int × α)) : Prop :=
  ∀ early entry late, offered = early ++ entry :: late →
    entry ∈ early ∨ (bound < entry.1 ∧ ∀ earlier ∈ early, earlier.1 < entry.1)

/-- The highest number offered. -/
def highestOffered (bound : Int) (offered : List (Int × α)) : Int :=
  offered.foldl (fun highest entry => max highest entry.1) bound

theorem highestOffered_concat (bound : Int) (offered : List (Int × α)) (entry : Int × α) :
    highestOffered bound (offered ++ [entry]) = max (highestOffered bound offered) entry.1 := by
  rw [highestOffered, List.foldl_append]
  rfl

theorem highestOffered_lt {bound key : Int} {offered : List (Int × α)} (beyond : bound < key)
    (earlier : ∀ entry ∈ offered, entry.1 < key) : highestOffered bound offered < key := by
  induction offered using List.reverseRecOn with
  | nil => exact beyond
  | append_singleton offered entry inductionHypothesis =>
      rw [highestOffered_concat]
      exact max_lt (inductionHypothesis (fun other member => earlier other (List.mem_append_left _ member)))
        (earlier entry List.mem_concat_self)

theorem le_highestOffered {bound : Int} {offered : List (Int × α)} {entry : Int × α} (member : entry ∈ offered) :
    entry.1 ≤ highestOffered bound offered := by
  induction offered using List.reverseRecOn with
  | nil => cases member
  | append_singleton offered other inductionHypothesis =>
      rw [highestOffered_concat]
      rcases List.mem_append.mp member with old | new
      · exact (inductionHypothesis old).trans (le_max_left _ _)
      · exact List.mem_singleton.mp new ▸ le_max_right _ _

/-- Items that are offered onward are all accounted for. -/
theorem Steps.accounted_of_onward {start finish : Buffer α} {offered : List (Int × α)}
    (steps : Steps start offered finish) {bound : Int} (within : Within start bound) (onward : Onward bound offered) :
    Within finish (highestOffered bound offered) ∧ ∀ entry ∈ offered, Accounted finish entry.1 entry.2 := by
  induction steps with
  | refl =>
      refine ⟨within, ?_⟩
      intro entry impossible
      cases impossible
  | release _ inductionHypothesis =>
      obtain ⟨seen, accounted⟩ := inductionHypothesis onward
      exact ⟨seen.release, fun entry member => (accounted entry member).release⟩
  | @offer offered buffer key value _ _ inductionHypothesis =>
      obtain ⟨seen, accounted⟩ := inductionHypothesis (by
        intro early entry late split
        apply onward early entry (late ++ [(key, value)])
        rw [split, List.append_assoc, List.cons_append])
      rw [highestOffered_concat]
      rcases onward offered (key, value) [] rfl with copy | ⟨beyond, ahead⟩
      · have old : key ≤ highestOffered bound offered := le_highestOffered copy
        rw [max_eq_left old]
        refine ⟨seen.offer_seen value old, ?_⟩
        intro entry member
        rcases List.mem_append.mp member with earlier | same
        · exact (accounted entry earlier).offer key value
        · exact List.mem_singleton.mp same ▸ (accounted (key, value) copy).offer key value
      · have higher := highestOffered_lt beyond ahead
        obtain ⟨seenOffer, accountedOffer⟩ := seen.offer value higher
        rw [max_eq_right higher.le]
        refine ⟨seenOffer, ?_⟩
        intro entry member
        rcases List.mem_append.mp member with old | new
        · exact (accounted entry old).offer key value
        · exact List.mem_singleton.mp new ▸ accountedOffer

/-- Ascending numbers lead onward. -/
theorem onward_of_ascending {bound : Int} {offered : List (Int × α)}
    (ascending : offered.Pairwise (fun first second => first.1 < second.1))
    (beyond : ∀ entry ∈ offered, bound < entry.1) : Onward bound offered := by
  rintro early entry late rfl
  refine Or.inr ⟨beyond entry (List.mem_append_right _ List.mem_cons_self), ?_⟩
  intro earlier member
  exact (List.pairwise_append.mp ascending).2.2 earlier member entry List.mem_cons_self

/-- The first item that is offered is the first one handed on. -/
theorem Steps.first_delivered {finish : Buffer α} {offered : List (Int × α)}
    (steps : Steps empty offered finish) :
    finish.delivered.head?.map (fun delivery => (delivery.key, delivery.value)) = offered.head? := by
  induction steps with
  | refl => rfl
  | @release offered buffer earlier inductionHypothesis =>
      have wellFormed := earlier.wellFormed wellFormed_empty
      rcases release_cases buffer with ⟨same, _⟩ | ⟨key, value, rest, contents, same⟩
      · rw [same]
        exact inductionHypothesis
      · cases history : buffer.delivered with
        | nil =>
            have unset : buffer.next = none := by rw [wellFormed.latest, history]; rfl
            cases contents.symm.trans (wellFormed.fresh unset)
        | cons first later =>
            rw [history] at inductionHypothesis
            rw [same, deliver, history]
            exact inductionHypothesis
  | @offer offered buffer key value earlier settled inductionHypothesis =>
      have wellFormed := earlier.wellFormed wellFormed_empty
      cases history : buffer.delivered with
      | nil =>
          have unset : buffer.next = none := by rw [wellFormed.latest, history]; rfl
          have nothing : offered = [] := by
            rw [history] at inductionHypothesis
            exact List.head?_eq_none_iff.mp inductionHypothesis.symm
          simp [Buffer.offer, unset, deliver, history, nothing]
      | cons first later =>
          have kept : (buffer.offer key value).delivered.head? = buffer.delivered.head? := by
            rcases offer_cases buffer key value with ⟨same, _⟩ | ⟨same, _⟩ | ⟨same, _⟩ | ⟨same, _⟩ <;>
              rw [same]
            rw [deliver, history]
            rfl
          have started : (offered ++ [(key, value)]).head? = offered.head? := by
            cases offered with
            | nil =>
                rw [history] at inductionHypothesis
                cases inductionHypothesis
            | cons _ _ => rfl
          rw [kept, started]
          exact inductionHypothesis

/-- Items that are offered in order are handed on at once, without a gap. -/
theorem Steps.in_order {start finish : Buffer α} {offered : List (Int × α)}
    (steps : Steps start offered finish) (nothingHeld : start.held = [])
    (due : ∀ next ∈ start.next, ∀ entry ∈ offered.head?, entry.1 = next)
    (consecutive : offered.IsChain (fun first second => second.1 = first.1 + 1)) :
    finish.held = [] ∧
      finish.delivered = start.delivered ++ offered.map (fun entry => ⟨false, entry.1, entry.2⟩) ∧
      finish.next = (offered.getLast?.map (fun entry => entry.1 + 1)).or start.next := by
  induction steps with
  | refl => simp [nothingHeld]
  | @release offered buffer _ inductionHypothesis =>
      obtain ⟨empty, delivered, next⟩ := inductionHypothesis due consecutive
      rcases release_cases buffer with ⟨same, _⟩ | ⟨key, value, rest, contents, _⟩
      · rw [same]
        exact ⟨empty, delivered, next⟩
      · cases contents.symm.trans empty
  | @offer offered buffer key value _ settled inductionHypothesis =>
      have parts := List.isChain_append.mp consecutive
      have dueBefore : ∀ next ∈ start.next, ∀ entry ∈ offered.head?, entry.1 = next := by
        intro next position entry first
        apply due next position entry
        rw [List.head?_append, first]
        rfl
      obtain ⟨empty, delivered, next⟩ := inductionHypothesis dueBefore parts.1
      -- The item is the one that the playout point waits for.
      have expected : ∀ next ∈ buffer.next, next = key := by
        intro point position
        rw [next] at position
        cases last? : offered.getLast? with
        | none =>
            rw [last?] at position
            have nothing := List.getLast?_eq_none_iff.mp last?
            exact (due point position (key, value) (by rw [nothing]; rfl)).symm
        | some last =>
            rw [last?] at position
            have same : last.1 + 1 = point := Option.some.inj position
            have step := parts.2.2 last last? (key, value) rfl
            omega
      have handed : buffer.offer key value = buffer.deliver key value := by
        cases position : buffer.next with
        | none => simp only [Buffer.offer, position]
        | some point => simp [Buffer.offer, position, expected point position]
      have unbroken : buffer.next.any (fun next => next != key) = false := by
        cases position : buffer.next with
        | none => rfl
        | some point => simp [expected point position]
      rw [handed]
      refine ⟨empty, ?_, ?_⟩
      · simp only [deliver, unbroken, delivered, List.map_append, List.map_cons, List.map_nil,
          List.append_assoc]
      · simp [deliver]

/-! ## What the invariant says about deliveries -/

/-- Delivered keys grow, so nothing is delivered twice. -/
theorem WellFormed.delivered_increasing {buffer : Buffer α} (wellFormed : WellFormed buffer) :
    buffer.delivered.Pairwise (fun first second => first.key < second.key) := by
  have chain : buffer.delivered.IsChain (fun first second => first.key < second.key) :=
    wellFormed.chain.imp (fun _ _ follows => follows.1)
  exact chain.pairwise

/-- A key is delivered at most once. -/
theorem WellFormed.filter_delivered {buffer : Buffer α} (wellFormed : WellFormed buffer)
    {delivery : Delivery α} (member : delivery ∈ buffer.delivered) :
    buffer.delivered.filter (fun other => other.key == delivery.key) = [delivery] := by
  obtain ⟨before, later, split⟩ := List.append_of_mem member
  have increasing := wellFormed.delivered_increasing
  rw [split] at increasing
  obtain ⟨_, tail, across⟩ := List.pairwise_append.mp increasing
  have noneBefore : before.filter (fun other => other.key == delivery.key) = [] := by
    refine List.filter_eq_nil_iff.mpr (fun other listed same => ?_)
    have := across other listed delivery List.mem_cons_self
    have := beq_iff_eq.mp same
    omega
  have noneLater : later.filter (fun other => other.key == delivery.key) = [] := by
    refine List.filter_eq_nil_iff.mpr (fun other listed same => ?_)
    have := (List.pairwise_cons.mp tail).1 other listed
    have := beq_iff_eq.mp same
    omega
  rw [split, List.filter_append, List.filter_cons, noneBefore, noneLater, beq_self_eq_true, if_pos rfl]
  rfl

/-- If the successors of a delivered item have been delivered, then directly
behind it and without gaps. -/
theorem WellFormed.successors {buffer : Buffer α} (wellFormed : WellFormed buffer) (values : List α)
    {before later : List (Delivery α)} {delivery : Delivery α}
    (split : buffer.delivered = before ++ delivery :: later)
    (successors : ∀ (index : Nat) (value : α), values[index]? = some value →
      ∃ gap, ⟨gap, delivery.key + 1 + index, value⟩ ∈ buffer.delivered) :
    ∃ more, later = values.mapIdx (fun index value => ⟨false, delivery.key + 1 + index, value⟩) ++ more := by
  induction values generalizing before delivery later with
  | nil => exact ⟨later, rfl⟩
  | cons value values inductionHypothesis =>
      have increasing := wellFormed.delivered_increasing
      have chain := wellFormed.chain
      obtain ⟨gap, member⟩ := successors 0 value rfl
      rw [split] at increasing chain
      obtain ⟨_, tail, across⟩ := List.pairwise_append.mp increasing
      have above := (List.pairwise_cons.mp tail).1
      -- The successor can only stand behind the item.
      have behind : (⟨gap, delivery.key + 1 + (0 : Nat), value⟩ : Delivery α) ∈ later := by
        rw [split] at member
        rcases List.mem_append.mp member with earlier | same
        · have low : delivery.key + 1 + (0 : Nat) < delivery.key := across _ earlier delivery List.mem_cons_self
          omega
        · rcases List.mem_cons.mp same with own | found
          · have equal : delivery.key + 1 + (0 : Nat) = delivery.key := congrArg Delivery.key own
            omega
          · exact found
      cases later with
      | nil => cases behind
      | cons next rest =>
          have follows := (List.isChain_cons_cons.mp (List.isChain_append.mp chain).2.1).1
          have isNext : next = ⟨gap, delivery.key + 1 + (0 : Nat), value⟩ := by
            rcases List.mem_cons.mp behind with same | beyond
            · exact same.symm
            · have high : next.key < delivery.key + 1 + (0 : Nat) :=
                (List.pairwise_cons.mp (List.pairwise_cons.mp tail).2).1 _ beyond
              have low := follows.1
              omega
          have key : next.key = delivery.key + 1 := by
            rw [isNext]
            exact Int.add_zero _
          have unbroken : next.gap = false := by
            rw [Bool.eq_false_iff]
            intro announced
            exact follows.2.mp announced key
          have nextSplit : buffer.delivered = (before ++ [delivery]) ++ next :: rest := by
            rw [split, List.append_assoc, List.singleton_append]
          obtain ⟨more, same⟩ := inductionHypothesis nextSplit (by
            intro index other listed
            obtain ⟨gap, found⟩ := successors (index + 1) other listed
            refine ⟨gap, ?_⟩
            rw [key]
            have shifted : delivery.key + 1 + 1 + (index : Int) = delivery.key + 1 + ((index + 1 : Nat) : Int) := by
              omega
            rw [shifted]
            exact found)
          refine ⟨more, ?_⟩
          have first : next = ⟨false, delivery.key + 1 + ((0 : Nat) : Int), value⟩ := by
            rw [← unbroken, isNext]
          rw [List.mapIdx_cons, List.cons_append, ← first, same, key]
          have shifted : ∀ index : Nat, delivery.key + 1 + 1 + (index : Int) =
              delivery.key + 1 + ((index + 1 : Nat) : Int) := by
            intro index
            omega
          simp only [shifted]

/-- Deliveries without gaps are determined by their first number, their count
and what belongs to each number. -/
theorem deliveries_eq {first second : List (Delivery α)} (content : Int → α)
    (firstChain : first.IsChain (fun earlier later => later.key = earlier.key + 1))
    (secondChain : second.IsChain (fun earlier later => later.key = earlier.key + 1))
    (length : first.length = second.length)
    (head : first.head?.map Delivery.key = second.head?.map Delivery.key)
    (firstContent : ∀ delivery ∈ first, delivery = ⟨false, delivery.key, content delivery.key⟩)
    (secondContent : ∀ delivery ∈ second, delivery = ⟨false, delivery.key, content delivery.key⟩) :
    first = second := by
  induction first generalizing second with
  | nil => exact (List.length_eq_zero_iff.mp length.symm).symm
  | cons delivery rest inductionHypothesis =>
      cases second with
      | nil => cases length
      | cons other others =>
          have sameKey : delivery.key = other.key := Option.some.inj head
          have same : delivery = other := by
            rw [firstContent delivery List.mem_cons_self, secondContent other List.mem_cons_self, sameKey]
          have sameHead : rest.head?.map Delivery.key = others.head?.map Delivery.key := by
            cases rest with
            | nil =>
                have none : others = [] := List.length_eq_zero_iff.mp (Nat.succ.inj length).symm
                rw [none]
            | cons next more =>
                cases others with
                | nil => cases length
                | cons otherNext otherMore =>
                    have left := (List.isChain_cons_cons.mp firstChain).1
                    have right := (List.isChain_cons_cons.mp secondChain).1
                    show some next.key = some otherNext.key
                    rw [left, right, sameKey]
          have later : rest = others :=
            inductionHypothesis firstChain.tail secondChain.tail (Nat.succ.inj length) sameHead
              (fun entry member => firstContent entry (List.mem_cons_of_mem _ member))
              (fun entry member => secondContent entry (List.mem_cons_of_mem _ member))
          rw [same, later]

/-- Whatever has been delivered lies below the playout point. -/
theorem WellFormed.delivered_lt_next {buffer : Buffer α} (wellFormed : WellFormed buffer)
    {delivery : Delivery α} (member : delivery ∈ buffer.delivered) :
    ∃ next ∈ buffer.next, delivery.key < next := by
  rcases List.eq_nil_or_concat buffer.delivered with none | ⟨before, last, split⟩
  · rw [none] at member
    cases member
  rw [List.concat_eq_append] at split
  have increasing := wellFormed.delivered_increasing
  rw [split] at increasing member
  refine ⟨last.key + 1, by rw [wellFormed.latest, split]; simp, ?_⟩
  rcases List.mem_append.mp member with early | same
  · have := (List.pairwise_append.mp increasing).2.2 delivery early last List.mem_cons_self
    omega
  · cases List.mem_singleton.mp same
    omega

/-- A number that is still held has not been delivered. -/
theorem WellFormed.held_not_delivered {buffer : Buffer α} (wellFormed : WellFormed buffer)
    {delivery : Delivery α} (member : delivery ∈ buffer.delivered)
    {entry : Int × α} (held : entry ∈ buffer.held) : delivery.key ≠ entry.1 := by
  obtain ⟨next, position, below⟩ := wellFormed.delivered_lt_next member
  have := wellFormed.ahead next position entry held
  omega

/-- If no gap is ever announced the delivered keys are consecutive. -/
theorem WellFormed.consecutive_of_no_gap {buffer : Buffer α} (wellFormed : WellFormed buffer)
    (unbroken : ∀ delivery ∈ buffer.delivered, delivery.gap = false) :
    buffer.delivered.IsChain (fun first second => second.key = first.key + 1) := by
  refine wellFormed.chain.imp_of_mem_imp ?_
  intro first second _ member follows
  by_contra skipped
  have := unbroken second member
  rw [follows.2.mpr skipped] at this
  cases this

end Buffer
end ReorderBuffer
end MetaShare
