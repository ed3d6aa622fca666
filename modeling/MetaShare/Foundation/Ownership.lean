import Mathlib.Data.List.Nodup
import Mathlib.Data.List.Perm.Basic

namespace MetaShare
namespace Ownership

/-!
# Ownership of handles

Code allocates objects and frees them by their handles.  It is undefined to use or to
free what is not live.  A specification says which handles the code is given and which
it hands back, and these are always all that are live.
-/

/-- A handle is never given out twice. -/
structure Handle (Kind : Type) where
  kind : Kind
  number : Nat
  deriving DecidableEq

structure Memory (Kind : Type) where
  next : Nat
  live : List (Handle Kind)

abbrev Code (Kind Value : Type) := StateT (Memory Kind) Option Value

variable {Kind Value Other : Type}

def Memory.empty : Memory Kind := ⟨0, []⟩

def alloc (kind : Kind) : Code Kind (Handle Kind) := fun memory =>
  some (⟨kind, memory.next⟩, ⟨memory.next + 1, ⟨kind, memory.next⟩ :: memory.live⟩)

/-- An allocation that may fail with a null pointer. -/
def allocIf (kind : Kind) (available : Bool) : Code Kind (Option (Handle Kind)) :=
  if available then do
    let handle ← alloc kind
    pure (some handle)
  else pure none

/-- Code that runs on a condition. -/
def runIf (condition : Bool) (code : Code Kind Unit) : Code Kind Unit := if condition then code else pure ()

section Access

variable [DecidableEq Kind]

def free (handle : Handle Kind) : Code Kind Unit := fun memory =>
  if handle ∈ memory.live then some ((), { memory with live := memory.live.erase handle }) else none

def use (handle : Handle Kind) : Code Kind Unit := fun memory =>
  if handle ∈ memory.live then some ((), memory) else none

/-- A null pointer is not freed. -/
def freeIf : Option (Handle Kind) → Code Kind Unit
  | none => pure ()
  | some handle => free handle

end Access

/-! ## Specifications -/

/-- These are the live handles, each once. -/
structure Memory.Holds (memory : Memory Kind) (held : List (Handle Kind)) : Prop where
  perm : memory.live.Perm held
  nodup : memory.live.Nodup
  given : ∀ handle ∈ memory.live, handle.number < memory.next

/-- With these handles the code is defined, and it ends with a result and the handles
that go with it. -/
def Spec (held : List (Handle Kind)) (code : Code Kind Value) (result : Value → List (Handle Kind) → Prop) : Prop :=
  ∀ memory : Memory Kind, memory.Holds held →
    ∃ value later owned, code memory = some (value, later) ∧ result value owned ∧ later.Holds owned

section Rules

variable {held other : List (Handle Kind)} {code : Code Kind Value}
  {result middle : Value → List (Handle Kind) → Prop}

theorem Memory.holds_empty : (Memory.empty : Memory Kind).Holds [] :=
  ⟨.nil, .nil, List.forall_mem_nil _⟩

theorem Memory.Holds.trans {memory : Memory Kind} (holds : memory.Holds held) (same : held.Perm other) :
    memory.Holds other :=
  ⟨holds.perm.trans same, holds.nodup, holds.given⟩

theorem spec_pure {value : Value} (done : result value held) : Spec held (pure value) result := by
  intro memory holds
  exact ⟨value, memory, held, rfl, done, holds⟩

theorem Spec.bind {next : Value → Code Kind Other} {finish : Other → List (Handle Kind) → Prop}
    (first : Spec held code middle)
    (later : ∀ value owned, middle value owned → Spec owned (next value) finish) :
    Spec held (code >>= next) finish := by
  intro memory holds
  obtain ⟨value, between, owned, ran, isMiddle, holdsBetween⟩ := first memory holds
  obtain ⟨last, after, owns, ranLater, isFinish, holdsAfter⟩ := later value owned isMiddle between holdsBetween
  refine ⟨last, after, owns, ?_, isFinish, holdsAfter⟩
  change (code memory).bind _ = _
  rw [ran]
  exact ranLater

/-- The handles are given in another order. -/
theorem Spec.reorder (spec : Spec held code result) (same : other.Perm held) : Spec other code result :=
  fun memory holds => spec memory (holds.trans same)

/-- The handles are handed back in another order, and less is said of the result. -/
theorem Spec.weaken (spec : Spec held code middle)
    (weaker : ∀ value owned, middle value owned → ∃ others, owned.Perm others ∧ result value others) :
    Spec held code result := by
  intro memory holds
  obtain ⟨value, later, owned, ran, isMiddle, holdsLater⟩ := spec memory holds
  obtain ⟨others, same, isResult⟩ := weaker value owned isMiddle
  exact ⟨value, later, others, ran, isResult, holdsLater.trans same⟩

theorem spec_alloc (kind : Kind) :
    Spec held (alloc kind) (fun handle owned => handle.kind = kind ∧ owned = handle :: held) := by
  intro memory holds
  refine ⟨_, _, _, rfl, ⟨rfl, rfl⟩, ?_, ?_, ?_⟩
  · exact holds.perm.cons _
  · refine List.nodup_cons.mpr ⟨?_, holds.nodup⟩
    intro live
    exact absurd (holds.given _ live) (Nat.lt_irrefl _)
  · refine List.forall_mem_cons.mpr ⟨Nat.lt_succ_self _, ?_⟩
    exact fun handle live => Nat.lt_succ_of_lt (holds.given handle live)

theorem spec_allocIf (kind : Kind) (available : Bool) :
    Spec held (allocIf kind available)
      (fun pointer owned => pointer.isSome = available ∧ owned = pointer.toList ++ held) := by
  cases available with
  | false => exact spec_pure ⟨rfl, rfl⟩
  | true =>
      refine (spec_alloc kind).bind ?_
      rintro handle owned ⟨_, rfl⟩
      exact spec_pure ⟨rfl, rfl⟩

/-- It hands back what it is given, whether it runs or not. -/
theorem spec_runIf {condition : Bool} {code : Code Kind Unit}
    (spec : condition = true → Spec held code (fun _ owned => owned = held)) :
    Spec held (runIf condition code) (fun _ owned => owned = held) := by
  cases condition with
  | false => exact spec_pure rfl
  | true => exact spec rfl

variable [DecidableEq Kind]

theorem spec_free (handle : Handle Kind) : Spec (handle :: held) (free handle) (fun _ owned => owned = held) := by
  intro memory holds
  have live : handle ∈ memory.live := holds.perm.mem_iff.mpr List.mem_cons_self
  refine ⟨(), _, held, if_pos live, rfl, ?_, holds.nodup.erase handle, ?_⟩
  · have erased := holds.perm.erase handle
    rwa [List.erase_cons_head] at erased
  · exact fun other among => holds.given other (List.mem_of_mem_erase among)

theorem spec_use {handle : Handle Kind} (member : handle ∈ held) :
    Spec held (use handle) (fun _ owned => owned = held) := by
  intro memory holds
  have live : handle ∈ memory.live := holds.perm.mem_iff.mpr member
  exact ⟨(), memory, held, if_pos live, rfl, holds⟩

theorem spec_freeIf (pointer : Option (Handle Kind)) :
    Spec (pointer.toList ++ held) (freeIf pointer) (fun _ owned => owned = held) := by
  cases pointer with
  | none => exact spec_pure rfl
  | some handle => exact spec_free handle

end Rules

end Ownership
end MetaShare
