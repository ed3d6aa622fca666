import MetaShare.Foundation.Transitions
import Mathlib.Data.List.Nodup
import Mathlib.Data.List.Perm.Basic

namespace MetaShare

open Transitions

/-!
# The audio decoder

The codec offers its input buffers through a callback, the receiver's thread fills them
with blocks, and a third thread releases the decoder.  None of them takes a lock, so that
a release may begin anywhere inside a call of `feed`.  The calls of the codec throw once it
has stopped, and may throw before: a block may be too long for its buffer.  What is
thrown is caught.
-/

namespace AudioDecoder

/-- Where a call of `feed` is: behind its check, with the index of a buffer, or with the
buffer filled. -/
inductive Feeding (Block : Type) where
  | idle
  | checked (block : Block)
  | polled (index : Nat) (block : Block)
  | filled (index : Nat) (block : Block)

/-- Where `release` is: the flag is set, the indices are cleared, the codec is stopped,
and it is null. -/
inductive Release where
  | pending
  | marked
  | cleared
  | stopped
  | gone
  deriving DecidableEq

def Release.next : Release → Option Release
  | pending => some marked
  | marked => some cleared
  | cleared => some stopped
  | stopped => some gone
  | gone => none

/-- The codec has not stopped. -/
def Release.executing : Release → Bool
  | pending => true
  | marked => true
  | cleared => true
  | _ => false

theorem Release.executing_of_next {release later : Release} (isNext : release.next = some later)
    (executing : later.executing = true) : release.executing = true := by
  cases release <;> cases isNext <;> first | rfl | cases executing

/-- Only a release that has not begun is followed by an early one. -/
theorem Release.pending_of_next {release later : Release} (isNext : release.next = some later)
    (early : later = .pending ∨ later = .marked) : release = .pending := by
  cases release <;> cases isNext <;> simp_all

end AudioDecoder

/-- The decoder, the callbacks under way, and the buffers that are the client's.  It is
recorded which indices were lost, and what became of each block. -/
structure AudioDecoder (Block : Type) where
  freeInputs : List Nat
  release : AudioDecoder.Release
  feeding : AudioDecoder.Feeding Block
  posted : List Nat
  held : List Nat
  lost : List Nat
  fed : List Block
  queued : List (Nat × Block)
  dropped : List Block
  failed : List Block

namespace AudioDecoder

variable {Block : Type}

/-- A decoder behind `init`. -/
def opened : AudioDecoder Block := ⟨[], .pending, .idle, [], [], [], [], [], [], []⟩

namespace Feeding

def index : Feeding Block → Option Nat
  | polled index _ => some index
  | filled index _ => some index
  | _ => none

def block : Feeding Block → Option Block
  | idle => none
  | checked block => some block
  | polled _ block => some block
  | filled _ block => some block

end Feeding

/-- The codec throws, and the index is not put back. -/
def fail (decoder : AudioDecoder Block) (index : Nat) (block : Block) : AudioDecoder Block :=
  { decoder with feeding := .idle, lost := decoder.lost ++ [index], failed := decoder.failed ++ [block] }

inductive Action (Block : Type) where
  | offer (index : Nat)
  | onInputBufferAvailable
  | feed (block : Block)
  | proceed (throws : Bool)
  | release

/-- The next section of the call of `feed`, in which a call of the codec may throw. -/
def proceed (decoder : AudioDecoder Block) (throws : Bool) : Option (AudioDecoder Block) :=
  match decoder.feeding with
  | .idle => none
  | .checked block =>
      match decoder.freeInputs with
      | [] => some { decoder with feeding := .idle, dropped := decoder.dropped ++ [block] }
      | index :: rest => some { decoder with feeding := .polled index block, freeInputs := rest }
  | .polled index block =>
      if decoder.release.executing && !throws then some { decoder with feeding := .filled index block }
      else some (decoder.fail index block)
  | .filled index block =>
      if decoder.release.executing && !throws then
        some { decoder with
          feeding := .idle
          held := decoder.held.erase index
          queued := decoder.queued ++ [(index, block)] }
      else some (decoder.fail index block)

def startFeed (decoder : AudioDecoder Block) (block : Block) : AudioDecoder Block :=
  if decoder.release = .pending then
    { decoder with feeding := .checked block, fed := decoder.fed ++ [block] }
  else { decoder with fed := decoder.fed ++ [block], dropped := decoder.dropped ++ [block] }

/-- The next section of `release`. -/
def advance (decoder : AudioDecoder Block) : Option (AudioDecoder Block) :=
  decoder.release.next.map (fun release =>
    if release = .cleared then
      { decoder with release := release, freeInputs := [], lost := decoder.lost ++ decoder.freeInputs }
    else { decoder with release := release })

/-- The codec offers a buffer that is not the client's, and the callback comes later. -/
def step (decoder : AudioDecoder Block) : Action Block → Option (AudioDecoder Block)
  | .offer index =>
      if decoder.release.executing = true ∧ index ∉ decoder.held then
        some { decoder with posted := decoder.posted ++ [index], held := index :: decoder.held }
      else none
  | .onInputBufferAvailable =>
      match decoder.posted with
      | [] => none
      | index :: rest => some { decoder with posted := rest, freeInputs := decoder.freeInputs ++ [index] }
  | .feed block =>
      match decoder.feeding with
      | .idle => some (decoder.startFeed block)
      | _ => none
  | .proceed throws => decoder.proceed throws
  | .release => decoder.advance

/-! ## Buffers and blocks -/

/-- Every buffer of the client is at one place, and every block goes one way, in order.
Before a release, a buffer is lost with each block for which the codec throws. -/
structure Sound (decoder : AudioDecoder Block) : Prop where
  nodup : decoder.held.Nodup
  places : (decoder.posted ++ (decoder.freeInputs ++
    (decoder.feeding.index.toList ++ decoder.lost))).Perm decoder.held
  kept : decoder.release = .pending ∨ decoder.release = .marked → decoder.lost.length = decoder.failed.length
  order : (decoder.queued.map Prod.snd ++ decoder.feeding.block.toList).Sublist decoder.fed
  ways : decoder.fed.length = decoder.queued.length + decoder.dropped.length + decoder.failed.length +
    decoder.feeding.block.toList.length

section Steps

variable {decoder next : AudioDecoder Block}

theorem sound_opened : (opened : AudioDecoder Block).Sound where
  nodup := .nil
  places := .nil
  kept := fun _ => rfl
  order := .slnil
  ways := rfl

theorem Sound.offer (sound : decoder.Sound) {index : Nat} (fresh : index ∉ decoder.held) :
    Sound { decoder with posted := decoder.posted ++ [index], held := index :: decoder.held } where
  nodup := List.nodup_cons.mpr ⟨fresh, sound.nodup⟩
  places := by
    rw [List.append_assoc]
    exact List.perm_middle.trans (sound.places.cons index)
  kept := sound.kept
  order := sound.order
  ways := sound.ways

theorem Sound.callback (sound : decoder.Sound) {index : Nat} {rest : List Nat}
    (posted : decoder.posted = index :: rest) :
    Sound { decoder with posted := rest, freeInputs := decoder.freeInputs ++ [index] } where
  nodup := sound.nodup
  places := by
    refine List.Perm.trans ?_ sound.places
    rw [posted]
    apply List.perm_iff_count.mpr
    intro other
    simp only [List.count_append, List.count_cons, List.count_nil]
    omega
  kept := sound.kept
  order := sound.order
  ways := sound.ways

theorem Sound.startFeed (sound : decoder.Sound) (idle : decoder.feeding = .idle) (block : Block) :
    (decoder.startFeed block).Sound := by
  have order := sound.order
  have ways := sound.ways
  rw [idle] at order ways
  simp only [Feeding.block, Option.toList_none, List.append_nil, List.length_nil, Nat.add_zero] at order ways
  rw [AudioDecoder.startFeed]
  split
  · have places := sound.places
    rw [idle] at places
    refine ⟨sound.nodup, places, sound.kept, order.append_right [block], ?_⟩
    simp only [Feeding.block, Option.toList_some, List.length_append, List.length_singleton, ways]
  · refine ⟨sound.nodup, sound.places, sound.kept, ?_, ?_⟩
    · simpa [idle, Feeding.block] using order.trans (List.sublist_append_left decoder.fed [block])
    · simp only [idle, Feeding.block, Option.toList_none, List.length_append, List.length_singleton, List.length_nil,
        ways]
      omega

theorem Sound.fail (sound : decoder.Sound) {index : Nat} {block : Block} (isAt : decoder.feeding.index = some index)
    (has : decoder.feeding.block = some block) : (decoder.fail index block).Sound := by
  have order := sound.order
  have ways := sound.ways
  have places := sound.places
  rw [has] at order ways
  rw [isAt] at places
  refine ⟨sound.nodup, ?_, ?_, ?_, ?_⟩
  · refine List.Perm.trans ?_ places
    apply List.perm_iff_count.mpr
    intro other
    simp only [AudioDecoder.fail, Feeding.index, Option.toList_none, Option.toList_some, List.count_append,
      List.count_cons, List.count_nil]
    omega
  · intro early
    simp only [AudioDecoder.fail, List.length_append, List.length_singleton, sound.kept early]
  · simpa [AudioDecoder.fail, Feeding.block] using (List.sublist_append_left _ _).trans order
  · simp only [AudioDecoder.fail, Feeding.block, Option.toList_none, List.length_append, List.length_singleton,
      List.length_nil, Option.toList_some] at ways ⊢
    omega

theorem Sound.proceed (sound : decoder.Sound) {throws : Bool} (proceeded : decoder.proceed throws = some next) :
    next.Sound := by
  have order := sound.order
  have ways := sound.ways
  have places := sound.places
  rw [AudioDecoder.proceed] at proceeded
  cases isFeeding : decoder.feeding with
  | idle =>
      rw [isFeeding] at proceeded
      cases proceeded
  | checked block =>
      rw [isFeeding] at proceeded places order ways
      cases free : decoder.freeInputs with
      | nil =>
          simp only [free] at proceeded
          cases proceeded
          refine ⟨sound.nodup, free ▸ places, sound.kept, ?_, ?_⟩
          · simpa [Feeding.block] using (List.sublist_append_left _ _).trans order
          · simp only [Feeding.block, Option.toList_none, Option.toList_some, List.length_append,
              List.length_singleton, List.length_nil] at ways ⊢
            omega
      | cons index rest =>
          simp only [free] at proceeded
          cases proceeded
          refine ⟨sound.nodup, ?_, sound.kept, order, ways⟩
          refine List.Perm.trans ?_ places
          rw [free]
          apply List.perm_iff_count.mpr
          intro other
          simp only [Feeding.index, Option.toList_none, Option.toList_some, List.count_append, List.count_cons,
            List.count_nil]
          omega
  | polled index block =>
      rw [isFeeding] at proceeded
      dsimp only at proceeded
      split at proceeded
      · cases proceeded
        rw [isFeeding] at places order ways
        exact ⟨sound.nodup, places, sound.kept, order, ways⟩
      · cases proceeded
        exact sound.fail (by rw [isFeeding]; rfl) (by rw [isFeeding]; rfl)
  | filled index block =>
      rw [isFeeding] at proceeded
      dsimp only at proceeded
      split at proceeded
      · cases proceeded
        rw [isFeeding] at places order ways
        have owned : index ∈ decoder.held := places.mem_iff.mp (by simp [Feeding.index])
        refine ⟨sound.nodup.erase index, ?_, sound.kept, ?_, ?_⟩
        · refine List.Perm.trans ?_ (places.erase index)
          apply List.perm_iff_count.mpr
          intro other
          simp only [Feeding.index, Option.toList_none, Option.toList_some, List.count_append, List.count_erase,
            List.count_cons, List.count_nil]
          split <;> omega
        · simpa [Feeding.block] using order
        · simp only [Feeding.block, Option.toList_none, Option.toList_some, List.length_append,
            List.length_singleton, List.length_nil] at ways ⊢
          omega
      · cases proceeded
        exact sound.fail (by rw [isFeeding]; rfl) (by rw [isFeeding]; rfl)

theorem Sound.advance (sound : decoder.Sound) (advanced : decoder.advance = some next) : next.Sound := by
  obtain ⟨release, isNext, rfl⟩ := Option.map_eq_some_iff.mp advanced
  split
  · rename_i isCleared
    refine ⟨sound.nodup, ?_, ?_, sound.order, sound.ways⟩
    · refine List.Perm.trans ?_ sound.places
      apply List.perm_iff_count.mpr
      intro other
      simp only [List.count_append, List.count_nil]
      omega
    · rw [isCleared]
      rintro (impossible | impossible) <;> cases impossible
  · refine ⟨sound.nodup, sound.places, ?_, sound.order, sound.ways⟩
    exact fun early => sound.kept (.inl (Release.pending_of_next isNext early))

/-- Only a callback that has been posted can run. -/
theorem posted_of_step (stepped : decoder.step .onInputBufferAvailable = some next) :
    ∃ index rest, decoder.posted = index :: rest ∧
      next = { decoder with posted := rest, freeInputs := decoder.freeInputs ++ [index] } := by
  cases posted : decoder.posted with
  | nil => simp [AudioDecoder.step, posted] at stepped
  | cons index rest =>
      simp only [AudioDecoder.step, posted] at stepped
      cases stepped
      exact ⟨index, rest, rfl, rfl⟩

/-- A call of `feed` begins behind the one before. -/
theorem idle_of_step {block : Block} (stepped : decoder.step (.feed block) = some next) :
    decoder.feeding = .idle ∧ next = decoder.startFeed block := by
  cases isFeeding : decoder.feeding <;> simp only [AudioDecoder.step, isFeeding] at stepped <;> cases stepped
  exact ⟨rfl, rfl⟩

theorem Sound.step (sound : decoder.Sound) {action : Action Block} (stepped : decoder.step action = some next) :
    next.Sound := by
  cases action with
  | offer index =>
      obtain ⟨⟨_, fresh⟩, rfl⟩ := eq_of_guarded stepped
      exact sound.offer fresh
  | onInputBufferAvailable =>
      obtain ⟨index, rest, posted, rfl⟩ := posted_of_step stepped
      exact sound.callback posted
  | feed block =>
      obtain ⟨idle, rfl⟩ := idle_of_step stepped
      exact sound.startFeed idle block
  | proceed throws => exact sound.proceed stepped
  | release => exact sound.advance stepped

/-- A codec that has stopped stays so, and takes nothing more. -/
theorem queued_of_step (stopped : decoder.release.executing = false) {action : Action Block}
    (stepped : decoder.step action = some next) :
    next.release.executing = false ∧ next.queued = decoder.queued := by
  cases action with
  | offer index =>
      obtain ⟨⟨executing, _⟩, _⟩ := eq_of_guarded stepped
      exact absurd (executing.symm.trans stopped) (by decide)
  | onInputBufferAvailable =>
      obtain ⟨index, rest, _, rfl⟩ := posted_of_step stepped
      exact ⟨stopped, rfl⟩
  | feed block =>
      obtain ⟨_, rfl⟩ := idle_of_step stepped
      rw [startFeed]
      split <;> exact ⟨stopped, rfl⟩
  | proceed throws =>
      simp only [AudioDecoder.step, AudioDecoder.proceed, stopped, Bool.false_and] at stepped
      split at stepped
      · cases stepped
      · split at stepped <;> cases stepped <;> exact ⟨stopped, rfl⟩
      · cases stepped
        exact ⟨stopped, rfl⟩
      · cases stepped
        exact ⟨stopped, rfl⟩
  | release =>
      obtain ⟨release, isNext, rfl⟩ := Option.map_eq_some_iff.mp stepped
      have still : release.executing = false := by
        refine eq_false_of_ne_true (fun executing => ?_)
        rw [Release.executing_of_next isNext executing] at stopped
        cases stopped
      split <;> exact ⟨still, rfl⟩

/-- Over every interleaving, and wherever a call of the codec throws, each input buffer is at
one place and queued at most once for each time it is offered, the codec gets blocks that
were fed, in order, and no block is lost without a count.  Until a release begins, a block
is only dropped while the codec has all the buffers that are not on their way and were not
lost, one with each call that threw.  Once the codec has stopped it gets nothing more. -/
theorem buffers_owned {actions : List (Action Block)} (ran : run AudioDecoder.step opened actions = some decoder) :
    decoder.Sound ∧
      (∀ index block, decoder.feeding = .filled index block → index ∈ decoder.held) ∧
      (decoder.release = .pending → ∀ block, decoder.feeding = .checked block → decoder.freeInputs = [] →
        (decoder.posted ++ decoder.lost).Perm decoder.held ∧ decoder.lost.length = decoder.failed.length) ∧
      (decoder.release.executing = false → ∀ more later, run AudioDecoder.step decoder more = some later →
        later.queued = decoder.queued) := by
  have sound : decoder.Sound := run_invariant (fun _ _ _ sound stepped => Sound.step sound stepped) sound_opened ran
  refine ⟨sound, ?_, ?_, ?_⟩
  · intro index block isFilled
    apply sound.places.mem_iff.mp
    simp [isFilled, Feeding.index]
  · intro pending block isChecked none
    have places := sound.places
    rw [isChecked, none] at places
    exact ⟨places, sound.kept (.inl pending)⟩
  · intro stopped more later ranLater
    have preserved : ∀ (before : AudioDecoder Block) action after,
        before.release.executing = false ∧ before.queued = decoder.queued → before.step action = some after →
          after.release.executing = false ∧ after.queued = decoder.queued := by
      rintro before action after ⟨stopped, same⟩ stepped
      obtain ⟨stays, keeps⟩ := queued_of_step stopped stepped
      exact ⟨stays, keeps.trans same⟩
    exact (run_invariant preserved ⟨stopped, rfl⟩ ranLater).2

end Steps

/-- The first block is too long for its buffer, and the third is caught in a release. -/
def sampleActions : List (Action Char) :=
  [.offer 0, .offer 1, .offer 2, .onInputBufferAvailable, .feed 'a', .proceed false, .proceed true,
    .onInputBufferAvailable, .feed 'b', .proceed false, .proceed false, .onInputBufferAvailable, .proceed false,
    .feed 'c', .proceed false, .release, .release, .release, .proceed false, .feed 'd']

theorem buffers_owned_sample : ∃ decoder, run AudioDecoder.step opened sampleActions = some decoder ∧
    decoder.failed = ['a', 'c'] ∧ decoder.dropped = ['d'] ∧ decoder.Sound ∧
    ∀ more later, run AudioDecoder.step decoder more = some later → later.queued = [(1, 'b')] := by
  have ran : ∃ decoder, run AudioDecoder.step opened sampleActions = some decoder ∧
      decoder.failed = ['a', 'c'] ∧ decoder.dropped = ['d'] ∧ decoder.queued = [(1, 'b')] ∧
      decoder.release.executing = false := ⟨_, rfl, rfl, rfl, rfl, rfl⟩
  obtain ⟨decoder, ran, failed, dropped, queued, stopped⟩ := ran
  obtain ⟨sound, _, _, later⟩ := buffers_owned ran
  exact ⟨decoder, ran, failed, dropped, sound, queued ▸ later stopped⟩

end AudioDecoder
end MetaShare
