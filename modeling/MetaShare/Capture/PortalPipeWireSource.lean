import MetaShare.Foundation.Transitions

namespace MetaShare

open Transitions

/-!
# Capturing a desktop

PipeWire calls the source on a thread of its own, and the encoder pulls frames
on another.  They share three buffers under a mutex: captures are written to the
back buffer, the front buffer is the one captured last, and the third belongs to
the consumer.  An action is one critical section of one thread.  A change of the
format has two of them, between which a pull may take place.
-/

namespace PortalPipeWireSource

/-- A raw video format: of the pixels, and of the picture. -/
structure VideoFormat where
  format : Int
  width : Int
  height : Int
  deriving DecidableEq

/-- A picture buffer.  It holds no image until one has been copied into it. -/
structure AVFrame (Image : Type) where
  format : VideoFormat
  image : Option Image
  deriving DecidableEq

/-- What a pull returns: -1, 0, or 1 with a frame and its time. -/
inductive Pulled where
  | ended
  | nothing
  | frame (address : Nat) (ptsUsec : Int)
  deriving DecidableEq

/-- What has happened to the buffers, which only serves to state properties. -/
inductive Entry (Image : Type) where
  | stored (image : Image) (ptsUsec : Int)
  | replaced (format : VideoFormat)

end PortalPipeWireSource

/-- The fields of the source, the heap that its buffers lie on, and the size
that a change of the format is about to put into effect. -/
structure PortalPipeWireSource (Image : Type) where
  heap : Nat → Option (PortalPipeWireSource.AVFrame Image)
  allocated : Nat
  negotiatedFmt : Int
  width : Int
  height : Int
  changing : Option (Int × Int)
  front : Option Nat
  back : Option Nat
  out : Option Nat
  haveNew : Bool
  ptsUsec : Int
  running : Bool
  log : List (PortalPipeWireSource.Entry Image)

namespace PortalPipeWireSource

variable {Image : Type}

def new : PortalPipeWireSource Image where
  heap := fun _ => none
  allocated := 0
  negotiatedFmt := -1
  width := 0
  height := 0
  changing := none
  front := none
  back := none
  out := none
  haveNew := false
  ptsUsec := 0
  running := false
  log := []

/-! ## The heap -/

def free (heap : Nat → Option (AVFrame Image)) (pointer : Option Nat) : Nat → Option (AVFrame Image) :=
  fun address => if pointer = some address then none else heap address

def store (heap : Nat → Option (AVFrame Image)) (address : Nat) (frame : AVFrame Image) :
    Nat → Option (AVFrame Image) :=
  fun other => if other = address then some frame else heap other

/-! ## The PipeWire thread -/

/-- The first section of `on_param_changed`.  Parameters that are no supported
raw video format are ignored, and so is a format that is in effect. -/
def onParamChanged (source : PortalPipeWireSource Image) : Option VideoFormat → PortalPipeWireSource Image
  | none => source
  | some info =>
      if source.negotiatedFmt = info.format ∧ source.width = info.width ∧ source.height = info.height ∧
          source.front ≠ none ∧ source.back ≠ none then source
      else { source with negotiatedFmt := info.format, changing := some (info.width, info.height) }

/-- The second section of `on_param_changed` replaces the front and the back
buffer. -/
def replaceBuffers (source : PortalPipeWireSource Image) (width height : Int) : PortalPipeWireSource Image :=
  let format : VideoFormat := ⟨source.negotiatedFmt, width, height⟩
  let front := source.allocated
  let back := source.allocated + 1
  let heap := store (free source.heap source.front) front ⟨format, none⟩
  { source with
    heap := store (free heap source.back) back ⟨format, none⟩
    allocated := source.allocated + 2
    width := width
    height := height
    changing := none
    front := some front
    back := some back
    log := source.log ++ [.replaced format] }

/-- A buffer of PipeWire, if there is one with data, is copied and published. -/
def onProcess (source : PortalPipeWireSource Image) (captured : Option Image) (now : Int) :
    PortalPipeWireSource Image :=
  match captured, source.back with
  | some image, some back =>
      match source.heap back with
      | some frame =>
          if 0 ≤ source.negotiatedFmt then
            { source with
              heap := store source.heap back { frame with image := some image }
              ptsUsec := now
              front := some back
              back := source.front
              haveNew := true
              log := source.log ++ [.stored image now] }
          else source
      | none => source
  | _, _ => source

/-! ## The consumer -/

/-- The consumer's buffer exists and has the format. -/
def outFits (source : PortalPipeWireSource Image) (format : VideoFormat) : Bool :=
  match source.out.bind source.heap with
  | some frame => decide (frame.format = format)
  | none => false

def deliverFrontLocked (source : PortalPipeWireSource Image) : PortalPipeWireSource Image × Pulled :=
  match source.front with
  | none => (source, .nothing)
  | some front =>
      match source.heap front with
      | none => (source, .nothing)
      | some frame =>
          let ready :=
            if source.outFits frame.format then source
            else
              { source with
                heap := store (free source.heap source.out) source.allocated ⟨frame.format, none⟩
                allocated := source.allocated + 1
                out := some source.allocated }
          ({ ready with front := ready.out, out := some front }, .frame front ready.ptsUsec)

/-- A pull that waits, at the time when its wait is over.  It has waited in vain
if nothing is new while the source runs. -/
def nextFrame (source : PortalPipeWireSource Image) : PortalPipeWireSource Image × Pulled :=
  if source.haveNew = false ∧ source.running = true then (source, .nothing)
  else if source.running = false then (source, .ended)
  else { source with haveNew := false }.deliverFrontLocked

def latestFrame (source : PortalPipeWireSource Image) : PortalPipeWireSource Image × Pulled :=
  if source.running = false then (source, .ended)
  else if source.haveNew = false then (source, .nothing)
  else { source with haveNew := false }.deliverFrontLocked

/-! ## Runs -/

inductive Action (Image : Type) where
  | start
  | paramChanged (param : Option VideoFormat)
  | replaceBuffers
  | process (captured : Option Image) (now : Int)
  | nextFrame
  | latestFrame

/-- The PipeWire thread is inside `on_param_changed` while a change is under
way, and a pull is possible at any time. -/
def step (source : PortalPipeWireSource Image) : Action Image → Option (PortalPipeWireSource Image)
  | .start => some { source with running := true }
  | .paramChanged param => if source.changing = none then some (source.onParamChanged param) else none
  | .replaceBuffers => source.changing.map (fun size => source.replaceBuffers size.1 size.2)
  | .process captured now => if source.changing = none then some (source.onProcess captured now) else none
  | .nextFrame => some source.nextFrame.1
  | .latestFrame => some source.latestFrame.1

/-- What an action returns to the consumer. -/
def pulled (source : PortalPipeWireSource Image) : Action Image → Option Pulled
  | .nextFrame => some source.nextFrame.2
  | .latestFrame => some source.latestFrame.2
  | _ => none

theorem nextFrame_eq (source : PortalPipeWireSource Image) : source.nextFrame = source.latestFrame := by
  rw [nextFrame, latestFrame]
  cases source.haveNew <;> cases source.running <;> rfl

/-! ## What the log says -/

/-- The image that was stored last, with its time. -/
def lastStored (log : List (Entry Image)) : Option (Image × Int) :=
  log.foldl (fun last entry =>
    match entry with
    | .stored image ptsUsec => some (image, ptsUsec)
    | .replaced _ => last) none

/-- Buffers have been replaced since an image was stored. -/
def replacedSince (log : List (Entry Image)) : Bool :=
  log.foldl (fun _ entry =>
    match entry with
    | .stored _ _ => false
    | .replaced _ => true) false

/-- The format that was put into effect last. -/
def inEffect (log : List (Entry Image)) : Option VideoFormat :=
  log.foldl (fun last entry =>
    match entry with
    | .stored _ _ => last
    | .replaced format => some format) none

section Log

variable (log : List (Entry Image)) (image : Image) (ptsUsec : Int) (format : VideoFormat)

@[simp] theorem lastStored_stored : lastStored (log ++ [.stored image ptsUsec]) = some (image, ptsUsec) := by
  rw [lastStored, List.foldl_append]
  rfl

@[simp] theorem lastStored_replaced : lastStored (log ++ [.replaced format]) = lastStored log := by
  rw [lastStored, List.foldl_append]
  rfl

@[simp] theorem replacedSince_stored : replacedSince (log ++ [.stored image ptsUsec]) = false := by
  rw [replacedSince, List.foldl_append]
  rfl

@[simp] theorem replacedSince_replaced : replacedSince (log ++ [.replaced format]) = true := by
  rw [replacedSince, List.foldl_append]
  rfl

@[simp] theorem inEffect_stored : inEffect (log ++ [.stored image ptsUsec]) = inEffect log := by
  rw [inEffect, List.foldl_append]
  rfl

@[simp] theorem inEffect_replaced : inEffect (log ++ [.replaced format]) = some format := by
  rw [inEffect, List.foldl_append]
  rfl

end Log

/-! ## The three buffers -/

/-- Three pointers that do not share a buffer. -/
structure Distinct (front back out : Option Nat) : Prop where
  frontBack : ∀ address, front = some address → back ≠ some address
  frontOut : ∀ address, front = some address → out ≠ some address
  backOut : ∀ address, back = some address → out ≠ some address

theorem Distinct.swapBack {front back out : Option Nat} (distinct : Distinct front back out) :
    Distinct back front out :=
  ⟨fun address isBack isFront => distinct.frontBack address isFront isBack, distinct.backOut, distinct.frontOut⟩

theorem Distinct.swapOut {front back out : Option Nat} (distinct : Distinct front back out) :
    Distinct out back front :=
  ⟨fun address isOut isBack => distinct.backOut address isBack isOut,
    fun address isOut isFront => distinct.frontOut address isFront isOut,
    fun address isBack isFront => distinct.frontBack address isFront isBack⟩

/-- A pointer that is not null points to a buffer that was allocated. -/
def Live (heap : Nat → Option (AVFrame Image)) (allocated : Nat) (pointer : Option Nat) : Prop :=
  ∀ address, pointer = some address → address < allocated ∧ ∃ frame, heap address = some frame

/-- What a captured frame that has not been pulled is: the image stored last,
unless its buffer has been replaced. -/
def Pending (source : PortalPipeWireSource Image) : Prop :=
  ∃ front frame image, source.front = some front ∧ source.heap front = some frame ∧
    lastStored source.log = some (image, source.ptsUsec) ∧
    frame.image = if replacedSince source.log then none else some image

/-- The invariant of the source. -/
structure Owned (source : PortalPipeWireSource Image) : Prop where
  distinct : Distinct source.front source.back source.out
  frontLive : Live source.heap source.allocated source.front
  backLive : Live source.heap source.allocated source.back
  outLive : Live source.heap source.allocated source.out
  frontBack : source.front = none ↔ source.back = none
  format : ∀ address, source.front = some address ∨ source.back = some address →
    ∃ frame, source.heap address = some frame ∧ inEffect source.log = some frame.format
  settled : source.changing = none → ∀ format, inEffect source.log = some format →
    format = ⟨source.negotiatedFmt, source.width, source.height⟩
  pending : source.haveNew = true → Pending source

theorem owned_new : Owned (new : PortalPipeWireSource Image) := by
  have null : ∀ {property : Nat → Prop} (address : Nat), (none : Option Nat) = some address → property address := by
    intro property address impossible
    cases impossible
  refine ⟨⟨null, null, null⟩, null, null, null, Iff.rfl, ?_, ?_, ?_⟩
  · rintro address (impossible | impossible) <;> cases impossible
  · intro _ _ impossible
    cases impossible
  · intro impossible
    cases impossible

section Heap

variable (heap : Nat → Option (AVFrame Image)) {address other : Nat} (frame : AVFrame Image)

theorem store_self : store heap address frame address = some frame := if_pos rfl

theorem store_of_ne (different : other ≠ address) : store heap address frame other = heap other :=
  if_neg different

theorem free_of_ne {pointer : Option Nat} (different : pointer ≠ some address) :
    free heap pointer address = heap address :=
  if_neg different

end Heap

/-- The consumer's buffer is neither written nor freed, and stays the consumer's. -/
def Untouched (source next : PortalPipeWireSource Image) : Prop :=
  next.out = source.out ∧ ∀ address, source.out = some address → next.heap address = source.heap address

theorem Owned.onParamChanged {source : PortalPipeWireSource Image} (owned : Owned source)
    (param : Option VideoFormat) :
    Owned (source.onParamChanged param) ∧ Untouched source (source.onParamChanged param) := by
  have same : Owned source ∧ Untouched source source := ⟨owned, rfl, fun _ _ => rfl⟩
  cases param with
  | none => exact same
  | some info =>
      rw [PortalPipeWireSource.onParamChanged]
      split
      · exact same
      · refine ⟨⟨owned.distinct, owned.frontLive, owned.backLive, owned.outLive, owned.frontBack, owned.format, ?_,
          owned.pending⟩, rfl, fun _ _ => rfl⟩
        intro impossible
        cases impossible

/-- A change of the format leaves the consumer's buffer alone. -/
theorem Owned.replaceBuffers {source : PortalPipeWireSource Image} (owned : Owned source) (width height : Int) :
    Owned (source.replaceBuffers width height) ∧ Untouched source (source.replaceBuffers width height) := by
  generalize isNext : source.replaceBuffers width height = next
  generalize isFormat : (⟨source.negotiatedFmt, width, height⟩ : VideoFormat) = format
  have heap : next.heap = store (free (store (free source.heap source.front) source.allocated ⟨format, none⟩)
      source.back) (source.allocated + 1) ⟨format, none⟩ := by
    rw [← isNext, ← isFormat]
    rfl
  have isFront : next.front = some source.allocated := by
    rw [← isNext]
    rfl
  have isBack : next.back = some (source.allocated + 1) := by
    rw [← isNext]
    rfl
  have isOut : next.out = source.out := by
    rw [← isNext]
    rfl
  have room : next.allocated = source.allocated + 2 := by
    rw [← isNext]
    rfl
  have log : next.log = source.log ++ [.replaced format] := by
    rw [← isNext, ← isFormat]
    rfl
  have frontNew : next.heap source.allocated = some ⟨format, none⟩ := by
    have notBack : source.back ≠ some source.allocated := fun isBack =>
      Nat.lt_irrefl _ (owned.backLive source.allocated isBack).1
    rw [heap, store_of_ne _ _ (Nat.ne_of_lt (Nat.lt_succ_self _)), free_of_ne _ notBack, store_self]
  have backNew : next.heap (source.allocated + 1) = some ⟨format, none⟩ := by
    rw [heap, store_self]
  have outKept : ∀ address, source.out = some address → next.heap address = source.heap address := by
    intro address isOut
    have old := (owned.outLive address isOut).1
    have notBack : source.back ≠ some address := fun isBack => owned.distinct.backOut address isBack isOut
    have notFront : source.front ≠ some address := fun isFront => owned.distinct.frontOut address isFront isOut
    rw [heap, store_of_ne _ _ (by omega), free_of_ne _ notBack, store_of_ne _ _ (by omega), free_of_ne _ notFront]
  have outOld : ∀ address, next.out = some address → address < source.allocated := by
    intro address isAddress
    exact (owned.outLive address (isOut.symm.trans isAddress)).1
  refine ⟨⟨⟨?_, ?_, ?_⟩, ?_, ?_, ?_, ?_, ?_, ?_, ?_⟩, isOut, outKept⟩
  · intro address front back
    cases isFront.symm.trans front
    exact Nat.succ_ne_self _ (Option.some.inj (isBack.symm.trans back))
  · intro address front out
    cases isFront.symm.trans front
    exact Nat.lt_irrefl _ (outOld _ out)
  · intro address back out
    cases isBack.symm.trans back
    exact Nat.lt_irrefl _ (Nat.lt_of_succ_lt (outOld _ out))
  · intro address front
    cases isFront.symm.trans front
    exact ⟨by omega, _, frontNew⟩
  · intro address back
    cases isBack.symm.trans back
    exact ⟨by omega, _, backNew⟩
  · intro address out
    obtain ⟨frame, isFrame⟩ := (owned.outLive address (isOut.symm.trans out)).2
    have old := outOld address out
    exact ⟨by omega, frame, (outKept address (isOut.symm.trans out)).trans isFrame⟩
  · rw [isFront, isBack]
    exact iff_of_false (Option.some_ne_none _) (Option.some_ne_none _)
  · rw [log, inEffect_replaced]
    rintro address (front | back)
    · cases isFront.symm.trans front
      exact ⟨_, frontNew, rfl⟩
    · cases isBack.symm.trans back
      exact ⟨_, backNew, rfl⟩
  · rw [log, inEffect_replaced, ← isNext]
    rintro _ other isOther
    cases isOther
    exact isFormat.symm
  · intro isNew
    have wasNew : source.haveNew = true := by
      rw [← isNext] at isNew
      exact isNew
    obtain ⟨_, _, image, _, _, stored, _⟩ := owned.pending wasNew
    refine ⟨_, _, image, isFront, frontNew, ?_, ?_⟩
    · rw [log, lastStored_replaced, stored, ← isNext]
      rfl
    · rw [log, replacedSince_replaced]
      rfl

/-- A capture leaves the consumer's buffer alone. -/
theorem Owned.onProcess {source : PortalPipeWireSource Image} (owned : Owned source) (captured : Option Image)
    (now : Int) :
    Owned (source.onProcess captured now) ∧ Untouched source (source.onProcess captured now) := by
  have same : Owned source ∧ Untouched source source := ⟨owned, rfl, fun _ _ => rfl⟩
  unfold PortalPipeWireSource.onProcess
  split
  · rename_i image back isBack
    split
    · rename_i frame isFrame
      split
      · have notOut : source.out ≠ some back := owned.distinct.backOut back isBack
        have others : ∀ address, address ≠ back →
            store source.heap back { frame with image := some image } address = source.heap address :=
          fun address different => store_of_ne _ _ different
        have outKept : ∀ address, source.out = some address →
            store source.heap back { frame with image := some image } address = source.heap address := by
          intro address isOut
          refine others address (fun isBack => notOut ?_)
          rw [← isBack, isOut]
        have live : ∀ {pointer : Option Nat}, Live source.heap source.allocated pointer →
            Live (store source.heap back { frame with image := some image }) source.allocated pointer := by
          intro pointer alive address isPointer
          obtain ⟨old, other, isOther⟩ := alive address isPointer
          by_cases isBack : address = back
          · rw [isBack]
            exact ⟨isBack ▸ old, _, store_self _ _⟩
          · exact ⟨old, other, (others address isBack).trans isOther⟩
        obtain ⟨_, isFrame', known⟩ := owned.format back (Or.inr isBack)
        cases isFrame.symm.trans isFrame'
        refine ⟨⟨isBack ▸ owned.distinct.swapBack, isBack ▸ live owned.backLive, live owned.frontLive,
          live owned.outLive, ?_, ?_, ?_, ?_⟩, rfl, outKept⟩
        · rw [owned.frontBack, isBack]
        · rw [inEffect_stored]
          rintro address (front | wasFront)
          · cases front
            exact ⟨_, store_self _ _, known⟩
          · obtain ⟨other, isOther, sameFormat⟩ := owned.format address (Or.inl wasFront)
            refine ⟨other, (others address (fun isBack' => ?_)).trans isOther, sameFormat⟩
            exact owned.distinct.frontBack address wasFront (isBack' ▸ isBack)
        · rw [inEffect_stored]
          exact owned.settled
        · intro _
          exact ⟨back, _, image, rfl, store_self _ _, lastStored_stored _ _ _, by rw [replacedSince_stored]; rfl⟩
      · exact same
    · exact same
  · exact same

section Deliver

variable {source : PortalPipeWireSource Image} {front : Nat} {frame : AVFrame Image}

theorem deliver_of_fits (isFront : source.front = some front) (isFrame : source.heap front = some frame)
    (fits : source.outFits frame.format = true) :
    source.deliverFrontLocked =
      ({ source with front := source.out, out := some front }, .frame front source.ptsUsec) := by
  rw [deliverFrontLocked, isFront]
  simp only [isFrame, fits, if_true]

theorem deliver_of_misfit (isFront : source.front = some front) (isFrame : source.heap front = some frame)
    (misfits : source.outFits frame.format = false) :
    source.deliverFrontLocked =
      ({ source with
          heap := store (free source.heap source.out) source.allocated ⟨frame.format, none⟩
          allocated := source.allocated + 1
          front := some source.allocated
          out := some front }, .frame front source.ptsUsec) := by
  rw [deliverFrontLocked, isFront]
  simp only [isFrame, misfits, Bool.false_eq_true, if_false]

theorem out_of_fits {format : VideoFormat} (fits : source.outFits format = true) :
    ∃ out other, source.out = some out ∧ source.heap out = some other ∧ other.format = format := by
  rw [outFits] at fits
  split at fits
  · rename_i other isOther
    obtain ⟨out, isOut, stored⟩ := Option.bind_eq_some_iff.mp isOther
    exact ⟨out, other, isOut, stored, of_decide_eq_true fits⟩
  · cases fits

end Deliver

/-- A pull that finds a new frame delivers the front buffer, which belongs to
the consumer from then on. -/
structure Delivered (before after : PortalPipeWireSource Image) (pulled : Pulled) : Prop where
  owned : Owned after
  log : after.log = before.log
  frame : ∃ front frame image, pulled = .frame front before.ptsUsec ∧ after.out = some front ∧
    after.heap front = some frame ∧ inEffect before.log = some frame.format ∧
    lastStored before.log = some (image, before.ptsUsec) ∧
    frame.image = if replacedSince before.log then none else some image

theorem Owned.deliver {source : PortalPipeWireSource Image} (owned : Owned source) (pending : Pending source)
    (cleared : source.haveNew = false) :
    Delivered source source.deliverFrontLocked.1 source.deliverFrontLocked.2 := by
  obtain ⟨front, frame, image, isFront, isFrame, stored, content⟩ := pending
  obtain ⟨_, isFrame', known⟩ := owned.format front (Or.inl isFront)
  cases isFrame.symm.trans isFrame'
  have backSome : source.back ≠ none := fun none => by
    cases isFront.symm.trans (owned.frontBack.mpr none)
  have frontOut : Live source.heap source.allocated (some front) := isFront ▸ owned.frontLive
  cases fits : source.outFits frame.format with
  | true =>
      obtain ⟨out, other, isOut, isOther, sameFormat⟩ := out_of_fits fits
      rw [deliver_of_fits isFront isFrame fits]
      refine ⟨⟨isFront ▸ owned.distinct.swapOut, owned.outLive, owned.backLive, frontOut, ?_, ?_, owned.settled, ?_⟩,
        rfl, front, frame, image, rfl, rfl, isFrame, known, stored, content⟩
      · rw [isOut]
        exact iff_of_false (Option.some_ne_none _) backSome
      · rintro address (wasOut | back)
        · cases isOut.symm.trans wasOut
          exact ⟨other, isOther, sameFormat ▸ known⟩
        · exact owned.format address (Or.inr back)
      · intro isNew
        cases cleared.symm.trans isNew
  | false =>
      rw [deliver_of_misfit isFront isFrame fits]
      have others : ∀ address, address < source.allocated → source.out ≠ some address →
          store (free source.heap source.out) source.allocated ⟨frame.format, none⟩ address =
            source.heap address := by
        intro address old notOut
        rw [store_of_ne _ _ (Nat.ne_of_lt old), free_of_ne _ notOut]
      have keeps : ∀ {pointer : Option Nat}, (∀ address, pointer = some address → source.out ≠ some address) →
          Live source.heap source.allocated pointer →
          Live (store (free source.heap source.out) source.allocated ⟨frame.format, none⟩) (source.allocated + 1)
            pointer := by
        intro pointer notOut live address isPointer
        obtain ⟨old, other, isOther⟩ := live address isPointer
        exact ⟨Nat.lt_succ_of_lt old, other, (others address old (notOut address isPointer)).trans isOther⟩
      have unchanged := others front (owned.frontLive front isFront).1 (owned.distinct.frontOut front isFront)
      have kept := unchanged.trans isFrame
      refine ⟨⟨⟨?_, ?_, ?_⟩, ?_, keeps owned.distinct.backOut owned.backLive, ?_, ?_, ?_, owned.settled, ?_⟩,
        rfl, front, frame, image, rfl, rfl, kept, known, stored, content⟩
      · intro address isNew back
        cases isNew
        exact Nat.lt_irrefl _ (owned.backLive _ back).1
      · intro address isNew out
        cases isNew
        cases out
        exact Nat.lt_irrefl _ (owned.frontLive _ isFront).1
      · intro address back out
        cases out
        exact owned.distinct.frontBack front isFront back
      · intro address isNew
        cases isNew
        exact ⟨Nat.lt_succ_self _, _, store_self _ _⟩
      · refine keeps (fun address isAddress => ?_) frontOut
        cases isAddress
        exact owned.distinct.frontOut front isFront
      · exact iff_of_false (Option.some_ne_none _) backSome
      · rintro address (isNew | back)
        · cases isNew
          exact ⟨_, store_self _ _, known⟩
        · obtain ⟨other, isOther, sameFormat⟩ := owned.format address (Or.inr back)
          exact ⟨other, (others address (owned.backLive address back).1 (owned.distinct.backOut address back)).trans
            isOther, sameFormat⟩
      · intro isNew
        cases cleared.symm.trans isNew

/-- A pull delivers a frame, or changes nothing. -/
theorem Owned.latestFrame {source : PortalPipeWireSource Image} (owned : Owned source) :
    if source.running = true ∧ source.haveNew = true then
      Delivered source source.latestFrame.1 source.latestFrame.2
    else source.latestFrame.1 = source ∧ ∀ address ptsUsec, source.latestFrame.2 ≠ .frame address ptsUsec := by
  rw [PortalPipeWireSource.latestFrame]
  by_cases stopped : source.running = false
  · rw [if_neg (fun both => Bool.false_ne_true (stopped.symm.trans both.1)), if_pos stopped]
    exact ⟨rfl, fun address ptsUsec impossible => by cases impossible⟩
  by_cases nothing : source.haveNew = false
  · rw [if_neg (fun both => Bool.false_ne_true (nothing.symm.trans both.2)), if_neg stopped, if_pos nothing]
    exact ⟨rfl, fun address ptsUsec impossible => by cases impossible⟩
  rw [if_neg stopped, if_neg nothing]
  rw [Bool.not_eq_false] at stopped nothing
  rw [if_pos ⟨stopped, nothing⟩]
  have cleared : Owned ({ source with haveNew := false } : PortalPipeWireSource Image) :=
    ⟨owned.distinct, owned.frontLive, owned.backLive, owned.outLive, owned.frontBack, owned.format, owned.settled,
      fun impossible => by cases impossible⟩
  have delivered := cleared.deliver (owned.pending nothing) rfl
  exact ⟨delivered.owned, delivered.log, delivered.frame⟩

/-! ## The contract of the source -/

def Action.isPull : Action Image → Bool
  | .nextFrame | .latestFrame => true
  | _ => false

/-- Of the two threads, PipeWire's takes an action that leaves the consumer's
buffer alone, or the consumer pulls. -/
theorem Owned.step {source next : PortalPipeWireSource Image} (owned : Owned source) {action : Action Image}
    (stepped : source.step action = some next) :
    Owned next ∧ (action.isPull = false → Untouched source next) := by
  have pulls : Owned source.latestFrame.1 := by
    have pulls := owned.latestFrame
    split at pulls
    · exact pulls.owned
    · rw [pulls.1]
      exact owned
  cases action with
  | start =>
      cases stepped
      exact ⟨⟨owned.distinct, owned.frontLive, owned.backLive, owned.outLive, owned.frontBack, owned.format,
        owned.settled, owned.pending⟩, fun _ => ⟨rfl, fun _ _ => rfl⟩⟩
  | paramChanged param =>
      rw [PortalPipeWireSource.step] at stepped
      split at stepped
      · cases stepped
        exact (owned.onParamChanged param).imp id (fun untouched _ => untouched)
      · cases stepped
  | replaceBuffers =>
      obtain ⟨size, _, rfl⟩ := Option.map_eq_some_iff.mp stepped
      exact (owned.replaceBuffers size.1 size.2).imp id (fun untouched _ => untouched)
  | process captured now =>
      rw [PortalPipeWireSource.step] at stepped
      split at stepped
      · cases stepped
        exact (owned.onProcess captured now).imp id (fun untouched _ => untouched)
      · cases stepped
  | nextFrame =>
      cases stepped
      rw [nextFrame_eq]
      exact ⟨pulls, fun impossible => by cases impossible⟩
  | latestFrame =>
      cases stepped
      exact ⟨pulls, fun impossible => by cases impossible⟩

theorem owned_of_run {actions : List (Action Image)} {source : PortalPipeWireSource Image}
    (reached : run step new actions = some source) : Owned source :=
  run_invariant (fun _ _ _ owned stepped => (owned.step stepped).1) owned_new reached

theorem step_of_pull {source : PortalPipeWireSource Image} {action : Action Image} (isPull : action.isPull = true) :
    source.step action = some source.latestFrame.1 ∧ source.pulled action = some source.latestFrame.2 := by
  cases action with
  | nextFrame =>
      rw [PortalPipeWireSource.step, pulled, nextFrame_eq]
      exact ⟨rfl, rfl⟩
  | latestFrame => exact ⟨rfl, rfl⟩
  | _ => cases isPull

/-- A frame that an action returns holds the image captured last, with its time
and in the format in effect.  That format is the negotiated one, unless a change
is under way. -/
def Right (source next : PortalPipeWireSource Image) (action : Action Image) : Prop :=
  ∀ address ptsUsec, source.pulled action = some (.frame address ptsUsec) →
    next.out = some address ∧ ∃ frame image, next.heap address = some frame ∧ frame.image = some image ∧
      lastStored source.log = some (image, ptsUsec) ∧ inEffect source.log = some frame.format ∧
      (source.changing = none → frame.format = ⟨source.negotiatedFmt, source.width, source.height⟩)

/-- What the source promises of a run. -/
def Contract (actions : List (Action Image)) : Prop :=
  ∀ early late source, actions = early ++ late → run step new early = some source →
    Distinct source.front source.back source.out ∧
      ∀ action ∈ late.head?, ∀ next, source.step action = some next →
        (action.isPull = false → Untouched source next) ∧ Right source next action

/-- A pull would return a buffer that was allocated after the last capture. -/
def Stale (source : PortalPipeWireSource Image) : Prop :=
  source.running = true ∧ source.haveNew = true ∧ replacedSince source.log = true

/-- A pull keeps the promise exactly if it is not stale. -/
theorem Owned.right_iff {source : PortalPipeWireSource Image} (owned : Owned source) {action : Action Image}
    (isPull : action.isPull = true) : Right source source.latestFrame.1 action ↔ ¬ Stale source := by
  have pulls := owned.latestFrame
  rw [Right, (step_of_pull isPull).2]
  split at pulls
  · rename_i ready
    obtain ⟨front, frame, image, isPulled, isOut, isFrame, known, stored, content⟩ := pulls.frame
    rw [isPulled]
    constructor
    · rintro right ⟨_, _, replaced⟩
      obtain ⟨_, other, _, isOther, written, _⟩ := right front source.ptsUsec rfl
      cases isFrame.symm.trans isOther
      rw [replaced, if_pos rfl] at content
      cases content.symm.trans written
    · intro fresh address ptsUsec same
      cases same
      have kept : replacedSince source.log = false := by
        by_contra replaced
        exact fresh ⟨ready.1, ready.2, Bool.of_not_eq_false replaced⟩
      rw [kept] at content
      exact ⟨isOut, frame, image, isFrame, content, stored, known, fun settled => owned.settled settled _ known⟩
  · rename_i idle
    refine ⟨fun _ stale => idle ⟨stale.1, stale.2.1⟩, fun _ address ptsUsec isFrame => ?_⟩
    exact absurd (Option.some.inj isFrame) (pulls.2 address ptsUsec)

theorem Contract.fresh {actions : List (Action Image)} (contract : Contract actions)
    {early late : List (Action Image)}
    {action : Action Image} {source : PortalPipeWireSource Image} (isSplit : actions = early ++ action :: late)
    (reached : run step new early = some source) (isPull : action.isPull = true) : ¬ Stale source := by
  obtain ⟨_, keeps⟩ := contract early (action :: late) source isSplit reached
  have right := (keeps action rfl _ (step_of_pull isPull).1).2
  exact ((owned_of_run reached).right_iff isPull).mp right

/-- A run keeps the contract exactly if no pull in it is stale. -/
theorem contract_iff (actions : List (Action Image)) :
    Contract actions ↔ ∀ early action late source, actions = early ++ action :: late →
      run step new early = some source → action.isPull = true → ¬ Stale source := by
  constructor
  · exact fun contract early action late source => contract.fresh
  · intro fresh early late source isSplit reached
    have owned := owned_of_run reached
    refine ⟨owned.distinct, fun action isNext next stepped => ⟨(owned.step stepped).2, ?_⟩⟩
    obtain ⟨rest, rfl⟩ := List.head?_eq_some_iff.mp isNext
    cases isPull : action.isPull with
    | false =>
        intro address ptsUsec impossible
        cases action <;> cases isPull <;> cases impossible
    | true =>
        cases (step_of_pull isPull).1.symm.trans stepped
        exact (owned.right_iff isPull).mpr (fresh early action rest source isSplit reached isPull)

/-- A capture that is followed by a change of the size. -/
def changedRun : List (Action Nat) :=
  [.start, .paramChanged (some ⟨26, 1920, 1080⟩), .replaceBuffers, .process (some 1) 1000,
    .paramChanged (some ⟨26, 2560, 1440⟩), .replaceBuffers]

/-- The next pull returns a buffer that was never written. -/
theorem contract_not_always : ¬ ∀ actions : List (Action Nat), Contract actions := by
  intro always
  obtain ⟨source, reached, stale⟩ : ∃ source, run step new changedRun = some source ∧ Stale source :=
    ⟨_, rfl, rfl, rfl, rfl⟩
  exact (always (changedRun ++ [.latestFrame])).fresh rfl reached rfl stale

end PortalPipeWireSource
end MetaShare
