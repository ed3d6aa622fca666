import MetaShare.Foundation.Transitions
import MetaShare.Capture.AudioEncoder
import MetaShare.Capture.PipeWireAudioSource

namespace MetaShare

open Transitions

/-!
# From the sound card to the codec

The audio thread pulls blocks out of the ring and puts them into the encoder, while
PipeWire goes on filling the ring from behind and overwrites what is too old.
-/

/-- The source and the encoder, whether the thread has ended and the stream of the
source is gone, what was captured and how much of it was discarded, and what was
pulled and handed over. -/
structure AudioCapture where
  source : PipeWireAudioSource
  encoder : AudioEncoder
  ended : Bool
  stopped : Bool
  captured : List Int16
  discarded : Nat
  pulled : List AudioEncoder.Chunk
  frames : List AudioEncoder.Frame

namespace AudioCapture

open PipeWireAudioSource (AudioFormat Pulled Represents wholeFrames)
open AudioEncoder (Chunk Codec Frame INT_MAX supplied firstPts blocks encodeAll)

def start (source : PipeWireAudioSource) : AudioCapture where
  source := source
  encoder := .opened
  ended := false
  stopped := false
  captured := []
  discarded := 0
  pulled := []
  frames := []

/-- The count is an `int`. -/
def chunk (count : Int) (loan : List Int16) (ptsUsec : Int) : Chunk where
  data := loan.take (min count.toNat INT_MAX)
  ptsUsec := Int64.ofInt ptsUsec
  counted := (List.length_take_le _ _).trans (Nat.min_le_right _ _)

inductive Action where
  | process (chunk : Option (List Int16)) (now : Int)
  | pull
  | quit
  | clear

variable (format : AudioEncoder.Format) (codec : Nat → Codec)

/-- What the thread does with what it has pulled. -/
def feed (capture : AudioCapture) (pulled : Pulled) : AudioCapture :=
  match pulled with
  | .ended => { capture with ended := true }
  | .nothing => capture
  | .chunk count loan ptsUsec =>
      let chunk := chunk count loan ptsUsec
      let (encoder, frames, error) := capture.encoder.encode format codec chunk
      { capture with
        encoder := encoder
        pulled := capture.pulled ++ [chunk]
        frames := capture.frames ++ frames
        ended := error.isSome }

/-- A chunk of PipeWire. -/
def process (capture : AudioCapture) (chunk : Option (List Int16)) (now : Int) : Option AudioCapture :=
  let values := (chunk.map (wholeFrames capture.source.fmt.channelCount)).getD []
  (capture.source.onProcess chunk now).map (fun source => { capture with
    source := source
    captured := capture.captured ++ values
    discarded := capture.discarded +
      (capture.source.bufferedSamples + values.length - capture.source.buffer.length) })

/-- `stop` first wakes the thread, and clears the ring when its stream is gone.  A step
is undefined where the source has undefined behaviour. -/
def step (capture : AudioCapture) : Action → Option AudioCapture
  | .process chunk now => if capture.stopped then none else capture.process chunk now
  | .pull =>
      if capture.ended then some capture
      else capture.source.nextChunk.map (fun next => { capture with source := next.1 }.feed format codec next.2)
  | .quit => some { capture with source := { capture.source with running := false } }
  | .clear =>
      if capture.source.running then none
      else some { capture with
        source := { capture.source with buffer := [], readPos := 0, bufferedSamples := 0 }
        stopped := true }

/-- What the ring holds. -/
def waiting (capture : AudioCapture) : List Int16 :=
  RingBuffer.contents capture.source.buffer capture.source.readPos capture.source.bufferedSamples

/-! ## The stream -/

section Stream

variable {α : Type} {capacity : Nat}

/-- What overflow discards is missing, and nothing else happens to the stream. -/
theorem sublist_push {stream taken : List α} {queue : BoundedQueue α capacity} (values : List α)
    (kept : (taken ++ queue.items).Sublist stream) :
    (taken ++ (queue.push values).items).Sublist (stream ++ values) := by
  have newest : (BoundedQueue.newest capacity (queue.items ++ values)).Sublist (queue.items ++ values) :=
    List.drop_sublist _ _
  apply List.Sublist.trans ((List.Sublist.refl taken).append newest)
  rw [← List.append_assoc]
  exact kept.append (List.Sublist.refl values)

/-- A block that is popped goes from the queue to what was taken. -/
theorem append_pop (taken : List α) {block : List α} {queue : BoundedQueue α capacity} {count : Nat}
    (popped : (queue.pop count).2 = some block) :
    taken ++ block ++ (queue.pop count).1.items = taken ++ queue.items ∧ block.length = count := by
  rw [BoundedQueue.pop] at popped ⊢
  split at popped
  · rename_i enough
    cases popped
    simp [List.append_assoc, enough]
  · cases popped

theorem pop_of_none {queue : BoundedQueue α capacity} {count : Nat} (nothing : (queue.pop count).2 = none) :
    (queue.pop count).1 = queue := by
  rw [BoundedQueue.pop] at nothing ⊢
  split at nothing
  · cases nothing
  · rename_i few
    exact congrArg Prod.fst (if_neg few)

end Stream

/-! ## The threads -/

section Threads

variable {format codec} {fmt : AudioFormat} {capture next : AudioCapture}

/-- What was captured is pulled, waits in the ring, or was discarded, and what was
pulled was framed. -/
structure Flows (format : AudioEncoder.Format) (codec : Nat → Codec) (fmt : AudioFormat) (capture : AudioCapture) :
    Prop where
  sourceFormat : capture.source.fmt = fmt
  ring : capture.stopped = false → ∃ queue : BoundedQueue Int16 fmt.capacity,
    Represents fmt capture.source queue ∧ (supplied capture.pulled ++ queue.items).Sublist capture.captured ∧
      (supplied capture.pulled).length + queue.items.length + capture.discarded = capture.captured.length
  drained : capture.stopped = true → capture.source.running = false ∧ capture.source.bufferedSamples = 0
  stream : (supplied capture.pulled).Sublist capture.captured
  sizes : ∀ chunk ∈ capture.pulled, chunk.data.length = fmt.block
  encoded : (capture.encoder, capture.frames) = encodeAll format codec capture.pulled

theorem flows_start (accepted : fmt.Accepted) :
    Flows format codec fmt (start ⟨fmt, List.replicate fmt.capacity 0, 0, 0, [], 0, true⟩) where
  sourceFormat := rfl
  ring := fun _ => ⟨.empty, PipeWireAudioSource.represents_start accepted, .slnil, rfl⟩
  drained := Bool.noConfusion
  stream := .slnil
  sizes := List.forall_mem_nil _
  encoded := rfl

/-- While the stream is there, a chunk is always put into the ring. -/
theorem Flows.process (flows : Flows format codec fmt capture) (accepted : fmt.Accepted)
    (running : capture.stopped = false) (chunk : Option (List Int16)) (now : Int) :
    ∃ next, capture.process chunk now = some next ∧ Flows format codec fmt next := by
  obtain ⟨queue, represents, kept, counted⟩ := flows.ring running
  have length := represents.holds.length
  have bounded := queue.bounded
  cases chunk with
  | none =>
      refine ⟨_, rfl, flows.sourceFormat, fun _ => ⟨queue, represents, ?_, ?_⟩, flows.drained, ?_, flows.sizes,
        flows.encoded⟩
      · simpa using kept
      · simp [represents.size, ← length, bounded, counted]
      · simpa using flows.stream
  | some samples =>
      obtain ⟨source, processed, after⟩ := represents.process accepted samples now
      have pushed := sublist_push (wholeFrames fmt.channelCount samples) kept
      have longer : (queue.push (wholeFrames fmt.channelCount samples)).items.length =
          min (queue.items.length + (wholeFrames fmt.channelCount samples).length) fmt.capacity := by
        rw [BoundedQueue.push, BoundedQueue.length_newest, List.length_append]
      rw [AudioCapture.process, processed, represents.format, represents.size, ← length]
      refine ⟨_, rfl, after.format, fun _ => ⟨_, after, pushed, ?_⟩, ?_, ?_, flows.sizes, flows.encoded⟩
      · simp only [Option.map_some, Option.getD_some, List.length_append, longer]
        omega
      · exact fun stopped => Bool.noConfusion (running.symm.trans stopped)
      · exact flows.stream.trans (List.sublist_append_left _ _)

theorem encodeAll_snoc (capture : AudioCapture) (chunk : Chunk)
    (encoded : (capture.encoder, capture.frames) = encodeAll format codec capture.pulled) :
    ((capture.encoder.encode format codec chunk).1,
      capture.frames ++ (capture.encoder.encode format codec chunk).2.1) =
        encodeAll format codec (capture.pulled ++ [chunk]) := by
  rw [AudioEncoder.encodeAll_concat, ← encoded]

theorem block_le (even : fmt.Even) : fmt.block ≤ INT_MAX := by
  have upper := PipeWireAudioSource.toInt_lt (fmt.block : Int)
  rw [even.returned] at upper
  unfold INT_MAX
  omega

/-- A pull of the thread is always defined. -/
theorem Flows.pull (flows : Flows format codec fmt capture) (accepted : fmt.Accepted) (even : fmt.Even) :
    ∃ next, AudioCapture.step format codec capture .pull = some next ∧ Flows format codec fmt next := by
  rw [AudioCapture.step]
  split
  · exact ⟨capture, rfl, flows⟩
  cases stopped : capture.stopped with
  | true =>
      obtain ⟨idle, empty⟩ := flows.drained stopped
      have done : capture.source.nextChunk = some (capture.source, .ended) := by
        rw [PipeWireAudioSource.nextChunk, flows.sourceFormat, even.defined, Option.bind_eq_bind, Option.bind_some]
        exact if_pos ⟨idle, empty⟩
      rw [done]
      refine ⟨_, rfl, flows.sourceFormat, ?_, fun _ => ⟨idle, empty⟩, flows.stream, flows.sizes, flows.encoded⟩
      exact fun running => Bool.noConfusion running
  | false =>
      obtain ⟨queue, represents, kept, counted⟩ := flows.ring stopped
      obtain ⟨source, pulled, isNext, samples, after⟩ := represents.pull accepted even
      rw [isNext]
      refine ⟨_, rfl, ?_⟩
      have still : (queue.pop fmt.block).2 = none → ∃ queue : BoundedQueue Int16 fmt.capacity,
          Represents fmt source queue ∧ (supplied capture.pulled ++ queue.items).Sublist capture.captured ∧
            (supplied capture.pulled).length + queue.items.length + capture.discarded = capture.captured.length := by
        intro nothing
        rw [pop_of_none nothing] at after
        exact ⟨queue, after, kept, counted⟩
      cases pulled with
      | ended =>
          refine ⟨after.format, fun _ => still samples.symm, ?_, flows.stream, flows.sizes, flows.encoded⟩
          exact fun impossible => Bool.noConfusion impossible
      | nothing =>
          refine ⟨after.format, fun _ => still samples.symm, ?_, flows.stream, flows.sizes, flows.encoded⟩
          exact fun impossible => Bool.noConfusion impossible
      | chunk count loan ptsUsec =>
          obtain ⟨moved, size⟩ := append_pop (supplied capture.pulled) samples.symm
          have data : (chunk count loan ptsUsec).data = loan.take count.toNat := by
            have small : (loan.take count.toNat).length ≤ INT_MAX := size ▸ block_le even
            change loan.take (min count.toNat INT_MAX) = loan.take count.toNat
            rw [Nat.min_comm, ← List.take_take, List.take_of_length_le small]
          have grown := AudioEncoder.supplied_concat capture.pulled (chunk count loan ptsUsec)
          rw [data] at grown
          have fed : supplied (capture.pulled ++ [chunk count loan ptsUsec]) ++ (queue.pop fmt.block).1.items =
              supplied capture.pulled ++ queue.items := by
            rw [grown, moved]
          refine ⟨after.format, fun _ => ⟨_, after, ?_, ?_⟩, ?_, ?_, ?_, ?_⟩
          · exact fed ▸ kept
          · have lengths := congrArg List.length fed
            rw [List.length_append, List.length_append] at lengths
            exact (congrArg (fun total => total + capture.discarded) lengths).trans counted
          · exact fun impossible => Bool.noConfusion impossible
          · exact (List.sublist_append_left _ _).trans (fed ▸ kept)
          · exact List.forall_mem_append.mpr ⟨flows.sizes, List.forall_mem_singleton.mpr (data ▸ size)⟩
          · exact encodeAll_snoc capture _ flows.encoded

/-- Nothing but the buffers of the source is touched when it stops. -/
theorem Flows.step (flows : Flows format codec fmt capture) (accepted : fmt.Accepted) (even : fmt.Even)
    {action : Action} (stepped : AudioCapture.step format codec capture action = some next) :
    Flows format codec fmt next := by
  cases action with
  | process chunk now =>
      obtain ⟨running, processed⟩ := Option.ite_none_left_eq_some.mp stepped
      obtain ⟨after, same, flowsOn⟩ := flows.process accepted (Bool.eq_false_of_not_eq_true running) chunk now
      rw [same] at processed
      exact Option.some.inj processed ▸ flowsOn
  | pull =>
      obtain ⟨after, same, flowsOn⟩ := flows.pull accepted even
      rw [same] at stepped
      exact Option.some.inj stepped ▸ flowsOn
  | quit =>
      cases stepped
      refine ⟨flows.sourceFormat, ?_, ?_, flows.stream, flows.sizes, flows.encoded⟩
      · intro running
        obtain ⟨queue, represents, kept, counted⟩ := flows.ring running
        exact ⟨queue, ⟨represents.format, represents.size, represents.holds, represents.read, represents.buffered⟩,
          kept, counted⟩
      · exact fun stopped => ⟨rfl, (flows.drained stopped).2⟩
  | clear =>
      obtain ⟨idle, isNext⟩ := Option.ite_none_left_eq_some.mp stepped
      cases isNext
      refine ⟨flows.sourceFormat, ?_, ?_, flows.stream, flows.sizes, flows.encoded⟩
      · exact fun running => Bool.noConfusion running
      · exact fun _ => ⟨Bool.eq_false_of_not_eq_true idle, rfl⟩

/-- The times of the frames follow from that of the first chunk and the number of
samples, whatever is discarded. -/
theorem Flows.frames (flows : Flows format codec fmt capture) (succeeds : ∀ turn, codec turn = .encoded)
    (small : format.frameSamplesTotal + fmt.block ≤ INT_MAX) :
    capture.frames = blocks format (firstPts capture.pulled) (supplied capture.pulled)
      ((supplied capture.pulled).length / format.frameSamplesTotal) := by
  have counted : AudioEncoder.Counted format capture.pulled := by
    apply AudioEncoder.counted_of_small
    intro chunk member
    rw [flows.sizes chunk member]
    exact small
  have framed := (AudioEncoder.framed_iff_counted succeeds).mpr counted capture.pulled [] (List.append_nil _).symm
  exact (congrArg Prod.snd flows.encoded).trans framed.handed

/-- Whatever the two threads do, the codec gets the samples that were captured, in
frames without a gap, but for those that the ring discards when it is full. -/
theorem capture_delivered {source : PipeWireAudioSource} {actions : List Action}
    (started : PipeWireAudioSource.start fmt = some source) (even : fmt.Even)
    (small : format.frameSamplesTotal + fmt.block ≤ INT_MAX) (succeeds : ∀ turn, codec turn = .encoded)
    (ran : run (AudioCapture.step format codec) (start source) actions = some capture) :
    capture.frames = blocks format (firstPts capture.pulled) (supplied capture.pulled)
      ((supplied capture.pulled).length / format.frameSamplesTotal) ∧
      (supplied capture.pulled).Sublist capture.captured ∧
      (capture.stopped = false → capture.waiting.length ≤ fmt.capacity ∧
        (supplied capture.pulled ++ capture.waiting).Sublist capture.captured ∧
        (supplied capture.pulled).length + capture.waiting.length + capture.discarded = capture.captured.length ∧
        (capture.discarded = 0 → supplied capture.pulled ++ capture.waiting = capture.captured)) ∧
      (AudioCapture.step format codec capture .pull).isSome = true ∧
      (capture.stopped = false → ∀ chunk now, (capture.process chunk now).isSome = true) := by
  obtain ⟨accepted, rfl⟩ := PipeWireAudioSource.accepted_of_start started
  have flows : Flows format codec fmt capture :=
    run_invariant (fun _ _ _ flows stepped => flows.step accepted even stepped) (flows_start accepted) ran
  refine ⟨flows.frames succeeds small, flows.stream, ?_, ?_, ?_⟩
  · intro running
    obtain ⟨queue, represents, kept, counted⟩ := flows.ring running
    rw [waiting, represents.holds.contents]
    refine ⟨queue.bounded, kept, counted, ?_⟩
    intro none
    apply kept.eq_of_length
    rw [List.length_append, ← counted, none, Nat.add_zero]
  · obtain ⟨_, pulled, _⟩ := flows.pull accepted even
    exact Option.isSome_iff_exists.mpr ⟨_, pulled⟩
  · intro running chunk now
    obtain ⟨_, processed, _⟩ := flows.process accepted running chunk now
    exact Option.isSome_iff_exists.mpr ⟨_, processed⟩

end Threads

/-- One sample for each block, and for each frame. -/
def sampleFormat : AudioEncoder.Format := ⟨1, 1, 100, Nat.one_pos, Nat.one_pos, by decide, by decide⟩

def sampleStart : AudioCapture :=
  start ⟨⟨100, 1⟩, List.replicate (AudioFormat.capacity ⟨100, 1⟩) 0, 0, 0, [], 0, true⟩

def sampleCapture : AudioCapture :=
  (run (AudioCapture.step sampleFormat (fun _ => .encoded)) sampleStart
    [.process (some [7, 8]) 1000000, .pull]).get (by decide +kernel)

theorem capture_delivered_sample : sampleCapture.frames = [⟨[7], 980000⟩] := by
  have accepted : AudioFormat.Accepted ⟨100, 1⟩ := ⟨by decide, by decide⟩
  have even : AudioFormat.Even ⟨100, 1⟩ := (PipeWireAudioSource.even_iff accepted).mpr ⟨by decide, by decide⟩
  have ran : run (AudioCapture.step sampleFormat (fun _ => .encoded)) sampleStart
      [.process (some [7, 8]) 1000000, .pull] = some sampleCapture := Option.eq_some_of_isSome (by decide +kernel)
  have framed :=
    (capture_delivered (PipeWireAudioSource.start_eq accepted) even (by decide +kernel) (fun _ => rfl) ran).1
  rw [framed]
  decide +kernel

end AudioCapture
end MetaShare
