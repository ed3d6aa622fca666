import Mathlib.Algebra.Order.Ring.Int
import Mathlib.Data.List.Basic
import Mathlib.Data.List.Induction
import Mathlib.Tactic.Common

namespace MetaShare

/-!
# Framing the audio

The encoder gets chunks of interleaved samples and hands the codec frames of a
fixed size.  What does not fill a frame waits in a queue for the next chunk.
Whether the queue has a frame is decided with its size as a 32-bit integer.
-/

namespace AudioEncoder

def INT_MAX : Nat := 2147483647

/-- The format of the source and the frame size of the codec.  The frame has been
allocated, so its samples can be counted by an `int`. -/
structure Format where
  channels : Nat
  samplesPerFrame : Nat
  sampleRate : Nat
  channelsPos : 0 < channels
  samplesPos : 0 < samplesPerFrame
  ratePos : 0 < sampleRate
  allocated : samplesPerFrame * channels ≤ INT_MAX

/-- The arguments of a call: a chunk of samples, and the time of the first one. -/
structure Chunk where
  data : List Int16
  ptsUsec : Int64
  counted : data.length ≤ INT_MAX

/-- A frame that is handed to the codec. -/
structure Frame where
  samples : List Int16
  pts : Int64
  deriving DecidableEq

/-- What the libraries say to a frame, with the text of the error: the frame cannot
be written to, the conversion fails, the codec does not take the frame, it takes it
and its packets cannot be received, or all goes well. -/
inductive Codec where
  | unwritable
  | unconverted (error : String)
  | unsent (error : String)
  | unreceived (error : String)
  | encoded
  deriving DecidableEq

end AudioEncoder

/-- The encoder: whether it is open, the queue, and the time of the next frame.  The
turns number the frames that were tried. -/
structure AudioEncoder where
  ctx : Bool
  fifo : List Int16
  nextPtsUsec : Int64
  ptsSet : Bool
  turns : Nat

namespace AudioEncoder

/-- An encoder after `open`. -/
def opened : AudioEncoder := ⟨true, [], 0, false, 0⟩

namespace Format

variable (format : Format)

def frameSamplesTotal : Nat := format.samplesPerFrame * format.channels

/-- The duration of a frame. -/
def step : Int64 := Int64.ofNat (format.samplesPerFrame * 1000000 / format.sampleRate)

theorem total_pos : 0 < format.frameSamplesTotal := Nat.mul_pos format.samplesPos format.channelsPos

end Format

/-- The size of the queue as an `int`. -/
@[irreducible] def size (fifo : List Int16) : Int := (fifo.length : Int).bmod (2 ^ 32)

theorem bmod_le (value modulus : Nat) : (value : Int).bmod modulus ≤ value := by
  have reduced : (value : Int) % modulus ≤ value := by
    rw [← Int.natCast_mod]
    exact Int.ofNat_le.mpr (Nat.mod_le value modulus)
  rw [Int.bmod_def]
  split
  · exact reduced
  · exact (Int.sub_le_self _ (Int.natCast_nonneg _)).trans reduced

theorem size_le (fifo : List Int16) : size fifo ≤ fifo.length := by
  unfold size
  exact bmod_le fifo.length (2 ^ 32)

/-- The loop of `encode`: what is left, the frames that were handed over, and the
error with which it ends. -/
def frames (format : Format) (codec : Nat → Codec) (encoder : AudioEncoder) :
    AudioEncoder × List Frame × Option String :=
  if _full : (format.frameSamplesTotal : Int) ≤ size encoder.fifo then
    let turned := { encoder with turns := encoder.turns + 1 }
    let frame : Frame := ⟨encoder.fifo.take format.frameSamplesTotal, encoder.nextPtsUsec⟩
    let advanced := { turned with nextPtsUsec := encoder.nextPtsUsec + format.step }
    match codec encoder.turns with
    | .unwritable => (turned, [], some "audio enc_frame not writable")
    | .unconverted error => (turned, [], some ("swr_convert: " ++ error))
    | .unsent error => (advanced, [frame], some ("avcodec_send_frame: " ++ error))
    | .unreceived error => (advanced, [frame], some ("avcodec_receive_packet: " ++ error))
    | .encoded =>
        let (last, later, error) :=
          frames format codec { advanced with fifo := encoder.fifo.drop format.frameSamplesTotal }
        (last, frame :: later, error)
  else (encoder, [], none)
termination_by encoder.fifo.length
decreasing_by
  have shorter := size_le encoder.fifo
  have total := format.total_pos
  rw [List.length_drop]
  omega

def encode (format : Format) (codec : Nat → Codec) (encoder : AudioEncoder) (chunk : Chunk) :
    AudioEncoder × List Frame × Option String :=
  if encoder.ctx then
    let encoder :=
      if encoder.ptsSet then encoder else { encoder with nextPtsUsec := chunk.ptsUsec, ptsSet := true }
    frames format codec { encoder with fifo := encoder.fifo ++ chunk.data }
  else (encoder, [], some "audio encoder not open")

/-- The calls one after another, and the frames that were handed over. -/
def encodeAll (format : Format) (codec : Nat → Codec) (chunks : List Chunk) : AudioEncoder × List Frame :=
  chunks.foldl (fun state chunk =>
    ((state.1.encode format codec chunk).1, state.2 ++ (state.1.encode format codec chunk).2.1)) (opened, [])

/-! ## What the frames should be -/

/-- The samples that were supplied. -/
def supplied (chunks : List Chunk) : List Int16 := chunks.flatMap Chunk.data

def firstPts (chunks : List Chunk) : Int64 := (chunks.head?.map Chunk.ptsUsec).getD 0

/-- A block of the stream and its time. -/
def block (format : Format) (first : Int64) (stream : List Int16) (number : Nat) : Frame :=
  ⟨(stream.drop (number * format.frameSamplesTotal)).take format.frameSamplesTotal,
    first + Int64.ofNat number * format.step⟩

/-- The first blocks of the stream, in order. -/
def blocks (format : Format) (first : Int64) (stream : List Int16) (count : Nat) : List Frame :=
  (List.range count).map (block format first stream)

/-- The calls have handed over all the blocks that are complete, and less than a
frame is left. -/
structure Framed (format : Format) (codec : Nat → Codec) (chunks : List Chunk) : Prop where
  handed : (encodeAll format codec chunks).2 =
    blocks format (firstPts chunks) (supplied chunks) ((supplied chunks).length / format.frameSamplesTotal)
  left : (encodeAll format codec chunks).1.fifo.length < format.frameSamplesTotal

/-- Whenever one cutting has supplied a beginning of what the other has, it has handed
over a beginning of its frames. -/
def Agree (format : Format) (codec : Nat → Codec) (first second : List Chunk) : Prop :=
  ∀ early late, first = early ++ late → ∀ early' late', second = early' ++ late' →
    supplied early <+: supplied early' → (encodeAll format codec early).2 <+: (encodeAll format codec early').2

/-- The frames do not depend on the cutting: with either they are as they should be
after every call, and they agree wherever the same samples have been supplied. -/
structure Independent (format : Format) (codec : Nat → Codec) (first second : List Chunk) : Prop where
  framed : ∀ early late, first = early ++ late → Framed format codec early
  framed' : ∀ early late, second = early ++ late → Framed format codec early
  agree : Agree format codec first second
  agree' : Agree format codec second first

/-- The samples that wait and those of the next chunk can be counted by an `int`. -/
def Counted (format : Format) (chunks : List Chunk) : Prop :=
  ∀ early chunk late, chunks = early ++ chunk :: late →
    (supplied early).length % format.frameSamplesTotal + chunk.data.length ≤ INT_MAX

/-! ## Blocks -/

section Blocks

variable (format : Format) (start : Int64)

theorem blocks_succ (stream : List Int16) (count : Nat) :
    blocks format start stream (count + 1) = blocks format start stream count ++
      [block format start stream count] := by
  rw [blocks, List.range_succ, List.map_append, List.map_singleton]
  rfl

theorem blocks_mono (stream : List Int16) {count more : Nat} (fewer : count ≤ more) :
    blocks format start stream count <+: blocks format start stream more := by
  obtain ⟨rest, rfl⟩ := Nat.exists_eq_add_of_le fewer
  rw [blocks, blocks, List.range_add, List.map_append]
  exact List.prefix_append _ _

/-- A complete block stays as it is when there is more. -/
theorem blocks_append {stream : List Int16} {count : Nat}
    (complete : count * format.frameSamplesTotal ≤ stream.length) (more : List Int16) :
    blocks format start (stream ++ more) count = blocks format start stream count := by
  apply List.map_congr_left
  intro number member
  have inside : (number + 1) * format.frameSamplesTotal ≤ stream.length :=
    (Nat.mul_le_mul_right _ (List.mem_range.mp member)).trans complete
  rw [Nat.succ_mul] at inside
  rw [block, block, List.drop_append_of_le_length (by omega), List.take_append_of_le_length]
  rw [List.length_drop]
  omega

end Blocks

/-! ## One call -/

section Call

variable {format : Format} {codec : Nat → Codec}

/-- So many blocks of the stream are handed over, and the rest waits. -/
structure Waits (format : Format) (start : Int64) (stream : List Int16) (count : Nat) (encoder : AudioEncoder) :
    Prop where
  complete : count * format.frameSamplesTotal ≤ stream.length
  fifo : encoder.fifo = stream.drop (count * format.frameSamplesTotal)
  pts : encoder.nextPtsUsec = start + Int64.ofNat count * format.step

theorem size_eq {fifo : List Int16} (counted : fifo.length ≤ INT_MAX) : size fifo = fifo.length := by
  rw [INT_MAX] at counted
  unfold size
  exact Int.bmod_eq_of_le (by omega) (by omega)

/-- A size that no `int` can be is negative. -/
theorem size_neg {fifo : List Int16} (uncounted : INT_MAX < fifo.length) (below : fifo.length ≤ 2 * INT_MAX) :
    size fifo < 0 := by
  have modulus : 2 ^ 32 = 4294967296 := rfl
  rw [INT_MAX] at uncounted below
  unfold size
  rw [modulus, Int.bmod_def]
  omega

/-- The encoder after a frame. -/
def advance (format : Format) (encoder : AudioEncoder) : AudioEncoder :=
  { encoder with turns := encoder.turns + 1, nextPtsUsec := encoder.nextPtsUsec + format.step,
                 fifo := encoder.fifo.drop format.frameSamplesTotal }

/-- The frame that is handed over is the next block. -/
theorem Waits.next {start : Int64} {stream : List Int16} {count : Nat} {encoder : AudioEncoder}
    (waits : Waits format start stream count encoder) (enough : format.frameSamplesTotal ≤ encoder.fifo.length) :
    (⟨encoder.fifo.take format.frameSamplesTotal, encoder.nextPtsUsec⟩ : Frame) = block format start stream count ∧
      Waits format start stream (count + 1) (advance format encoder) := by
  rw [waits.fifo, List.length_drop] at enough
  have complete := waits.complete
  refine ⟨by rw [waits.fifo, waits.pts]; rfl, ?_, ?_, ?_⟩
  · rw [Nat.succ_mul]
    omega
  · change encoder.fifo.drop _ = _
    rw [waits.fifo, List.drop_drop, Nat.succ_mul]
  · change encoder.nextPtsUsec + format.step = _
    rw [waits.pts, Int64.ofNat_add, Int64.add_mul, Int64.add_assoc]
    congr 2
    exact (Int64.one_mul _).symm

theorem frames_short {encoder : AudioEncoder} (short : size encoder.fifo < format.frameSamplesTotal) :
    frames format codec encoder = (encoder, [], none) := by
  rw [frames, dif_neg (not_le.mpr short)]

theorem frames_full {encoder : AudioEncoder} (full : (format.frameSamplesTotal : Int) ≤ size encoder.fifo)
    (succeeds : codec encoder.turns = .encoded) :
    frames format codec encoder = ((frames format codec (advance format encoder)).1,
      ⟨encoder.fifo.take format.frameSamplesTotal, encoder.nextPtsUsec⟩ ::
        (frames format codec (advance format encoder)).2.1,
      (frames format codec (advance format encoder)).2.2) := by
  rw [frames, dif_pos full]
  simp only [succeeds]
  rfl

/-- When the queue can be counted, the loop hands over all blocks that are complete. -/
theorem frames_eq (succeeds : ∀ turn, codec turn = .encoded) {start : Int64} {stream : List Int16} {count : Nat}
    {encoder : AudioEncoder} (waits : Waits format start stream count encoder)
    (counted : encoder.fifo.length ≤ INT_MAX) :
    Waits format start stream (stream.length / format.frameSamplesTotal) (frames format codec encoder).1 ∧
      blocks format start stream count ++ (frames format codec encoder).2.1 =
        blocks format start stream (stream.length / format.frameSamplesTotal) ∧
      (frames format codec encoder).1.ctx = encoder.ctx ∧
      (frames format codec encoder).1.ptsSet = encoder.ptsSet := by
  induction isLength : encoder.fifo.length using Nat.strong_induction_on generalizing encoder count with
  | h length inductionHypothesis =>
      have total := format.total_pos
      have complete := waits.complete
      have rest : encoder.fifo.length = stream.length - count * format.frameSamplesTotal := by
        rw [waits.fifo, List.length_drop]
      by_cases full : (format.frameSamplesTotal : Int) ≤ size encoder.fifo
      · have enough := full
        rw [size_eq counted, Int.ofNat_le] at enough
        obtain ⟨isBlock, next⟩ := waits.next enough
        have shorter : (advance format encoder).fifo.length = encoder.fifo.length - format.frameSamplesTotal :=
          List.length_drop
        have later := inductionHypothesis _ (by omega) next (by omega) shorter
        rw [frames_full full (succeeds _), isBlock]
        refine ⟨later.1, ?_, later.2.2⟩
        rw [← later.2.1, blocks_succ, List.append_assoc, List.singleton_append]
      · have isLast : stream.length / format.frameSamplesTotal = count := by
          rw [size_eq counted, Int.ofNat_le] at full
          rw [Nat.div_eq_iff total]
          omega
        rw [frames_short (not_le.mp full), isLast]
        exact ⟨waits, List.append_nil _, rfl, rfl⟩

end Call

/-! ## All calls -/

section Calls

variable {format : Format} {codec : Nat → Codec}

theorem encodeAll_concat (chunks : List Chunk) (chunk : Chunk) :
    encodeAll format codec (chunks ++ [chunk]) =
      (((encodeAll format codec chunks).1.encode format codec chunk).1,
        (encodeAll format codec chunks).2 ++ ((encodeAll format codec chunks).1.encode format codec chunk).2.1) :=
  List.foldl_concat _ _ _ _

theorem supplied_concat (chunks : List Chunk) (chunk : Chunk) :
    supplied (chunks ++ [chunk]) = supplied chunks ++ chunk.data := by
  rw [supplied, List.flatMap_append, List.flatMap_singleton]
  rfl

/-- The encoder behind the calls, and the frames until then. -/
structure Queued (format : Format) (codec : Nat → Codec) (chunks : List Chunk) : Prop where
  isOpen : (encodeAll format codec chunks).1.ctx = true
  ptsSet : (encodeAll format codec chunks).1.ptsSet = !chunks.isEmpty
  waits : chunks ≠ [] → Waits format (firstPts chunks) (supplied chunks)
    ((supplied chunks).length / format.frameSamplesTotal) (encodeAll format codec chunks).1
  fifo : (encodeAll format codec chunks).1.fifo = (supplied chunks).drop
    ((supplied chunks).length / format.frameSamplesTotal * format.frameSamplesTotal)
  handed : (encodeAll format codec chunks).2 =
    blocks format (firstPts chunks) (supplied chunks) ((supplied chunks).length / format.frameSamplesTotal)

theorem Queued.length {chunks : List Chunk} (queued : Queued format codec chunks) :
    (encodeAll format codec chunks).1.fifo.length = (supplied chunks).length % format.frameSamplesTotal := by
  rw [queued.fifo, List.length_drop, Nat.mod_eq_sub_div_mul]

theorem Queued.framed {chunks : List Chunk} (queued : Queued format codec chunks) : Framed format codec chunks :=
  ⟨queued.handed, queued.length ▸ Nat.mod_lt _ format.total_pos⟩

/-- The encoder when the chunk has been put into its queue. -/
def fill (encoder : AudioEncoder) (chunk : Chunk) : AudioEncoder :=
  { encoder with nextPtsUsec := if encoder.ptsSet then encoder.nextPtsUsec else chunk.ptsUsec, ptsSet := true,
                 fifo := encoder.fifo ++ chunk.data }

theorem encode_eq {encoder : AudioEncoder} (isOpen : encoder.ctx = true) (chunk : Chunk) :
    encode format codec encoder chunk = frames format codec (fill encoder chunk) := by
  rw [encode, if_pos isOpen, fill]
  cases isSet : encoder.ptsSet <;> simp [isSet]

theorem fill_pts (encoder : AudioEncoder) (chunk : Chunk) : (fill encoder chunk).nextPtsUsec =
    if encoder.ptsSet then encoder.nextPtsUsec else chunk.ptsUsec := rfl

theorem firstPts_concat {chunks : List Chunk} (some : chunks ≠ []) (chunk : Chunk) :
    firstPts (chunks ++ [chunk]) = firstPts chunks := by
  obtain ⟨first, rest, rfl⟩ := List.exists_cons_of_ne_nil some
  rfl

/-- With the chunk in the queue, the blocks that were handed over are still those of
the stream. -/
theorem Queued.filled {chunks : List Chunk} (queued : Queued format codec chunks) (chunk : Chunk) :
    Waits format (firstPts (chunks ++ [chunk])) (supplied (chunks ++ [chunk]))
        ((supplied chunks).length / format.frameSamplesTotal) (fill (encodeAll format codec chunks).1 chunk) ∧
      (encodeAll format codec chunks).2 = blocks format (firstPts (chunks ++ [chunk])) (supplied (chunks ++ [chunk]))
        ((supplied chunks).length / format.frameSamplesTotal) := by
  have complete := Nat.div_mul_le_self (supplied chunks).length format.frameSamplesTotal
  have queue : (fill (encodeAll format codec chunks).1 chunk).fifo = (supplied (chunks ++ [chunk])).drop
      ((supplied chunks).length / format.frameSamplesTotal * format.frameSamplesTotal) := by
    rw [supplied_concat, List.drop_append_of_le_length complete, ← queued.fifo]
    rfl
  have longer : (supplied chunks).length ≤ (supplied (chunks ++ [chunk])).length := by
    rw [supplied_concat, List.length_append]
    exact Nat.le_add_right _ _
  cases chunks with
  | nil =>
      refine ⟨⟨complete.trans longer, queue, ?_⟩, ?_⟩
      · have unset := queued.ptsSet
        rw [List.isEmpty_nil, Bool.not_true] at unset
        rw [fill_pts, unset, if_neg Bool.false_ne_true]
        simp [supplied, firstPts]
      · rw [queued.handed]
        simp [supplied, blocks]
  | cons first rest =>
      have some := List.cons_ne_nil first rest
      refine ⟨⟨complete.trans longer, queue, ?_⟩, ?_⟩
      · have isSet : (encodeAll format codec (first :: rest)).1.ptsSet = true := queued.ptsSet
        rw [fill_pts, if_pos isSet, (queued.waits some).pts, firstPts_concat some]
      · rw [queued.handed, firstPts_concat some, supplied_concat, blocks_append format _ complete]

/-- A call with a chunk that can be counted along with what waits. -/
theorem Queued.concat (succeeds : ∀ turn, codec turn = .encoded) {chunks : List Chunk} {chunk : Chunk}
    (queued : Queued format codec chunks)
    (counted : (supplied chunks).length % format.frameSamplesTotal + chunk.data.length ≤ INT_MAX) :
    Queued format codec (chunks ++ [chunk]) := by
  obtain ⟨waits, handed⟩ := queued.filled chunk
  have isLength : (fill (encodeAll format codec chunks).1 chunk).fifo.length ≤ INT_MAX := by
    rw [fill, List.length_append, queued.length]
    exact counted
  obtain ⟨after, frames, isOpen, ptsSet⟩ := frames_eq succeeds waits isLength
  rw [← handed] at frames
  rw [← encode_eq queued.isOpen] at after frames isOpen ptsSet
  constructor
  · rw [encodeAll_concat]
    exact isOpen.trans queued.isOpen
  · rw [encodeAll_concat]
    rw [ptsSet, fill]
    simp
  · intro _
    rw [encodeAll_concat]
    exact after
  · rw [encodeAll_concat]
    exact after.fifo
  · rw [encodeAll_concat]
    exact frames

/-- With a chunk that cannot be counted along with what waits, the size of the queue
is negative and nothing is taken from it. -/
theorem Queued.overflow {chunks : List Chunk} {chunk : Chunk} (queued : Queued format codec chunks)
    (uncounted : ¬ (supplied chunks).length % format.frameSamplesTotal + chunk.data.length ≤ INT_MAX) :
    ¬ Framed format codec (chunks ++ [chunk]) := by
  have isLength : (fill (encodeAll format codec chunks).1 chunk).fifo.length =
      (supplied chunks).length % format.frameSamplesTotal + chunk.data.length := by
    rw [fill, List.length_append, queued.length]
  have waiting := Nat.mod_lt (supplied chunks).length format.total_pos
  have allocated := format.allocated
  have counted := chunk.counted
  have negative : size (fill (encodeAll format codec chunks).1 chunk).fifo < format.frameSamplesTotal := by
    have below : (fill (encodeAll format codec chunks).1 chunk).fifo.length ≤ 2 * INT_MAX := by
      rw [isLength, two_mul]
      exact Nat.add_le_add (waiting.le.trans allocated) counted
    exact (size_neg (isLength ▸ not_le.mp uncounted) below).trans (Int.natCast_pos.mpr format.total_pos)
  intro framed
  have left := framed.left
  rw [encodeAll_concat, encode_eq queued.isOpen, frames_short negative, isLength] at left
  exact uncounted (left.le.trans allocated)

/-- The next call leaves less than a frame exactly when its chunk can be counted along
with what waits. -/
theorem Queued.framed_iff (succeeds : ∀ turn, codec turn = .encoded) {chunks : List Chunk}
    (queued : Queued format codec chunks) (chunk : Chunk) :
    Framed format codec (chunks ++ [chunk]) ↔
      (supplied chunks).length % format.frameSamplesTotal + chunk.data.length ≤ INT_MAX :=
  ⟨fun framed => by_contra fun uncounted => queued.overflow uncounted framed,
    fun counted => (queued.concat succeeds counted).framed⟩

theorem queued_nil : Queued format codec [] where
  isOpen := rfl
  ptsSet := rfl
  waits := fun impossible => absurd rfl impossible
  fifo := List.drop_nil.symm
  handed := by
    rw [supplied, List.flatMap_nil, List.length_nil, Nat.zero_div]
    rfl

/-- After every call the frames are as they should be exactly when all chunks can be
counted. -/
theorem framed_iff_counted (succeeds : ∀ turn, codec turn = .encoded) {chunks : List Chunk} :
    (∀ early late, chunks = early ++ late → Framed format codec early) ↔ Counted format chunks := by
  constructor
  · intro framed early chunk late split
    have queued : ∀ early late, chunks = early ++ late → Queued format codec early := by
      intro early
      induction early using List.reverseRecOn with
      | nil => exact fun _ _ => queued_nil
      | append_singleton early chunk inductionHypothesis =>
          intro late split
          have before := inductionHypothesis (chunk :: late) (by rw [split, List.append_assoc, List.singleton_append])
          exact before.concat succeeds ((before.framed_iff succeeds chunk).mp (framed _ late split))
    have next := framed (early ++ [chunk]) late (by rw [split, List.append_assoc, List.singleton_append])
    exact ((queued early (chunk :: late) split).framed_iff succeeds chunk).mp next
  · intro counted early late split
    suffices queued : Queued format codec early from queued.framed
    induction early using List.reverseRecOn generalizing late with
    | nil => exact queued_nil
    | append_singleton early chunk inductionHypothesis =>
        rw [List.append_assoc, List.singleton_append] at split
        exact (inductionHypothesis (chunk :: late) split).concat succeeds (counted early chunk late split)

/-- Frames that are as they should be are a function of the samples. -/
theorem agree_of_framed {first second : List Chunk} (start : firstPts first = firstPts second)
    (framed : ∀ early late, first = early ++ late → Framed format codec early)
    (framed' : ∀ early late, second = early ++ late → Framed format codec early) :
    Agree format codec first second := by
  intro early late split early' late' split' fewer
  rw [(framed early late split).handed, (framed' early' late' split').handed]
  have count := Nat.div_le_div_right fewer.length_le (c := format.frameSamplesTotal)
  have complete := Nat.div_mul_le_self (supplied early).length format.frameSamplesTotal
  cases early with
  | nil =>
      rw [supplied, List.flatMap_nil, List.length_nil, Nat.zero_div]
      exact List.nil_prefix
  | cons chunk early =>
      cases early' with
      | nil =>
          have nothing := List.prefix_nil.mp fewer
          rw [nothing, List.length_nil, Nat.zero_div]
          exact List.nil_prefix
      | cons chunk' early' =>
          have same : firstPts (chunk :: early) = firstPts (chunk' :: early') := by
            rw [split, split'] at start
            exact start
          obtain ⟨more, isMore⟩ := fewer
          rw [same, ← blocks_append format _ complete more, isMore]
          exact blocks_mono format _ _ count

/-- Framing does not depend on the cutting exactly when all chunks can be counted
along with what waits for them. -/
theorem framing_independent (succeeds : ∀ turn, codec turn = .encoded) {first second : List Chunk}
    (start : firstPts first = firstPts second) :
    Independent format codec first second ↔ Counted format first ∧ Counted format second := by
  rw [← framed_iff_counted succeeds, ← framed_iff_counted succeeds]
  constructor
  · exact fun independent => ⟨independent.framed, independent.framed'⟩
  · rintro ⟨framed, framed'⟩
    exact ⟨framed, framed', agree_of_framed start framed framed', agree_of_framed start.symm framed' framed⟩

end Calls

/-- Chunks of a usual size can be counted. -/
theorem counted_of_small {format : Format} {chunks : List Chunk}
    (small : ∀ chunk ∈ chunks, format.frameSamplesTotal + chunk.data.length ≤ INT_MAX) :
    Counted format chunks := by
  intro early chunk late split
  have fits := small chunk (split ▸ List.mem_append_right _ List.mem_cons_self)
  have waiting := Nat.mod_lt (supplied early).length format.total_pos
  omega

/-- Three samples of one channel, in one chunk and in two. -/
theorem framing_independent_sample :
    let format : Format := ⟨1, 2, 48000, by decide, by decide, by decide, by decide⟩
    Independent format (fun _ => .encoded) [⟨[1, 2, 3], 500, by decide⟩]
      [⟨[1], 500, by decide⟩, ⟨[2, 3], 520, by decide⟩] := by
  intro format
  have start : firstPts [⟨[1, 2, 3], 500, by decide⟩] =
      firstPts [⟨[1], 500, by decide⟩, ⟨[2, 3], 520, by decide⟩] := rfl
  exact (framing_independent (fun _ => rfl) start).mpr
    ⟨counted_of_small (by decide), counted_of_small (by decide)⟩

/-- A sample waits for the second channel, and the next chunk is the longest there is:
no frame is handed over. -/
theorem frame_withheld :
    let format : Format := ⟨2, 1, 48000, by decide, by decide, by decide, by decide⟩
    let longest : Chunk := ⟨List.replicate INT_MAX 0, 0, by rw [List.length_replicate]⟩
    ¬ Framed format (fun _ => .encoded) [⟨[0], 0, by decide⟩, longest] := by
  intro format longest
  have first : Queued format (fun _ => .encoded) [⟨[0], 0, by decide⟩] :=
    queued_nil.concat (fun _ => rfl) (by decide)
  have uncounted : ¬ (supplied [⟨[0], 0, by decide⟩]).length % format.frameSamplesTotal +
      longest.data.length ≤ INT_MAX := by
    rw [List.length_replicate]
    decide
  exact first.overflow uncounted

end AudioEncoder
end MetaShare
