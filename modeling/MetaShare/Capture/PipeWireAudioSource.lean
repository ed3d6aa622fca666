import MetaShare.Foundation.RingBuffer
import Mathlib.Algebra.Order.Ring.Int
import Mathlib.Data.Int.ModEq

namespace MetaShare

open RingBuffer

/-!
# Capturing audio

PipeWire delivers chunks of interleaved samples on a thread of its own, and the
audio encoder takes blocks of ten milliseconds.  Between them lies a ring of
fifty milliseconds under a mutex, which loses its oldest samples on overflow.
An undefined step is one with undefined behaviour: a copy that leaves a buffer, a
division by zero, or a product of two `int`s that is none.
-/

namespace PipeWireAudioSource

def kAudioFrameMs : Int := 10

structure AudioFormat where
  sampleRate : Int32
  channels : Int32
  deriving DecidableEq

/-- What the encoder gets: -1, 0, or a number of samples in the loan, and their
time. -/
inductive Pulled where
  | ended
  | nothing
  | chunk (count : Int) (loan : List Int16) (ptsUsec : Int)
  deriving DecidableEq

end PipeWireAudioSource

/-- The fields of the source that the two threads share. -/
structure PipeWireAudioSource where
  fmt : PipeWireAudioSource.AudioFormat
  buffer : List Int16
  readPos : Nat
  bufferedSamples : Nat
  loan : List Int16
  ptsUsec : Int
  running : Bool
  deriving DecidableEq

namespace PipeWireAudioSource

/-! ## Machine arithmetic -/

def toInt (value : Int) : Int := value.bmod (2 ^ 32)

def toSize (value : Int) : Nat := (value % 2 ^ 64).toNat

/-- Copy so many samples, from a place in the source to one in the destination. -/
def memcpy (destination : List Int16) (place : Nat) (source : List Int16) (offset count : Nat) :
    Option (List Int16) :=
  if place + count ≤ destination.length ∧ offset + count ≤ source.length then
    some (overwrite destination place ((source.drop offset).take count))
  else none

def resize (samples : List Int16) (size : Nat) : List Int16 :=
  samples.take size ++ List.replicate (size - samples.length) 0

/-! ## The source -/

namespace AudioFormat

def channelCount (fmt : AudioFormat) : Nat := toSize fmt.channels.toInt

/-- The size of the ring, which holds fifty milliseconds. -/
def capacity (fmt : AudioFormat) : Nat := toSize (fmt.sampleRate.toInt.tdiv 20) * fmt.channelCount % 2 ^ 64

/-- The size of a block of ten milliseconds. -/
def block (fmt : AudioFormat) : Nat :=
  toSize ((fmt.sampleRate.toInt * kAudioFrameMs).tdiv 1000) * fmt.channelCount % 2 ^ 64

/-- The product with the rate is taken as an `int`. -/
def want (fmt : AudioFormat) : Option Nat :=
  if -2 ^ 31 ≤ fmt.sampleRate.toInt * kAudioFrameMs ∧ fmt.sampleRate.toInt * kAudioFrameMs < 2 ^ 31 then
    some fmt.block
  else none

/-- The time that so many samples take. -/
def duration (fmt : AudioFormat) (samples : Nat) : Int :=
  (samples / fmt.channelCount * 1000000 : Int).tdiv fmt.sampleRate.toInt

end AudioFormat

/-- PipeWire is available. -/
def start (fmt : AudioFormat) : Option PipeWireAudioSource :=
  if fmt.sampleRate.toInt < (1000 : Int).tdiv kAudioFrameMs ∨ fmt.channels.toInt ≤ 0 then none
  else some ⟨fmt, List.replicate fmt.capacity 0, 0, 0, [], 0, true⟩

/-- What overflow discards. -/
def makeRoom (source : PipeWireAudioSource) (samples : Nat) : PipeWireAudioSource :=
  if source.buffer.length < source.bufferedSamples + samples then
    let discard := source.bufferedSamples + samples - source.buffer.length
    { source with
      readPos := (source.readPos + discard) % source.buffer.length
      bufferedSamples := source.bufferedSamples - discard }
  else source

/-- A buffer of PipeWire with data, or none.  A chunk that is longer than the ring
counts from behind. -/
def onProcess (source : PipeWireAudioSource) (chunk : Option (List Int16)) (now : Int) :
    Option PipeWireAudioSource :=
  match chunk with
  | none => some source
  | some samples =>
      let whole := samples.length / source.fmt.channelCount * source.fmt.channelCount
      let capacity := source.buffer.length
      let offset := whole - capacity
      let count := min whole capacity
      if source.fmt.channelCount = 0 ∨ capacity = 0 then none
      else
        let source := source.makeRoom count
        let writePos := (source.readPos + source.bufferedSamples) % capacity
        let first := min count (capacity - writePos)
        do
          let buffer ← memcpy source.buffer writePos samples offset first
          let buffer ← memcpy buffer 0 samples (offset + first) (count - first)
          let bufferedSamples := source.bufferedSamples + count
          some { source with
            buffer := buffer
            bufferedSamples := bufferedSamples
            ptsUsec := now - source.fmt.duration bufferedSamples }

/-- A pull, at the time when its wait is over. -/
def nextChunk (source : PipeWireAudioSource) : Option (PipeWireAudioSource × Pulled) := do
  let want ← source.fmt.want
  if source.running = false ∧ source.bufferedSamples = 0 then some (source, .ended)
  else if source.bufferedSamples < want then some (source, .nothing)
  else if source.buffer.length = 0 ∨ source.fmt.channelCount = 0 then none
  else
    let first := min want (source.buffer.length - source.readPos)
    let loan ← memcpy (resize source.loan want) 0 source.buffer source.readPos first
    let loan ← memcpy loan first source.buffer 0 (want - first)
    some ({ source with
      loan := loan
      readPos := (source.readPos + want) % source.buffer.length
      bufferedSamples := source.bufferedSamples - want
      ptsUsec := source.ptsUsec + source.fmt.duration want },
      .chunk (toInt want) loan source.ptsUsec)

/-! ## Runs -/

inductive Action where
  | process (chunk : Option (List Int16)) (now : Int)
  | nextChunk
  | quit

/-- What an action does, and what it returns to the encoder. -/
def step (source : PipeWireAudioSource) : Action → Option (PipeWireAudioSource × List Pulled)
  | .process chunk now => (source.onProcess chunk now).map (fun next => (next, []))
  | .nextChunk => source.nextChunk.map (fun next => (next.1, [next.2]))
  | .quit => some ({ source with running := false }, [])

/-- All that is returned, in its order. -/
def runAll : PipeWireAudioSource → List Action → Option (PipeWireAudioSource × List Pulled)
  | source, [] => some (source, [])
  | source, action :: rest => do
      let (next, pulled) ← source.step action
      let (finish, later) ← runAll next rest
      some (finish, pulled ++ later)

/-! ## The ideal queue -/

/-- The samples of the complete channel frames of a chunk. -/
def wholeFrames (channels : Nat) (samples : List Int16) : List Int16 :=
  samples.take (samples.length / channels * channels)

/-- The samples that are returned. -/
def Pulled.samples : Pulled → Option (List Int16)
  | .ended => none
  | .nothing => none
  | .chunk count loan _ => some (loan.take count.toNat)

def idealStep {capacity : Nat} (channels want : Nat) (queue : BoundedQueue Int16 capacity) :
    Action → BoundedQueue Int16 capacity × List (Option (List Int16))
  | .process none _ => (queue, [])
  | .process (some samples) _ => (queue.push (wholeFrames channels samples), [])
  | .nextChunk => ((queue.pop want).1, [(queue.pop want).2])
  | .quit => (queue, [])

def idealRun {capacity : Nat} (channels want : Nat) :
    BoundedQueue Int16 capacity → List Action → List (Option (List Int16))
  | _, [] => []
  | queue, action :: rest =>
      (idealStep channels want queue action).2 ++
        idealRun channels want (idealStep channels want queue action).1 rest

/-! ## Formats -/

/-- A format that `start` accepts. -/
structure AudioFormat.Accepted (fmt : AudioFormat) : Prop where
  rate : 100 ≤ fmt.sampleRate.toInt
  channels : 1 ≤ fmt.channels.toInt

variable {fmt : AudioFormat}

theorem accepted_of_start {source : PipeWireAudioSource} (started : start fmt = some source) :
    fmt.Accepted ∧ source = ⟨fmt, List.replicate fmt.capacity 0, 0, 0, [], 0, true⟩ := by
  unfold start at started
  split at started
  · cases started
  · rename_i valid
    rw [not_or, Int.not_lt, Int.not_le] at valid
    cases started
    exact ⟨⟨valid.1, valid.2⟩, rfl⟩

theorem toSize_of_nonneg {value : Int} (nonneg : 0 ≤ value) (small : value < 2 ^ 64) :
    (toSize value : Int) = value := by
  unfold toSize
  rw [Int.toNat_of_nonneg (Int.emod_nonneg _ (by decide)), Int.emod_eq_of_lt nonneg small]

namespace AudioFormat.Accepted

variable (accepted : fmt.Accepted)
include accepted

theorem channelCount : (fmt.channelCount : Int) = fmt.channels.toInt := by
  have small := fmt.channels.toInt_lt
  have positive := accepted.channels
  exact toSize_of_nonneg (by omega) (by omega)

theorem channelCount_pos : 0 < fmt.channelCount := by
  have same := accepted.channelCount
  have positive := accepted.channels
  omega

theorem channelCount_lt : fmt.channelCount < 2 ^ 31 := by
  have same := accepted.channelCount
  have small := fmt.channels.toInt_lt
  omega

/-- A twentieth of the rate. -/
theorem capacity_eq : ∃ frames : Nat, (frames : Int) = fmt.sampleRate.toInt / 20 ∧ 5 ≤ frames ∧
    fmt.capacity = frames * fmt.channelCount := by
  have rate := accepted.rate
  have small := fmt.sampleRate.toInt_lt
  have quotient : fmt.sampleRate.toInt.tdiv 20 = fmt.sampleRate.toInt / 20 :=
    Int.tdiv_eq_ediv_of_nonneg (by omega)
  have frames : (toSize (fmt.sampleRate.toInt.tdiv 20) : Int) = fmt.sampleRate.toInt / 20 := by
    rw [quotient]
    exact toSize_of_nonneg (by omega) (by omega)
  refine ⟨toSize (fmt.sampleRate.toInt.tdiv 20), frames, by omega, ?_⟩
  unfold capacity
  apply Nat.mod_eq_of_lt
  calc toSize (fmt.sampleRate.toInt.tdiv 20) * fmt.channelCount ≤ 2 ^ 31 * 2 ^ 31 := by
        apply Nat.mul_le_mul
        · omega
        · exact accepted.channelCount_lt.le
    _ < 2 ^ 64 := by decide

theorem capacity_pos : 0 < fmt.capacity := by
  obtain ⟨frames, _, many, same⟩ := accepted.capacity_eq
  rw [same]
  exact Nat.mul_pos (by omega) accepted.channelCount_pos

theorem channelCount_dvd_capacity : fmt.channelCount ∣ fmt.capacity := by
  obtain ⟨frames, _, _, same⟩ := accepted.capacity_eq
  rw [same]
  exact Nat.dvd_mul_left _ _

end AudioFormat.Accepted

/-! ## The ring represents the queue -/

/-- The ring holds what the queue holds, and positions lie between channel
frames. -/
structure Represents (fmt : AudioFormat) (source : PipeWireAudioSource)
    (queue : BoundedQueue Int16 fmt.capacity) : Prop where
  format : source.fmt = fmt
  size : source.buffer.length = fmt.capacity
  holds : Holds source.buffer source.readPos source.bufferedSamples queue.items
  read : fmt.channelCount ∣ source.readPos
  buffered : fmt.channelCount ∣ source.bufferedSamples

variable {source : PipeWireAudioSource} {queue : BoundedQueue Int16 fmt.capacity}

theorem memcpy_eq {destination from_ : List Int16} {place offset count : Nat}
    (inside : place + count ≤ destination.length) (available : offset + count ≤ from_.length) :
    memcpy destination place from_ offset count =
      some (overwrite destination place ((from_.drop offset).take count)) := if_pos ⟨inside, available⟩

/-- The two copies into the ring. -/
theorem copies_in {buffer samples : List Int16} {place offset count : Nat} (within : place < buffer.length)
    (fits : count ≤ buffer.length) (available : offset + count ≤ samples.length) :
    ∃ middle, memcpy buffer place samples offset (untilEnd buffer place count) = some middle ∧
      memcpy middle 0 samples (offset + untilEnd buffer place count) (count - untilEnd buffer place count) =
        some (copyIn buffer place ((samples.drop offset).take count)) := by
  have first : untilEnd buffer place count ≤ count := untilEnd_le
  have bound : place + untilEnd buffer place count ≤ buffer.length := by
    unfold untilEnd
    omega
  have values : ((samples.drop offset).take count).length = count := by
    apply List.length_take_of_le
    rw [List.length_drop]
    omega
  have front : ((samples.drop offset).take count).take (untilEnd buffer place count) =
      (samples.drop offset).take (untilEnd buffer place count) := by
    rw [List.take_take, Nat.min_eq_left first]
  have back : ((samples.drop offset).take count).drop (untilEnd buffer place count) =
      (samples.drop (offset + untilEnd buffer place count)).take (count - untilEnd buffer place count) := by
    rw [List.drop_take, List.drop_drop]
  have copied : ((samples.drop offset).take (untilEnd buffer place count)).length =
      untilEnd buffer place count := by
    rw [← front]
    apply List.length_take_of_le
    omega
  have size : (overwrite buffer place ((samples.drop offset).take (untilEnd buffer place count))).length =
      buffer.length := by
    apply length_overwrite
    rw [copied]
    exact bound
  refine ⟨_, memcpy_eq bound (by omega), ?_⟩
  unfold copyIn
  rw [values, front, back, memcpy_eq (by omega) (by omega)]

/-- The two copies out of the ring, into a loan of that size. -/
theorem copies_out {buffer loan : List Int16} {place count : Nat} (within : place < buffer.length)
    (fits : count ≤ buffer.length) (size : loan.length = count) :
    ∃ middle, memcpy loan 0 buffer place (untilEnd buffer place count) = some middle ∧
      memcpy middle (untilEnd buffer place count) buffer 0 (count - untilEnd buffer place count) =
        some (copyOut buffer place count) := by
  have first : untilEnd buffer place count ≤ count := untilEnd_le
  have bound : place + untilEnd buffer place count ≤ buffer.length := by
    unfold untilEnd
    omega
  have front : ((buffer.drop place).take (untilEnd buffer place count)).length = untilEnd buffer place count := by
    apply List.length_take_of_le
    rw [List.length_drop]
    omega
  have back : (buffer.take (count - untilEnd buffer place count)).length =
      (loan.drop (untilEnd buffer place count)).length := by
    rw [List.length_take_of_le (by omega), List.length_drop, size]
  have written : overwrite loan 0 ((buffer.drop place).take (untilEnd buffer place count)) =
      (buffer.drop place).take (untilEnd buffer place count) ++ loan.drop (untilEnd buffer place count) := by
    unfold overwrite
    rw [List.take_zero, List.nil_append, Nat.zero_add, front]
  have longer : ((buffer.drop place).take (untilEnd buffer place count) ++
      loan.drop (untilEnd buffer place count)).length = count := by
    rw [List.length_append, front, List.length_drop, size]
    omega
  have completed : overwrite ((buffer.drop place).take (untilEnd buffer place count) ++
      loan.drop (untilEnd buffer place count)) ((buffer.drop place).take (untilEnd buffer place count)).length
        (buffer.take (count - untilEnd buffer place count)) = copyOut buffer place count := overwrite_append back
  rw [front] at completed
  refine ⟨_, memcpy_eq (by omega) (by omega), ?_⟩
  rw [written, memcpy_eq (by omega) (by omega)]
  exact congrArg some completed

/-- What overflow discards is the head of the queue. -/
theorem Represents.makeRoom (represents : Represents fmt source queue) {samples : Nat}
    (accepted : fmt.Accepted) (whole : fmt.channelCount ∣ samples) (fits : samples ≤ fmt.capacity) :
    Holds (source.makeRoom samples).buffer (source.makeRoom samples).readPos
        (source.makeRoom samples).bufferedSamples
        (queue.items.drop (queue.items.length + samples - fmt.capacity)) ∧
      (source.makeRoom samples).bufferedSamples + samples ≤ fmt.capacity ∧
      fmt.channelCount ∣ (source.makeRoom samples).readPos ∧
      fmt.channelCount ∣ (source.makeRoom samples).bufferedSamples := by
  have length := represents.holds.length
  have bounded := queue.bounded
  unfold PipeWireAudioSource.makeRoom
  rw [represents.size]
  by_cases overflows : fmt.capacity < source.bufferedSamples + samples
  · rw [if_pos overflows]
    have few : source.bufferedSamples + samples - fmt.capacity ≤ source.bufferedSamples := by omega
    have discards : fmt.channelCount ∣ source.bufferedSamples + samples - fmt.capacity :=
      Nat.dvd_sub (Nat.dvd_add represents.buffered whole) accepted.channelCount_dvd_capacity
    refine ⟨?_, ?_, ?_, ?_⟩
    · have discarded := represents.holds.discard few
      rw [represents.size] at discarded
      rw [length]
      exact discarded
    · dsimp only
      omega
    · exact (Nat.dvd_mod_iff accepted.channelCount_dvd_capacity).mpr (Nat.dvd_add represents.read discards)
    · exact Nat.dvd_sub represents.buffered discards
  · rw [if_neg overflows]
    refine ⟨?_, Nat.not_lt.mp overflows, represents.read, represents.buffered⟩
    rw [Nat.sub_eq_zero_of_le (by omega), List.drop_zero]
    exact represents.holds

theorem makeRoom_buffer (source : PipeWireAudioSource) (samples : Nat) :
    (source.makeRoom samples).buffer = source.buffer := by
  unfold makeRoom
  split <;> rfl

theorem makeRoom_fmt (source : PipeWireAudioSource) (samples : Nat) :
    (source.makeRoom samples).fmt = source.fmt := by
  unfold makeRoom
  split <;> rfl

theorem newest_wholeFrames (samples : List Int16) (channels capacity : Nat) :
    BoundedQueue.newest capacity (wholeFrames channels samples) =
      (samples.drop (samples.length / channels * channels - capacity)).take
        (min (samples.length / channels * channels) capacity) := by
  have whole : samples.length / channels * channels ≤ samples.length := Nat.div_mul_le_self _ _
  unfold BoundedQueue.newest wholeFrames
  rw [List.length_take_of_le whole, List.drop_take]
  congr 1
  omega

theorem Represents.process (represents : Represents fmt source queue) (accepted : fmt.Accepted)
    (samples : List Int16) (now : Int) :
    ∃ next, source.onProcess (some samples) now = some next ∧
      Represents fmt next (queue.push (wholeFrames fmt.channelCount samples)) := by
  have positive := accepted.channelCount_pos
  have room := accepted.capacity_pos
  have whole : samples.length / fmt.channelCount * fmt.channelCount ≤ samples.length := Nat.div_mul_le_self _ _
  have multiple : fmt.channelCount ∣ min (samples.length / fmt.channelCount * fmt.channelCount) fmt.capacity := by
    rcases Nat.le_total (samples.length / fmt.channelCount * fmt.channelCount) fmt.capacity with short | long
    · rw [Nat.min_eq_left short]
      exact Nat.dvd_mul_left _ _
    · rw [Nat.min_eq_right long]
      exact accepted.channelCount_dvd_capacity
  obtain ⟨holds, fits, read, buffered⟩ := represents.makeRoom accepted multiple (Nat.min_le_right _ _)
  have newest := newest_wholeFrames samples fmt.channelCount fmt.capacity
  have size := BoundedQueue.length_newest fmt.capacity (wholeFrames fmt.channelCount samples)
  unfold onProcess
  dsimp only
  rw [represents.format, represents.size, if_neg (by omega)]
  generalize isCount : min (samples.length / fmt.channelCount * fmt.channelCount) fmt.capacity = count
    at newest multiple holds fits read buffered ⊢
  have format : (source.makeRoom count).fmt = fmt := (makeRoom_fmt source count).trans represents.format
  have cells : (source.makeRoom count).buffer.length = fmt.capacity :=
    (congrArg List.length (makeRoom_buffer source count)).trans represents.size
  generalize source.makeRoom count = kept at holds fits read buffered format cells ⊢
  have within : (kept.readPos + kept.bufferedSamples) % fmt.capacity < kept.buffer.length := by
    rw [cells]
    exact Nat.mod_lt _ room
  have values : (BoundedQueue.newest fmt.capacity (wholeFrames fmt.channelCount samples)).length = count := by
    rw [newest]
    apply List.length_take_of_le
    rw [List.length_drop]
    omega
  have fewer : count ≤ kept.buffer.length := by omega
  have available : samples.length / fmt.channelCount * fmt.channelCount - fmt.capacity + count ≤
      samples.length := by omega
  obtain ⟨middle, first, second⟩ := copies_in within fewer available
  unfold untilEnd at first second
  rw [cells] at first second
  rw [← newest] at second
  rw [first, Option.bind_eq_bind, Option.bind_some, second, Option.bind_some]
  refine ⟨_, rfl, format, ?_, ?_, read, Nat.dvd_add buffered multiple⟩
  · rw [← values] at fewer
    exact (length_copyIn within fewer).trans cells
  · have roomy : kept.bufferedSamples +
        (BoundedQueue.newest fmt.capacity (wholeFrames fmt.channelCount samples)).length ≤ kept.buffer.length := by
      omega
    have appended := holds.append roomy
    rw [cells, values] at appended
    rw [BoundedQueue.push_items, values]
    exact appended

/-! ## Taking blocks -/

/-- Blocks are what they should be. -/
structure AudioFormat.Even (fmt : AudioFormat) : Prop where
  defined : fmt.want = some fmt.block
  size : (fmt.block : Int) = fmt.sampleRate.toInt * kAudioFrameMs / 1000 * fmt.channels.toInt
  returned : toInt fmt.block = fmt.block
  fits : fmt.block ≤ fmt.capacity

theorem AudioFormat.Even.block_pos (even : fmt.Even) (accepted : fmt.Accepted) :
    0 < fmt.block ∧ fmt.channelCount ∣ fmt.block := by
  have rate := accepted.rate
  have blocks : 0 < fmt.sampleRate.toInt * kAudioFrameMs / 1000 := by
    unfold kAudioFrameMs
    omega
  constructor
  · rw [← Int.natCast_pos, even.size]
    exact Int.mul_pos blocks accepted.channels
  · rw [← Int.natCast_dvd_natCast, even.size, accepted.channelCount]
    exact Int.dvd_mul_left _ _

theorem toInt_lt (value : Int) : toInt value < 2 ^ 31 := by
  have upper : toInt value < (2 ^ 32 + 1) / 2 := Int.bmod_lt (by decide)
  omega

theorem toInt_eq {value : Int} (lower : -2 ^ 31 ≤ value) (upper : value < 2 ^ 31) : toInt value = value := by
  unfold toInt
  apply Int.bmod_eq_of_le_mul_two <;> omega

theorem block_eq (accepted : fmt.Accepted) :
    (fmt.block : Int) = fmt.sampleRate.toInt * kAudioFrameMs / 1000 * fmt.channels.toInt % 2 ^ 64 := by
  have rate := accepted.rate
  have nonneg : 0 ≤ fmt.sampleRate.toInt * kAudioFrameMs := by
    unfold kAudioFrameMs
    omega
  unfold AudioFormat.block toSize
  rw [Int.natCast_emod, Int.natCast_mul, accepted.channelCount,
    Int.toNat_of_nonneg (Int.emod_nonneg _ (by decide)), Int.tdiv_eq_ediv_of_nonneg nonneg]
  exact (Int.mod_modEq _ _).mul_right _

/-- Blocks are even if and only if neither the product with the rate nor their size
overflows. -/
theorem even_iff (accepted : fmt.Accepted) :
    fmt.Even ↔ fmt.sampleRate.toInt * kAudioFrameMs < 2 ^ 31 ∧
      fmt.sampleRate.toInt * kAudioFrameMs / 1000 * fmt.channels.toInt < 2 ^ 31 := by
  have rate := accepted.rate
  have channels := accepted.channels
  have block := block_eq accepted
  constructor
  · intro even
    constructor
    · by_contra overflow
      have undefined : fmt.want = none := if_neg (fun both => overflow both.2)
      exact Option.some_ne_none _ (even.defined.symm.trans undefined)
    · rw [← even.size, ← even.returned]
      exact toInt_lt fmt.block
  · rintro ⟨noOverflow, short⟩
    have blocks : 0 ≤ fmt.sampleRate.toInt * kAudioFrameMs / 1000 * fmt.channels.toInt := by
      apply Int.mul_nonneg
      · unfold kAudioFrameMs
        omega
      · omega
    rw [Int.emod_eq_of_lt blocks (by omega)] at block
    have positive : -2 ^ 31 ≤ fmt.sampleRate.toInt * kAudioFrameMs := by
      unfold kAudioFrameMs
      omega
    refine ⟨if_pos ⟨positive, noOverflow⟩, block, toInt_eq (by omega) (by omega), ?_⟩
    obtain ⟨frames, isFrames, _, capacity⟩ := accepted.capacity_eq
    rw [← Int.ofNat_le, block, capacity, Int.natCast_mul, isFrames, accepted.channelCount]
    apply Int.mul_le_mul_of_nonneg_right
    · unfold kAudioFrameMs
      omega
    · omega

theorem resize_length (samples : List Int16) (size : Nat) : (resize samples size).length = size := by
  unfold resize
  rw [List.length_append, List.length_take, List.length_replicate]
  omega

theorem Represents.pull (represents : Represents fmt source queue) (accepted : fmt.Accepted) (even : fmt.Even) :
    ∃ next pulled, source.nextChunk = some (next, pulled) ∧ pulled.samples = (queue.pop fmt.block).2 ∧
      Represents fmt next (queue.pop fmt.block).1 := by
  have length := represents.holds.length
  have fits := even.fits
  obtain ⟨positive, multiple⟩ := even.block_pos accepted
  unfold nextChunk BoundedQueue.pop
  rw [represents.format, represents.size, length, even.defined, Option.bind_eq_bind, Option.bind_some]
  dsimp only
  by_cases few : source.bufferedSamples < fmt.block
  · rw [if_pos few, if_neg (Nat.not_le.mpr few)]
    split
    · exact ⟨_, _, rfl, rfl, represents⟩
    · exact ⟨_, _, rfl, rfl, represents⟩
  · have available : fmt.block ≤ source.bufferedSamples := Nat.not_lt.mp few
    have within := represents.holds.within
    have roomy : fmt.block ≤ source.buffer.length := represents.size ▸ fits
    have still : ¬ (source.running = false ∧ source.bufferedSamples = 0) := by omega
    have sound : ¬ (fmt.capacity = 0 ∨ fmt.channelCount = 0) := by
      have room := accepted.capacity_pos
      have channels := accepted.channelCount_pos
      omega
    obtain ⟨middle, first, second⟩ := copies_out within roomy (resize_length source.loan fmt.block)
    unfold untilEnd at first second
    rw [represents.size] at first second
    rw [if_neg still, if_neg few, if_neg sound, if_pos available, first, Option.bind_eq_bind, Option.bind_some,
      second, Option.bind_some]
    have taken := represents.holds.discard available
    have copied := represents.holds.copyOut available
    rw [represents.size] at taken
    refine ⟨_, _, rfl, ?_, rfl, represents.size, taken, ?_, Nat.dvd_sub represents.buffered multiple⟩
    · rw [Pulled.samples, even.returned, copied, Int.toNat_natCast]
      rw [List.take_of_length_le (List.length_take_le _ _)]
    · exact (Nat.dvd_mod_iff accepted.channelCount_dvd_capacity).mpr (Nat.dvd_add represents.read multiple)

/-! ## Runs -/

theorem runAll_cons {action : Action} {rest : List Action} {next finish : PipeWireAudioSource}
    {pulled later : List Pulled} (stepped : source.step action = some (next, pulled))
    (ran : runAll next rest = some (finish, later)) :
    runAll source (action :: rest) = some (finish, pulled ++ later) := by
  rw [runAll, stepped, Option.bind_eq_bind, Option.bind_some]
  dsimp only
  rw [ran]
  rfl

/-- A step does what it does to the queue, and its copies stay inside the
buffers. -/
theorem Represents.step (represents : Represents fmt source queue) (accepted : fmt.Accepted) (even : fmt.Even)
    (action : Action) : ∃ next pulled, source.step action = some (next, pulled) ∧
      pulled.map Pulled.samples = (idealStep fmt.channelCount fmt.block queue action).2 ∧
        Represents fmt next (idealStep fmt.channelCount fmt.block queue action).1 := by
  cases action with
  | process chunk now =>
      cases chunk with
      | none => exact ⟨source, [], rfl, rfl, represents⟩
      | some samples =>
          obtain ⟨next, processed, kept⟩ := represents.process accepted samples now
          refine ⟨next, [], ?_, rfl, kept⟩
          rw [PipeWireAudioSource.step, processed]
          rfl
  | nextChunk =>
      obtain ⟨next, pulled, isPulled, same, kept⟩ := represents.pull accepted even
      refine ⟨next, [pulled], ?_, congrArg List.singleton same, kept⟩
      rw [PipeWireAudioSource.step, isPulled]
      rfl
  | quit =>
      exact ⟨_, [], rfl, rfl, represents.format, represents.size, represents.holds, represents.read,
        represents.buffered⟩

theorem Represents.run (represents : Represents fmt source queue) (accepted : fmt.Accepted) (even : fmt.Even)
    (actions : List Action) : ∃ finish pulled, runAll source actions = some (finish, pulled) ∧
      pulled.map Pulled.samples = idealRun fmt.channelCount fmt.block queue actions ∧
        ∃ left, Represents fmt finish left := by
  induction actions generalizing source queue with
  | nil => exact ⟨source, [], rfl, rfl, queue, represents⟩
  | cons action rest inductionHypothesis =>
      obtain ⟨next, pulled, stepped, same, kept⟩ := represents.step accepted even action
      obtain ⟨finish, later, ran, others, left⟩ := inductionHypothesis kept
      refine ⟨finish, pulled ++ later, runAll_cons stepped ran, ?_, left⟩
      rw [List.map_append, same, others]
      rfl

/-- The positions lie inside the ring, and between channel frames. -/
structure Aligned (source : PipeWireAudioSource) : Prop where
  size : source.buffer.length = source.fmt.capacity
  buffered : source.bufferedSamples ≤ source.fmt.capacity
  read : source.readPos < source.fmt.capacity
  bufferedFrames : source.fmt.channelCount ∣ source.bufferedSamples
  readFrames : source.fmt.channelCount ∣ source.readPos

theorem Represents.aligned (represents : Represents fmt source queue) : source.Aligned := by
  have same := represents.format
  subst same
  exact ⟨represents.size, represents.size ▸ represents.holds.few, represents.size ▸ represents.holds.within,
    represents.buffered, represents.read⟩

/-- The sizes are those of fifty and of ten milliseconds, a block fits into the
ring, and in all runs no copy leaves a buffer, the blocks are those of the ideal
queue, and the ring stays aligned. -/
structure Refines (source : PipeWireAudioSource) : Prop where
  capacity : (source.fmt.capacity : Int) = source.fmt.sampleRate.toInt / 20 * source.fmt.channels.toInt
  want : source.fmt.want = some source.fmt.block
  block : (source.fmt.block : Int) = source.fmt.sampleRate.toInt * 10 / 1000 * source.fmt.channels.toInt
  returned : toInt source.fmt.block = source.fmt.block
  fits : source.fmt.block ≤ source.fmt.capacity
  runs : ∀ actions, ∃ finish pulled, runAll source actions = some (finish, pulled) ∧
    pulled.map Pulled.samples =
      idealRun source.fmt.channelCount source.fmt.block (.empty : BoundedQueue _ source.fmt.capacity) actions ∧
    finish.Aligned

theorem represents_start (accepted : fmt.Accepted) :
    Represents fmt ⟨fmt, List.replicate fmt.capacity 0, 0, 0, [], 0, true⟩ .empty where
  format := rfl
  size := List.length_replicate
  holds := by
    apply holds_empty
    rw [List.length_replicate]
    exact accepted.capacity_pos
  read := Nat.dvd_zero _
  buffered := Nat.dvd_zero _

/-- A source that has been started is an ideal queue if and only if neither ten
milliseconds of its rate nor the size of a block overflow. -/
theorem refines_iff {fmt : AudioFormat} {source : PipeWireAudioSource} (started : start fmt = some source) :
    source.Refines ↔ fmt.sampleRate.toInt * 10 < 2 ^ 31 ∧
      fmt.sampleRate.toInt * 10 / 1000 * fmt.channels.toInt < 2 ^ 31 := by
  obtain ⟨accepted, rfl⟩ := accepted_of_start started
  constructor
  · intro refines
    exact (even_iff accepted).mp ⟨refines.want, refines.block, refines.returned, refines.fits⟩
  · intro small
    have even := (even_iff accepted).mpr small
    obtain ⟨frames, isFrames, _, capacity⟩ := accepted.capacity_eq
    constructor
    · rw [capacity, Int.natCast_mul, isFrames, accepted.channelCount]
    · exact even.defined
    · exact even.size
    · exact even.returned
    · exact even.fits
    · intro actions
      obtain ⟨finish, pulled, ran, same, left, represents⟩ := (represents_start accepted).run accepted even actions
      exact ⟨finish, pulled, ran, same, represents.aligned⟩

theorem start_eq (accepted : fmt.Accepted) :
    start fmt = some ⟨fmt, List.replicate fmt.capacity 0, 0, 0, [], 0, true⟩ := by
  have rate := accepted.rate
  have channels := accepted.channels
  have valid : ¬ (fmt.sampleRate.toInt < (1000 : Int).tdiv kAudioFrameMs ∨ fmt.channels.toInt ≤ 0) := by
    rw [not_or, Int.not_lt, Int.not_le]
    exact ⟨rate, channels⟩
  exact if_neg valid

theorem refines_sample : ∃ source, start ⟨48000, 2⟩ = some source ∧ source.Refines := by
  have accepted : AudioFormat.Accepted ⟨48000, 2⟩ := ⟨by decide, by decide⟩
  have started := start_eq accepted
  exact ⟨_, started, (refines_iff started).mpr ⟨by decide, by decide⟩⟩

/-- The product with a rate of more than 200 MHz is no `int`, and what a pull does then
is undefined. -/
theorem not_always_refines : ¬ ∀ fmt source, start fmt = some source → source.Refines := by
  intro always
  have accepted : AudioFormat.Accepted ⟨214748365, 1⟩ := ⟨by decide, by decide⟩
  have started := start_eq accepted
  have refines := always _ _ started
  have undefined : (⟨214748365, 1⟩ : AudioFormat).want = none := by decide
  exact Option.some_ne_none _ (refines.want.symm.trans undefined)

end PipeWireAudioSource
end MetaShare
