import MetaShare.Foundation.Octets

namespace MetaShare
namespace Rtp

open Octets

/-!
# The RTP packetizers

The streamer cuts each encoded access unit, an Annex B byte string, into RTP
packets.  Splitting at start codes is done by two index scans over the input;
the H.265 and H.264 packetizers differ only in the size and the bits of the NAL
unit header, which `NalLayout` collects.  Every index below carries the proof
that it lies inside the input, as the source's loop bounds promise.
-/

/-- One complete RTP packet, header and payload. -/
abbrev Packet := List UInt8

def kVideoClockRate : UInt32 := 90000
def kOpusClockRate : UInt32 := 48000
def kVideoPayloadType : UInt8 := 96
def kOpusPayloadType : UInt8 := 111
def kRtpHeaderSize : Nat := 12
def kMaxPacketSize : Nat := 1400

/-- The fixed 12-octet header: version 2, no padding, extension or CSRC list. -/
def writeHeader (payloadType : UInt8) (marker : Bool) (seq : UInt16)
    (timestamp ssrc : UInt32) : List UInt8 :=
  [0x80, (if marker then 0x80 else 0x00) ||| (payloadType &&& 0x7F)] ++
    ofWord16 seq ++ ofWord32 timestamp ++ ofWord32 ssrc

@[simp] theorem writeHeader_length (payloadType : UInt8) (marker : Bool) (seq : UInt16)
    (timestamp ssrc : UInt32) :
    (writeHeader payloadType marker seq timestamp ssrc).length = kRtpHeaderSize := rfl

/-- The sequence number stored in octets 2 and 3 of a packet. -/
def seqOf (packet : Packet) : UInt16 :=
  UInt16.ofNat (word16 (packet.getD 2 0) (packet.getD 3 0))

/-- The state the packetizers share. -/
structure PacketizerBase where
  ssrc : UInt32
  pt : UInt8
  clockRate : UInt32
  seq : UInt16 := 0
  deriving DecidableEq

namespace PacketizerBase

def nextSeq (base : PacketizerBase) : UInt16 × PacketizerBase :=
  (base.seq, { base with seq := base.seq + 1 })

/-- The RTP timestamp of a presentation time: a 64-bit product, divided and
then truncated to 32 bits. -/
def stamp (base : PacketizerBase) (ptsUsec : Int64) : UInt32 :=
  (ptsUsec.toUInt64 * base.clockRate.toUInt64 / 1000000).toUInt32

end PacketizerBase

/-! ## Splitting an Annex B byte string -/

/-- The index behind the first start code found from `k` on, or the size. -/
def findStart (data : List UInt8) (k : Nat) : Nat :=
  if h : k + 2 < data.length then
    if data[k] = 0 ∧ data[k + 1] = 0 then
      if data[k + 2] = 1 then k + 3
      else if long : k + 3 < data.length then
        if data[k + 2] = 0 ∧ data[k + 3] = 1 then k + 4
        else findStart data (k + 1)
      else findStart data (k + 1)
    else findStart data (k + 1)
  else data.length
termination_by data.length - k

/-- The index at which the next start code begins, scanning from `k`. -/
def findEnd (data : List UInt8) (k : Nat) : Nat :=
  if h : k + 2 < data.length then
    if data[k] = 0 ∧ data[k + 1] = 0 ∧
        (data[k + 2] = 1 ∨ ∃ long : k + 3 < data.length, data[k + 2] = 0 ∧ data[k + 3] = 1) then k
    else findEnd data (k + 1)
  else data.length
termination_by data.length - k

/-- Step back over zero octets before `stop`, not beyond `nalStart`. -/
def trimZeros (data : List UInt8) (nalStart : Nat) : (stop : Nat) → stop ≤ data.length → Nat
  | 0, _ => 0
  | stop + 1, inside =>
      if nalStart < stop + 1 ∧ data[stop] = 0 then
        trimZeros data nalStart stop (Nat.le_of_succ_le inside)
      else stop + 1

theorem le_findEnd (data : List UInt8) (k : Nat) (inside : k ≤ data.length) : k ≤ findEnd data k := by
  induction k using findEnd.induct data with
  | case1 k h found => rw [findEnd, dif_pos h, if_pos found]
  | case2 k h other inductionHypothesis =>
      rw [findEnd, dif_pos h, if_neg other]
      exact Nat.le_of_succ_le (inductionHypothesis (by omega))
  | case3 k short => rw [findEnd, dif_neg short]; exact inside

theorem findEnd_le (data : List UInt8) (k : Nat) : findEnd data k ≤ data.length := by
  induction k using findEnd.induct data with
  | case1 k h found => rw [findEnd, dif_pos h, if_pos found]; omega
  | case2 k h other inductionHypothesis =>
      rw [findEnd, dif_pos h, if_neg other]
      exact inductionHypothesis
  | case3 k short => rw [findEnd, dif_neg short]

/-- The scan for a start code makes progress. -/
theorem lt_findStart (data : List UInt8) (k : Nat) (inside : k < data.length) :
    k < findStart data k := by
  induction k using findStart.induct data with
  | case1 k h zeros one => rw [findStart, dif_pos h, if_pos zeros, if_pos one]; omega
  | case2 k h zeros notOne long four =>
      rw [findStart, dif_pos h, if_pos zeros, if_neg notOne, dif_pos long, if_pos four]; omega
  | case3 k h zeros notOne long other inductionHypothesis =>
      rw [findStart, dif_pos h, if_pos zeros, if_neg notOne, dif_pos long, if_neg other]
      exact Nat.lt_of_succ_lt (inductionHypothesis (by omega))
  | case4 k h zeros notOne short inductionHypothesis =>
      rw [findStart, dif_pos h, if_pos zeros, if_neg notOne, dif_neg short]
      exact Nat.lt_of_succ_lt (inductionHypothesis (by omega))
  | case5 k h other inductionHypothesis =>
      rw [findStart, dif_pos h, if_neg other]
      exact Nat.lt_of_succ_lt (inductionHypothesis (by omega))
  | case6 k short => rw [findStart, dif_neg short]; exact inside

theorem findStart_of_short (data : List UInt8) (k : Nat) (short : data.length ≤ k + 2) :
    findStart data k = data.length := by
  rw [findStart, dif_neg (by omega)]

/-- The body of the splitting loop from `nalStart` on: units without start codes
and trailing zeros, where a unit of fewer than two octets is dropped. -/
def nalsFrom (data : List UInt8) (nalStart : Nat) : List (List UInt8) :=
  if _inside : nalStart < data.length then
    let nalEnd := findEnd data nalStart
    let stop := trimZeros data nalStart nalEnd (findEnd_le data nalStart)
    let later := nalsFrom data (findStart data nalEnd)
    if 2 ≤ stop - nalStart then slice data nalStart (stop - nalStart) :: later else later
  else []
termination_by data.length - nalStart
decreasing_by
  have atLeast := le_findEnd data nalStart _inside.le
  rcases Nat.lt_or_ge (findEnd data nalStart) data.length with more | finished
  · have := lt_findStart data _ more
    omega
  · have := findStart_of_short data (findEnd data nalStart) (by omega)
    omega

/-- The NAL units of an Annex B byte string, in order. -/
def forEachNal (data : List UInt8) : List (List UInt8) :=
  nalsFrom data (findStart data 0)

/-! ## Single NAL unit packets and fragmentation units -/

def singleMax : Nat := kMaxPacketSize - kRtpHeaderSize

/-- What distinguishes the two video packetizers: the size of the NAL unit
header, the payload header of a fragment, and the type its header carries. -/
structure NalLayout where
  headerSize : Nat
  payloadHeader : List UInt8 → List UInt8
  originalType : List UInt8 → UInt8
  headerSize_pos : 0 < headerSize
  headerSize_le : headerSize ≤ 2
  payloadHeader_length : ∀ nal, (payloadHeader nal).length = headerSize

namespace NalLayout

/-- The fragment budget: the packet size less the RTP header, the payload header
and one octet of fragment header. -/
def fuPayloadMax (layout : NalLayout) : Nat :=
  kMaxPacketSize - kRtpHeaderSize - (layout.headerSize + 1)

theorem fuPayloadMax_pos (layout : NalLayout) : 0 < layout.fuPayloadMax := by
  have := layout.headerSize_le
  simp only [fuPayloadMax, kMaxPacketSize, kRtpHeaderSize]
  omega

/-- What follows the header of a NAL unit. -/
def body (layout : NalLayout) (nal : List UInt8) : List UInt8 :=
  nal.drop layout.headerSize

def fuHeader (layout : NalLayout) (nal : List UInt8) (isFirst isLastFrag : Bool) : UInt8 :=
  (if isFirst then 0x80 else 0x00) ||| (if isLastFrag then 0x40 else 0x00) ||| layout.originalType nal

/-- The fragments of one large unit from offset `off` of its body on. -/
def fragmentsFrom (layout : NalLayout) (ts : UInt32) (isLastNal : Bool) (nal : List UInt8)
    (base : PacketizerBase) (off : Nat) : List Packet × PacketizerBase :=
  if off < (layout.body nal).length then
    let chunk := min layout.fuPayloadMax ((layout.body nal).length - off)
    let isFirst := off == 0
    let isLastFrag := off + chunk == (layout.body nal).length
    let (seq, base) := base.nextSeq
    let packet := writeHeader base.pt (isLastNal && isLastFrag) seq ts base.ssrc ++
      (layout.payloadHeader nal ++ layout.fuHeader nal isFirst isLastFrag :: slice (layout.body nal) off chunk)
    let (later, base) := layout.fragmentsFrom ts isLastNal nal base (off + chunk)
    (packet :: later, base)
  else ([], base)
termination_by (layout.body nal).length - off
decreasing_by
  have := layout.fuPayloadMax_pos
  omega

/-- The packets of one NAL unit. -/
def packetizeNal (layout : NalLayout) (ts : UInt32) (isLastNal : Bool) (nal : List UInt8)
    (base : PacketizerBase) : List Packet × PacketizerBase :=
  if nal.length ≤ singleMax then
    let (seq, base) := base.nextSeq
    ([writeHeader base.pt isLastNal seq ts base.ssrc ++ nal], base)
  else layout.fragmentsFrom ts isLastNal nal base 0

def packetizeNals (layout : NalLayout) (ts : UInt32) :
    List (List UInt8) → PacketizerBase → List Packet × PacketizerBase
  | [], base => ([], base)
  | nal :: rest, base =>
      let (packets, base) := layout.packetizeNal ts rest.isEmpty nal base
      let (later, base) := layout.packetizeNals ts rest base
      (packets ++ later, base)

/-- The packets of one access unit, and the packetizer afterwards.  An input
without NAL units leaves the packetizer unchanged. -/
def packetize (layout : NalLayout) (base : PacketizerBase) (data : List UInt8)
    (ptsUsec : Int64) : List Packet × PacketizerBase :=
  if data.length = 0 then ([], base)
  else
    let nals := forEachNal data
    if nals.isEmpty then ([], base) else layout.packetizeNals (base.stamp ptsUsec) nals base

end NalLayout

/-- H.265: a two-octet header with the type in bits 1 to 6 of the first octet;
fragments have type 49. -/
def h265Layout : NalLayout where
  headerSize := 2
  payloadHeader nal :=
    let h0 : UInt8 := nal.getD 0 0
    let h1 : UInt8 := nal.getD 1 0
    [(h0 &&& 0x81) ||| ((49 : UInt8) <<< (1 : UInt8)), h1]
  originalType nal :=
    let h0 : UInt8 := nal.getD 0 0
    (h0 >>> (1 : UInt8)) &&& 0x3F
  headerSize_pos := by decide
  headerSize_le := by decide
  payloadHeader_length := fun _ => rfl

/-- H.264: a one-octet header with the type in its low five bits; fragments
have type 28. -/
def h264Layout : NalLayout where
  headerSize := 1
  payloadHeader nal :=
    let h0 : UInt8 := nal.getD 0 0
    [(h0 &&& 0xE0) ||| 28]
  originalType nal :=
    let h0 : UInt8 := nal.getD 0 0
    h0 &&& 0x1F
  headerSize_pos := by decide
  headerSize_le := by decide
  payloadHeader_length := fun _ => rfl

namespace H265RtpPacketizer

def create (ssrc : UInt32) : PacketizerBase :=
  { ssrc := ssrc, pt := kVideoPayloadType, clockRate := kVideoClockRate }

def packetize (base : PacketizerBase) (data : List UInt8) (ptsUsec : Int64) :
    List Packet × PacketizerBase :=
  h265Layout.packetize base data ptsUsec

end H265RtpPacketizer

namespace H264RtpPacketizer

def create (ssrc : UInt32) : PacketizerBase :=
  { ssrc := ssrc, pt := kVideoPayloadType, clockRate := kVideoClockRate }

def packetize (base : PacketizerBase) (data : List UInt8) (ptsUsec : Int64) :
    List Packet × PacketizerBase :=
  h264Layout.packetize base data ptsUsec

end H264RtpPacketizer

namespace OpusRtpPacketizer

def create (ssrc : UInt32) : PacketizerBase :=
  { ssrc := ssrc, pt := kOpusPayloadType, clockRate := kOpusClockRate }

/-- One Opus packet per RTP packet, always marked. -/
def packetize (base : PacketizerBase) (data : List UInt8) (ptsUsec : Int64) :
    List Packet × PacketizerBase :=
  if data.length = 0 then ([], base)
  else
    let (seq, base) := base.nextSeq
    ([writeHeader base.pt true seq (base.stamp ptsUsec) base.ssrc ++ data], base)

end OpusRtpPacketizer

/-! ## Choosing the codec -/

/-- The packetizer for a codec, with the sequence number it has come to. -/
def packetizer (h265 : Bool) (ssrc : UInt32) (seq : UInt16) : PacketizerBase :=
  if h265 then { H265RtpPacketizer.create ssrc with seq := seq }
  else { H264RtpPacketizer.create ssrc with seq := seq }

def packetize (h265 : Bool) (base : PacketizerBase) (data : List UInt8) (ptsUsec : Int64) :
    List Packet × PacketizerBase :=
  if h265 then H265RtpPacketizer.packetize base data ptsUsec else H264RtpPacketizer.packetize base data ptsUsec

end Rtp
end MetaShare
