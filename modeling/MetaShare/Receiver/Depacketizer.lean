import Mathlib.Data.List.GetD
import MetaShare.Rtp.Fragmentation

namespace MetaShare
namespace RtpReceiver

open Octets

/-!
# The video depacketizer

The receiver's depacketizer rebuilds Annex B access units from RTP payloads.
It borrows a range of the caller's buffer, so every read below is checked
against that buffer as the Java virtual machine checks it: a function that can
throw returns a `Checked` value.  The first results say that a call whose range
lies inside the buffer never throws and depends on nothing outside the range;
from then on a call is a total function of the payload, `consume`.
-/

inductive JavaException where
  | indexOutOfBounds
  | arithmetic
  | nullPointer
  deriving DecidableEq

abbrev Checked := Except JavaException

@[simp] theorem ok_bind {α β : Type} (value : α) (next : α → Checked β) :
    (Except.ok value >>= next) = next value := rfl

/-- What a computation that succeeds consists of. -/
theorem bind_ok {α β : Type} {first : Checked α} {next : α → Checked β} {result : β}
    (succeeded : first >>= next = .ok result) : ∃ value, first = .ok value ∧ next value = .ok result := by
  cases first with
  | error exception => cases succeeded
  | ok value => exact ⟨value, rfl, succeeded⟩

/-- Read one element of a byte array. -/
def byteAt (data : List UInt8) (index : Nat) : Checked UInt8 :=
  match data[index]? with
  | some octet => .ok octet
  | none => .error .indexOutOfBounds

/-- Copy a range of a byte array. -/
def bytesAt (data : List UInt8) (off len : Nat) : Checked (List UInt8) :=
  if off + len ≤ data.length then .ok (slice data off len) else .error .indexOutOfBounds

/-- What the video sink is given. -/
structure Frame where
  annexB : List UInt8
  ptsUsec : Int
  keyframe : Bool
  deriving DecidableEq

/-- `Long.MIN_VALUE`, which marks that no access unit is being assembled. -/
def noPts : Int := -9223372036854775808

structure VideoDepacketizer where
  h265 : Bool
  frame : List UInt8 := []
  fuActive : Bool := false
  fuType : UInt8 := 0
  keyframe : Bool := false
  damaged : Bool := false
  pendingGap : Bool := false
  awaitingKeyframe : Bool := false
  framePts : Int := noPts
  deriving DecidableEq

namespace VideoDepacketizer

def MAX_FRAME_BYTES : Nat := 4 * 1024 * 1024

/-- The depacketizer of a fresh receive loop. -/
def create (h265 : Bool) : VideoDepacketizer := { h265 := h265 }

/-! ## What depends on the codec -/

def header (h265 : Bool) : Nat := if h265 then 2 else 1

/-- The type bits of a fragment header. -/
def fuTypeMask (h265 : Bool) : UInt8 := if h265 then 63 else 31

def nalType (h265 : Bool) (first : UInt8) : UInt8 :=
  if h265 then (first >>> (1 : UInt8)) &&& 63 else first &&& 31

/-- The first octet of a fragmented unit, from a fragment's and the unit's type. -/
def headerOctet (h265 : Bool) (first original : UInt8) : UInt8 :=
  if h265 then (first &&& 0x81) ||| (original <<< (1 : UInt8)) else (first &&& 0xE0) ||| original

def apType (h265 : Bool) : UInt8 := if h265 then 48 else 24

def fragType (h265 : Bool) : UInt8 := if h265 then 49 else 28

def isIdr (h265 : Bool) (type : UInt8) : Bool :=
  if h265 then type == 19 || type == 20 else type == 5

/-- The types that may be sent as a NAL unit of their own. -/
def isSingle (h265 : Bool) (type : UInt8) : Bool :=
  (h265 && type < 48) || (!h265 && 1 ≤ type && type ≤ 23)

theorem header_pos (h265 : Bool) : 0 < header h265 := by
  cases h265 <;> decide

/-! ## Losing and adding data -/

def invalidate (depack : VideoDepacketizer) : VideoDepacketizer :=
  { depack with damaged := true, awaitingKeyframe := true, frame := [], fuActive := false }

def onGap (depack : VideoDepacketizer) : VideoDepacketizer :=
  { depack with pendingGap := true }.invalidate

def needsKeyframe (depack : VideoDepacketizer) : Bool := depack.awaitingKeyframe

def write (depack : VideoDepacketizer) (octets : List UInt8) : VideoDepacketizer :=
  { depack with frame := depack.frame ++ octets }

def addNal (depack : VideoDepacketizer) (data : List UInt8) (off len : Nat) :
    Checked VideoDepacketizer := do
  let first ← byteAt data off
  let keyframe := depack.keyframe || isIdr depack.h265 (nalType depack.h265 first)
  let nal ← bytesAt data off len
  pure ({ depack with keyframe := keyframe }.write (Rtp.startCode true ++ nal))

/-- The units of an aggregation packet from `i` on. -/
def addAggregated (depack : VideoDepacketizer) (data : List UInt8) (i stop : Nat) :
    Checked VideoDepacketizer :=
  if i < stop then
    if i + 2 > stop then pure depack.invalidate
    else do
      let high ← byteAt data i
      let low ← byteAt data (i + 1)
      let nlen := word16 high low
      if nlen < header depack.h265 ∨ i + 2 + nlen > stop ∨
          depack.frame.length + nlen + 4 > MAX_FRAME_BYTES then pure depack.invalidate
      else do
        let depack ← depack.addNal data (i + 2) nlen
        depack.addAggregated data (i + 2 + nlen) stop
  else pure depack
termination_by stop - i

/-- The first fragment of a unit brings the unit's header along. -/
def openFragment (depack : VideoDepacketizer) (data : List UInt8) (off : Nat)
    (first original : UInt8) : Checked VideoDepacketizer := do
  let second ← (if depack.h265 then (fun octet => [octet]) <$> byteAt data (off + 1) else pure [])
  pure { depack.write (Rtp.startCode true ++ headerOctet depack.h265 first original :: second) with
    keyframe := depack.keyframe || isIdr depack.h265 original
    fuActive := true
    fuType := original }

def addFragment (depack : VideoDepacketizer) (data : List UInt8) (off len : Nat) (first : UInt8) :
    Checked VideoDepacketizer :=
  if len ≤ header depack.h265 + 1 then pure depack.invalidate
  else do
    let fh ← byteAt data (off + header depack.h265)
    let start := fh &&& 0x80 != 0
    let stop := fh &&& 0x40 != 0
    let original := fh &&& fuTypeMask depack.h265
    if (start && (depack.fuActive || stop)) ||
        (!start && (!depack.fuActive || original != depack.fuType)) then pure depack.invalidate
    else do
      let opened ← (if start then depack.openFragment data off first original else pure depack)
      let chunk ← bytesAt data (off + header depack.h265 + 1) (len - header depack.h265 - 1)
      let written := opened.write chunk
      pure (if stop then { written with fuActive := false } else written)

/-! ## Feeding a payload -/

/-- A timestamp change without a marker leaves the previous access unit
incomplete. -/
def changeTimestamp (depack : VideoDepacketizer) (ptsUsec : Int) : VideoDepacketizer :=
  if depack.framePts ≠ ptsUsec then
    let depack := if depack.framePts ≠ noPts then depack.invalidate else depack
    { depack with
      frame := []
      fuActive := false
      keyframe := false
      damaged := depack.pendingGap
      framePts := ptsUsec }
  else depack

def takePendingGap (depack : VideoDepacketizer) : VideoDepacketizer :=
  { depack with damaged := depack.pendingGap || depack.damaged, pendingGap := false }

/-- Add a payload to an undamaged access unit. -/
def assemble (depack : VideoDepacketizer) (data : List UInt8) (off len : Nat) :
    Checked VideoDepacketizer :=
  if len < header depack.h265 ∨ depack.frame.length + len + 4 > MAX_FRAME_BYTES then
    pure depack.invalidate
  else do
    let first ← byteAt data off
    let type := nalType depack.h265 first
    if type = fragType depack.h265 then depack.addFragment data off len first
    else if depack.fuActive then pure depack.invalidate
    else if type = apType depack.h265 then
      depack.addAggregated data (off + header depack.h265) (off + len)
    else if isSingle depack.h265 type then depack.addNal data off len
    else pure depack.invalidate

/-- The marker ends the access unit. -/
def finish (depack : VideoDepacketizer) (ptsUsec : Int) : VideoDepacketizer × Option Frame :=
  let depack := if depack.fuActive then depack.invalidate else depack
  let shown := !depack.damaged && 0 < depack.frame.length && (!depack.awaitingKeyframe || depack.keyframe)
  ({ depack with
      awaitingKeyframe := depack.awaitingKeyframe && !shown
      frame := []
      fuActive := false
      keyframe := false
      damaged := false
      framePts := noPts },
    if shown then some ⟨depack.frame, ptsUsec, depack.keyframe⟩ else none)

def feed (depack : VideoDepacketizer) (data : List UInt8) (off len : Nat) (marker : Bool)
    (ptsUsec : Int) : Checked (VideoDepacketizer × Option Frame) := do
  let depack := (depack.changeTimestamp ptsUsec).takePendingGap
  let depack ← (if depack.damaged then pure depack else depack.assemble data off len)
  pure (if marker then depack.finish ptsUsec else (depack, none))

/-! ## A range inside the buffer is all that a call sees -/

end VideoDepacketizer

theorem byteAt_slice (data : List UInt8) (off len index : Nat) (inside : index < len) :
    byteAt (slice data off len) index = byteAt data (off + index) := by
  rw [byteAt, getElem?_slice _ _ _ _ inside, byteAt]

theorem bytesAt_slice (data : List UInt8) (off len index count : Nat)
    (range : off + len ≤ data.length) (inside : index + count ≤ len) :
    bytesAt (slice data off len) index count = bytesAt data (off + index) count := by
  rw [bytesAt, bytesAt, slice_length _ _ _ range, if_pos inside, if_pos (by omega),
    slice_slice _ _ _ _ _ inside]

theorem byteAt_of_lt {data : List UInt8} {index : Nat} (inside : index < data.length) :
    byteAt data index = .ok data[index] := by
  rw [byteAt, List.getElem?_eq_getElem inside]

theorem byteAt_getD {data : List UInt8} {index : Nat} (inside : index < data.length) :
    byteAt data index = .ok (data.getD index 0) := by
  rw [byteAt_of_lt inside, List.getD_eq_getElem]

theorem bytesAt_of_le {data : List UInt8} {off len : Nat} (inside : off + len ≤ data.length) :
    bytesAt data off len = .ok (slice data off len) := by
  rw [bytesAt, if_pos inside]

namespace VideoDepacketizer

section Range

variable (data : List UInt8) (off len : Nat) (range : off + len ≤ data.length)
include range

theorem addNal_slice (depack : VideoDepacketizer) (index count : Nat) (nonempty : 0 < count)
    (inside : index + count ≤ len) :
    depack.addNal (slice data off len) index count = depack.addNal data (off + index) count := by
  rw [addNal, byteAt_slice _ _ _ _ (by omega), bytesAt_slice _ _ _ _ _ range inside, addNal]

theorem addAggregated_slice (depack : VideoDepacketizer) (i : Nat) :
    depack.addAggregated (slice data off len) i len =
      depack.addAggregated data (off + i) (off + len) := by
  induction depack, i using addAggregated.induct len with
  | case1 depack i more short =>
      rw [addAggregated, if_pos more, if_pos short, addAggregated, if_pos (by omega), if_pos (by omega)]
  | case2 depack i more room inductionHypothesis =>
      rw [addAggregated, if_pos more, if_neg room, addAggregated, if_pos (by omega), if_neg (by omega),
        byteAt_slice _ _ _ _ (by omega), byteAt_slice _ _ _ _ (by omega), ← Nat.add_assoc]
      refine bind_congr fun high => bind_congr fun low => ?_
      by_cases refused : word16 high low < header depack.h265 ∨ i + 2 + word16 high low > len ∨
          depack.frame.length + word16 high low + 4 > MAX_FRAME_BYTES
      · rw [if_pos refused, if_pos (by omega)]
      · have headed := header_pos depack.h265
        rw [if_neg refused, if_neg (by omega), addNal_slice data off len range _ _ _ (by omega) (by omega)]
        refine bind_congr fun added => ?_
        rw [inductionHypothesis high low refused added, Nat.add_assoc, Nat.add_assoc, Nat.add_assoc]
  | case3 depack i finished =>
      rw [addAggregated, if_neg finished, addAggregated, if_neg (by omega)]

theorem addFragment_slice (depack : VideoDepacketizer) (first : UInt8) :
    depack.addFragment (slice data off len) 0 len first = depack.addFragment data off len first := by
  by_cases short : len ≤ header depack.h265 + 1
  · rw [addFragment, if_pos short, addFragment, if_pos short]
  · have headed := header_pos depack.h265
    have opened : ∀ original, depack.openFragment (slice data off len) 0 first original =
        depack.openFragment data off first original := by
      intro original
      rw [openFragment, openFragment, byteAt_slice _ _ _ _ (by omega), Nat.zero_add]
    have chunk := bytesAt_slice data off len (header depack.h265 + 1) (len - header depack.h265 - 1)
      range (by omega)
    rw [addFragment, if_neg short, addFragment, if_neg short, Nat.zero_add,
      byteAt_slice _ _ _ _ (by omega), chunk, Nat.add_assoc]
    simp only [opened]

theorem assemble_slice (depack : VideoDepacketizer) :
    depack.assemble (slice data off len) 0 len = depack.assemble data off len := by
  by_cases refused : len < header depack.h265 ∨ depack.frame.length + len + 4 > MAX_FRAME_BYTES
  · rw [assemble, if_pos refused, assemble, if_pos refused]
  · have headed := header_pos depack.h265
    rw [assemble, if_neg refused, assemble, if_neg refused, byteAt_slice _ _ _ _ (by omega)]
    refine bind_congr fun first => ?_
    have aggregated := addAggregated_slice data off len range depack (header depack.h265)
    rw [addFragment_slice data off len range, Nat.zero_add, Nat.zero_add, aggregated,
      addNal_slice data off len range _ _ _ (by omega) (by omega), Nat.add_zero]

/-- A call sees nothing outside the range it is given. -/
theorem feed_slice (depack : VideoDepacketizer) (marker : Bool) (ptsUsec : Int) :
    depack.feed (slice data off len) 0 len marker ptsUsec =
      depack.feed data off len marker ptsUsec := by
  rw [feed, feed, assemble_slice data off len range]

end Range

/-! ## No call throws -/

section Total

variable (payload : List UInt8)

theorem addNal_ok (depack : VideoDepacketizer) (off len : Nat) (nonempty : 0 < len)
    (inside : off + len ≤ payload.length) : ∃ next, depack.addNal payload off len = .ok next := by
  rw [addNal, byteAt_of_lt (by omega), bytesAt_of_le inside]
  exact ⟨_, rfl⟩

theorem addAggregated_ok (depack : VideoDepacketizer) (i : Nat) :
    ∃ next, depack.addAggregated payload i payload.length = .ok next := by
  induction depack, i using addAggregated.induct payload.length with
  | case1 depack i more short =>
      rw [addAggregated, if_pos more, if_pos short]
      exact ⟨_, rfl⟩
  | case2 depack i more room inductionHypothesis =>
      rw [addAggregated, if_pos more, if_neg room, byteAt_of_lt (by omega), byteAt_of_lt (by omega)]
      change ∃ next, ite _ _ _ = _
      split
      · exact ⟨_, rfl⟩
      · rename_i accepted
        have headed := header_pos depack.h265
        obtain ⟨added, same⟩ := addNal_ok payload depack (i + 2) (word16 payload[i] payload[i + 1])
          (by omega) (by omega)
        rw [same]
        exact inductionHypothesis payload[i] payload[i + 1] accepted added
  | case3 depack i finished =>
      rw [addAggregated, if_neg finished]
      exact ⟨_, rfl⟩

theorem openFragment_ok (depack : VideoDepacketizer) (first original : UInt8)
    (inside : 1 < payload.length) : ∃ next, depack.openFragment payload 0 first original = .ok next := by
  rw [openFragment, byteAt_of_lt (by omega)]
  cases depack.h265 <;> exact ⟨_, rfl⟩

theorem addFragment_ok (depack : VideoDepacketizer) (first : UInt8) :
    ∃ next, depack.addFragment payload 0 payload.length first = .ok next := by
  by_cases short : payload.length ≤ header depack.h265 + 1
  · rw [addFragment, if_pos short]
    exact ⟨_, rfl⟩
  · have headed := header_pos depack.h265
    have inside : 0 + header depack.h265 + 1 + (payload.length - header depack.h265 - 1) ≤
        payload.length := by omega
    have chunk := bytesAt_of_le inside
    rw [addFragment, if_neg short, byteAt_of_lt (by omega), chunk]
    change ∃ next, ite _ _ _ = _
    split
    · exact ⟨_, rfl⟩
    · split
      · obtain ⟨opened, same⟩ := openFragment_ok payload depack first
          (payload[0 + header depack.h265] &&& fuTypeMask depack.h265) (by omega)
        rw [same]
        exact ⟨_, rfl⟩
      · exact ⟨_, rfl⟩

theorem assemble_ok (depack : VideoDepacketizer) :
    ∃ next, depack.assemble payload 0 payload.length = .ok next := by
  by_cases refused : payload.length < header depack.h265 ∨
      depack.frame.length + payload.length + 4 > MAX_FRAME_BYTES
  · rw [assemble, if_pos refused]
    exact ⟨_, rfl⟩
  · have headed := header_pos depack.h265
    have aggregated := addAggregated_ok payload depack (0 + header depack.h265)
    rw [assemble, if_neg refused, byteAt_of_lt (by omega)]
    change ∃ next, ite _ _ _ = _
    split
    · exact addFragment_ok payload depack _
    split
    · exact ⟨_, rfl⟩
    split
    · rw [Nat.zero_add payload.length]
      exact aggregated
    split
    · exact addNal_ok payload depack 0 _ (by omega) (by omega)
    · exact ⟨_, rfl⟩

theorem feed_ok (depack : VideoDepacketizer) (marker : Bool) (ptsUsec : Int) :
    ∃ result, depack.feed payload 0 payload.length marker ptsUsec = .ok result := by
  rw [feed]
  cases damaged : ((depack.changeTimestamp ptsUsec).takePendingGap).damaged with
  | true => exact ⟨_, rfl⟩
  | false =>
      obtain ⟨next, same⟩ := assemble_ok payload (depack.changeTimestamp ptsUsec).takePendingGap
      simp only [Bool.false_eq_true, if_false, same]
      exact ⟨_, rfl⟩

end Total

/-- A call as a total function of the payload. -/
def consume (depack : VideoDepacketizer) (payload : List UInt8) (marker : Bool) (ptsUsec : Int) :
    VideoDepacketizer × Option Frame :=
  match depack.feed payload 0 payload.length marker ptsUsec with
  | .ok result => result
  | .error _ => (depack, none)

theorem feed_eq_consume (depack : VideoDepacketizer) (data : List UInt8) (off len : Nat)
    (range : off + len ≤ data.length) (marker : Bool) (ptsUsec : Int) :
    depack.feed data off len marker ptsUsec =
      .ok (depack.consume (slice data off len) marker ptsUsec) := by
  obtain ⟨result, same⟩ := feed_ok (slice data off len) depack marker ptsUsec
  have whole := feed_slice data off len range depack marker ptsUsec
  rw [consume, same]
  rw [slice_length _ _ _ range] at same
  rw [← whole, same]

end VideoDepacketizer
end RtpReceiver
end MetaShare
