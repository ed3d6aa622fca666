import Mathlib.Data.Nat.Bitwise
import MetaShare.Foundation.Octets

namespace MetaShare
namespace RtpServer

open Octets

/-!
# The RTCP feedback parser

The streamer services three kinds of feedback: keyframe requests, negative
acknowledgements and receiver reports.  The parser is a function of the
datagram and of the two SSRCs alone; what the server does with each event
depends on its state and is described elsewhere.
-/

/-- What a feedback datagram asks of the server, in the order of the calls. -/
inductive RtcpEvent where
  | keyframeRequest
  | retransmit (video : Bool) (seq : UInt16)
  | fractionLost (octet : UInt8)
  deriving DecidableEq

/-- The packets that one NACK entry asks for: the packet id, and the numbers
behind it whose bits are set. -/
def retransmitEntry (video : Bool) (pid blp : Nat) : List RtcpEvent :=
  .retransmit video (UInt16.ofNat pid) ::
    (List.range 16).filterMap (fun i =>
      if blp &&& (1 <<< i) ≠ 0 then some (.retransmit video (UInt16.ofNat (pid + 1 + i))) else none)

/-- The entries of a NACK from offset `off` on. -/
def retransmitEntries (data : List UInt8) (video : Bool) : (entries off : Nat) → List RtcpEvent
  | 0, _ => []
  | entries + 1, off =>
      retransmitEntry video (word16 (data.getD off 0) (data.getD (off + 1) 0))
        (word16 (data.getD (off + 2) 0) (data.getD (off + 3) 0)) ++
      retransmitEntries data video entries (off + 4)

/-- The report blocks of a receiver report from offset `off` on. -/
def reportBlocks (videoSsrc : UInt32) (data : List UInt8) (pktLen : Nat) : (blocks off : Nat) → List RtcpEvent
  | 0, _ => []
  | blocks + 1, off =>
      if off + 24 ≤ pktLen then
        let blockSsrc := word32 (data.getD off 0) (data.getD (off + 1) 0) (data.getD (off + 2) 0)
          (data.getD (off + 3) 0)
        (if blockSsrc = videoSsrc.toNat then [.fractionLost (data.getD (off + 4) 0)] else []) ++
          reportBlocks videoSsrc data pktLen blocks (off + 24)
      else []

/-- Parse the first packet of a feedback datagram. -/
def handleRtcp (videoSsrc audioSsrc : UInt32) (data : List UInt8) : List RtcpEvent :=
  if data.length < 8 then []
  else
    let b0 := data.getD 0 0
    if b0 &&& 0xC0 ≠ 0x80 then []
    else
      let fmt := b0 &&& 0x1F
      let pt := data.getD 1 0
      let pktLen := (word16 (data.getD 2 0) (data.getD 3 0) + 1) * 4
      if data.length < pktLen ∨ pktLen < 8 then []
      else if pt = 206 ∧ fmt = 1 then [.keyframeRequest]
      else if pt = 205 ∧ fmt = 1 then
        if pktLen < 16 then []
        else
          let mediaSsrc := word32 (data.getD 8 0) (data.getD 9 0) (data.getD 10 0) (data.getD 11 0)
          if mediaSsrc = videoSsrc.toNat then retransmitEntries data true ((pktLen - 12) / 4) 12
          else if mediaSsrc = audioSsrc.toNat then retransmitEntries data false ((pktLen - 12) / 4) 12
          else []
      else if pt = 201 then reportBlocks videoSsrc data pktLen fmt.toNat 8
      else []

/-- The retransmissions that a datagram asks for: of which stream, and of
which packets. -/
def RtcpEvent.retransmission : RtcpEvent → Option (Bool × UInt16)
  | .retransmit video seq => some (video, seq)
  | _ => none

def retransmissions (videoSsrc audioSsrc : UInt32) (data : List UInt8) : List (Bool × UInt16) :=
  (handleRtcp videoSsrc audioSsrc data).filterMap RtcpEvent.retransmission

/-! ## What other feedback does not ask for -/

theorem reportBlocks_retransmission (videoSsrc : UInt32) (data : List UInt8) (pktLen blocks off : Nat) :
    (reportBlocks videoSsrc data pktLen blocks off).filterMap RtcpEvent.retransmission = [] := by
  induction blocks generalizing off with
  | zero => rfl
  | succ blocks inductionHypothesis =>
      simp only [reportBlocks]
      split
      · rw [List.filterMap_append, inductionHypothesis, List.append_nil]
        split <;> rfl
      · rfl

/-- Only a NACK leads to retransmissions. -/
theorem retransmissions_eq_nil (videoSsrc audioSsrc : UInt32) (data : List UInt8)
    (other : data.getD 1 0 ≠ 205) : retransmissions videoSsrc audioSsrc data = [] := by
  have notNack : ¬ (data.getD 1 0 = 205 ∧ data.getD 0 0 &&& 0x1F = 1) := fun both => other both.1
  simp only [retransmissions, handleRtcp, if_neg notNack]
  repeat' split
  all_goals first | rfl | exact reportBlocks_retransmission _ _ _ _ _

/-! ## Bitmaps of consecutive losses -/

/-- An entry whose lowest `count` bits are set asks for `count + 1` consecutive
packets. -/
theorem retransmitEntry_consecutive (video : Bool) (pid count : Nat) (short : count ≤ 16) :
    retransmitEntry video pid (2 ^ count - 1) =
      (List.range (count + 1)).map (fun i => .retransmit video (UInt16.ofNat (pid + i))) := by
  have bit : ∀ i : Nat, (2 ^ count - 1) &&& (1 <<< i) ≠ 0 ↔ i < count := by
    intro i
    rw [Nat.one_shiftLeft, Nat.and_two_pow, Nat.testBit_two_pow_sub_one]
    by_cases inside : i < count <;> simp [inside]
  have chosen : (List.range 16).filterMap (fun i =>
      if (2 ^ count - 1) &&& (1 <<< i) ≠ 0 then
        some (RtcpEvent.retransmit video (UInt16.ofNat (pid + 1 + i))) else none) =
      (List.range count).map (fun i => .retransmit video (UInt16.ofNat (pid + 1 + i))) := by
    simp only [bit]
    have split : List.range 16 = List.range count ++ (List.range (16 - count)).map (count + ·) := by
      rw [← List.range_add, Nat.add_sub_cancel' short]
    rw [split, List.filterMap_append]
    have kept : (List.range count).filterMap (fun i =>
        if i < count then some (RtcpEvent.retransmit video (UInt16.ofNat (pid + 1 + i))) else none) =
        (List.range count).map (fun i => .retransmit video (UInt16.ofNat (pid + 1 + i))) := by
      rw [← List.filterMap_eq_map]
      exact List.filterMap_congr (fun i member => if_pos (List.mem_range.mp member))
    have dropped : ((List.range (16 - count)).map (count + ·)).filterMap (fun i =>
        if i < count then some (RtcpEvent.retransmit video (UInt16.ofNat (pid + 1 + i))) else none) = [] := by
      rw [List.filterMap_eq_nil_iff]
      intro i member
      obtain ⟨j, _, rfl⟩ := List.mem_map.mp member
      exact if_neg (by omega)
    rw [kept, dropped, List.append_nil]
  rw [retransmitEntry, chosen, List.range_succ_eq_map, List.map_cons, List.map_map]
  refine congrArg₂ List.cons rfl (List.map_congr_left (fun i _ => ?_))
  show RtcpEvent.retransmit video _ = .retransmit video _
  rw [Nat.add_assoc, Nat.add_comm 1 i]

end RtpServer
end MetaShare
