import MetaShare.Receiver.Arrival
import MetaShare.Receiver.Delivery
import MetaShare.Server.Rtcp

namespace MetaShare
namespace RtpReceiver

open Octets OrderedMap ReorderBuffer

/-!
# Arrivals and requests

The ledger of a run lists the extended sequence numbers of arriving video
packets and of the packets asked for in NACKs, in the order of the log.  A
number is only asked for when a later one arrives, and only once: the requests
made at one arrival lie between the highest number before it and the number
that arrived.  The ledger is connected to what is on the wire: the server's
parser reads the requested numbers, modulo 2^16, out of the datagrams sent.
-/

inductive Entry where
  | arrived (ext : Int)
  | requested (ext : Int)
  deriving DecidableEq

def Effect.entry : Effect → Option Entry
  | .arrived ext => some (.arrived ext)
  | .requested ext => some (.requested ext)
  | _ => none

def ledger (log : List Effect) : List Entry := log.filterMap Effect.entry

/-- The retransmissions that the server is asked for by what was sent. -/
def Effect.asks (videoSsrc audioSsrc : UInt32) : Effect → List (Bool × UInt16)
  | .sent datagram _ _ => RtpServer.retransmissions videoSsrc audioSsrc datagram
  | _ => []

def asked (videoSsrc audioSsrc : UInt32) (log : List Effect) : List (Bool × UInt16) :=
  log.flatMap (Effect.asks videoSsrc audioSsrc)

theorem ledger_append (first second : List Effect) : ledger (first ++ second) = ledger first ++ ledger second :=
  List.filterMap_append

theorem asked_append (videoSsrc audioSsrc : UInt32) (first second : List Effect) :
    asked videoSsrc audioSsrc (first ++ second) =
      asked videoSsrc audioSsrc first ++ asked videoSsrc audioSsrc second :=
  List.flatMap_append

/-- Entries that note no arrival and ask for no packet. -/
def Effect.isPlain : Effect → Bool
  | .arrived _ => false
  | .requested _ => false
  | .sent datagram _ _ => datagram.getD 1 0 != 205
  | _ => true

theorem ledger_plain (plain : List Effect) (silent : ∀ effect ∈ plain, effect.isPlain = true) :
    ledger plain = [] := by
  apply List.filterMap_eq_nil_iff.mpr
  intro effect member
  have own := silent effect member
  cases effect <;> first | rfl | cases own

theorem asked_plain (videoSsrc audioSsrc : UInt32) (plain : List Effect)
    (silent : ∀ effect ∈ plain, effect.isPlain = true) : asked videoSsrc audioSsrc plain = [] := by
  apply List.flatMap_eq_nil_iff.mpr
  intro effect member
  have own := silent effect member
  cases effect with
  | sent datagram address port =>
      exact RtpServer.retransmissions_eq_nil videoSsrc audioSsrc datagram (bne_iff_ne.mp own)
  | _ => rfl

/-! ## What leaves the ledger alone -/

/-- The ledger, the requests on the wire, the remote endpoint and the highest
number stay as they are. -/
structure Keeps (before after : RtpReceiver) : Prop where
  remoteAddress : after.remoteAddress = before.remoteAddress
  remotePort : after.remotePort = before.remotePort
  highestExtSeq : after.highestExtSeq = before.highestExtSeq
  log : ∃ plain, after.log = before.log ++ plain ∧ ∀ effect ∈ plain, effect.isPlain = true

theorem Keeps.of_same {before after : RtpReceiver} (remoteAddress : after.remoteAddress = before.remoteAddress)
    (remotePort : after.remotePort = before.remotePort)
    (highestExtSeq : after.highestExtSeq = before.highestExtSeq) (log : after.log = before.log) :
    Keeps before after :=
  ⟨remoteAddress, remotePort, highestExtSeq, [], by rw [log, List.append_nil], by simp⟩

theorem Keeps.refl (receiver : RtpReceiver) : Keeps receiver receiver := .of_same rfl rfl rfl rfl

theorem Keeps.trans {first second third : RtpReceiver} (left : Keeps first second)
    (right : Keeps second third) : Keeps first third := by
  obtain ⟨early, grown, silentEarly⟩ := left.log
  obtain ⟨late, grownAgain, silentLate⟩ := right.log
  refine ⟨right.remoteAddress.trans left.remoteAddress, right.remotePort.trans left.remotePort,
    right.highestExtSeq.trans left.highestExtSeq, early ++ late, ?_, ?_⟩
  · rw [grownAgain, grown, List.append_assoc]
  · intro effect member
    exact (List.mem_append.mp member).elim (silentEarly effect) (silentLate effect)

theorem Keeps.ledger_eq {before after : RtpReceiver} (keeps : Keeps before after) :
    ledger after.log = ledger before.log := by
  obtain ⟨plain, grown, silent⟩ := keeps.log
  rw [grown, ledger_append, ledger_plain plain silent, List.append_nil]

theorem Keeps.asked_eq {before after : RtpReceiver} (keeps : Keeps before after)
    (videoSsrc audioSsrc : UInt32) :
    asked videoSsrc audioSsrc after.log = asked videoSsrc audioSsrc before.log := by
  obtain ⟨plain, grown, silent⟩ := keeps.log
  rw [grown, asked_append, asked_plain videoSsrc audioSsrc plain silent, List.append_nil]

/-- Plain entries may be added to the log. -/
theorem Keeps.log_append (receiver : RtpReceiver) (plain : List Effect)
    (silent : ∀ effect ∈ plain, effect.isPlain = true) :
    Keeps receiver { receiver with log := receiver.log ++ plain } :=
  ⟨rfl, rfl, rfl, plain, rfl, silent⟩

/-- Handing packets on leaves the ledger alone. -/
theorem HandsOn.keeps {config : Config} {before after : RtpReceiver} (handsOn : HandsOn config before after) :
    Keeps before after := by
  obtain ⟨more, grown, handed⟩ := handsOn.log
  refine ⟨handsOn.remoteAddress, handsOn.remotePort, handsOn.highestExtSeq, more, grown, fun effect member => ?_⟩
  cases handed effect member with
  | gap => rfl
  | fed ext payload marker ptsUsec => rfl
  | frame frame => rfl
  | pli known => exact (show ((206 : UInt8) != 205) = true by decide)

section Feedback

variable (receiver : RtpReceiver) (env : Environment) (config : Config)

theorem transmit_keeps (datagram : List UInt8) (address : InetAddress) (port : Int)
    (noNack : datagram.getD 1 0 ≠ 205) : Keeps receiver (receiver.transmit env datagram address port) := by
  have counted : Keeps receiver { receiver with sends := receiver.sends + 1 } := .of_same rfl rfl rfl rfl
  rw [transmit]
  split
  · refine counted.trans (.log_append _ _ ?_)
    intro effect member
    rw [List.mem_singleton.mp member]
    exact bne_iff_ne.mpr noNack
  · exact counted

theorem maybeSendReceiverReport_keeps : Keeps receiver (receiver.maybeSendReceiverReport env config) := by
  have noted : Keeps receiver { receiver.tick with lastRrMs := receiver.clock env } := .of_same rfl rfl rfl rfl
  simp only [maybeSendReceiverReport]
  split
  · exact .of_same rfl rfl rfl rfl
  split
  · exact noted
  split
  · exact noted
  split
  · exact noted
  · refine Keeps.trans ?_ (transmit_keeps _ env _ _ _ (show (201 : UInt8) ≠ 205 by decide))
    exact .of_same rfl rfl rfl rfl

end Feedback

theorem receiveAudio_keeps {receiver after : RtpReceiver} {config : Config} {header : Header} {buf : List UInt8}
    {n : Nat} (heard : receiver.receiveAudio config header buf n = .ok after) : Keeps receiver after := by
  rw [receiveAudio] at heard
  obtain ⟨ptsUsec, _, played⟩ := bind_ok heard
  split at played
  · cases played
    refine .log_append receiver _ ?_
    intro effect member
    rw [List.mem_singleton.mp member]
    rfl
  · cases played

end RtpReceiver
end MetaShare
