import Mathlib.Algebra.Order.Floor.Ring
import Mathlib.Data.Rat.Floor
import MetaShare.Server.Consume
import MetaShare.Server.SendPath

namespace MetaShare

open Rtp Transitions RtpServer

/-!
# A server behind the pacer

One server streams at a constant rate, and nothing else uses the pacer.  Time is
exact: computing takes none, a sleep takes as long as it was asked to, and so
time passes only while the sender thread sleeps in `consume` or waits for work.
The socket takes every packet, and nothing has to be repaired.
-/

/-- Where the sender thread stands in `consume`. -/
inductive Waiting where
  | outside
  | asleep (wakeAt : Rat)
  | returned (paced : Bool)
  deriving DecidableEq

/-- The packet for which `consume` was called, and what it returned when. -/
structure Answer where
  flight : Flight
  granted : Bool
  time : Rat
  deriving DecidableEq

/-- A call of `broadcast_video`: the size of the access unit and the packets made
from it. -/
structure Push where
  time : Rat
  size : Nat
  packets : List Packet
  deriving DecidableEq

/-- The bytes of the packets of a call. -/
def Push.rtpBytes (push : Push) : Nat := (push.packets.map List.length).sum

/-- The server, the pacer and the time.  The calls of `broadcast_video` and the
answers of `consume` are recorded for the proofs. -/
structure PacedServer where
  server : RtpServer
  bucket : Pacer.Bucket
  clock : Rat
  waiting : Waiting
  pushes : List Push
  answers : List Answer

namespace PacedServer

/-- The steady clock counts whole nanoseconds. -/
def reading (clock : Rat) : Time := ⌊clock * 1000000000⌋

/-- An instant of the steady clock, in seconds. -/
def seconds (time : Time) : Rat := time / 1000000000

/-- The pacer knows the rate of this server only; how many tokens it holds is
left open. -/
def begin (server : RtpServer) (index kbps : Int) (tokens lastRefill clock : Rat) : PacedServer where
  server := server
  bucket := { Pacer.start.setStreamRate index kbps with tokens := tokens, lastRefill := lastRefill }
  clock := clock
  waiting := .outside
  pushes := []
  answers := []

/-- The packets that `broadcast_video` makes of an access unit. -/
def made (config : Config) (server : RtpServer) (data : List UInt8) (ptsUsec : Int64) (keyframe : Bool) :
    List Packet :=
  if !server.peerStreaming || (server.awaitingKeyframe && !keyframe) then []
  else (packetize config.h265 server.videoPacker data ptsUsec).1

def push (state : PacedServer) (config : Config) (data : List UInt8) (ptsUsec : Int64) (keyframe : Bool) :
    PacedServer :=
  let now := reading state.clock
  { state with
    server := state.server.broadcastVideo config now now data ptsUsec keyframe
    pushes := state.pushes ++ [⟨state.clock, data.length, made config state.server data ptsUsec keyframe⟩] }

/-- The sender goes through the loop of `consume` once. -/
def consume (state : PacedServer) (flight : Flight) (packet : MediaPacket) : PacedServer :=
  let pass := state.bucket.consume packet.bytes.length (seconds flight.frame.deadline) state.clock
  let state := { state with bucket := pass.2 }
  match pass.1 with
  | .granted => { state with waiting := .returned true, answers := state.answers ++ [⟨flight, true, state.clock⟩] }
  | .refused => { state with waiting := .returned false, answers := state.answers ++ [⟨flight, false, state.clock⟩] }
  | .sleeps wakeAt => { state with waiting := .asleep wakeAt }

/-- A step of the server that takes no time. -/
def act (state : PacedServer) (config : Config) (action : RtpServer.Action) : Option PacedServer :=
  (state.server.step config action).map (fun server => { state with server := server, waiting := .outside })

/-- The sender thread does what comes next, unless it has to wait. -/
def turn (state : PacedServer) (config : Config) : Option PacedServer :=
  match state.server.sender with
  | .waiting => state.act config .wake
  | .repairing _ _ => state.act config .takeRepair
  | .holding _ _ _ => none
  | .popping => state.act config .popFrame
  | .requesting => state.act config .senderRequest
  | .sending flight =>
      match flight.frame.packets[flight.next]? with
      | none => none
      | some packet =>
          match state.waiting with
          | .outside => some (state.consume flight packet)
          | .asleep wakeAt => if wakeAt ≤ state.clock then some (state.consume flight packet) else none
          | .returned paced =>
              let now := reading state.clock
              state.act config (.sendPacket paced now true now)

/-- The sender thread has nothing to do before this instant. -/
def restsUntil (state : PacedServer) (later : Rat) : Bool :=
  match state.waiting with
  | .asleep wakeAt => later ≤ wakeAt
  | _ => state.server.sender = .waiting && state.server.sendQ.isEmpty && state.server.repairQ.isEmpty

inductive Action where
  | push (data : List UInt8) (ptsUsec : Int64) (keyframe : Bool)
  | captureRequest
  | turn
  | elapse (duration : Rat)
  deriving DecidableEq

def step (config : Config) (state : PacedServer) : Action → Option PacedServer
  | .push data ptsUsec keyframe => some (state.push config data ptsUsec keyframe)
  | .captureRequest =>
      (state.server.step config .captureRequest).map (fun server => { state with server := server })
  | .turn => state.turn config
  | .elapse duration =>
      if 0 ≤ duration ∧ state.restsUntil (state.clock + duration) then
        some { state with clock := state.clock + duration }
      else none

/-! ## What the encoder promises -/

/-- The bytes of the access units that were pushed in a window. -/
def encodedBytes (pushes : List Push) (first last : Rat) : Nat :=
  (pushes.map (fun push => if first ≤ push.time ∧ push.time ≤ last then push.size else 0)).sum

/-- The encoder keeps to its rate and to its rate control buffer of a tenth of a
second, and RTP adds at most a tenth to an access unit. -/
structure Conforms (kbps : Int) (pushes : List Push) : Prop where
  bound : ∀ first last : Rat, first ≤ last →
    8 * (encodedBytes pushes first last : Rat) ≤ 1000 * kbps * (last - first) + 1000 * kbps / 10
  overhead : ∀ push ∈ pushes, 10 * push.rtpBytes ≤ 11 * push.size

/-- Streaming has just begun: nothing is queued. -/
structure Opening (server : RtpServer) : Prop where
  streaming : server.peerStreaming = true
  waiting : server.sender = .waiting
  sendQ : server.sendQ = []
  repairQ : server.repairQ = []
  queuedPackets : server.queuedPackets = 0

end PacedServer
end MetaShare
