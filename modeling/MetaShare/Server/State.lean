import MetaShare.Foundation.Transitions
import MetaShare.Rtp.RetransmitBuffer
import MetaShare.Server.Rtcp
import MetaShare.Server.Signaling

namespace MetaShare

open Rtp

/-!
# The state of the streamer

Four threads share the state of an `RtpServer`: the signaling thread, which
runs the callbacks of the TCP connection one after another, the capture thread,
which broadcasts, the sender thread, and the thread that reads RTCP.  They meet
only in critical sections under two locks.  An action below is one such
critical section together with what the thread does on its own before the next
one, and the positions of the threads between two actions are part of the state.

Three things are recorded for the proofs only and never read: the number of
the connection, also with every packet, the number of an access unit in its
session, and the log.  The statistics counters are left out, and the generation
is a number without bound.
-/

namespace RtpServer

/-- A reading of the steady clock, in nanoseconds. -/
abbrev Time := Int

def kMaxSendAge : Time := 100000000
def kRepairAge : Time := 20000000
def kMaxQueuedPackets : Nat := 4096
def kMaxQueuedRepairs : Nat := 64
def kRepairsPerPacket : Nat := 4

def AF_INET : UInt16 := 2

structure SockAddr where
  family : UInt16
  address : UInt32
  port : UInt16
  deriving DecidableEq

/-- The address that a value-initialised `sockaddr_in` holds. -/
def SockAddr.zero : SockAddr := ⟨0, 0, 0⟩

/-- A packet and the number of the connection during which it was broadcast. -/
structure MediaPacket where
  bytes : Packet
  connection : Nat
  deriving DecidableEq

structure VideoFrame where
  packets : List MediaPacket
  deadline : Time
  generation : Nat
  unit : Nat
  deriving DecidableEq

structure RepairPacket where
  packet : MediaPacket
  deadline : Time
  generation : Nat
  video : Bool
  deriving DecidableEq

/-- A frame that the sender has taken from the queue, and the index of the
packet to send next. -/
structure Flight where
  frame : VideoFrame
  next : Nat
  deriving DecidableEq

/-- Where the signaling thread stands.  Between the two critical sections of
`on_connect` and of `on_disconnect` the media queues are still the old ones.
`on_disconnect` runs again behind the one of a BYE. -/
inductive Signaling where
  | listening
  | connecting (peer : SockAddr)
  | serving (peer : SockAddr)
  | requesting (peer : SockAddr)
  | leaving (peer : SockAddr) (again : Bool)
  | departing (peer : SockAddr)
  deriving DecidableEq

/-- Where the sender thread stands.  `send_repairs` runs before a frame is
taken from the queue and before each packet of a frame. -/
inductive Sender where
  | waiting
  | repairing (flight : Option Flight) (done : Nat)
  | holding (flight : Option Flight) (done : Nat) (repair : RepairPacket)
  | popping
  | sending (flight : Flight)
  | requesting
  deriving DecidableEq

/-- A call of `broadcast_video` during a session that makes packets or is
turned away before it could. -/
structure VideoUnit where
  data : List UInt8
  ptsUsec : Int64
  keyframe : Bool
  deadline : Time
  packets : List Packet
  deriving DecidableEq

/-- A packet that the sender thread put on the wire for the first time. -/
structure FreshPacket where
  unit : Nat
  index : Nat
  packet : MediaPacket
  deadline : Time
  sentAt : Time
  destination : SockAddr
  deriving DecidableEq

inductive Event where
  | connected (peer : SockAddr)
  | disconnected
  | signal (message : Signal.Message)
  | streamRate (kbps : Int)
  | keyframeRequest
  | broadcast (unit : VideoUnit)
  | fresh (sent : FreshPacket)
  | audio (packet : MediaPacket) (destination : SockAddr)
  | repair (video : Bool) (packet : MediaPacket) (sentAt : Time) (destination : SockAddr)
  deriving DecidableEq

structure Config where
  videoSsrc : UInt32
  audioSsrc : UInt32
  h265 : Bool
  width : Int
  height : Int
  fpsNum : Int
  audioRate : Int
  audioChannels : Int
  pacer : Bool

end RtpServer

open RtpServer in
/-- The fields of the server, the positions of its threads, and what is
recorded for the proofs. -/
structure RtpServer where
  signaling : Signaling
  sender : Sender
  rtcp : List RtcpEvent
  captureRequests : Nat
  videoPacker : PacketizerBase
  audioPacker : PacketizerBase
  pacingKbps : Int
  peerStreaming : Bool
  peerUdp : SockAddr
  sendQ : List VideoFrame
  repairQ : List RepairPacket
  queuedPackets : Nat
  sendGeneration : Nat
  awaitingKeyframe : Bool
  videoRetx : RetransmitBuffer MediaPacket
  audioRetx : RetransmitBuffer MediaPacket
  connection : Nat
  readyPort : Option UInt16
  log : List Event

namespace RtpServer

/-- The server once its threads run and before the first client. -/
def start (config : Config) : RtpServer where
  signaling := .listening
  sender := .waiting
  rtcp := []
  captureRequests := 0
  videoPacker := packetizer config.h265 config.videoSsrc 0
  audioPacker := OpusRtpPacketizer.create config.audioSsrc
  pacingKbps := 0
  peerStreaming := false
  peerUdp := .zero
  sendQ := []
  repairQ := []
  queuedPackets := 0
  sendGeneration := 0
  awaitingKeyframe := true
  videoRetx := .create 1024
  audioRetx := .create 512
  connection := 0
  readyPort := none
  log := []

def record (server : RtpServer) (event : Event) : RtpServer :=
  { server with log := server.log ++ [event] }

/-- A call of `on_keyframe_request`. -/
def onKeyframeRequest (server : RtpServer) : RtpServer := server.record .keyframeRequest

/-- Tell the pacer the rate of this stream, if there is a pacer. -/
def setStreamRate (server : RtpServer) (config : Config) (kbps : Int) : RtpServer :=
  if config.pacer then server.record (.streamRate kbps) else server

def setPacingBitrate (server : RtpServer) (config : Config) (kbps : Int) : RtpServer :=
  if server.pacingKbps = kbps then server
  else
    { server with pacingKbps := kbps }.setStreamRate config (if server.peerStreaming then kbps else 0)

/-! ## The signaling thread -/

/-- The first critical section of `on_disconnect`. -/
def disconnect (server : RtpServer) (config : Config) : RtpServer :=
  ({ server with peerStreaming := false, peerUdp := .zero }.setStreamRate config 0).record .disconnected

def resetVideoQueue (server : RtpServer) : RtpServer :=
  { server with
    sendQ := []
    repairQ := []
    videoRetx := server.videoRetx.clear
    audioRetx := server.audioRetx.clear
    queuedPackets := 0
    sendGeneration := server.sendGeneration + 1
    awaitingKeyframe := true }

/-- The first critical section of `on_connect`. -/
def connect (server : RtpServer) (peer : SockAddr) : RtpServer :=
  { server with
    peerUdp := { peer with port := 0 }
    peerStreaming := false
    connection := server.connection + 1
    readyPort := none }.record (.connected peer)

def helloBody (config : Config) : List UInt8 :=
  let codec := if config.h265 then "h265" else "h264"
  octetsOf (String.toList (
    "\x7b\"video\":\x7b\"codec\":\"" ++ codec ++ "\",\"width\":" ++ toString config.width ++
    ",\"height\":" ++ toString config.height ++ ",\"fps\":" ++ toString config.fpsNum ++
    ",\"pt\":" ++ toString kVideoPayloadType.toNat ++ ",\"ssrc\":" ++ toString config.videoSsrc.toNat ++
    ",\"clock\":" ++ toString kVideoClockRate.toNat ++ "\x7d," ++
    "\"audio\":\x7b\"codec\":\"opus\",\"rate\":" ++ toString config.audioRate ++
    ",\"channels\":" ++ toString config.audioChannels ++ ",\"pt\":" ++ toString kOpusPayloadType.toNat ++
    ",\"ssrc\":" ++ toString config.audioSsrc.toNat ++ ",\"clock\":" ++ toString kOpusClockRate.toNat ++
    "\x7d\x7d"))

def sendHello (server : RtpServer) (config : Config) : RtpServer :=
  server.record (.signal ⟨.hello, helloBody config⟩)

/-- A READY: streaming begins, or goes on to another port. -/
def onReady (server : RtpServer) (config : Config) (peer : SockAddr) (body : List UInt8) : RtpServer :=
  match parseReadyPort body with
  | none => server
  | some port =>
      let server := { server with readyPort := some port }
      if server.peerUdp.family ≠ AF_INET ∨ server.peerUdp.address = 0 then server
      else
        ({ server with
          peerUdp := { server.peerUdp with port := port }
          peerStreaming := true
          signaling := .requesting peer }.setStreamRate config server.pacingKbps).record (.signal ⟨.start, []⟩)

def onMessage (server : RtpServer) (config : Config) (peer : SockAddr) (message : Signal.Message) : RtpServer :=
  match message.type with
  | .ready => server.onReady config peer message.body
  | .bye => { server with signaling := .leaving peer true }.disconnect config
  | _ => server

/-! ## The capture thread -/

/-- What both paths that shed the queue do. -/
def dropVideoQueue (server : RtpServer) : RtpServer :=
  { server with
    sendQ := []
    repairQ := []
    videoRetx := server.videoRetx.clear
    queuedPackets := 0
    sendGeneration := server.sendGeneration + 1
    awaitingKeyframe := true }

/-- The number of access units that were broadcast in this session. -/
def unitCount (server : RtpServer) : Nat :=
  server.log.foldl (fun count event =>
    match event with
    | .connected _ => 0
    | .broadcast _ => count + 1
    | _ => count) 0

/-- The head of the queue has expired, or the queue would grow too long. -/
def overflows (server : RtpServer) (now : Time) (count : Nat) : Bool :=
  server.sendQ.head?.any (fun front => front.deadline ≤ now) || kMaxQueuedPackets < server.queuedPackets + count

/-- Queue the packets of an access unit, unless the gate is closed to it. -/
def enqueue (server : RtpServer) (unit : VideoUnit) (number : Nat) : RtpServer :=
  if (server.awaitingKeyframe && !unit.keyframe) || kMaxQueuedPackets < unit.packets.length then
    { server with awaitingKeyframe := true, captureRequests := server.captureRequests + 1 }
  else
    { server with
      awaitingKeyframe := false
      queuedPackets := server.queuedPackets + unit.packets.length
      sendQ := server.sendQ ++
        [⟨unit.packets.map (fun bytes => ⟨bytes, server.connection⟩), unit.deadline,
          server.sendGeneration, number⟩] }

/-- A call of `broadcast_video` that began at `started`.  The clock is read
again at the head of the queue. -/
def broadcastVideo (server : RtpServer) (config : Config) (started now : Time) (data : List UInt8)
    (ptsUsec : Int64) (keyframe : Bool) : RtpServer :=
  let deadline := started + kMaxSendAge
  if !server.peerStreaming then server
  else if server.awaitingKeyframe && !keyframe then
    server.record (.broadcast ⟨data, ptsUsec, keyframe, deadline, []⟩)
  else
    let made := packetize config.h265 server.videoPacker data ptsUsec
    let packed := { server with videoPacker := made.2 }
    if made.1.isEmpty then packed
    else
      let unit : VideoUnit := ⟨data, ptsUsec, keyframe, deadline, made.1⟩
      let shed := if packed.overflows now made.1.length then packed.dropVideoQueue else packed
      (shed.record (.broadcast unit)).enqueue unit server.unitCount

/-- A call of `broadcast_audio`.  A packet that the socket does not take whole
is not recorded. -/
def broadcastAudio (server : RtpServer) (data : List UInt8) (ptsUsec : Int64) (sent : Bool) (recorded : Time) :
    RtpServer :=
  if !server.peerStreaming then server
  else
    let made := OpusRtpPacketizer.packetize server.audioPacker data ptsUsec
    made.1.foldl (fun server bytes =>
      if sent then
        { server with
          audioRetx := server.audioRetx.record recorded (seqOf bytes) ⟨bytes, server.connection⟩ }.record
            (.audio ⟨bytes, server.connection⟩ server.peerUdp)
      else server) { server with audioPacker := made.2 }

/-- What holds whatever the audio packetizer is, and is kept with each packet that
is sent, holds after the broadcast. -/
theorem broadcastAudio_keeps (property : RtpServer → Prop) (server : RtpServer) (data : List UInt8)
    (ptsUsec : Int64) (sent : Bool) (recorded : Time)
    (packed : ∀ packer, property { server with audioPacker := packer })
    (kept : server.peerStreaming = true → ∀ (current : RtpServer) (bytes : Packet), property current →
      property ({ current with
        audioRetx := current.audioRetx.record recorded (seqOf bytes) ⟨bytes, current.connection⟩ }.record
          (.audio ⟨bytes, current.connection⟩ current.peerUdp))) :
    property (server.broadcastAudio data ptsUsec sent recorded) := by
  rw [broadcastAudio]
  split
  · exact packed server.audioPacker
  rename_i streaming
  rw [Bool.not_eq_true', Bool.not_eq_false] at streaming
  have start := packed (OpusRtpPacketizer.packetize server.audioPacker data ptsUsec).2
  simp only
  generalize { server with
    audioPacker := (OpusRtpPacketizer.packetize server.audioPacker data ptsUsec).2 } = current at start ⊢
  generalize (OpusRtpPacketizer.packetize server.audioPacker data ptsUsec).1 = packets
  induction packets generalizing current with
  | nil => exact start
  | cons bytes rest inductionHypothesis =>
      rw [List.foldl_cons]
      apply inductionHypothesis
      cases sent with
      | false => exact start
      | true => exact kept streaming current bytes start

/-! ## The sender thread -/

/-- The head of the loop over the packets of a frame. -/
def continueWith (flight : Flight) : Sender :=
  if flight.next < flight.frame.packets.length then .repairing (some flight) 0 else .waiting

/-- Behind `send_repairs`. -/
def repaired : Option Flight → Sender
  | none => .popping
  | some flight => .sending flight

/-- Take the next repair from its queue, or leave `send_repairs`. -/
def takeRepair (server : RtpServer) (flight : Option Flight) (done : Nat) : RtpServer :=
  if done < kRepairsPerPacket then
    match server.repairQ with
    | [] => { server with sender := repaired flight }
    | repair :: rest => { server with repairQ := rest, sender := .holding flight done repair }
  else { server with sender := repaired flight }

/-- Send a repair that the pacer lets pass, unless it is outdated. -/
def sendRepair (server : RtpServer) (flight : Option Flight) (done : Nat) (repair : RepairPacket)
    (paced : Bool) (now : Time) (sent : Bool) : RtpServer :=
  let server := { server with sender := .repairing flight (done + 1) }
  if !paced then server
  else if !server.peerStreaming || repair.generation != server.sendGeneration || repair.deadline ≤ now then server
  else if sent then server.record (.repair repair.video repair.packet now server.peerUdp)
  else server

/-- The repair is passed over, or leaves in time. -/
theorem sendRepair_cases (server : RtpServer) (flight : Option Flight) (done : Nat) (repair : RepairPacket)
    (paced : Bool) (now : Time) (sent : Bool) :
    server.sendRepair flight done repair paced now sent = { server with sender := .repairing flight (done + 1) } ∨
    (server.peerStreaming = true ∧ repair.generation = server.sendGeneration ∧
      (paced = true ∧ now < repair.deadline ∧ sent = true) ∧
      server.sendRepair flight done repair paced now sent =
        { server with sender := .repairing flight (done + 1) }.record
          (.repair repair.video repair.packet now server.peerUdp)) := by
  rw [sendRepair]
  simp only
  split
  · exact Or.inl rfl
  rename_i passed
  split
  · exact Or.inl rfl
  rename_i current
  simp only [Bool.or_eq_true, Bool.not_eq_true', bne_iff_ne, not_or, Bool.not_eq_false, ne_eq, not_not,
    decide_eq_true_iff, Int.not_le] at passed current
  split
  · exact Or.inr ⟨current.1.1, current.1.2, ⟨passed, current.2, ‹_›⟩, rfl⟩
  · exact Or.inl rfl

/-- The difference of two values of type `size_t`. -/
def sizeSub (first second : Nat) : Nat := (first + 2 ^ 64 - second) % 2 ^ 64

def popFrame (server : RtpServer) : RtpServer :=
  match server.sendQ with
  | [] => { server with sender := .waiting }
  | frame :: rest =>
      { server with
        sendQ := rest
        queuedPackets := sizeSub server.queuedPackets frame.packets.length
        sender := continueWith ⟨frame, 0⟩ }

/-- Send the next packet of a frame.  A packet that the pacer refuses, that is
late or that the socket does not take whole ends the frame and sheds the queue. -/
def sendPacket (server : RtpServer) (flight : Flight) (packet : MediaPacket) (paced : Bool) (now : Time)
    (taken : Bool) (recorded : Time) : RtpServer :=
  if !server.peerStreaming || flight.frame.generation != server.sendGeneration then
    { server with sender := .waiting }
  else if paced && decide (now < flight.frame.deadline) && taken then
    { server with
      videoRetx := server.videoRetx.record recorded (seqOf packet.bytes) packet
      sender := continueWith { flight with next := flight.next + 1 } }.record
        (.fresh ⟨flight.frame.unit, flight.next, packet, flight.frame.deadline, now, server.peerUdp⟩)
  else { server.dropVideoQueue with sender := .requesting }

/-- The frame is outdated, or its packet leaves in time, or the frame is lost. -/
theorem sendPacket_cases (server : RtpServer) (flight : Flight) (packet : MediaPacket) (paced : Bool) (now : Time)
    (taken : Bool) (recorded : Time) :
    ((server.peerStreaming = true → flight.frame.generation ≠ server.sendGeneration) ∧
      server.sendPacket flight packet paced now taken recorded = { server with sender := .waiting }) ∨
    (server.peerStreaming = true ∧ flight.frame.generation = server.sendGeneration ∧
      ((paced = true ∧ now < flight.frame.deadline ∧ taken = true) ∧
        server.sendPacket flight packet paced now taken recorded =
          { server with
            videoRetx := server.videoRetx.record recorded (seqOf packet.bytes) packet
            sender := continueWith { flight with next := flight.next + 1 } }.record
              (.fresh ⟨flight.frame.unit, flight.next, packet, flight.frame.deadline, now, server.peerUdp⟩) ∨
      ¬ (paced = true ∧ now < flight.frame.deadline ∧ taken = true) ∧
        server.sendPacket flight packet paced now taken recorded =
          { server.dropVideoQueue with sender := .requesting })) := by
  rw [sendPacket]
  split
  · rename_i outdated
    refine Or.inl ⟨fun streaming => ?_, rfl⟩
    rw [streaming, Bool.not_true, Bool.false_or, bne_iff_ne] at outdated
    exact outdated
  rename_i current
  simp only [Bool.or_eq_true, Bool.not_eq_true', bne_iff_ne, not_or, Bool.not_eq_false, ne_eq, not_not] at current
  refine Or.inr ⟨current.1, current.2, ?_⟩
  split
  all_goals
    rename_i inTime
    simp only [Bool.and_eq_true, decide_eq_true_iff, and_assoc] at inTime
  · exact Or.inl ⟨inTime, rfl⟩
  · exact Or.inr ⟨inTime, rfl⟩

/-! ## The RTCP thread -/

/-- Feedback is only taken from the client that is being streamed to. -/
def receiveRtcp (server : RtpServer) (config : Config) (data : List UInt8) (sender : SockAddr) : RtpServer :=
  if !server.peerStreaming || sender.address != server.peerUdp.address || sender.port != server.peerUdp.port then
    server
  else { server with rtcp := handleRtcp config.videoSsrc config.audioSsrc data }

/-- Queue the repair of a packet that was sent recently and is not queued yet. -/
def retransmit (server : RtpServer) (video : Bool) (seq : UInt16) (now : Time) : RtpServer :=
  if !server.peerStreaming || kMaxQueuedRepairs ≤ server.repairQ.length then server
  else if server.repairQ.any (fun queued => queued.video == video && seqOf queued.packet.bytes == seq) then server
  else
    match (if video then server.videoRetx else server.audioRetx).get seq with
    | none => server
    | some stored =>
        if now - stored.sentAt < kMaxSendAge then
          { server with
            repairQ := server.repairQ ++
              [⟨stored.packet, min (stored.sentAt + kMaxSendAge) (now + kRepairAge), server.sendGeneration, video⟩] }
        else server

/-- Only a packet that is recent, and not queued yet, is queued. -/
theorem retransmit_cases (server : RtpServer) (video : Bool) (seq : UInt16) (now : Time) :
    server.retransmit video seq now = server ∨
    ∃ stored, server.peerStreaming = true ∧ server.repairQ.length < kMaxQueuedRepairs ∧
      (∀ queued ∈ server.repairQ, ¬ (queued.video = video ∧ seqOf queued.packet.bytes = seq)) ∧
      (if video then server.videoRetx else server.audioRetx).get seq = some stored ∧
      now - stored.sentAt < kMaxSendAge ∧
      server.retransmit video seq now =
        { server with
          repairQ := server.repairQ ++
            [⟨stored.packet, min (stored.sentAt + kMaxSendAge) (now + kRepairAge), server.sendGeneration,
              video⟩] } := by
  rw [retransmit]
  split
  · exact Or.inl rfl
  rename_i room
  simp only [Bool.or_eq_true, Bool.not_eq_true', not_or, Bool.not_eq_false, decide_eq_true_iff, Nat.not_le] at room
  split
  · exact Or.inl rfl
  rename_i new
  simp only [List.any_eq_true, Bool.and_eq_true, beq_iff_eq, not_exists, not_and] at new
  split
  · exact Or.inl rfl
  rename_i stored found
  split
  · refine Or.inr ⟨stored, room.1, room.2, ?_, found, ‹_›, rfl⟩
    exact fun queued member same => new queued member same.1 same.2
  · exact Or.inl rfl

def handleEvent (server : RtpServer) (now : Time) : RtcpEvent → RtpServer
  | .keyframeRequest => server.onKeyframeRequest
  | .retransmit video seq => server.retransmit video seq now
  | .fractionLost _ => server

/-! ## Interleavings -/

/-- A critical section of one of the threads, with what it cannot control: what
arrives, readings of the clock, whether the pacer lets a packet pass in time and
whether the socket takes it whole. -/
inductive Action where
  | accept (peer : SockAddr)
  | resetVideoQueue
  | message (message : Signal.Message)
  | hangUp
  | signalingRequest
  | setPacingBitrate (kbps : Int)
  | broadcastVideo (started now : Time) (data : List UInt8) (ptsUsec : Int64) (keyframe : Bool)
  | captureRequest
  | broadcastAudio (data : List UInt8) (ptsUsec : Int64) (sent : Bool) (recorded : Time)
  | wake
  | takeRepair
  | sendRepair (paced : Bool) (now : Time) (sent : Bool)
  | popFrame
  | sendPacket (paced : Bool) (now : Time) (taken : Bool) (recorded : Time)
  | senderRequest
  | receiveRtcp (data : List UInt8) (sender : SockAddr)
  | handleEvent (now : Time)
  deriving DecidableEq

/-- The step of the signaling thread behind `reset_video_queue`. -/
def afterReset (server : RtpServer) (config : Config) : Option RtpServer :=
  match server.signaling with
  | .connecting peer => some ({ server.resetVideoQueue with signaling := .serving peer }.sendHello config)
  | .leaving peer true => some { server.resetVideoQueue with signaling := .departing peer }
  | .leaving _ false => some { server.resetVideoQueue with signaling := .listening }
  | _ => none

def step (config : Config) (server : RtpServer) : Action → Option RtpServer
  | .accept peer =>
      match server.signaling with
      | .listening => some ({ server with signaling := .connecting peer }.connect peer)
      | _ => none
  | .resetVideoQueue => server.afterReset config
  | .message message =>
      match server.signaling with
      | .serving peer => some (server.onMessage config peer message)
      | _ => none
  | .hangUp =>
      match server.signaling with
      | .serving peer => some ({ server with signaling := .leaving peer false }.disconnect config)
      | .departing peer => some ({ server with signaling := .leaving peer false }.disconnect config)
      | _ => none
  | .signalingRequest =>
      match server.signaling with
      | .requesting peer => some { server with signaling := .serving peer }.onKeyframeRequest
      | _ => none
  | .setPacingBitrate kbps => some (server.setPacingBitrate config kbps)
  | .broadcastVideo started now data ptsUsec keyframe =>
      some (server.broadcastVideo config started now data ptsUsec keyframe)
  | .captureRequest =>
      if server.captureRequests = 0 then none
      else some { server with captureRequests := server.captureRequests - 1 }.onKeyframeRequest
  | .broadcastAudio data ptsUsec sent recorded => some (server.broadcastAudio data ptsUsec sent recorded)
  | .wake =>
      match server.sender with
      | .waiting =>
          if server.sendQ.isEmpty && server.repairQ.isEmpty then none
          else some { server with sender := .repairing none 0 }
      | _ => none
  | .takeRepair =>
      match server.sender with
      | .repairing flight done => some (server.takeRepair flight done)
      | _ => none
  | .sendRepair paced now sent =>
      match server.sender with
      | .holding flight done repair => some (server.sendRepair flight done repair paced now sent)
      | _ => none
  | .popFrame =>
      match server.sender with
      | .popping => some server.popFrame
      | _ => none
  | .sendPacket paced now taken recorded =>
      match server.sender with
      | .sending flight =>
          flight.frame.packets[flight.next]?.map (fun packet =>
            server.sendPacket flight packet paced now taken recorded)
      | _ => none
  | .senderRequest =>
      match server.sender with
      | .requesting => some { server with sender := .waiting }.onKeyframeRequest
      | _ => none
  | .receiveRtcp data sender =>
      match server.rtcp with
      | [] => some (server.receiveRtcp config data sender)
      | _ => none
  | .handleEvent now =>
      match server.rtcp with
      | [] => none
      | event :: rest => some ({ server with rtcp := rest }.handleEvent now event)

/-- What each action does, and where its thread has to be for it. -/
inductive Stepped (config : Config) (server : RtpServer) : Action → RtpServer → Prop where
  | accept (peer : SockAddr) (position : server.signaling = .listening) :
      Stepped config server (.accept peer) ({ server with signaling := .connecting peer }.connect peer)
  | resetVideoQueue {next : RtpServer} (reset : server.afterReset config = some next) :
      Stepped config server .resetVideoQueue next
  | message {peer : SockAddr} (message : Signal.Message) (position : server.signaling = .serving peer) :
      Stepped config server (.message message) (server.onMessage config peer message)
  | hangUp {peer : SockAddr} (position : server.signaling = .serving peer ∨ server.signaling = .departing peer) :
      Stepped config server .hangUp ({ server with signaling := .leaving peer false }.disconnect config)
  | signalingRequest {peer : SockAddr} (position : server.signaling = .requesting peer) :
      Stepped config server .signalingRequest { server with signaling := .serving peer }.onKeyframeRequest
  | setPacingBitrate (kbps : Int) :
      Stepped config server (.setPacingBitrate kbps) (server.setPacingBitrate config kbps)
  | broadcastVideo (started now : Time) (data : List UInt8) (ptsUsec : Int64) (keyframe : Bool) :
      Stepped config server (.broadcastVideo started now data ptsUsec keyframe)
        (server.broadcastVideo config started now data ptsUsec keyframe)
  | captureRequest (owed : server.captureRequests ≠ 0) :
      Stepped config server .captureRequest
        { server with captureRequests := server.captureRequests - 1 }.onKeyframeRequest
  | broadcastAudio (data : List UInt8) (ptsUsec : Int64) (sent : Bool) (recorded : Time) :
      Stepped config server (.broadcastAudio data ptsUsec sent recorded)
        (server.broadcastAudio data ptsUsec sent recorded)
  | wake (position : server.sender = .waiting) (work : ¬ (server.sendQ.isEmpty && server.repairQ.isEmpty) = true) :
      Stepped config server .wake { server with sender := .repairing none 0 }
  | takeRepair {flight : Option Flight} {done : Nat} (position : server.sender = .repairing flight done) :
      Stepped config server .takeRepair (server.takeRepair flight done)
  | sendRepair {flight : Option Flight} {done : Nat} {repair : RepairPacket} (paced : Bool) (now : Time) (sent : Bool)
      (position : server.sender = .holding flight done repair) :
      Stepped config server (.sendRepair paced now sent) (server.sendRepair flight done repair paced now sent)
  | popFrame (position : server.sender = .popping) : Stepped config server .popFrame server.popFrame
  | sendPacket {flight : Flight} {packet : MediaPacket} (paced : Bool) (now : Time) (taken : Bool) (recorded : Time)
      (position : server.sender = .sending flight) (found : flight.frame.packets[flight.next]? = some packet) :
      Stepped config server (.sendPacket paced now taken recorded)
        (server.sendPacket flight packet paced now taken recorded)
  | senderRequest (position : server.sender = .requesting) :
      Stepped config server .senderRequest { server with sender := .waiting }.onKeyframeRequest
  | receiveRtcp (data : List UInt8) (sender : SockAddr) (empty : server.rtcp = []) :
      Stepped config server (.receiveRtcp data sender) (server.receiveRtcp config data sender)
  | handleEvent {event : RtcpEvent} {rest : List RtcpEvent} (now : Time) (contents : server.rtcp = event :: rest) :
      Stepped config server (.handleEvent now) ({ server with rtcp := rest }.handleEvent now event)

theorem stepped_of_step {config : Config} {server next : RtpServer} {action : Action}
    (stepped : step config server action = some next) : Stepped config server action next := by
  cases action <;> simp only [step] at stepped
  case accept peer =>
    split at stepped <;> cases stepped
    exact .accept peer ‹_›
  case resetVideoQueue => exact .resetVideoQueue stepped
  case message message =>
    split at stepped <;> cases stepped
    exact .message message ‹_›
  case hangUp =>
    split at stepped <;> cases stepped
    · exact .hangUp (Or.inl ‹_›)
    · exact .hangUp (Or.inr ‹_›)
  case signalingRequest =>
    split at stepped <;> cases stepped
    exact .signalingRequest ‹_›
  case setPacingBitrate kbps =>
    cases stepped
    exact .setPacingBitrate kbps
  case broadcastVideo started now data ptsUsec keyframe =>
    cases stepped
    exact .broadcastVideo started now data ptsUsec keyframe
  case captureRequest =>
    split at stepped <;> cases stepped
    exact .captureRequest ‹_›
  case broadcastAudio data ptsUsec sent recorded =>
    cases stepped
    exact .broadcastAudio data ptsUsec sent recorded
  case wake =>
    split at stepped
    · split at stepped <;> cases stepped
      exact .wake ‹_› ‹_›
    · cases stepped
  case takeRepair =>
    split at stepped <;> cases stepped
    exact .takeRepair ‹_›
  case sendRepair paced now sent =>
    split at stepped <;> cases stepped
    exact .sendRepair paced now sent ‹_›
  case popFrame =>
    split at stepped <;> cases stepped
    exact .popFrame ‹_›
  case sendPacket paced now taken recorded =>
    split at stepped
    · obtain ⟨packet, found, rfl⟩ := Option.map_eq_some_iff.mp stepped
      exact .sendPacket paced now taken recorded ‹_› found
    · cases stepped
  case senderRequest =>
    split at stepped <;> cases stepped
    exact .senderRequest ‹_›
  case receiveRtcp data sender =>
    split at stepped <;> cases stepped
    exact .receiveRtcp data sender ‹_›
  case handleEvent now =>
    split at stepped <;> cases stepped
    exact .handleEvent now ‹_›

/-- A run of the server: any interleaving of its threads. -/
def run (config : Config) (actions : List Action) : Option RtpServer :=
  Transitions.run (step config) (start config) actions

end RtpServer
end MetaShare
