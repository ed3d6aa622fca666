import MetaShare.Server.Wire

namespace MetaShare
namespace RtpServer

open Rtp Transitions DependencyChain

/-!
# The path of the packets to the socket

Most steps of the server have nothing to do with its queues, and the others
change them in a few ways only.  The relation below lists these ways, with what
is known when each of them happens, and every step of the server is one of
them.  Invariants of the queues are proved over the relation.
-/

/-- The queues and the retransmit buffers, and the requests for a keyframe that
the threads still have to make. -/
structure SendPath where
  streaming : Bool
  awaiting : Bool
  sendQ : List VideoFrame
  repairQ : List RepairPacket
  queuedPackets : Nat
  generation : Nat
  retx : RetransmitBuffer MediaPacket
  audioRetx : RetransmitBuffer MediaPacket
  packer : PacketizerBase
  flight : Option Flight
  captureRequests : Nat
  senderRequest : Bool
  readyRequest : Bool

def Sender.asks : Sender → Bool
  | .requesting => true
  | _ => false

def Signaling.asks : Signaling → Bool
  | .requesting _ => true
  | _ => false

def sendPath (server : RtpServer) : SendPath where
  streaming := server.peerStreaming
  awaiting := server.awaitingKeyframe
  sendQ := server.sendQ
  repairQ := server.repairQ
  queuedPackets := server.queuedPackets
  generation := server.sendGeneration
  retx := server.videoRetx
  audioRetx := server.audioRetx
  packer := server.videoPacker
  flight := server.sender.flight
  captureRequests := server.captureRequests
  senderRequest := server.sender.asks
  readyRequest := server.signaling.asks

namespace SendPath

/-- The queue is shed and the gate closed. -/
def drop (path : SendPath) : SendPath :=
  { path with
    sendQ := []
    repairQ := []
    queuedPackets := 0
    generation := path.generation + 1
    retx := path.retx.clear
    awaiting := true }

def dropIf (shed : Bool) (path : SendPath) : SendPath := if shed then path.drop else path

/-- The frame in which an access unit is queued. -/
def frame (path : SendPath) (packets : List Packet) (deadline : Time) (connection unit : Nat) : VideoFrame :=
  ⟨packets.map (fun bytes => ⟨bytes, connection⟩), deadline, path.generation, unit⟩

/-- The path after a step in which a fresh packet may be sent. -/
inductive Step (h265 : Bool) : Action → SendPath → Option FreshPacket → SendPath → Prop where
  | quiet (action : Action) (path : SendPath) : Step h265 action path none path
  | stop (action : Action) (path : SendPath) :
      Step h265 action path none { path with streaming := false, readyRequest := false }
  | reset (path : SendPath) (stopped : path.streaming = false) :
      Step h265 .resetVideoQueue path none { path.drop with audioRetx := path.audioRetx.clear }
  | ready (message : Signal.Message) (path : SendPath)
      (empty : path.streaming = false → path.sendQ = [] ∧ path.awaiting = true ∧
        ∀ flight, path.flight = some flight → flight.frame.generation ≠ path.generation) :
      Step h265 (.message message) path none { path with streaming := true, readyRequest := true }
  | answerReady (path : SendPath) (owed : path.readyRequest = true) :
      Step h265 .signalingRequest path none { path with readyRequest := false }
  | answerCapture (path : SendPath) (owed : 0 < path.captureRequests) :
      Step h265 .captureRequest path none { path with captureRequests := path.captureRequests - 1 }
  | answerSender (path : SendPath) (owed : path.senderRequest = true) :
      Step h265 .senderRequest path none { path with senderRequest := false }
  | pack (path : SendPath) (started now : Time) (data : List UInt8) (ptsUsec : Int64) (keyframe : Bool)
      (streaming : path.streaming = true) (made : List Packet × PacketizerBase)
      (isMade : packetize h265 path.packer data ptsUsec = made) (nothing : made.1 = []) :
      Step h265 (.broadcastVideo started now data ptsUsec keyframe) path none { path with packer := made.2 }
  | refuse (path : SendPath) (started now : Time) (data : List UInt8) (ptsUsec : Int64) (keyframe : Bool)
      (streaming : path.streaming = true) (made : List Packet × PacketizerBase)
      (isMade : packetize h265 path.packer data ptsUsec = made) (shed : Bool)
      (shut : (path.dropIf shed).awaiting = true) (passed : path.awaiting = true → keyframe = true) :
      Step h265 (.broadcastVideo started now data ptsUsec keyframe) path none
        { path.dropIf shed with
          packer := made.2
          captureRequests := (path.dropIf shed).captureRequests + 1 }
  | enter (path : SendPath) (started now : Time) (data : List UInt8) (ptsUsec : Int64) (keyframe : Bool)
      (streaming : path.streaming = true) (made : List Packet × PacketizerBase)
      (isMade : packetize h265 path.packer data ptsUsec = made) (filled : made.1 ≠ []) (shed : Bool)
      (passes : (path.dropIf shed).awaiting = true → keyframe = true)
      (room : (path.dropIf shed).queuedPackets + made.1.length ≤ kMaxQueuedPackets) (connection unit : Nat) :
      Step h265 (.broadcastVideo started now data ptsUsec keyframe) path none
        { path.dropIf shed with
          packer := made.2
          awaiting := false
          queuedPackets := (path.dropIf shed).queuedPackets + made.1.length
          sendQ := (path.dropIf shed).sendQ ++
            [(path.dropIf shed).frame made.1 (started + kMaxSendAge) connection unit] }
  | recordAudio (path : SendPath) (data : List UInt8) (ptsUsec : Int64) (sent : Bool) (recorded : Time)
      (packets : List Packet) (connection : Nat) :
      Step h265 (.broadcastAudio data ptsUsec sent recorded) path none
        { path with
          audioRetx := packets.foldl (fun retx bytes => retx.record recorded (seqOf bytes) ⟨bytes, connection⟩)
            path.audioRetx }
  | takeRepair (path : SendPath) (repair : RepairPacket) (rest : List RepairPacket)
      (first : path.repairQ = repair :: rest) : Step h265 .takeRepair path none { path with repairQ := rest }
  | queueRepair (path : SendPath) (now : Time) (video : Bool) (seq : UInt16) (stored : SentPacket MediaPacket)
      (room : path.repairQ.length < kMaxQueuedRepairs)
      (new : ∀ queued ∈ path.repairQ, ¬ (queued.video = video ∧ seqOf queued.packet.bytes = seq))
      (found : (if video then path.retx else path.audioRetx).get seq = some stored) (deadline : Time) :
      Step h265 (.handleEvent now) path none
        { path with repairQ := path.repairQ ++ [⟨stored.packet, deadline, path.generation, video⟩] }
  | popFrame (path : SendPath) (frame : VideoFrame) (rest : List VideoFrame) (first : path.sendQ = frame :: rest)
      (idle : path.flight = none) :
      Step h265 .popFrame path none
        { path with
          sendQ := rest
          queuedPackets := sizeSub path.queuedPackets frame.packets.length
          flight := (continueWith ⟨frame, 0⟩).flight }
  | cancel (action : Action) (path : SendPath) (flight : Flight) (held : path.flight = some flight)
      (outdated : path.streaming = true → flight.frame.generation ≠ path.generation) :
      Step h265 action path none { path with flight := none }
  | send (path : SendPath) (flight : Flight) (held : path.flight = some flight) (packet : MediaPacket)
      (next : flight.frame.packets[flight.next]? = some packet) (streaming : path.streaming = true)
      (current : flight.frame.generation = path.generation) (now recorded : Time) (destination : SockAddr) :
      Step h265 (.sendPacket true now true recorded) path
        (some ⟨flight.frame.unit, flight.next, packet, flight.frame.deadline, now, destination⟩)
        { path with
          retx := path.retx.record recorded (seqOf packet.bytes) packet
          flight := (continueWith { flight with next := flight.next + 1 }).flight }
  | lose (path : SendPath) (flight : Flight) (held : path.flight = some flight) (streaming : path.streaming = true)
      (current : flight.frame.generation = path.generation) (paced : Bool) (now : Time) (taken : Bool)
      (recorded : Time) :
      Step h265 (.sendPacket paced now taken recorded) path none
        { path.drop with flight := none, senderRequest := true }

theorem Step.of_eq {h265 : Bool} {action : Action} {path next other : SendPath} {sent : Option FreshPacket}
    (step : Step h265 action path sent next) (same : other = next) : Step h265 action path sent other :=
  same ▸ step

/-- Only the frame in the sender's hands is sent from, and only while it is current. -/
theorem Step.of_sent {h265 : Bool} {action : Action} {path next : SendPath} {sent : FreshPacket}
    (step : Step h265 action path (some sent) next) :
    ∃ flight, path.flight = some flight ∧ path.streaming = true ∧ flight.frame.generation = path.generation ∧
      flight.frame.packets[flight.next]? = some sent.packet ∧ sent.unit = flight.frame.unit ∧
      sent.index = flight.next := by
  cases step with
  | send _ flight held packet found streaming current now recorded destination =>
      exact ⟨flight, held, streaming, current, found, rfl, rfl⟩

end SendPath

/-! ## Every step of the server -/

/-- A step of the path, and the packet it sends is the one in the log. -/
def Moves (config : Config) (action : Action) (server next : RtpServer) : Prop :=
  ∃ sent, SendPath.Step config.h265 action server.sendPath sent next.sendPath ∧
    next.log.filterMap Event.freshPacket = server.log.filterMap Event.freshPacket ++ sent.toList

variable {config : Config} {server next : RtpServer}

/-- Events that are not about a fresh packet. -/
theorem fresh_record (server : RtpServer) {event : Event} (noPacket : event.freshPacket = none) :
    (server.record event).log.filterMap Event.freshPacket = server.log.filterMap Event.freshPacket := by
  rw [record, List.filterMap_append, List.filterMap_cons_none noPacket]
  exact List.append_nil _

theorem fresh_setStreamRate (server : RtpServer) (config : Config) (kbps : Int) :
    (server.setStreamRate config kbps).log.filterMap Event.freshPacket =
      server.log.filterMap Event.freshPacket := by
  rw [setStreamRate]
  split
  · exact fresh_record server rfl
  · rfl

@[simp] theorem sendPath_record (server : RtpServer) (event : Event) :
    (server.record event).sendPath = server.sendPath := rfl

@[simp] theorem sendPath_setStreamRate (server : RtpServer) (config : Config) (kbps : Int) :
    (server.setStreamRate config kbps).sendPath = server.sendPath := by
  rw [setStreamRate]
  split <;> rfl

/-- A step that leaves the path as it is. -/
theorem moves_quiet (action : Action) (path : next.sendPath = server.sendPath)
    (log : next.log.filterMap Event.freshPacket = server.log.filterMap Event.freshPacket) :
    Moves config action server next := by
  refine ⟨none, ?_, ?_⟩
  · rw [path]
    exact .quiet action _
  · rw [log]
    exact (List.append_nil _).symm

/-- Streaming ends. -/
theorem moves_stop (action : Action) (config' : Config) (signaling : Signaling)
    (quiet : signaling.asks = false) :
    Moves config action server ({ server with signaling := signaling }.disconnect config') := by
  refine ⟨none, ?_, ?_⟩
  · have path : ({ server with signaling := signaling }.disconnect config').sendPath =
        { server.sendPath with streaming := false, readyRequest := false } := by
      rw [disconnect, sendPath_record, sendPath_setStreamRate, ← quiet]
      rfl
    rw [path]
    exact .stop action _
  · rw [disconnect, fresh_record _ rfl, fresh_setStreamRate]
    exact (List.append_nil _).symm

theorem moves_afterReset (belongs : server.Belongs) (reset : server.afterReset config = some next) :
    Moves config .resetVideoQueue server next := by
  have shape : ∀ signaling : Signaling, server.signaling.served = none → signaling.asks = server.signaling.asks →
      SendPath.Step config.h265 .resetVideoQueue server.sendPath none
        { server.resetVideoQueue with signaling := signaling }.sendPath := by
    intro signaling unserved same
    have stopped : server.peerStreaming = false := by
      rw [Bool.eq_false_iff]
      intro streaming
      have served := belongs.served streaming
      rw [unserved] at served
      cases served
    have path : { server.resetVideoQueue with signaling := signaling }.sendPath =
        { server.sendPath.drop with audioRetx := server.sendPath.audioRetx.clear } := by
      rw [sendPath, same]
      rfl
    rw [path]
    exact .reset _ stopped
  rw [afterReset] at reset
  split at reset <;> try cases reset
  all_goals rename_i position
  · refine ⟨none, ?_, ?_⟩
    · exact shape _ (by rw [position]; rfl) (by rw [position]; rfl)
    · rw [sendHello, fresh_record _ rfl]
      exact (List.append_nil _).symm
  · exact ⟨none, shape _ (by rw [position]; rfl) (by rw [position]; rfl), (List.append_nil _).symm⟩
  · exact ⟨none, shape _ (by rw [position]; rfl) (by rw [position]; rfl), (List.append_nil _).symm⟩

theorem moves_onReady (lined : server.Lined) {peer : SockAddr} (position : server.signaling = .serving peer)
    (message : Signal.Message) (body : List UInt8) :
    Moves config (.message message) server (server.onReady config peer body) := by
  rw [onReady]
  split
  · exact moves_quiet _ rfl rfl
  rename_i port parsed
  simp only
  split
  · exact moves_quiet _ rfl rfl
  refine ⟨none, ?_, ?_⟩
  · rw [sendPath_record, sendPath_setStreamRate]
    refine .ready message server.sendPath (fun stopped => ?_)
    exact lined.idle (by rw [position]; rfl) stopped
  · rw [fresh_record _ rfl, fresh_setStreamRate]
    exact (List.append_nil _).symm

theorem moves_onMessage (lined : server.Lined) {peer : SockAddr} (position : server.signaling = .serving peer)
    (message : Signal.Message) :
    Moves config (.message message) server (server.onMessage config peer message) := by
  cases kind : message.type <;> simp only [onMessage, kind]
  case ready => exact moves_onReady lined position message message.body
  case bye => exact moves_stop _ config _ rfl
  all_goals exact moves_quiet _ rfl rfl

theorem moves_broadcastVideo (started now : Time) (data : List UInt8) (ptsUsec : Int64) (keyframe : Bool) :
    Moves config (.broadcastVideo started now data ptsUsec keyframe) server
      (server.broadcastVideo config started now data ptsUsec keyframe) := by
  rw [broadcastVideo]
  simp only
  split
  · exact moves_quiet _ rfl rfl
  rename_i streaming
  rw [Bool.not_eq_true', Bool.not_eq_false] at streaming
  split
  · exact moves_quiet _ (sendPath_record _ _) (fresh_record _ rfl)
  rename_i passed
  rw [Bool.and_eq_true, Bool.not_eq_true', not_and, Bool.not_eq_false] at passed
  generalize isMade : packetize config.h265 server.videoPacker data ptsUsec = made
  split
  · rename_i nothing
    refine ⟨none, ?_, (List.append_nil _).symm⟩
    exact .pack _ started now data ptsUsec keyframe streaming made isMade (List.isEmpty_iff.mp nothing)
  rename_i nonempty
  have filled : made.1 ≠ [] := fun empty => nonempty (List.isEmpty_iff.mpr empty)
  generalize isShed : RtpServer.overflows { server with videoPacker := made.2 } now made.1.length = shed
  generalize isCurrent : (if shed then { server with videoPacker := made.2 }.dropVideoQueue
    else { server with videoPacker := made.2 }) = current
  have path : current.sendPath = { server.sendPath.dropIf shed with packer := made.2 } := by
    rw [← isCurrent]
    cases shed <;> rfl
  have log : current.log = server.log := by
    rw [← isCurrent]
    cases shed <;> rfl
  have fits : shed = false → server.queuedPackets + made.1.length ≤ kMaxQueuedPackets := by
    intro kept
    rw [kept, overflows, Bool.or_eq_false_iff, decide_eq_false_iff_not] at isShed
    exact Nat.le_of_not_lt isShed.2
  have gate : current.awaitingKeyframe = (server.sendPath.dropIf shed).awaiting :=
    congrArg SendPath.awaiting path
  clear isCurrent
  refine ⟨none, ?_, ?_⟩
  · rw [enqueue]
    split
    · rename_i turnedAway
      have shut : (server.sendPath.dropIf shed).awaiting = true := by
        rcases Bool.or_eq_true _ _ ▸ turnedAway with closed | large
        · exact gate.symm.trans (Bool.and_eq_true_iff.mp closed).1
        · -- An access unit that is too large sheds the queue.
          cases shed with
          | true => rfl
          | false =>
              have small := fits rfl
              have isLarge : kMaxQueuedPackets < made.1.length := of_decide_eq_true large
              omega
      have same : { current.sendPath with
          awaiting := true
          captureRequests := current.sendPath.captureRequests + 1 } =
          { server.sendPath.dropIf shed with
            packer := made.2
            captureRequests := (server.sendPath.dropIf shed).captureRequests + 1 } := by
        rw [path]
        generalize server.sendPath.dropIf shed = shedPath at shut
        obtain ⟨_, awaiting, _, _, _, _, _, _, _, _, _, _, _⟩ := shedPath
        cases (show awaiting = true from shut)
        rfl
      have refused := SendPath.Step.refuse server.sendPath started now data ptsUsec keyframe streaming made isMade
        shed shut passed
      rw [← same] at refused
      exact refused
    · rename_i admitted
      simp only [Bool.or_eq_true, Bool.and_eq_true, Bool.not_eq_true', not_or, not_and, Bool.not_eq_false,
        decide_eq_true_iff, Nat.not_lt] at admitted
      have passes : (server.sendPath.dropIf shed).awaiting = true → keyframe = true :=
        fun closed => admitted.1 (gate.trans closed)
      have room : (server.sendPath.dropIf shed).queuedPackets + made.1.length ≤ kMaxQueuedPackets := by
        cases shed with
        | true => exact (Nat.zero_add _).trans_le admitted.2
        | false => exact fits rfl
      have same : { current.sendPath with
          awaiting := false
          queuedPackets := current.sendPath.queuedPackets + made.1.length
          sendQ := current.sendPath.sendQ ++
            [current.sendPath.frame made.1 (started + kMaxSendAge) current.connection server.unitCount] } =
          { server.sendPath.dropIf shed with
            packer := made.2
            awaiting := false
            queuedPackets := (server.sendPath.dropIf shed).queuedPackets + made.1.length
            sendQ := (server.sendPath.dropIf shed).sendQ ++
              [(server.sendPath.dropIf shed).frame made.1 (started + kMaxSendAge) current.connection
                server.unitCount] } := by
        rw [path]
        rfl
      have joined := SendPath.Step.enter server.sendPath started now data ptsUsec keyframe streaming made isMade
        filled shed passes room current.connection server.unitCount
      rw [← same] at joined
      exact joined
  · rw [enqueue_log, fresh_record _ rfl, log]
    exact (List.append_nil _).symm

theorem moves_broadcastAudio (data : List UInt8) (ptsUsec : Int64) (sent : Bool) (recorded : Time) :
    Moves config (.broadcastAudio data ptsUsec sent recorded) server
      (server.broadcastAudio data ptsUsec sent recorded) := by
  rw [broadcastAudio]
  split
  · exact moves_quiet _ rfl rfl
  simp only
  generalize isPacked : { server with
    audioPacker := (OpusRtpPacketizer.packetize server.audioPacker data ptsUsec).2 } = packed
  have path : packed.sendPath = server.sendPath := by
    rw [← isPacked]
    rfl
  have log : packed.log = server.log := by
    rw [← isPacked]
  have number : packed.connection = server.connection := by
    rw [← isPacked]
  clear isPacked
  generalize (OpusRtpPacketizer.packetize server.audioPacker data ptsUsec).1 = packets
  cases sent with
  | false =>
      have same : packets.foldl (fun (current : RtpServer) bytes => if false = true then
          { current with
            audioRetx := current.audioRetx.record recorded (seqOf bytes) ⟨bytes, current.connection⟩ }.record
              (.audio ⟨bytes, current.connection⟩ current.peerUdp)
          else current) packed = packed := by
        induction packets with
        | nil => rfl
        | cons bytes rest inductionHypothesis => exact inductionHypothesis
      rw [same]
      exact moves_quiet _ path (congrArg (List.filterMap Event.freshPacket) log)
  | true =>
      refine ⟨none, SendPath.Step.of_eq (.recordAudio _ data ptsUsec true recorded packets server.connection) ?_, ?_⟩
      · rw [← path, ← number]
        clear path log number
        induction packets generalizing packed with
        | nil => rfl
        | cons bytes rest inductionHypothesis =>
            rw [List.foldl_cons, List.foldl_cons]
            exact inductionHypothesis _
      · rw [Option.toList_none, List.append_nil, ← log]
        clear path log number
        induction packets generalizing packed with
        | nil => rfl
        | cons bytes rest inductionHypothesis =>
            rw [List.foldl_cons]
            exact (inductionHypothesis _).trans (fresh_record _ rfl)

theorem moves_takeRepair {flight : Option Flight} {done : Nat} (position : server.sender = .repairing flight done) :
    Moves config .takeRepair server (server.takeRepair flight done) := by
  have left : { server with sender := repaired flight }.sendPath = server.sendPath := by
    have asks : (repaired flight).asks = server.sender.asks := by
      rw [position]
      cases flight <;> rfl
    have held : (repaired flight).flight = server.sender.flight := by
      rw [position, flight_repaired]
      rfl
    rw [sendPath, sendPath, asks, held]
  rw [takeRepair]
  split
  · split
    · exact moves_quiet _ left rfl
    · rename_i repair rest contents
      refine ⟨none, ?_, (List.append_nil _).symm⟩
      have path : { server with repairQ := rest, sender := .holding flight done repair }.sendPath =
          { server.sendPath with repairQ := rest } := by
        rw [sendPath, sendPath, position]
        rfl
      rw [path]
      exact .takeRepair _ repair rest contents
  · exact moves_quiet _ left rfl

theorem moves_sendRepair {flight : Option Flight} {done : Nat} {repair : RepairPacket}
    (position : server.sender = .holding flight done repair) (paced : Bool) (now : Time) (sent : Bool) :
    Moves config (.sendRepair paced now sent) server (server.sendRepair flight done repair paced now sent) := by
  have left : { server with sender := .repairing flight (done + 1) }.sendPath = server.sendPath := by
    rw [sendPath, sendPath, position]
    rfl
  rcases server.sendRepair_cases flight done repair paced now sent with passed | ⟨_, _, _, gone⟩
  · rw [passed]
    exact moves_quiet _ left rfl
  · rw [gone]
    exact moves_quiet _ left (fresh_record _ rfl)

theorem asks_continueWith (flight : Flight) : (continueWith flight).asks = false := by
  rw [continueWith]
  split <;> rfl

theorem moves_popFrame (position : server.sender = .popping) :
    Moves config .popFrame server server.popFrame := by
  rw [popFrame]
  split
  · refine moves_quiet _ ?_ rfl
    rw [sendPath, sendPath, position]
    rfl
  · rename_i frame rest contents
    refine ⟨none, ?_, (List.append_nil _).symm⟩
    have path : { server with
        sendQ := rest
        queuedPackets := sizeSub server.queuedPackets frame.packets.length
        sender := continueWith ⟨frame, 0⟩ }.sendPath =
        { server.sendPath with
          sendQ := rest
          queuedPackets := sizeSub server.queuedPackets frame.packets.length
          flight := (continueWith ⟨frame, 0⟩).flight } := by
      rw [sendPath, sendPath, position, asks_continueWith]
      rfl
    rw [path]
    refine .popFrame _ frame rest contents ?_
    rw [sendPath, position]
    rfl

theorem moves_sendPacket {flight : Flight} (position : server.sender = .sending flight) {packet : MediaPacket}
    (found : flight.frame.packets[flight.next]? = some packet) (paced : Bool) (now : Time) (taken : Bool)
    (recorded : Time) :
    Moves config (.sendPacket paced now taken recorded) server
      (server.sendPacket flight packet paced now taken recorded) := by
  have held : server.sendPath.flight = some flight := by
    rw [sendPath, position]
    rfl
  rcases server.sendPacket_cases flight packet paced now taken recorded with
    ⟨outdated, isNext⟩ | ⟨streaming, current, ⟨inTime, isNext⟩ | ⟨_, isNext⟩⟩
  all_goals rw [isNext]
  · refine ⟨none, ?_, (List.append_nil _).symm⟩
    have path : { server with sender := .waiting }.sendPath = { server.sendPath with flight := none } := by
      rw [sendPath, sendPath, position]
      rfl
    rw [path]
    exact .cancel _ _ flight held outdated
  · rw [inTime.1, inTime.2.2]
    refine ⟨some ⟨flight.frame.unit, flight.next, packet, flight.frame.deadline, now, server.peerUdp⟩, ?_, ?_⟩
    rotate_left
    · rw [record, List.filterMap_append]
      rfl
    have path : ({ server with
        videoRetx := server.videoRetx.record recorded (seqOf packet.bytes) packet
        sender := continueWith { flight with next := flight.next + 1 } } : RtpServer).sendPath =
        { server.sendPath with
          retx := server.sendPath.retx.record recorded (seqOf packet.bytes) packet
          flight := (continueWith { flight with next := flight.next + 1 }).flight } := by
      rw [sendPath, sendPath, position, asks_continueWith]
      rfl
    rw [sendPath_record, path]
    exact .send _ flight held packet found streaming current now recorded _
  · refine ⟨none, ?_, (List.append_nil _).symm⟩
    exact .lose server.sendPath flight held streaming current paced now taken recorded

theorem moves_handleEvent (now : Time) {event : RtcpEvent} {rest : List RtcpEvent} :
    Moves config (.handleEvent now) server ({ server with rtcp := rest }.handleEvent now event) := by
  cases event with
  | keyframeRequest => exact moves_quiet _ rfl (fresh_record _ rfl)
  | fractionLost octet => exact moves_quiet _ rfl rfl
  | retransmit video seq =>
      rw [handleEvent]
      rcases retransmit_cases { server with rtcp := rest } video seq now with
        same | ⟨stored, _, room, new, found, _, queued⟩
      · rw [same]
        exact moves_quiet _ rfl rfl
      · rw [queued]
        refine ⟨none, ?_, (List.append_nil _).symm⟩
        exact SendPath.Step.queueRepair server.sendPath now video seq stored room new found _

theorem moves_of_step (lined : server.Lined) (belongs : server.Belongs) {action : Action}
    (stepped : step config server action = some next) : Moves config action server next := by
  cases stepped_of_step stepped with
  | accept peer =>
      refine ⟨none, ?_, ?_⟩
      · have path : ({ server with signaling := .connecting peer }.connect peer).sendPath =
            { server.sendPath with streaming := false, readyRequest := false } := rfl
        rw [path]
        exact .stop _ _
      · rw [connect, fresh_record _ rfl]
        exact (List.append_nil _).symm
  | resetVideoQueue reset => exact moves_afterReset belongs reset
  | message message position => exact moves_onMessage lined position message
  | hangUp => exact moves_stop _ config _ rfl
  | @signalingRequest peer position =>
      refine ⟨none, ?_, ?_⟩
      · have path : ({ server with signaling := .serving peer }.onKeyframeRequest).sendPath =
            { server.sendPath with readyRequest := false } := rfl
        rw [path]
        refine .answerReady _ ?_
        rw [sendPath, position]
        rfl
      · rw [onKeyframeRequest, fresh_record _ rfl]
        exact (List.append_nil _).symm
  | setPacingBitrate =>
      rw [setPacingBitrate]
      split
      · exact moves_quiet _ rfl rfl
      · exact moves_quiet _ (sendPath_setStreamRate _ _ _) (fresh_setStreamRate _ _ _)
  | broadcastVideo started now data ptsUsec keyframe =>
      exact moves_broadcastVideo started now data ptsUsec keyframe
  | captureRequest owed =>
      refine ⟨none, ?_, ?_⟩
      · exact .answerCapture server.sendPath (Nat.pos_of_ne_zero owed)
      · rw [onKeyframeRequest, fresh_record _ rfl]
        exact (List.append_nil _).symm
  | broadcastAudio data ptsUsec sent recorded => exact moves_broadcastAudio data ptsUsec sent recorded
  | wake position =>
      refine moves_quiet _ ?_ rfl
      rw [sendPath, sendPath, position]
      rfl
  | takeRepair position => exact moves_takeRepair position
  | sendRepair paced now sent position => exact moves_sendRepair position paced now sent
  | popFrame position => exact moves_popFrame position
  | sendPacket paced now taken recorded position found =>
      exact moves_sendPacket position found paced now taken recorded
  | senderRequest position =>
      refine ⟨none, ?_, ?_⟩
      · have path : ({ server with sender := .waiting }.onKeyframeRequest).sendPath =
            { server.sendPath with senderRequest := false } := by
          rw [sendPath, sendPath, position]
          rfl
        rw [path]
        refine .answerSender _ ?_
        rw [sendPath, position]
        rfl
      · rw [onKeyframeRequest, fresh_record _ rfl]
        exact (List.append_nil _).symm
  | receiveRtcp =>
      rw [receiveRtcp]
      split <;> exact moves_quiet _ rfl rfl
  | handleEvent now => exact moves_handleEvent now

end RtpServer
end MetaShare
