import MetaShare.Server.State

namespace MetaShare
namespace RtpServer

open Rtp Transitions

/-!
# Nothing leaks across sessions

The address, the queues and the retransmit buffers are reset in separate
critical sections, while the sender may hold a frame or a repair that it took
before.  Two facts keep old media from a new client.  Streaming is off from the
moment the address changes until the queues have been reset; and each reset
moves the generation past everything that is still held.
-/

/-! ## Who is being served -/

/-- The client of the TCP connection, from `on_connect` to `on_disconnect`. -/
def Signaling.client : Signaling → Option SockAddr
  | .connecting peer => some peer
  | .serving peer => some peer
  | .requesting peer => some peer
  | _ => none

/-- The client for which the queues have been reset. -/
def Signaling.served : Signaling → Option SockAddr
  | .serving peer => some peer
  | .requesting peer => some peer
  | _ => none

/-- The frame in the hands of the sender. -/
def Sender.flight : Sender → Option Flight
  | .repairing flight _ => flight
  | .holding flight _ _ => flight
  | .sending flight => some flight
  | _ => none

/-- The repair in the hands of the sender. -/
def Sender.repair : Sender → Option RepairPacket
  | .holding _ _ repair => some repair
  | _ => none

def frames (server : RtpServer) : List VideoFrame :=
  (server.sender.flight.map Flight.frame).toList ++ server.sendQ

def repairs (server : RtpServer) : List RepairPacket :=
  server.sender.repair.toList ++ server.repairQ

@[simp] theorem flight_repaired (flight : Option Flight) : (repaired flight).flight = flight := by
  cases flight <;> rfl

@[simp] theorem repair_repaired (flight : Option Flight) : (repaired flight).repair = none := by
  cases flight <;> rfl

@[simp] theorem repair_continueWith (flight : Flight) : (continueWith flight).repair = none := by
  rw [continueWith]
  split <;> rfl

theorem flight_continueWith {flight held : Flight} (holds : (continueWith flight).flight = some held) :
    held = flight := by
  rw [continueWith] at holds
  split at holds
  · exact (Option.some.inj holds).symm
  · cases holds

/-! ## The invariant -/

/-- The packet was broadcast during the current connection. -/
def Ours (server : RtpServer) (packet : MediaPacket) : Prop := packet.connection = server.connection

/-- What is held with a generation is not ahead of the server, and what is held
with the current generation belongs to the client that is being served. -/
def Owns (server : RtpServer) (generation : Nat) (packets : List MediaPacket) : Prop :=
  generation ≤ server.sendGeneration ∧
    (server.signaling.served.isSome = true → generation = server.sendGeneration →
      ∀ packet ∈ packets, server.Ours packet)

/-- The peer is being streamed to at the port of its latest READY. -/
def Endpoint (server : RtpServer) (destination : SockAddr) : Prop :=
  ∃ peer port, server.signaling.client = some peer ∧ server.readyPort = some port ∧ port ≠ 0 ∧
    destination = { peer with port := port }

structure Belongs (server : RtpServer) : Prop where
  target : ∀ peer, server.signaling.client = some peer → ∃ port, server.peerUdp = { peer with port := port }
  served : server.peerStreaming = true → server.signaling.served.isSome = true
  routable : server.peerStreaming = true → server.peerUdp.family = AF_INET ∧ server.peerUdp.address ≠ 0
  endpoint : server.peerStreaming = true → server.Endpoint server.peerUdp
  frames : ∀ frame ∈ server.frames, server.Owns frame.generation frame.packets
  repairs : ∀ repair ∈ server.repairs, server.Owns repair.generation [repair.packet]
  stored : server.signaling.served.isSome = true →
    server.videoRetx.Holds server.Ours ∧ server.audioRetx.Holds server.Ours

theorem belongs_start (config : Config) : Belongs (start config) where
  target := by
    intro peer impossible
    cases impossible
  served := by
    intro impossible
    cases impossible
  routable := by
    intro impossible
    cases impossible
  endpoint := by
    intro impossible
    cases impossible
  frames := by
    intro frame impossible
    cases impossible
  repairs := by
    intro repair impossible
    cases impossible
  stored := by
    intro impossible
    cases impossible

/-- Nothing that the invariant speaks of has changed. -/
structure Same (server next : RtpServer) : Prop where
  signaling : next.signaling = server.signaling
  sender : next.sender = server.sender
  peerStreaming : next.peerStreaming = server.peerStreaming
  peerUdp : next.peerUdp = server.peerUdp
  sendQ : next.sendQ = server.sendQ
  repairQ : next.repairQ = server.repairQ
  sendGeneration : next.sendGeneration = server.sendGeneration
  awaitingKeyframe : next.awaitingKeyframe = server.awaitingKeyframe
  videoRetx : next.videoRetx = server.videoRetx
  audioRetx : next.audioRetx = server.audioRetx
  connection : next.connection = server.connection
  readyPort : next.readyPort = server.readyPort

theorem same_record (server : RtpServer) (event : Event) : Same server (server.record event) :=
  ⟨rfl, rfl, rfl, rfl, rfl, rfl, rfl, rfl, rfl, rfl, rfl, rfl⟩

theorem same_setStreamRate (server : RtpServer) (config : Config) (kbps : Int) :
    Same server (server.setStreamRate config kbps) := by
  rw [setStreamRate]
  split
  · exact same_record server _
  · exact ⟨rfl, rfl, rfl, rfl, rfl, rfl, rfl, rfl, rfl, rfl, rfl, rfl⟩

theorem Same.trans {first second third : RtpServer} (left : Same first second) (right : Same second third) :
    Same first third where
  signaling := right.signaling.trans left.signaling
  sender := right.sender.trans left.sender
  peerStreaming := right.peerStreaming.trans left.peerStreaming
  peerUdp := right.peerUdp.trans left.peerUdp
  sendQ := right.sendQ.trans left.sendQ
  repairQ := right.repairQ.trans left.repairQ
  sendGeneration := right.sendGeneration.trans left.sendGeneration
  awaitingKeyframe := right.awaitingKeyframe.trans left.awaitingKeyframe
  videoRetx := right.videoRetx.trans left.videoRetx
  audioRetx := right.audioRetx.trans left.audioRetx
  connection := right.connection.trans left.connection
  readyPort := right.readyPort.trans left.readyPort

theorem Same.owns {server next : RtpServer} (same : Same server next) {generation : Nat}
    {packets : List MediaPacket} (owns : server.Owns generation packets) : next.Owns generation packets := by
  rw [Owns, same.sendGeneration, same.signaling]
  refine ⟨owns.1, fun served current packet member => ?_⟩
  rw [Ours, same.connection]
  exact owns.2 served current packet member

theorem Same.ours {server next : RtpServer} (same : Same server next) : next.Ours = server.Ours := by
  funext packet
  rw [Ours, same.connection]
  rfl

theorem Belongs.same {server next : RtpServer} (belongs : server.Belongs) (same : Same server next) :
    next.Belongs where
  target := by
    rw [same.signaling, same.peerUdp]
    exact belongs.target
  served := by
    rw [same.signaling, same.peerStreaming]
    exact belongs.served
  routable := by
    rw [same.peerStreaming, same.peerUdp]
    exact belongs.routable
  endpoint := by
    rw [Endpoint, same.signaling, same.peerStreaming, same.peerUdp, same.readyPort]
    exact belongs.endpoint
  frames := by
    intro frame member
    rw [RtpServer.frames, same.sender, same.sendQ] at member
    exact same.owns (belongs.frames frame member)
  repairs := by
    intro repair member
    rw [RtpServer.repairs, same.sender, same.repairQ] at member
    exact same.owns (belongs.repairs repair member)
  stored := by
    rw [same.signaling, same.videoRetx, same.audioRetx, same.ours]
    exact belongs.stored

/-- The step does not concern the client. -/
structure SameClient (server next : RtpServer) : Prop where
  client : next.signaling.client = server.signaling.client
  served : next.signaling.served = server.signaling.served
  peerStreaming : next.peerStreaming = server.peerStreaming
  peerUdp : next.peerUdp = server.peerUdp
  readyPort : next.readyPort = server.readyPort
  connection : next.connection = server.connection

/-- Whatever is held was held before or is ours, and so is what is stored. -/
theorem Belongs.held {server next : RtpServer} (belongs : server.Belongs) (same : SameClient server next)
    (grown : server.sendGeneration ≤ next.sendGeneration)
    (frames : ∀ frame ∈ next.frames, frame ∈ server.frames ∨ next.Owns frame.generation frame.packets)
    (repairs : ∀ repair ∈ next.repairs, repair ∈ server.repairs ∨ next.Owns repair.generation [repair.packet])
    (stored : server.signaling.served.isSome = true →
      next.videoRetx.Holds server.Ours ∧ next.audioRetx.Holds server.Ours) : next.Belongs := by
  have ours : next.Ours = server.Ours := by
    funext packet
    rw [Ours, same.connection]
    rfl
  have owns : ∀ {generation packets}, server.Owns generation packets → next.Owns generation packets := by
    intro generation packets owned
    refine ⟨owned.1.trans grown, fun served current packet member => ?_⟩
    rw [same.served] at served
    rw [ours]
    have bound := owned.1
    exact owned.2 served (by omega) packet member
  constructor
  case target =>
    rw [same.client, same.peerUdp]
    exact belongs.target
  case served =>
    rw [same.served, same.peerStreaming]
    exact belongs.served
  case routable =>
    rw [same.peerStreaming, same.peerUdp]
    exact belongs.routable
  case endpoint =>
    rw [Endpoint, same.client, same.peerStreaming, same.peerUdp, same.readyPort]
    exact belongs.endpoint
  case frames =>
    intro frame member
    rcases frames frame member with older | own
    · exact owns (belongs.frames frame older)
    · exact own
  case repairs =>
    intro repair member
    rcases repairs repair member with older | own
    · exact owns (belongs.repairs repair older)
    · exact own
  case stored =>
    rw [same.served, ours]
    exact stored

/-- The sender lets go of what it holds. -/
theorem Belongs.release {server : RtpServer} (belongs : server.Belongs) {sender : Sender}
    (flight : sender.flight = none) (repair : sender.repair = none) : { server with sender := sender }.Belongs := by
  refine belongs.held ⟨rfl, rfl, rfl, rfl, rfl, rfl⟩ ?_ ?_ ?_ ?_
  · exact Nat.le_refl _
  · intro frame member
    rw [RtpServer.frames, flight] at member
    exact Or.inl (List.mem_append_right _ member)
  · intro other member
    rw [RtpServer.repairs, repair] at member
    exact Or.inl (List.mem_append_right _ member)
  · exact belongs.stored

/-! ## The signaling thread -/

/-- While nobody is served nothing is claimed of what is held. -/
theorem Belongs.unserved {server next : RtpServer} (belongs : server.Belongs)
    (unserved : next.signaling.served = none) (streaming : next.peerStreaming = false)
    (target : ∀ peer, next.signaling.client = some peer → ∃ port, next.peerUdp = { peer with port := port })
    (sender : next.sender = server.sender) (sendQ : next.sendQ = server.sendQ)
    (repairQ : next.repairQ = server.repairQ) (generation : next.sendGeneration = server.sendGeneration) :
    next.Belongs where
  target := target
  served := by
    intro impossible
    rw [streaming] at impossible
    cases impossible
  routable := by
    intro impossible
    rw [streaming] at impossible
    cases impossible
  endpoint := by
    intro impossible
    rw [streaming] at impossible
    cases impossible
  frames := by
    intro frame member
    rw [RtpServer.frames, sender, sendQ] at member
    refine ⟨generation ▸ (belongs.frames frame member).1, fun impossible => ?_⟩
    rw [unserved] at impossible
    cases impossible
  repairs := by
    intro repair member
    rw [RtpServer.repairs, sender, repairQ] at member
    refine ⟨generation ▸ (belongs.repairs repair member).1, fun impossible => ?_⟩
    rw [unserved] at impossible
    cases impossible
  stored := by
    intro impossible
    rw [unserved] at impossible
    cases impossible

theorem Belongs.accept {server : RtpServer} (belongs : server.Belongs) (peer : SockAddr) :
    ({ server with signaling := .connecting peer }.connect peer).Belongs :=
  belongs.unserved rfl rfl
    (by
      intro client isClient
      cases isClient
      exact ⟨0, rfl⟩)
    rfl rfl rfl rfl

theorem Belongs.disconnect {server : RtpServer} (belongs : server.Belongs) (config : Config)
    (peer : SockAddr) (again : Bool) :
    ({ server with signaling := .leaving peer again }.disconnect config).Belongs := by
  have same := (same_setStreamRate
    { server with signaling := .leaving peer again, peerStreaming := false, peerUdp := .zero } config 0).trans
      (same_record _ .disconnected)
  refine Belongs.same (belongs.unserved ?_ ?_ ?_ ?_ ?_ ?_ ?_) same
  · rfl
  · rfl
  · intro client impossible
    cases impossible
  · rfl
  · rfl
  · rfl
  · rfl

/-- Behind a reset everything that is still held is outdated. -/
theorem Belongs.reset {server : RtpServer} (belongs : server.Belongs)
    (unserved : server.signaling.served = none) (signaling : Signaling)
    (client : ∀ peer, signaling.client = some peer → server.signaling.client = some peer) :
    { server.resetVideoQueue with signaling := signaling }.Belongs where
  target := fun peer isClient => belongs.target peer (client peer isClient)
  served := by
    intro streaming
    have impossible := belongs.served streaming
    rw [unserved] at impossible
    cases impossible
  routable := belongs.routable
  endpoint := by
    intro streaming
    have impossible := belongs.served streaming
    rw [unserved] at impossible
    cases impossible
  frames := by
    intro frame member
    have held : frame ∈ server.frames := by
      rcases List.mem_append.mp member with inHand | impossible
      · exact List.mem_append_left _ inHand
      · cases impossible
    have bound := (belongs.frames frame held).1
    exact ⟨bound.trans (Nat.le_succ _), fun _ same => absurd same (Nat.lt_succ_of_le bound).ne⟩
  repairs := by
    intro repair member
    have held : repair ∈ server.repairs := by
      rcases List.mem_append.mp member with inHand | impossible
      · exact List.mem_append_left _ inHand
      · cases impossible
    have bound := (belongs.repairs repair held).1
    exact ⟨bound.trans (Nat.le_succ _), fun _ same => absurd same (Nat.lt_succ_of_le bound).ne⟩
  stored := fun _ => ⟨RetransmitBuffer.holds_clear _, RetransmitBuffer.holds_clear _⟩

theorem Belongs.afterReset {server next : RtpServer} (belongs : server.Belongs) (config : Config)
    (reset : server.afterReset config = some next) : next.Belongs := by
  rw [RtpServer.afterReset] at reset
  split at reset
  · rename_i peer position
    cases reset
    refine Belongs.same (belongs.reset ?_ (.serving peer) ?_) (same_record _ _)
    · rw [position]
      rfl
    · rw [position]
      exact fun _ => id
  · rename_i peer position
    cases reset
    refine belongs.reset ?_ (.departing peer) ?_
    · rw [position]
      rfl
    · intro _ impossible
      cases impossible
  · rename_i peer position
    cases reset
    refine belongs.reset ?_ .listening ?_
    · rw [position]
      rfl
    · intro _ impossible
      cases impossible
  · cases reset

/-- Streaming only begins for the client that is being served. -/
theorem Belongs.onReady {server : RtpServer} (belongs : server.Belongs) (config : Config) {peer : SockAddr}
    (position : server.signaling = .serving peer) (body : List UInt8) :
    (server.onReady config peer body).Belongs := by
  rw [RtpServer.onReady]
  cases parsed : parseReadyPort body with
  | none => exact belongs
  | some port =>
      have client : server.signaling.client = some peer := by
        rw [position]
        rfl
      have served : server.signaling.served.isSome = true := by
        rw [position]
        rfl
      obtain ⟨old, isTarget⟩ := belongs.target peer client
      simp only
      split
      · -- A client without an address is not being streamed to.
        rename_i refused
        have idle : server.peerStreaming = false := by
          rw [Bool.eq_false_iff]
          intro streaming
          obtain ⟨family, address⟩ := belongs.routable streaming
          rcases refused with other | zero
          · exact other family
          · exact address zero
        constructor
        case target => exact belongs.target
        case served => exact belongs.served
        case routable => exact belongs.routable
        case endpoint =>
          intro streaming
          exact absurd (idle.symm.trans streaming) Bool.noConfusion
        case frames => exact belongs.frames
        case repairs => exact belongs.repairs
        case stored => exact belongs.stored
      · rename_i accepted
        have same := (same_setStreamRate { server with
            readyPort := some port
            peerUdp := { server.peerUdp with port := port }
            peerStreaming := true
            signaling := .requesting peer } config server.pacingKbps).trans (same_record _ (.signal ⟨.start, []⟩))
        refine Belongs.same ?_ same
        have isEndpoint : { server.peerUdp with port := port } = { peer with port := port } := by
          rw [isTarget]
        constructor
        case target =>
          intro client isClient
          cases isClient
          exact ⟨port, isEndpoint⟩
        case served => exact fun _ => rfl
        case routable =>
          exact fun _ => ⟨not_not.mp (fun other => accepted (Or.inl other)), fun zero => accepted (Or.inr zero)⟩
        case endpoint =>
          exact fun _ => ⟨peer, port, rfl, rfl, parseReadyPort_ne_zero parsed, isEndpoint⟩
        case frames =>
          intro frame member
          exact ⟨(belongs.frames frame member).1, fun _ => (belongs.frames frame member).2 served⟩
        case repairs =>
          intro repair member
          exact ⟨(belongs.repairs repair member).1, fun _ => (belongs.repairs repair member).2 served⟩
        case stored => exact fun _ => belongs.stored served

theorem Belongs.onMessage {server : RtpServer} (belongs : server.Belongs) (config : Config) {peer : SockAddr}
    (position : server.signaling = .serving peer) (message : Signal.Message) :
    (server.onMessage config peer message).Belongs := by
  cases kind : message.type <;> simp only [RtpServer.onMessage, kind]
  case ready => exact belongs.onReady config position message.body
  case bye => exact belongs.disconnect config peer true
  all_goals exact belongs

/-! ## The capture thread -/

theorem Belongs.dropVideoQueue {server : RtpServer} (belongs : server.Belongs) :
    server.dropVideoQueue.Belongs := by
  refine belongs.held ⟨rfl, rfl, rfl, rfl, rfl, rfl⟩ ?_ ?_ ?_ ?_
  · exact Nat.le_succ _
  · intro frame member
    rcases List.mem_append.mp member with inHand | impossible
    · exact Or.inl (List.mem_append_left _ inHand)
    · cases impossible
  · intro repair member
    rcases List.mem_append.mp member with inHand | impossible
    · exact Or.inl (List.mem_append_left _ inHand)
    · cases impossible
  · exact fun served => ⟨RetransmitBuffer.holds_clear _, (belongs.stored served).2⟩

theorem Belongs.enqueue {server : RtpServer} (belongs : server.Belongs) (unit : VideoUnit) (number : Nat) :
    (server.enqueue unit number).Belongs := by
  rw [RtpServer.enqueue]
  split
  · refine belongs.held ⟨rfl, rfl, rfl, rfl, rfl, rfl⟩ ?_ ?_ ?_ ?_
    · exact Nat.le_refl _
    · exact fun frame member => Or.inl member
    · exact fun repair member => Or.inl member
    · exact belongs.stored
  · refine belongs.held ⟨rfl, rfl, rfl, rfl, rfl, rfl⟩ ?_ ?_ ?_ ?_
    · exact Nat.le_refl _
    · intro frame member
      rcases List.mem_append.mp member with inHand | queued
      · exact Or.inl (List.mem_append_left _ inHand)
      · rcases List.mem_append.mp queued with older | own
        · exact Or.inl (List.mem_append_right _ older)
        · rw [List.mem_singleton.mp own]
          refine Or.inr ⟨Nat.le_refl _, fun _ _ packet listed => ?_⟩
          obtain ⟨bytes, _, rfl⟩ := List.mem_map.mp listed
          rfl
    · exact fun repair member => Or.inl member
    · exact belongs.stored

theorem Belongs.broadcastVideo {server : RtpServer} (belongs : server.Belongs) (config : Config)
    (started now : Time) (data : List UInt8) (ptsUsec : Int64) (keyframe : Bool) :
    (server.broadcastVideo config started now data ptsUsec keyframe).Belongs := by
  rw [RtpServer.broadcastVideo]
  simp only
  split
  · exact belongs
  split
  · exact belongs.same (same_record _ _)
  have packed : { server with
      videoPacker := (packetize config.h265 server.videoPacker data ptsUsec).2 }.Belongs :=
    belongs.same ⟨rfl, rfl, rfl, rfl, rfl, rfl, rfl, rfl, rfl, rfl, rfl, rfl⟩
  split
  · exact packed
  apply Belongs.enqueue
  refine Belongs.same ?_ (same_record _ _)
  split
  · exact packed.dropVideoQueue
  · exact packed

theorem Belongs.broadcastAudio {server : RtpServer} (belongs : server.Belongs) (data : List UInt8)
    (ptsUsec : Int64) (sent : Bool) (recorded : Time) :
    (server.broadcastAudio data ptsUsec sent recorded).Belongs := by
  apply broadcastAudio_keeps Belongs
  · exact fun _ => belongs.same ⟨rfl, rfl, rfl, rfl, rfl, rfl, rfl, rfl, rfl, rfl, rfl, rfl⟩
  · intro _ current bytes packed
    refine Belongs.same ?_ (same_record _ _)
    refine packed.held ⟨rfl, rfl, rfl, rfl, rfl, rfl⟩ ?_ ?_ ?_ ?_
    · exact Nat.le_refl _
    · exact fun frame member => Or.inl member
    · exact fun repair member => Or.inl member
    · exact fun served => ⟨(packed.stored served).1, (packed.stored served).2.record _ _ rfl⟩

/-! ## The sender thread -/

theorem Belongs.takeRepair {server : RtpServer} (belongs : server.Belongs) {flight : Option Flight} {done : Nat}
    (position : server.sender = .repairing flight done) : (server.takeRepair flight done).Belongs := by
  have inHand : server.frames = (flight.map Flight.frame).toList ++ server.sendQ := by
    rw [RtpServer.frames, position]
    rfl
  have leave : { server with sender := repaired flight }.Belongs := by
    refine belongs.held ⟨rfl, rfl, rfl, rfl, rfl, rfl⟩ ?_ ?_ ?_ ?_
    · exact Nat.le_refl _
    · intro frame member
      rw [RtpServer.frames, flight_repaired] at member
      exact Or.inl (inHand ▸ member)
    · intro repair member
      rw [RtpServer.repairs, repair_repaired] at member
      exact Or.inl (List.mem_append_right _ member)
    · exact belongs.stored
  rw [RtpServer.takeRepair]
  split
  · split
    · exact leave
    · rename_i repair rest contents
      refine belongs.held ⟨rfl, rfl, rfl, rfl, rfl, rfl⟩ ?_ ?_ ?_ ?_
      · exact Nat.le_refl _
      · exact fun frame member => Or.inl (inHand ▸ member)
      · intro other member
        refine Or.inl (List.mem_append_right _ ?_)
        rw [contents]
        exact member
      · exact belongs.stored
  · exact leave

theorem Belongs.sendRepair {server : RtpServer} (belongs : server.Belongs) {flight : Option Flight} {done : Nat}
    {repair : RepairPacket} (position : server.sender = .holding flight done repair) (paced : Bool)
    (now : Time) (sent : Bool) : (server.sendRepair flight done repair paced now sent).Belongs := by
  have onward : { server with sender := .repairing flight (done + 1) }.Belongs := by
    refine belongs.held ⟨rfl, rfl, rfl, rfl, rfl, rfl⟩ ?_ ?_ ?_ ?_
    · exact Nat.le_refl _
    · intro frame member
      rw [RtpServer.frames, position]
      exact Or.inl member
    · exact fun other member => Or.inl (List.mem_append_right _ member)
    · exact belongs.stored
  rcases server.sendRepair_cases flight done repair paced now sent with passed | ⟨_, _, _, left⟩
  · exact passed ▸ onward
  · exact left ▸ onward.same (same_record _ _)

theorem Belongs.popFrame {server : RtpServer} (belongs : server.Belongs) : server.popFrame.Belongs := by
  rw [RtpServer.popFrame]
  split
  · exact belongs.release rfl rfl
  · rename_i front rest contents
    refine belongs.held ⟨rfl, rfl, rfl, rfl, rfl, rfl⟩ ?_ ?_ ?_ ?_
    · exact Nat.le_refl _
    · intro frame member
      refine Or.inl (List.mem_append_right _ ?_)
      rw [contents]
      rcases List.mem_append.mp member with taken | queued
      · obtain ⟨flight, isFlight, rfl⟩ := Option.map_eq_some_iff.mp (Option.mem_toList.mp taken)
        rw [flight_continueWith isFlight]
        exact List.mem_cons_self
      · exact List.mem_cons_of_mem _ queued
    · intro repair member
      rw [RtpServer.repairs, repair_continueWith] at member
      exact Or.inl (List.mem_append_right _ member)
    · exact belongs.stored

/-- A packet of the current generation is ours. -/
theorem Belongs.flight {server : RtpServer} (belongs : server.Belongs) {flight : Flight}
    (position : server.sender = .sending flight) : server.Owns flight.frame.generation flight.frame.packets := by
  apply belongs.frames
  rw [RtpServer.frames, position]
  exact List.mem_cons_self

theorem Belongs.sendPacket {server : RtpServer} (belongs : server.Belongs) {flight : Flight}
    (position : server.sender = .sending flight) {packet : MediaPacket} (listed : packet ∈ flight.frame.packets)
    (paced : Bool) (now : Time) (taken : Bool) (recorded : Time) :
    (server.sendPacket flight packet paced now taken recorded).Belongs := by
  have inHand : flight.frame ∈ server.frames := by
    rw [RtpServer.frames, position]
    exact List.mem_cons_self
  rcases server.sendPacket_cases flight packet paced now taken recorded with
    ⟨_, isNext⟩ | ⟨_, current, ⟨_, isNext⟩ | ⟨_, isNext⟩⟩
  all_goals rw [isNext]
  · exact belongs.release rfl rfl
  · refine Belongs.same ?_ (same_record _ _)
    refine belongs.held ⟨rfl, rfl, rfl, rfl, rfl, rfl⟩ ?_ ?_ ?_ ?_
    · exact Nat.le_refl _
    · intro frame member
      rcases List.mem_append.mp member with continued | queued
      · obtain ⟨held, isHeld, rfl⟩ := Option.map_eq_some_iff.mp (Option.mem_toList.mp continued)
        rw [flight_continueWith isHeld]
        exact Or.inl inHand
      · exact Or.inl (List.mem_append_right _ queued)
    · intro repair member
      rw [RtpServer.repairs, repair_continueWith] at member
      exact Or.inl (List.mem_append_right _ member)
    · intro served
      have own := (belongs.flight position).2 served current packet listed
      exact ⟨(belongs.stored served).1.record _ _ own, (belongs.stored served).2⟩
  · have dropped := belongs.dropVideoQueue
    exact dropped.release rfl rfl

/-! ## The RTCP thread -/

theorem Belongs.retransmit {server : RtpServer} (belongs : server.Belongs) (video : Bool) (seq : UInt16)
    (now : Time) : (server.retransmit video seq now).Belongs := by
  rcases server.retransmit_cases video seq now with same | ⟨stored, _, _, _, found, _, isNext⟩
  · exact same.symm ▸ belongs
  · rw [isNext]
    refine belongs.held ⟨rfl, rfl, rfl, rfl, rfl, rfl⟩ ?_ ?_ ?_ ?_
    · exact Nat.le_refl _
    · exact fun frame member => Or.inl member
    · intro repair member
      rcases List.mem_append.mp member with inHand | queued
      · exact Or.inl (List.mem_append_left _ inHand)
      · rcases List.mem_append.mp queued with older | own
        · exact Or.inl (List.mem_append_right _ older)
        · rw [List.mem_singleton.mp own]
          refine Or.inr ⟨Nat.le_refl _, fun served _ packet listed => ?_⟩
          rw [List.mem_singleton.mp listed]
          have holds : (if video then server.videoRetx else server.audioRetx).Holds server.Ours := by
            cases video
            · exact (belongs.stored served).2
            · exact (belongs.stored served).1
          exact holds.get found
    · exact belongs.stored

/-! ## Every step, and every run -/

theorem Belongs.step {config : Config} {server next : RtpServer} (belongs : server.Belongs) {action : Action}
    (stepped : step config server action = some next) : next.Belongs := by
  cases stepped_of_step stepped with
  | accept peer => exact belongs.accept peer
  | resetVideoQueue reset => exact belongs.afterReset config reset
  | message message position => exact belongs.onMessage config position message
  | hangUp => exact belongs.disconnect config _ false
  | signalingRequest position =>
      refine Belongs.same ?_ (same_record _ _)
      refine belongs.held ⟨?_, ?_, rfl, rfl, rfl, rfl⟩ ?_ ?_ ?_ ?_
      · rw [position]
        rfl
      · rw [position]
        rfl
      · exact Nat.le_refl _
      · exact fun frame member => Or.inl member
      · exact fun repair member => Or.inl member
      · exact belongs.stored
  | setPacingBitrate =>
      rw [RtpServer.setPacingBitrate]
      split
      · exact belongs
      · refine Belongs.same ?_ (same_setStreamRate _ _ _)
        exact belongs.same ⟨rfl, rfl, rfl, rfl, rfl, rfl, rfl, rfl, rfl, rfl, rfl, rfl⟩
  | broadcastVideo started now data ptsUsec keyframe =>
      exact belongs.broadcastVideo config started now data ptsUsec keyframe
  | captureRequest => exact belongs.same ⟨rfl, rfl, rfl, rfl, rfl, rfl, rfl, rfl, rfl, rfl, rfl, rfl⟩
  | broadcastAudio data ptsUsec sent recorded => exact belongs.broadcastAudio data ptsUsec sent recorded
  | wake => exact belongs.release rfl rfl
  | takeRepair position => exact belongs.takeRepair position
  | sendRepair paced now sent position => exact belongs.sendRepair position paced now sent
  | popFrame => exact belongs.popFrame
  | sendPacket paced now taken recorded position found =>
      exact belongs.sendPacket position (List.mem_of_getElem? found) paced now taken recorded
  | senderRequest =>
      refine Belongs.same ?_ (same_record _ _)
      exact belongs.release rfl rfl
  | receiveRtcp =>
      rw [RtpServer.receiveRtcp]
      split
      · exact belongs
      · exact belongs.same ⟨rfl, rfl, rfl, rfl, rfl, rfl, rfl, rfl, rfl, rfl, rfl, rfl⟩
  | @handleEvent event rest now =>
      have taken : { server with rtcp := rest }.Belongs :=
        belongs.same ⟨rfl, rfl, rfl, rfl, rfl, rfl, rfl, rfl, rfl, rfl, rfl, rfl⟩
      cases event with
      | keyframeRequest => exact taken.same (same_record _ _)
      | retransmit video seq => exact taken.retransmit video seq now
      | fractionLost octet => exact taken

theorem belongs_of_run {config : Config} {actions : List Action} {server : RtpServer}
    (reached : run config actions = some server) : server.Belongs :=
  run_invariant (fun _ _ _ belongs stepped => Belongs.step belongs stepped) (belongs_start config) reached

/-! ## What is sent -/

/-- The packet that an event puts on the wire, and where to. -/
def Event.media : Event → Option (MediaPacket × SockAddr)
  | .fresh sent => some (sent.packet, sent.destination)
  | .audio packet destination => some (packet, destination)
  | .repair _ packet _ destination => some (packet, destination)
  | _ => none

/-- Media goes to the current peer only, and only while it streams. -/
def Proper (server : RtpServer) (event : Event) : Prop :=
  ∀ packet destination, event.media = some (packet, destination) →
    server.peerStreaming = true ∧ destination = server.peerUdp ∧ server.Ours packet

theorem proper_of_none {server : RtpServer} {event : Event} (nothing : event.media = none) :
    server.Proper event := by
  intro packet destination sent
  rw [nothing] at sent
  cases sent

theorem proper_of_media {server : RtpServer} {event : Event} {packet : MediaPacket}
    (media : event.media = some (packet, server.peerUdp)) (streaming : server.peerStreaming = true)
    (ours : server.Ours packet) : server.Proper event := by
  intro other destination sent
  rw [media] at sent
  cases sent
  exact ⟨streaming, rfl, ours⟩

/-- The log grows by proper events. -/
def Sends (server next : RtpServer) : Prop :=
  ∃ events, next.log = server.log ++ events ∧ ∀ event ∈ events, server.Proper event

theorem sends_of_log {server next : RtpServer} (same : next.log = server.log) : Sends server next := by
  refine ⟨[], by rw [same, List.append_nil], ?_⟩
  intro event impossible
  cases impossible

theorem Sends.record {server next : RtpServer} (sends : Sends server next) {event : Event}
    (proper : server.Proper event) : Sends server (next.record event) := by
  obtain ⟨events, grown, allProper⟩ := sends
  refine ⟨events ++ [event], ?_, ?_⟩
  · rw [RtpServer.record, grown, List.append_assoc]
  · intro other member
    rcases List.mem_append.mp member with older | own
    · exact allProper other older
    · exact List.mem_singleton.mp own ▸ proper

theorem Sends.setStreamRate {server next : RtpServer} (sends : Sends server next) (config : Config) (kbps : Int) :
    Sends server (next.setStreamRate config kbps) := by
  rw [RtpServer.setStreamRate]
  split
  · exact sends.record (proper_of_none rfl)
  · exact sends

theorem sends_disconnect {server next : RtpServer} (config : Config) (same : next.log = server.log) :
    Sends server (next.disconnect config) := by
  rw [RtpServer.disconnect]
  refine Sends.record (Sends.setStreamRate (sends_of_log ?_) config 0) (proper_of_none ?_)
  · exact same
  · rfl

theorem sends_afterReset {server next : RtpServer} (config : Config)
    (reset : server.afterReset config = some next) : Sends server next := by
  rw [RtpServer.afterReset] at reset
  split at reset <;> cases reset
  · exact (sends_of_log rfl).record (proper_of_none rfl)
  · exact sends_of_log rfl
  · exact sends_of_log rfl

theorem sends_onMessage (server : RtpServer) (config : Config) (peer : SockAddr) (message : Signal.Message) :
    Sends server (server.onMessage config peer message) := by
  cases kind : message.type <;> simp only [RtpServer.onMessage, kind]
  case ready =>
    rw [RtpServer.onReady]
    split
    · exact sends_of_log rfl
    simp only
    split
    · exact sends_of_log rfl
    · refine Sends.record (Sends.setStreamRate (sends_of_log ?_) config _) (proper_of_none ?_)
      · rfl
      · rfl
  case bye => exact sends_disconnect config rfl
  all_goals exact sends_of_log rfl

@[simp] theorem enqueue_log (server : RtpServer) (unit : VideoUnit) (number : Nat) :
    (server.enqueue unit number).log = server.log := by
  rw [RtpServer.enqueue]
  split <;> rfl

theorem sends_broadcastVideo (server : RtpServer) (config : Config) (started now : Time) (data : List UInt8)
    (ptsUsec : Int64) (keyframe : Bool) :
    Sends server (server.broadcastVideo config started now data ptsUsec keyframe) := by
  rw [RtpServer.broadcastVideo]
  simp only
  split
  · exact sends_of_log rfl
  split
  · exact (sends_of_log rfl).record (proper_of_none rfl)
  split
  · exact sends_of_log rfl
  have recorded : ∀ (shed : RtpServer) (unit : VideoUnit), shed.log = server.log →
      Sends server ((shed.record (.broadcast unit)).enqueue unit server.unitCount) := by
    intro shed unit same
    have logged : Sends server (shed.record (.broadcast unit)) := (sends_of_log same).record (proper_of_none rfl)
    obtain ⟨events, grown, proper⟩ := logged
    exact ⟨events, (enqueue_log _ _ _).trans grown, proper⟩
  apply recorded
  split <;> rfl

theorem sends_broadcastAudio (server : RtpServer) (data : List UInt8) (ptsUsec : Int64) (sent : Bool)
    (recorded : Time) : Sends server (server.broadcastAudio data ptsUsec sent recorded) := by
  refine (broadcastAudio_keeps (fun current => Sends server current ∧ current.peerUdp = server.peerUdp ∧
    current.connection = server.connection) server data ptsUsec sent recorded ?_ ?_).1
  · exact fun _ => ⟨sends_of_log rfl, rfl, rfl⟩
  · rintro streaming current bytes ⟨sends, address, number⟩
    refine ⟨Sends.record sends ?_, address, number⟩
    rw [address]
    exact proper_of_media rfl streaming number

theorem Belongs.sends_sendRepair {server : RtpServer} (belongs : server.Belongs) {flight : Option Flight}
    {done : Nat} {repair : RepairPacket} (position : server.sender = .holding flight done repair) (paced : Bool)
    (now : Time) (sent : Bool) : Sends server (server.sendRepair flight done repair paced now sent) := by
  rcases server.sendRepair_cases flight done repair paced now sent with passed | ⟨streaming, current, _, left⟩
  · rw [passed]
    exact sends_of_log rfl
  · rw [left]
    have held : repair ∈ server.repairs := by
      rw [RtpServer.repairs, position]
      exact List.mem_cons_self
    have owns := (belongs.repairs repair held).2 (belongs.served streaming) current
    exact Sends.record (sends_of_log rfl)
      (proper_of_media rfl streaming (owns repair.packet List.mem_cons_self))

theorem Belongs.sends_sendPacket {server : RtpServer} (belongs : server.Belongs) {flight : Flight}
    (position : server.sender = .sending flight) {packet : MediaPacket} (listed : packet ∈ flight.frame.packets)
    (paced : Bool) (now : Time) (taken : Bool) (recorded : Time) :
    Sends server (server.sendPacket flight packet paced now taken recorded) := by
  rcases server.sendPacket_cases flight packet paced now taken recorded with
    ⟨_, isNext⟩ | ⟨streaming, current, ⟨_, isNext⟩ | ⟨_, isNext⟩⟩
  all_goals rw [isNext]
  · exact sends_of_log rfl
  · have own := (belongs.flight position).2 (belongs.served streaming) current packet listed
    exact Sends.record (sends_of_log rfl) (proper_of_media rfl streaming own)
  · exact sends_of_log rfl

@[simp] theorem retransmit_log (server : RtpServer) (video : Bool) (seq : UInt16) (now : Time) :
    (server.retransmit video seq now).log = server.log := by
  rcases server.retransmit_cases video seq now with same | ⟨_, _, _, _, _, _, queued⟩
  · rw [same]
  · rw [queued]

theorem sends_of_step {config : Config} {server next : RtpServer} (belongs : server.Belongs) {action : Action}
    (stepped : step config server action = some next) : Sends server next := by
  cases stepped_of_step stepped with
  | accept =>
      rw [RtpServer.connect]
      refine Sends.record (sends_of_log ?_) (proper_of_none ?_)
      · rfl
      · rfl
  | resetVideoQueue reset => exact sends_afterReset config reset
  | message message => exact sends_onMessage server config _ message
  | hangUp => exact sends_disconnect config rfl
  | signalingRequest => exact (sends_of_log rfl).record (proper_of_none rfl)
  | setPacingBitrate =>
      rw [RtpServer.setPacingBitrate]
      split
      · exact sends_of_log rfl
      · exact Sends.setStreamRate (sends_of_log rfl) config _
  | broadcastVideo started now data ptsUsec keyframe =>
      exact sends_broadcastVideo server config started now data ptsUsec keyframe
  | captureRequest => exact (sends_of_log rfl).record (proper_of_none rfl)
  | broadcastAudio data ptsUsec sent recorded => exact sends_broadcastAudio server data ptsUsec sent recorded
  | wake => exact sends_of_log rfl
  | takeRepair =>
      rw [RtpServer.takeRepair]
      repeat' split
      all_goals exact sends_of_log rfl
  | sendRepair paced now sent position => exact belongs.sends_sendRepair position paced now sent
  | popFrame =>
      rw [RtpServer.popFrame]
      split <;> exact sends_of_log rfl
  | sendPacket paced now taken recorded position found =>
      exact belongs.sends_sendPacket position (List.mem_of_getElem? found) paced now taken recorded
  | senderRequest => exact (sends_of_log rfl).record (proper_of_none rfl)
  | receiveRtcp =>
      rw [RtpServer.receiveRtcp]
      split <;> exact sends_of_log rfl
  | @handleEvent event =>
      cases event with
      | keyframeRequest => exact (sends_of_log rfl).record (proper_of_none rfl)
      | retransmit video seq => exact sends_of_log (retransmit_log _ _ _ _)
      | fractionLost octet => exact sends_of_log rfl

/-- In every state that any interleaving of connects, READY messages, BYE,
disconnects, broadcasts, NACKs and steps of the sender reaches, streaming goes
to the connected client at the port of its latest READY.  And whatever the next
step puts on the wire goes there and was broadcast since that client connected. -/
theorem no_leak (config : Config) (actions : List Action) (server : RtpServer)
    (reached : run config actions = some server) :
    (server.peerStreaming = true → server.Endpoint server.peerUdp) ∧
      ∀ action next, step config server action = some next →
        ∃ events, next.log = server.log ++ events ∧
          ∀ event ∈ events, ∀ packet destination, event.media = some (packet, destination) →
            server.Endpoint destination ∧ packet.connection = server.connection := by
  have belongs := belongs_of_run reached
  refine ⟨belongs.endpoint, fun action next stepped => ?_⟩
  obtain ⟨events, grown, proper⟩ := sends_of_step belongs stepped
  refine ⟨events, grown, fun event member packet destination sent => ?_⟩
  obtain ⟨streaming, isPeer, ours⟩ := proper event member packet destination sent
  exact ⟨isPeer ▸ belongs.endpoint streaming, ours⟩

/-! ## A small session of the server -/

def sampleConfig : Config where
  videoSsrc := 7
  audioSsrc := 8
  h265 := true
  width := 1920
  height := 1080
  fpsNum := 30
  audioRate := 48000
  audioChannels := 2
  pacer := false

/-- A client connects and is ready for media at port 5004. -/
def sampleReady : List Action :=
  [.accept ⟨AF_INET, 0xC0A80001, 40000⟩, .resetVideoQueue,
    .message ⟨.ready, octetsOf ['{', '"', 'p', 'o', 'r', 't', '"', ':', '5', '0', '0', '4', '}']⟩,
    .signalingRequest]

/-- The sender takes the first packet of the next frame, at a given time. -/
def sampleSend (now : Time) : List Action :=
  [.wake, .takeRepair, .popFrame, .takeRepair, .sendPacket true now true now]

theorem no_leak_sample :
    ∃ server, run sampleConfig (sampleReady ++
        [.broadcastVideo 0 0 [0, 0, 0, 1, 0x26, 0x01, 0xAF] 0 true] ++ sampleSend 1) = some server ∧
      server.peerStreaming = true ∧ server.Endpoint server.peerUdp := by
  obtain ⟨server, reached, streaming⟩ : ∃ server, run sampleConfig (sampleReady ++
      [.broadcastVideo 0 0 [0, 0, 0, 1, 0x26, 0x01, 0xAF] 0 true] ++ sampleSend 1) = some server ∧
        server.peerStreaming = true := by
    rw [← Option.map_eq_some_iff]
    decide +kernel
  exact ⟨server, reached, streaming, (no_leak _ _ server reached).1 streaming⟩

end RtpServer
end MetaShare
