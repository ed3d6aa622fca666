import MetaShare.Foundation.DependencyChain
import MetaShare.Server.Sessions

namespace MetaShare
namespace RtpServer

open Rtp Transitions DependencyChain

/-!
# The dependency chain on the wire

Five paths shed video: a reset, an overflow, the expiry of the queue's head, a
packet that cannot be sent, and an access unit that is too large.  Each of them
closes the gate for dependent frames and cancels, by the generation, what the
sender holds.  So the queue and the frame in the sender's hands behave like one
line of packets in front of the wire, and every step of the server is a step of
that line.
-/

/-! ## The session in the log -/

def Event.broadcastUnit : Event → Option VideoUnit
  | .broadcast unit => some unit
  | _ => none

def Event.freshPacket : Event → Option FreshPacket
  | .fresh sent => some sent
  | _ => none

def sessionStep (session : List Event) : Event → List Event
  | .connected _ => []
  | event => session ++ [event]

/-- What has happened since the current client connected. -/
def session (server : RtpServer) : List Event := server.log.foldl sessionStep []

/-- The access units broadcast in the session. -/
def units (server : RtpServer) : List VideoUnit := server.session.filterMap Event.broadcastUnit

/-- The fresh video packets put on the wire in the session. -/
def wire (server : RtpServer) : List FreshPacket := server.session.filterMap Event.freshPacket

theorem session_record (server : RtpServer) (event : Event) :
    (server.record event).session = sessionStep server.session event := by
  rw [session, record, List.foldl_append]
  rfl

theorem units_record (server : RtpServer) (event : Event) (goesOn : ∀ peer, event ≠ .connected peer) :
    (server.record event).units = server.units ++ event.broadcastUnit.toList := by
  rw [units, session_record, units]
  cases event with
  | connected peer => exact absurd rfl (goesOn peer)
  | broadcast unit => simp [sessionStep, Event.broadcastUnit]
  | _ => simp [sessionStep, Event.broadcastUnit]

theorem wire_record (server : RtpServer) (event : Event) (goesOn : ∀ peer, event ≠ .connected peer) :
    (server.record event).wire = server.wire ++ event.freshPacket.toList := by
  rw [wire, session_record, wire]
  cases event with
  | connected peer => exact absurd rfl (goesOn peer)
  | fresh sent => simp [sessionStep, Event.freshPacket]
  | _ => simp [sessionStep, Event.freshPacket]

/-- Access units are numbered by their place in the session. -/
theorem unitCount_eq (server : RtpServer) : server.unitCount = server.units.length := by
  rw [unitCount, units, session]
  induction server.log using List.reverseRecOn with
  | nil => rfl
  | append_singleton log event inductionHypothesis =>
      rw [List.foldl_append, List.foldl_append, inductionHypothesis]
      cases event <;> simp [sessionStep, Event.broadcastUnit]

/-! ## The line in front of the wire -/

def shape (unit : VideoUnit) : Shape := ⟨unit.packets.length, unit.keyframe⟩

def FreshPacket.part (sent : FreshPacket) : Part := ⟨sent.unit, sent.index⟩

def VideoFrame.parts (frame : VideoFrame) : List Part := partsOf frame.unit frame.packets.length

/-- What the sender has still to send of the frame in its hands. -/
def Flight.parts (flight : Flight) : List Part := flight.frame.parts.drop flight.next

/-- What the sender holds counts for as long as its generation is current. -/
def inHand (server : RtpServer) : List Part :=
  match server.sender.flight with
  | some flight => if flight.frame.generation = server.sendGeneration then flight.parts else []
  | none => []

def queued (server : RtpServer) : List Part := server.inHand ++ server.sendQ.flatMap VideoFrame.parts

def line (server : RtpServer) : Line where
  units := server.units.map shape
  sent := server.wire.map FreshPacket.part
  pending := if server.peerStreaming then server.queued else []
  closed := server.awaitingKeyframe || !server.peerStreaming

/-- The frame carries an access unit of the session. -/
def Carries (server : RtpServer) (frame : VideoFrame) : Prop :=
  ∃ unit, server.units[frame.unit]? = some unit ∧
    frame.packets.map MediaPacket.bytes = unit.packets ∧ frame.deadline = unit.deadline

/-- The packet on the wire is the one of its access unit, and in time. -/
def Genuine (units : List VideoUnit) (sent : FreshPacket) : Prop :=
  ∃ unit, units[sent.unit]? = some unit ∧ unit.packets[sent.index]? = some sent.packet.bytes ∧
    sent.deadline = unit.deadline ∧ sent.sentAt < unit.deadline

structure Lined (server : RtpServer) : Prop where
  wellFormed : server.line.WellFormed
  generations : ∀ frame ∈ server.sendQ, frame.generation = server.sendGeneration
  idle : server.signaling.served.isSome = true → server.peerStreaming = false →
    server.sendQ = [] ∧ server.awaitingKeyframe = true ∧
      ∀ flight, server.sender.flight = some flight → flight.frame.generation ≠ server.sendGeneration
  carried : server.peerStreaming = true → ∀ frame ∈ server.frames,
    frame.generation = server.sendGeneration → server.Carries frame
  genuine : ∀ sent ∈ server.wire, Genuine server.units sent

theorem lined_start (config : Config) : Lined (start config) where
  wellFormed := wellFormed_empty
  generations := by
    intro frame impossible
    cases impossible
  idle := by
    intro impossible
    cases impossible
  carried := by
    intro impossible
    cases impossible
  genuine := by
    intro sent impossible
    cases impossible

section Outdated

variable {server : RtpServer} (empty : server.sendQ = [])
  (outdated : ∀ flight, server.sender.flight = some flight → flight.frame.generation ≠ server.sendGeneration)
include empty outdated

/-- Nothing is queued when the frame in hand has been cancelled. -/
theorem queued_of_outdated : server.queued = [] := by
  have nothing : server.inHand = [] := by
    rw [inHand]
    split
    · rename_i flight isFlight
      exact if_neg (outdated flight isFlight)
    · rfl
  rw [queued, nothing, empty]
  rfl

theorem frames_outdated : ∀ frame ∈ server.frames, frame.generation ≠ server.sendGeneration := by
  intro frame member
  rcases List.mem_append.mp member with held | impossible
  · obtain ⟨flight, isFlight, rfl⟩ := Option.map_eq_some_iff.mp (Option.mem_toList.mp held)
    exact outdated flight isFlight
  · rw [empty] at impossible
    cases impossible

end Outdated

/-! ## Steps that leave the line alone -/

/-- The line is the same, although other parts of the state may have changed. -/
structure SameLine (server next : RtpServer) : Prop where
  units : next.units = server.units
  wire : next.wire = server.wire
  flight : next.sender.flight = server.sender.flight
  sendQ : next.sendQ = server.sendQ
  sendGeneration : next.sendGeneration = server.sendGeneration
  awaitingKeyframe : next.awaitingKeyframe = server.awaitingKeyframe
  peerStreaming : next.peerStreaming = server.peerStreaming
  served : next.signaling.served.isSome = true → server.signaling.served.isSome = true

theorem SameLine.line_eq {server next : RtpServer} (same : SameLine server next) : next.line = server.line := by
  rw [line, line, queued, queued, inHand, inHand, same.units, same.wire, same.flight, same.sendQ,
    same.sendGeneration, same.awaitingKeyframe, same.peerStreaming]

theorem SameLine.frames_eq {server next : RtpServer} (same : SameLine server next) :
    next.frames = server.frames := by
  rw [frames, frames, same.flight, same.sendQ]

theorem Lined.same {server next : RtpServer} (lined : server.Lined) (same : SameLine server next) : next.Lined where
  wellFormed := same.line_eq ▸ lined.wellFormed
  generations := by
    rw [same.sendQ, same.sendGeneration]
    exact lined.generations
  idle := by
    intro served streaming
    rw [same.sendQ, same.awaitingKeyframe, same.flight, same.sendGeneration]
    exact lined.idle (same.served served) (same.peerStreaming ▸ streaming)
  carried := by
    intro streaming frame member current
    rw [same.frames_eq] at member
    rw [Carries, same.units]
    exact lined.carried (same.peerStreaming ▸ streaming) frame member (same.sendGeneration ▸ current)
  genuine := by
    rw [same.wire, same.units]
    exact lined.genuine

theorem SameLine.trans {first second third : RtpServer} (left : SameLine first second)
    (right : SameLine second third) : SameLine first third where
  units := right.units.trans left.units
  wire := right.wire.trans left.wire
  flight := right.flight.trans left.flight
  sendQ := right.sendQ.trans left.sendQ
  sendGeneration := right.sendGeneration.trans left.sendGeneration
  awaitingKeyframe := right.awaitingKeyframe.trans left.awaitingKeyframe
  peerStreaming := right.peerStreaming.trans left.peerStreaming
  served := fun served => left.served (right.served served)

/-- An event that is neither a connect nor about a video packet. -/
theorem sameLine_record (server : RtpServer) {event : Event} (goesOn : ∀ peer, event ≠ .connected peer)
    (noUnit : event.broadcastUnit = none) (noPacket : event.freshPacket = none) :
    SameLine server (server.record event) where
  units := by
    rw [units_record server event goesOn, noUnit]
    exact List.append_nil _
  wire := by
    rw [wire_record server event goesOn, noPacket]
    exact List.append_nil _
  flight := rfl
  sendQ := rfl
  sendGeneration := rfl
  awaitingKeyframe := rfl
  peerStreaming := rfl
  served := id

theorem sameLine_refl (server : RtpServer) : SameLine server server :=
  ⟨rfl, rfl, rfl, rfl, rfl, rfl, rfl, id⟩

theorem sameLine_setStreamRate (server : RtpServer) (config : Config) (kbps : Int) :
    SameLine server (server.setStreamRate config kbps) := by
  rw [setStreamRate]
  split
  · exact sameLine_record server (fun _ => Event.noConfusion) rfl rfl
  · exact sameLine_refl server

/-! ## The signaling thread -/

/-- A connection begins a session of its own. -/
theorem Lined.accept {server : RtpServer} (lined : server.Lined) (peer : SockAddr) :
    ({ server with signaling := .connecting peer }.connect peer).Lined := by
  have fresh : ({ server with signaling := .connecting peer }.connect peer).session = [] := by
    rw [connect, session_record]
    rfl
  have noUnits : ({ server with signaling := .connecting peer }.connect peer).units = [] := by
    rw [units, fresh]
    rfl
  have noPackets : ({ server with signaling := .connecting peer }.connect peer).wire = [] := by
    rw [wire, fresh]
    rfl
  constructor
  case wellFormed =>
    have empty : ({ server with signaling := .connecting peer }.connect peer).line = DependencyChain.empty := by
      rw [line, noUnits, noPackets]
      exact congrArg (Line.mk [] [] []) (Bool.or_true _)
    exact empty ▸ wellFormed_empty
  case generations => exact lined.generations
  case idle =>
    intro impossible
    cases impossible
  case carried =>
    intro impossible
    cases impossible
  case genuine =>
    rw [noPackets]
    intro sent impossible
    cases impossible

/-- Without streaming nothing is in front of the wire. -/
theorem line_of_not_streaming {server : RtpServer} (stopped : server.peerStreaming = false) :
    server.line = ⟨server.units.map shape, server.wire.map FreshPacket.part, [], true⟩ := by
  rw [line, stopped]
  exact congrArg (Line.mk _ _ []) (Bool.or_true _)

theorem Lined.stop {server next : RtpServer} (lined : server.Lined) (units : next.units = server.units)
    (wire : next.wire = server.wire) (stopped : next.peerStreaming = false) : next.line.WellFormed := by
  rw [line_of_not_streaming stopped, units, wire]
  exact lined.wellFormed.drop

theorem Lined.disconnect {server : RtpServer} (lined : server.Lined) (config : Config) (peer : SockAddr)
    (again : Bool) : ({ server with signaling := .leaving peer again }.disconnect config).Lined := by
  rw [RtpServer.disconnect]
  refine Lined.same ?_ ((sameLine_setStreamRate _ config 0).trans
    (sameLine_record _ (fun _ => Event.noConfusion) rfl rfl))
  constructor
  case wellFormed => exact lined.stop rfl rfl rfl
  case generations => exact lined.generations
  case idle =>
    intro impossible
    cases impossible
  case carried =>
    intro impossible
    cases impossible
  case genuine => exact lined.genuine

/-- A reset empties the queue, and the generation passes what the sender holds. -/
theorem Lined.reset {server : RtpServer} (lined : server.Lined) (belongs : server.Belongs)
    (unserved : server.signaling.served = none) (signaling : Signaling) :
    { server.resetVideoQueue with signaling := signaling }.Lined := by
  have stopped : server.peerStreaming = false := by
    rw [Bool.eq_false_iff]
    intro streaming
    have served := belongs.served streaming
    rw [unserved] at served
    cases served
  constructor
  case wellFormed => exact lined.stop rfl rfl stopped
  case generations =>
    intro frame impossible
    cases impossible
  case idle =>
    refine fun _ _ => ⟨rfl, rfl, fun flight isFlight => ?_⟩
    have held : flight.frame ∈ server.frames := by
      refine List.mem_append_left _ (Option.mem_toList.mpr ?_)
      rw [show server.sender.flight = some flight from isFlight]
      rfl
    exact (Nat.lt_succ_of_le (belongs.frames _ held).1).ne
  case carried =>
    intro streaming
    exact absurd (stopped.symm.trans streaming) Bool.noConfusion
  case genuine => exact lined.genuine

theorem Lined.afterReset {server next : RtpServer} (lined : server.Lined) (belongs : server.Belongs)
    (config : Config) (reset : server.afterReset config = some next) : next.Lined := by
  rw [RtpServer.afterReset] at reset
  split at reset
  · rename_i peer position
    cases reset
    refine Lined.same (lined.reset belongs ?_ (.serving peer))
      (sameLine_record _ (fun _ => Event.noConfusion) rfl rfl)
    rw [position]
    rfl
  · rename_i peer position
    cases reset
    refine lined.reset belongs ?_ (.departing peer)
    rw [position]
    rfl
  · rename_i peer position
    cases reset
    refine lined.reset belongs ?_ .listening
    rw [position]
    rfl
  · cases reset

/-- Streaming begins with an empty line and a closed gate. -/
theorem Lined.onReady {server : RtpServer} (lined : server.Lined) (config : Config) {peer : SockAddr}
    (position : server.signaling = .serving peer) (body : List UInt8) :
    (server.onReady config peer body).Lined := by
  have served : server.signaling.served.isSome = true := by
    rw [position]
    rfl
  rw [RtpServer.onReady]
  split
  · exact lined
  rename_i port parsed
  simp only
  split
  · exact lined.same ⟨rfl, rfl, rfl, rfl, rfl, rfl, rfl, id⟩
  refine Lined.same ?_ ((sameLine_setStreamRate _ config _).trans
    (sameLine_record _ (fun _ => Event.noConfusion) rfl rfl))
  cases streaming : server.peerStreaming with
  | true => exact lined.same ⟨rfl, rfl, rfl, rfl, rfl, rfl, streaming.symm, fun _ => served⟩
  | false =>
      obtain ⟨empty, gate, outdated⟩ := lined.idle served streaming
      constructor
      case wellFormed =>
        have same : { server with
            readyPort := some port
            peerUdp := { server.peerUdp with port := port }
            peerStreaming := true
            signaling := .requesting peer }.line = server.line := by
          rw [line_of_not_streaming streaming, line]
          exact congrArg₂ (Line.mk _ _) (queued_of_outdated empty outdated) (by rw [gate]; rfl)
        exact same ▸ lined.wellFormed
      case generations => exact lined.generations
      case idle =>
        intro _ impossible
        cases impossible
      case carried => exact fun _ frame member current => absurd current (frames_outdated empty outdated frame member)
      case genuine => exact lined.genuine

theorem Lined.onMessage {server : RtpServer} (lined : server.Lined) (config : Config) {peer : SockAddr}
    (position : server.signaling = .serving peer) (message : Signal.Message) :
    (server.onMessage config peer message).Lined := by
  cases kind : message.type <;> simp only [RtpServer.onMessage, kind]
  case ready => exact lined.onReady config position message.body
  case bye => exact lined.disconnect config peer true
  all_goals exact lined

/-! ## The capture thread -/

/-- Shedding the queue drops the line. -/
theorem Lined.dropVideoQueue {server : RtpServer} (lined : server.Lined) (belongs : server.Belongs) :
    server.dropVideoQueue.Lined := by
  have outdated : ∀ flight, server.sender.flight = some flight →
      flight.frame.generation ≠ server.sendGeneration + 1 := by
    intro flight isFlight
    have held : flight.frame ∈ server.frames := by
      refine List.mem_append_left _ (Option.mem_toList.mpr ?_)
      rw [isFlight]
      rfl
    exact (Nat.lt_succ_of_le (belongs.frames _ held).1).ne
  have nothing : server.dropVideoQueue.queued = [] := queued_of_outdated rfl outdated
  constructor
  case wellFormed =>
    have dropped : server.dropVideoQueue.line = { server.line with pending := [], closed := true } := by
      rw [line, nothing, ite_self]
      rfl
    exact dropped ▸ lined.wellFormed.drop
  case generations =>
    intro frame impossible
    cases impossible
  case idle =>
    exact fun _ _ => ⟨rfl, rfl, outdated⟩
  case carried => exact fun _ frame member current => absurd current (frames_outdated rfl outdated frame member)
  case genuine => exact lined.genuine

/-- More access units leave what is known of the earlier ones. -/
theorem Genuine.grow {units : List VideoUnit} {sent : FreshPacket} (more : List VideoUnit)
    (genuine : Genuine units sent) : Genuine (units ++ more) sent := by
  obtain ⟨unit, found, rest⟩ := genuine
  refine ⟨unit, ?_, rest⟩
  rw [List.getElem?_append_left (List.getElem?_eq_some_iff.mp found).1]
  exact found

theorem units_broadcast (server : RtpServer) (unit : VideoUnit) :
    (server.record (.broadcast unit)).units = server.units ++ [unit] :=
  units_record server _ (fun _ => Event.noConfusion)

theorem wire_broadcast (server : RtpServer) (unit : VideoUnit) :
    (server.record (.broadcast unit)).wire = server.wire := by
  rw [wire_record server _ (fun _ => Event.noConfusion)]
  exact List.append_nil _

theorem Carries.broadcast {server : RtpServer} {frame : VideoFrame} (carries : server.Carries frame)
    (unit : VideoUnit) : (server.record (.broadcast unit)).Carries frame := by
  obtain ⟨own, found, rest⟩ := carries
  refine ⟨own, ?_, rest⟩
  rw [units_broadcast, List.getElem?_append_left (List.getElem?_eq_some_iff.mp found).1]
  exact found

/-- An access unit that is turned away is a unit of the line. -/
theorem Lined.refuse {server next : RtpServer} (lined : server.Lined) (streaming : server.peerStreaming = true)
    (gate : server.awaitingKeyframe = true) (unit : VideoUnit)
    (same : SameLine (server.record (.broadcast unit)) next) : next.Lined := by
  refine Lined.same ?_ same
  constructor
  case wellFormed =>
    have closed : server.line.closed = true := by
      rw [line, gate]
      rfl
    have refused := lined.wellFormed.refuse (shape unit) closed
    have isLine : (server.record (.broadcast unit)).line =
        { server.line with units := server.line.units ++ [shape unit] } := by
      rw [line, units_broadcast, wire_broadcast, List.map_append]
      rfl
    exact isLine ▸ refused
  case generations => exact lined.generations
  case idle => exact lined.idle
  case carried => exact fun _ frame member current => (lined.carried streaming frame member current).broadcast unit
  case genuine =>
    rw [wire_broadcast, units_broadcast]
    exact fun sent member => (lined.genuine sent member).grow [unit]

/-- An access unit that is queued joins the line. -/
theorem Lined.enqueue {server : RtpServer} (lined : server.Lined)
    (streaming : server.peerStreaming = true) (unit : VideoUnit) (filled : unit.packets ≠ [])
    (fits : kMaxQueuedPackets < unit.packets.length → server.awaitingKeyframe = true) :
    ((server.record (.broadcast unit)).enqueue unit server.units.length).Lined := by
  rw [RtpServer.enqueue]
  split
  · rename_i turnedAway
    have gate : server.awaitingKeyframe = true := by
      rcases Bool.or_eq_true _ _ ▸ turnedAway with closed | large
      · exact (Bool.and_eq_true_iff.mp closed).1
      · exact fits (of_decide_eq_true large)
    exact lined.refuse streaming gate unit ⟨rfl, rfl, rfl, rfl, rfl, gate.symm, rfl, id⟩
  rename_i admitted
  simp only [Bool.or_eq_true, Bool.and_eq_true, Bool.not_eq_true', not_or, not_and, Bool.not_eq_false] at admitted
  have found : (server.units ++ [unit])[server.units.length]? = some unit := by
    rw [List.getElem?_append_right (Nat.le_refl _), Nat.sub_self]
    rfl
  generalize isFrame : (⟨unit.packets.map (fun bytes => ⟨bytes, (server.record (.broadcast unit)).connection⟩),
    unit.deadline, (server.record (.broadcast unit)).sendGeneration, server.units.length⟩ : VideoFrame) = frame
  have parts : frame.parts = partsOf server.line.units.length (shape unit).size := by
    rw [← isFrame, VideoFrame.parts, List.length_map, line, List.length_map]
    rfl
  have outgoing : server.line.pending = server.queued := by
    rw [line, streaming]
    rfl
  constructor
  case wellFormed =>
    have passes : server.line.closed = true → (shape unit).independent = true := by
      intro closed
      rw [line, streaming, Bool.not_true, Bool.or_false] at closed
      exact admitted.1 closed
    have joined := lined.wellFormed.enter (shape unit) (List.length_pos_of_ne_nil filled) passes
    rw [← parts, outgoing] at joined
    have isLine : { server.record (.broadcast unit) with
        awaitingKeyframe := false
        queuedPackets := (server.record (.broadcast unit)).queuedPackets + unit.packets.length
        sendQ := (server.record (.broadcast unit)).sendQ ++ [frame] }.line =
          ⟨server.line.units ++ [shape unit], server.line.sent, server.queued ++ frame.parts, false⟩ := by
      have queue : server.queued ++ frame.parts =
          server.inHand ++ (server.sendQ ++ [frame]).flatMap VideoFrame.parts := by
        rw [queued, List.flatMap_append, List.flatMap_singleton, List.append_assoc]
      have shapes : server.line.units ++ [shape unit] = (server.record (.broadcast unit)).units.map shape := by
        rw [units_broadcast, List.map_append]
        rfl
      have sent : server.line.sent = (server.record (.broadcast unit)).wire.map FreshPacket.part := by
        rw [wire_broadcast]
        rfl
      rw [queue, shapes, sent, line]
      simp only [RtpServer.record, streaming]
      rfl
    exact isLine ▸ joined
  case generations =>
    intro other member
    rcases List.mem_append.mp member with older | own
    · exact lined.generations other older
    · rw [List.mem_singleton.mp own, ← isFrame]
  case idle =>
    intro _ stopped
    exact absurd (streaming.symm.trans stopped) Bool.noConfusion
  case carried =>
    intro _ other member current
    have known : ∀ held, held ∈ server.frames → held.generation = server.sendGeneration →
        (server.record (.broadcast unit)).Carries held :=
      fun held isHeld now => (lined.carried streaming held isHeld now).broadcast unit
    rcases List.mem_append.mp member with inHand | waiting
    · exact known other (List.mem_append_left _ inHand) current
    · rcases List.mem_append.mp waiting with older | own
      · exact known other (List.mem_append_right _ older) current
      · rw [List.mem_singleton.mp own, ← isFrame]
        refine ⟨unit, ?_, ?_, rfl⟩
        · exact (units_broadcast server unit).symm ▸ found
        · rw [List.map_map]
          exact List.map_id _
  case genuine =>
    intro sent member
    have older : sent ∈ server.wire := wire_broadcast server unit ▸ member
    have grown := (lined.genuine sent older).grow [unit]
    rw [← units_broadcast] at grown
    exact grown

theorem Lined.broadcastVideo {server : RtpServer} (lined : server.Lined) (belongs : server.Belongs)
    (config : Config) (started now : Time) (data : List UInt8) (ptsUsec : Int64) (keyframe : Bool) :
    (server.broadcastVideo config started now data ptsUsec keyframe).Lined := by
  rw [RtpServer.broadcastVideo]
  simp only
  split
  · exact lined
  rename_i streaming
  rw [Bool.not_eq_true', Bool.not_eq_false] at streaming
  split
  · rename_i turnedAway
    exact lined.refuse streaming (Bool.and_eq_true_iff.mp turnedAway).1 _ (sameLine_refl _)
  have packedLined : { server with
      videoPacker := (packetize config.h265 server.videoPacker data ptsUsec).2 }.Lined :=
    lined.same ⟨rfl, rfl, rfl, rfl, rfl, rfl, rfl, id⟩
  have packedBelongs : { server with
      videoPacker := (packetize config.h265 server.videoPacker data ptsUsec).2 }.Belongs :=
    belongs.same ⟨rfl, rfl, rfl, rfl, rfl, rfl, rfl, rfl, rfl, rfl, rfl, rfl⟩
  split
  · exact packedLined
  rename_i nonempty
  have filled : (packetize config.h265 server.videoPacker data ptsUsec).1 ≠ [] := by
    rw [ne_eq, ← List.isEmpty_iff]
    exact nonempty
  generalize isPacked : { server with
    videoPacker := (packetize config.h265 server.videoPacker data ptsUsec).2 } = packed at packedLined packedBelongs ⊢
  have number : server.unitCount = packed.units.length := by
    rw [unitCount_eq, ← isPacked]
    rfl
  have open' : packed.peerStreaming = true := by
    rw [← isPacked]
    exact streaming
  rw [number]
  split
  · exact (packedLined.dropVideoQueue packedBelongs).enqueue open' _ filled (fun _ => rfl)
  · rename_i within
    refine packedLined.enqueue open' _ filled (fun large => ?_)
    rw [overflows, Bool.or_eq_true, not_or, decide_eq_true_iff] at within
    have small := within.2
    have isLarge : kMaxQueuedPackets < (packetize config.h265 server.videoPacker data ptsUsec).1.length := large
    omega

/-! ## The sender thread -/

theorem Lined.takeRepair {server : RtpServer} (lined : server.Lined) {flight : Option Flight} {done : Nat}
    (position : server.sender = .repairing flight done) : (server.takeRepair flight done).Lined := by
  have held : server.sender.flight = flight := by
    rw [position]
    rfl
  have leave : SameLine server { server with sender := repaired flight } :=
    ⟨rfl, rfl, by rw [held, flight_repaired], rfl, rfl, rfl, rfl, id⟩
  rw [RtpServer.takeRepair]
  split
  · split
    · exact lined.same leave
    · exact lined.same ⟨rfl, rfl, held.symm, rfl, rfl, rfl, rfl, id⟩
  · exact lined.same leave

theorem Lined.sendRepair {server : RtpServer} (lined : server.Lined) {flight : Option Flight} {done : Nat}
    {repair : RepairPacket} (position : server.sender = .holding flight done repair) (paced : Bool)
    (now : Time) (sent : Bool) : (server.sendRepair flight done repair paced now sent).Lined := by
  have held : server.sender.flight = flight := by
    rw [position]
    rfl
  have onward : SameLine server { server with sender := .repairing flight (done + 1) } :=
    ⟨rfl, rfl, held.symm, rfl, rfl, rfl, rfl, id⟩
  rcases server.sendRepair_cases flight done repair paced now sent with passed | ⟨_, _, _, left⟩
  · exact passed ▸ lined.same onward
  · exact left ▸ lined.same (onward.trans (sameLine_record _ (fun _ => Event.noConfusion) rfl rfl))

theorem parts_cons {flight : Flight} (more : flight.next < flight.frame.packets.length) :
    flight.parts = ⟨flight.frame.unit, flight.next⟩ :: Flight.parts { flight with next := flight.next + 1 } := by
  rw [Flight.parts, Flight.parts, VideoFrame.parts, partsOf, List.drop_eq_getElem_cons (by simpa using more)]
  simp

theorem inHand_of_current {server : RtpServer} {flight : Flight} (held : server.sender.flight = some flight)
    (current : flight.frame.generation = server.sendGeneration) : server.inHand = flight.parts := by
  rw [inHand, held]
  exact if_pos current

/-- Behind the head of the loop the sender holds what is left of the frame. -/
theorem inHand_continueWith {server : RtpServer} (flight : Flight)
    (position : server.sender = continueWith flight)
    (current : flight.frame.generation = server.sendGeneration) : server.inHand = flight.parts := by
  rw [inHand, position, continueWith]
  by_cases more : flight.next < flight.frame.packets.length
  · rw [if_pos more]
    exact if_pos current
  · rw [if_neg more, Flight.parts, List.drop_eq_nil_of_le]
    · rfl
    · rw [VideoFrame.parts, partsOf, List.length_map, List.length_range]
      omega

theorem Lined.popFrame {server : RtpServer} (lined : server.Lined) (position : server.sender = .popping) :
    server.popFrame.Lined := by
  have none : server.sender.flight = none := by
    rw [position]
    rfl
  rw [RtpServer.popFrame]
  split
  · exact lined.same ⟨rfl, rfl, none.symm, rfl, rfl, rfl, rfl, id⟩
  rename_i front rest contents
  have current : front.generation = server.sendGeneration :=
    lined.generations front (by rw [contents]; exact List.mem_cons_self)
  have held : { server with
      sendQ := rest
      queuedPackets := sizeSub server.queuedPackets front.packets.length
      sender := continueWith ⟨front, 0⟩ }.inHand = front.parts :=
    inHand_continueWith ⟨front, 0⟩ rfl current
  have nothing : server.inHand = [] := by
    rw [inHand, none]
  constructor
  case wellFormed =>
    have same : { server with
        sendQ := rest
        queuedPackets := sizeSub server.queuedPackets front.packets.length
        sender := continueWith ⟨front, 0⟩ }.line = server.line := by
      have queue : server.queued = { server with
          sendQ := rest
          queuedPackets := sizeSub server.queuedPackets front.packets.length
          sender := continueWith ⟨front, 0⟩ }.queued := by
        rw [queued, queued, held, nothing, contents, List.flatMap_cons, List.nil_append]
      rw [line, line, queue]
      rfl
    exact same ▸ lined.wellFormed
  case generations =>
    intro frame member
    refine lined.generations frame ?_
    rw [contents]
    exact List.mem_cons_of_mem _ member
  case idle =>
    intro served stopped
    have impossible := (lined.idle served stopped).1
    rw [contents] at impossible
    cases impossible
  case carried =>
    intro streaming frame member now
    refine lined.carried streaming frame (List.mem_append_right _ ?_) now
    rw [contents]
    rcases List.mem_append.mp member with taken | waiting
    · obtain ⟨flight, isFlight, rfl⟩ := Option.map_eq_some_iff.mp (Option.mem_toList.mp taken)
      rw [flight_continueWith isFlight]
      exact List.mem_cons_self
    · exact List.mem_cons_of_mem _ waiting
  case genuine => exact lined.genuine

section SendPacket

variable {server : RtpServer} {flight : Flight} (lined : server.Lined)
include lined

/-- A frame that was cancelled is not part of the line. -/
theorem Lined.leave (held : server.sender.flight = some flight)
    (outdated : server.peerStreaming = true → flight.frame.generation ≠ server.sendGeneration) :
    { server with sender := .waiting }.Lined := by
  have same : { server with sender := .waiting }.line = server.line := by
    rcases Bool.eq_false_or_eq_true server.peerStreaming with streaming | stopped
    · have nothing : server.inHand = [] := by
        rw [inHand, held]
        exact if_neg (outdated streaming)
      have queue : server.queued = { server with sender := .waiting }.queued := by
        rw [queued, queued, nothing]
        rfl
      rw [line, line, queue]
      rfl
    · rw [line_of_not_streaming stopped]
      exact line_of_not_streaming stopped
  constructor
  case wellFormed => exact same ▸ lined.wellFormed
  case generations => exact lined.generations
  case idle =>
    intro served stopped
    obtain ⟨empty, gate, _⟩ := lined.idle served stopped
    refine ⟨empty, gate, ?_⟩
    intro other impossible
    cases impossible
  case carried => exact fun streaming frame member => lined.carried streaming frame (List.mem_append_right _ member)
  case genuine => exact lined.genuine

/-- Sending the next packet moves the head of the line to the wire. -/
theorem Lined.put (held : server.sender.flight = some flight) (streaming : server.peerStreaming = true)
    (generation : flight.frame.generation = server.sendGeneration) {packet : MediaPacket}
    (found : flight.frame.packets[flight.next]? = some packet) {now : Time} (inTime : now < flight.frame.deadline)
    (recorded : Time) :
    ({ server with
      videoRetx := server.videoRetx.record recorded (seqOf packet.bytes) packet
      sender := continueWith { flight with next := flight.next + 1 } }.record
        (.fresh ⟨flight.frame.unit, flight.next, packet, flight.frame.deadline, now, server.peerUdp⟩)).Lined := by
  have listed : flight.frame ∈ server.frames := by
    refine List.mem_append_left _ (Option.mem_toList.mpr ?_)
    rw [held]
    rfl
  generalize isFresh : (⟨flight.frame.unit, flight.next, packet, flight.frame.deadline, now, server.peerUdp⟩ :
    FreshPacket) = fresh
  generalize isOnward : { server with
    videoRetx := server.videoRetx.record recorded (seqOf packet.bytes) packet
    sender := continueWith { flight with next := flight.next + 1 } } = onward
  have goesOn : ∀ peer, Event.fresh fresh ≠ .connected peer := fun _ => Event.noConfusion
  have units : (onward.record (.fresh fresh)).units = server.units := by
    rw [units_record onward _ goesOn, ← isOnward]
    exact List.append_nil _
  have wire : (onward.record (.fresh fresh)).wire = server.wire ++ [fresh] := by
    rw [wire_record onward _ goesOn, ← isOnward]
    rfl
  constructor
  case wellFormed =>
    have outgoing : server.line.pending = ⟨flight.frame.unit, flight.next⟩ ::
        (Flight.parts { flight with next := flight.next + 1 } ++ server.sendQ.flatMap VideoFrame.parts) := by
      rw [line, streaming, if_pos rfl, queued, inHand_of_current held generation,
        parts_cons (List.getElem?_eq_some_iff.mp found).1, List.cons_append]
    have moved := lined.wellFormed.send outgoing
    have isLine : (onward.record (.fresh fresh)).line =
        { server.line with
          sent := server.line.sent ++ [⟨flight.frame.unit, flight.next⟩]
          pending := Flight.parts { flight with next := flight.next + 1 } ++
            server.sendQ.flatMap VideoFrame.parts } := by
      have rest : (onward.record (.fresh fresh)).inHand = Flight.parts { flight with next := flight.next + 1 } := by
        rw [← isOnward]
        exact inHand_continueWith _ rfl generation
      have queue : (onward.record (.fresh fresh)).queued =
          Flight.parts { flight with next := flight.next + 1 } ++ server.sendQ.flatMap VideoFrame.parts := by
        rw [queued, rest, ← isOnward]
        rfl
      have part : fresh.part = ⟨flight.frame.unit, flight.next⟩ := by
        rw [← isFresh]
        rfl
      have open' : (onward.record (.fresh fresh)).peerStreaming = true := by
        rw [← isOnward]
        exact streaming
      have gate : (onward.record (.fresh fresh)).awaitingKeyframe = server.awaitingKeyframe := by
        rw [← isOnward]
        rfl
      rw [line, units, wire, queue, open', if_pos rfl, gate, List.map_append, List.map_singleton, part, line,
        streaming]
    exact isLine ▸ moved
  case generations =>
    rw [← isOnward]
    exact lined.generations
  case idle =>
    intro _ stopped
    rw [← isOnward] at stopped
    exact absurd (streaming.symm.trans stopped) Bool.noConfusion
  case carried =>
    intro _ frame member current
    rw [Carries, units]
    rw [← isOnward] at member current
    refine lined.carried streaming frame ?_ current
    rcases List.mem_append.mp member with continued | waiting
    · obtain ⟨other, isOther, rfl⟩ := Option.map_eq_some_iff.mp (Option.mem_toList.mp continued)
      rw [flight_continueWith isOther]
      exact listed
    · exact List.mem_append_right _ waiting
  case genuine =>
    rw [units, wire]
    intro sent member
    rcases List.mem_append.mp member with older | own
    · exact lined.genuine sent older
    · obtain ⟨unit, isUnit, bytes, deadline⟩ := lined.carried streaming flight.frame listed generation
      rw [List.mem_singleton.mp own, ← isFresh]
      refine ⟨unit, isUnit, ?_, deadline, deadline ▸ inTime⟩
      rw [← bytes, List.getElem?_map, found]
      rfl

/-- Failing to send a packet drops the line. -/
theorem Lined.lose (belongs : server.Belongs) (streaming : server.peerStreaming = true) :
    { server.dropVideoQueue with sender := .requesting }.Lined := by
  have dropped := lined.dropVideoQueue belongs
  constructor
  case wellFormed =>
    have queue : { server.dropVideoQueue with sender := .requesting }.queued = [] := rfl
    have isLine : { server.dropVideoQueue with sender := .requesting }.line =
        { server.line with pending := [], closed := true } := by
      rw [line, queue, ite_self]
      rfl
    exact isLine ▸ lined.wellFormed.drop
  case generations => exact dropped.generations
  case idle =>
    intro _ stopped
    exact absurd (streaming.symm.trans stopped) Bool.noConfusion
  case carried =>
    intro _ frame impossible
    cases impossible
  case genuine => exact lined.genuine

theorem Lined.sendPacket (belongs : server.Belongs) (position : server.sender = .sending flight)
    {packet : MediaPacket} (found : flight.frame.packets[flight.next]? = some packet) (paced : Bool) (now : Time)
    (taken : Bool) (recorded : Time) : (server.sendPacket flight packet paced now taken recorded).Lined := by
  have held : server.sender.flight = some flight := by
    rw [position]
    rfl
  rcases server.sendPacket_cases flight packet paced now taken recorded with
    ⟨outdated, isNext⟩ | ⟨streaming, current, ⟨inTime, isNext⟩ | ⟨_, isNext⟩⟩
  all_goals rw [isNext]
  · exact lined.leave held outdated
  · exact lined.put held streaming current found inTime.2.1 recorded
  · exact lined.lose belongs streaming

end SendPacket

/-! ## Every step, and every run -/

theorem sameLine_retransmit (server : RtpServer) (video : Bool) (seq : UInt16) (now : Time) :
    SameLine server (server.retransmit video seq now) := by
  rcases server.retransmit_cases video seq now with same | ⟨_, _, _, _, _, _, queued⟩
  · rw [same]
    exact ⟨rfl, rfl, rfl, rfl, rfl, rfl, rfl, id⟩
  · rw [queued]
    exact ⟨rfl, rfl, rfl, rfl, rfl, rfl, rfl, id⟩

theorem sameLine_broadcastAudio (server : RtpServer) (data : List UInt8) (ptsUsec : Int64) (sent : Bool)
    (recorded : Time) : SameLine server (server.broadcastAudio data ptsUsec sent recorded) := by
  apply broadcastAudio_keeps (SameLine server)
  · exact fun _ => ⟨rfl, rfl, rfl, rfl, rfl, rfl, rfl, id⟩
  · intro _ current bytes same
    refine same.trans (SameLine.trans ?_ (sameLine_record _ (fun _ => Event.noConfusion) rfl rfl))
    exact ⟨rfl, rfl, rfl, rfl, rfl, rfl, rfl, id⟩

theorem lined_of_step {config : Config} {server next : RtpServer} (lined : server.Lined)
    (belongs : server.Belongs) {action : Action} (stepped : step config server action = some next) :
    next.Lined := by
  cases stepped_of_step stepped with
  | accept peer => exact lined.accept peer
  | resetVideoQueue reset => exact lined.afterReset belongs config reset
  | message message position => exact lined.onMessage config position message
  | hangUp => exact lined.disconnect config _ false
  | signalingRequest position =>
      refine lined.same (SameLine.trans ?_ (sameLine_record _ (fun _ => Event.noConfusion) rfl rfl))
      refine ⟨rfl, rfl, rfl, rfl, rfl, rfl, rfl, fun _ => ?_⟩
      rw [position]
      rfl
  | setPacingBitrate =>
      rw [RtpServer.setPacingBitrate]
      split
      · exact lined
      · refine lined.same (SameLine.trans ?_ (sameLine_setStreamRate _ config _))
        exact ⟨rfl, rfl, rfl, rfl, rfl, rfl, rfl, id⟩
  | broadcastVideo started now data ptsUsec keyframe =>
      exact lined.broadcastVideo belongs config started now data ptsUsec keyframe
  | captureRequest =>
      refine lined.same (SameLine.trans ?_ (sameLine_record _ (fun _ => Event.noConfusion) rfl rfl))
      exact ⟨rfl, rfl, rfl, rfl, rfl, rfl, rfl, id⟩
  | broadcastAudio data ptsUsec sent recorded =>
      exact lined.same (sameLine_broadcastAudio server data ptsUsec sent recorded)
  | wake position =>
      refine lined.same ⟨rfl, rfl, ?_, rfl, rfl, rfl, rfl, id⟩
      rw [position]
      rfl
  | takeRepair position => exact lined.takeRepair position
  | sendRepair paced now sent position => exact lined.sendRepair position paced now sent
  | popFrame position => exact lined.popFrame position
  | sendPacket paced now taken recorded position found =>
      exact lined.sendPacket belongs position found paced now taken recorded
  | senderRequest position =>
      refine lined.same (SameLine.trans ?_ (sameLine_record _ (fun _ => Event.noConfusion) rfl rfl))
      refine ⟨rfl, rfl, ?_, rfl, rfl, rfl, rfl, id⟩
      rw [position]
      rfl
  | receiveRtcp =>
      rw [RtpServer.receiveRtcp]
      split
      · exact lined
      · exact lined.same ⟨rfl, rfl, rfl, rfl, rfl, rfl, rfl, id⟩
  | @handleEvent event rest now =>
      have taken : { server with rtcp := rest }.Lined := lined.same ⟨rfl, rfl, rfl, rfl, rfl, rfl, rfl, id⟩
      cases event with
      | keyframeRequest => exact taken.same (sameLine_record _ (fun _ => Event.noConfusion) rfl rfl)
      | retransmit video seq => exact taken.same (sameLine_retransmit _ video seq now)
      | fractionLost octet => exact taken

theorem lined_of_run {config : Config} {actions : List Action} {server : RtpServer}
    (reached : run config actions = some server) : server.Lined := by
  have preserved : ∀ state action next, state.Belongs ∧ state.Lined →
      step config state action = some next → next.Belongs ∧ next.Lined :=
    fun _ _ _ holds stepped => ⟨holds.1.step stepped, lined_of_step holds.2 holds.1 stepped⟩
  exact (run_invariant preserved ⟨belongs_start config, lined_start config⟩ reached).2

end RtpServer
end MetaShare
