import MetaShare.Server.Window

namespace MetaShare
namespace RtpServer

open Rtp Transitions

/-!
# What a session puts on the wire

The access units of a session take consecutive numbers from the packetizer, in
the order of their broadcast and whether or not their packets are ever sent.  So
the number of a packet tells its place among all packets of the session, those
that are dropped included.
-/

/-! ## The video of the session in the log -/

/-- The session begins, an access unit is broadcast, or a packet of the video
is put on the wire. -/
def Event.isVideo : Event → Bool
  | .connected _ => true
  | .broadcast _ => true
  | .fresh _ => true
  | .repair video _ _ _ => video
  | _ => false

/-- The video packet that an event puts on the wire. -/
def Event.videoPacket : Event → Option Packet
  | .fresh sent => some sent.packet.bytes
  | .repair true packet _ _ => some packet.bytes
  | _ => none

/-- The video packets put on the wire in the session, with the repairs. -/
def transmitted (server : RtpServer) : List Packet := server.session.filterMap Event.videoPacket

theorem session_filter (log : List Event) :
    (log.foldl sessionStep []).filter Event.isVideo = (log.filter Event.isVideo).foldl sessionStep [] := by
  induction log using List.reverseRecOn with
  | nil => rfl
  | append_singleton log event inductionHypothesis =>
      rw [List.foldl_append, List.filter_append, List.foldl_append, ← inductionHypothesis]
      cases event with
      | repair video packet sentAt destination => cases video <;> simp [List.filter_cons, sessionStep, Event.isVideo]
      | _ => simp [List.filter_cons, sessionStep, Event.isVideo]

/-- What is read off the video of the session. -/
theorem filterMap_session {α : Type} (read : Event → Option α)
    (only : ∀ event, event.isVideo = false → read event = none) (server : RtpServer) :
    server.session.filterMap read =
      ((server.log.filter Event.isVideo).foldl sessionStep []).filterMap read := by
  rw [← session_filter, List.filterMap_filter]
  apply List.filterMap_congr
  intro event _
  cases video : event.isVideo with
  | false => exact only event video
  | true => rfl

/-- Nothing of the video of the session has changed, and no number was taken. -/
structure SameVideo (server next : RtpServer) : Prop where
  log : next.log.filter Event.isVideo = server.log.filter Event.isVideo
  packer : next.videoPacker = server.videoPacker

namespace SameVideo

variable {server next : RtpServer}

theorem units (same : SameVideo server next) : next.units = server.units := by
  have only : ∀ event : Event, event.isVideo = false → event.broadcastUnit = none := by
    intro event other
    cases event <;> first | rfl | cases other
  rw [RtpServer.units, filterMap_session _ only, same.log, ← filterMap_session _ only, ← RtpServer.units]

theorem wire (same : SameVideo server next) : next.wire = server.wire := by
  have only : ∀ event : Event, event.isVideo = false → event.freshPacket = none := by
    intro event other
    cases event <;> first | rfl | cases other
  rw [RtpServer.wire, filterMap_session _ only, same.log, ← filterMap_session _ only, ← RtpServer.wire]

theorem transmitted (same : SameVideo server next) : next.transmitted = server.transmitted := by
  have only : ∀ event : Event, event.isVideo = false → event.videoPacket = none := by
    intro event other
    cases event with
    | repair video packet sentAt destination =>
        cases video with
        | false => rfl
        | true => cases other
    | fresh sent => cases other
    | _ => rfl
  rw [RtpServer.transmitted, filterMap_session _ only, same.log, ← filterMap_session _ only,
    ← RtpServer.transmitted]

theorem record (same : SameVideo server next) {event : Event} (other : event.isVideo = false) :
    SameVideo server (next.record event) := by
  refine ⟨?_, same.packer⟩
  rw [RtpServer.record, List.filter_append, List.filter_cons_of_neg (by rw [other]; exact Bool.false_ne_true),
    List.filter_nil, List.append_nil]
  exact same.log

theorem setStreamRate (same : SameVideo server next) (config : Config) (kbps : Int) :
    SameVideo server (next.setStreamRate config kbps) := by
  rw [RtpServer.setStreamRate]
  split
  · exact same.record rfl
  · exact same

theorem of_eq (log : next.log = server.log) (packer : next.videoPacker = server.videoPacker) :
    SameVideo server next :=
  ⟨congrArg _ log, packer⟩

theorem disconnect (same : SameVideo server next) (config : Config) : SameVideo server (next.disconnect config) := by
  rw [RtpServer.disconnect]
  apply record
  · apply setStreamRate
    exact ⟨same.log, same.packer⟩
  · rfl

end SameVideo

/-- The steps in which a session begins, an access unit is broadcast, or a
packet of the video is sent. -/
def Action.isVideo : Action → Bool
  | .accept _ => true
  | .broadcastVideo _ _ _ _ _ => true
  | .sendRepair _ _ _ => true
  | .sendPacket _ _ _ _ => true
  | _ => false

variable {config : Config} {server next : RtpServer}

theorem sameVideo_afterReset (reset : server.afterReset config = some next) : SameVideo server next := by
  rw [afterReset] at reset
  split at reset <;> cases reset
  · apply SameVideo.record
    · exact .of_eq rfl rfl
    · rfl
  · exact .of_eq rfl rfl
  · exact .of_eq rfl rfl

theorem sameVideo_onMessage (server : RtpServer) (config : Config) (peer : SockAddr) (message : Signal.Message) :
    SameVideo server (server.onMessage config peer message) := by
  cases kind : message.type <;> simp only [onMessage, kind]
  case ready =>
    rw [onReady]
    split
    · exact .of_eq rfl rfl
    simp only
    split
    · exact .of_eq rfl rfl
    · apply SameVideo.record
      · apply SameVideo.setStreamRate
        exact .of_eq rfl rfl
      · rfl
  case bye =>
    apply SameVideo.disconnect
    exact .of_eq rfl rfl
  all_goals exact .of_eq rfl rfl

theorem sameVideo_broadcastAudio (server : RtpServer) (data : List UInt8) (ptsUsec : Int64) (sent : Bool)
    (recorded : Time) : SameVideo server (server.broadcastAudio data ptsUsec sent recorded) := by
  apply broadcastAudio_keeps (SameVideo server)
  · exact fun _ => .of_eq rfl rfl
  · intro _ current bytes same
    apply SameVideo.record
    · exact ⟨same.log, same.packer⟩
    · rfl

theorem sameVideo_retransmit (server : RtpServer) (video : Bool) (seq : UInt16) (now : Time) :
    SameVideo server (server.retransmit video seq now) := by
  apply SameVideo.of_eq (retransmit_log server video seq now)
  rcases server.retransmit_cases video seq now with same | ⟨_, _, _, _, _, _, queued⟩
  · rw [same]
  · rw [queued]

theorem sameVideo_of_step {action : Action} (stepped : step config server action = some next)
    (other : action.isVideo = false) : SameVideo server next := by
  cases stepped_of_step stepped with
  | resetVideoQueue reset => exact sameVideo_afterReset reset
  | message message => exact sameVideo_onMessage server config _ message
  | hangUp =>
      apply SameVideo.disconnect
      exact .of_eq rfl rfl
  | signalingRequest =>
      apply SameVideo.record
      · exact .of_eq rfl rfl
      · rfl
  | setPacingBitrate =>
      rw [setPacingBitrate]
      split
      · exact .of_eq rfl rfl
      · apply SameVideo.setStreamRate
        exact .of_eq rfl rfl
  | captureRequest =>
      apply SameVideo.record
      · exact .of_eq rfl rfl
      · rfl
  | broadcastAudio data ptsUsec sent recorded => exact sameVideo_broadcastAudio server data ptsUsec sent recorded
  | wake => exact .of_eq rfl rfl
  | takeRepair =>
      rw [takeRepair]
      repeat' split
      all_goals exact .of_eq rfl rfl
  | popFrame =>
      rw [popFrame]
      split <;> exact .of_eq rfl rfl
  | senderRequest =>
      apply SameVideo.record
      · exact .of_eq rfl rfl
      · rfl
  | receiveRtcp =>
      rw [receiveRtcp]
      split <;> exact .of_eq rfl rfl
  | @handleEvent event rest now =>
      cases event with
      | keyframeRequest =>
          apply SameVideo.record
          · exact .of_eq rfl rfl
          · rfl
      | retransmit video seq =>
          have same := sameVideo_retransmit { server with rtcp := rest } video seq now
          exact ⟨same.log, same.packer⟩
      | fractionLost octet => exact .of_eq rfl rfl
  | _ => exact absurd other.symm Bool.false_ne_true

/-! ## Numbers of the access units -/

theorem packetize_advance (h265 : Bool) (base : PacketizerBase) (data : List UInt8) (ptsUsec : Int64) :
    (packetize h265 base data ptsUsec).2 = base.advance (packetize h265 base data ptsUsec).1.length := by
  have general : ∀ layout : NalLayout, (layout.packetize base data ptsUsec).2 =
      base.advance (layout.packetize base data ptsUsec).1.length := by
    intro layout
    rw [layout.packetize_eq, NalLayout.framePieces_length]
  cases h265 with
  | true => exact general h265Layout
  | false => exact general h264Layout

/-- The access units were cut one after another, except those turned away
before. -/
inductive Cut (h265 : Bool) (base : PacketizerBase) : List VideoUnit → PacketizerBase → Prop where
  | nil : Cut h265 base [] base
  | turnedAway {units : List VideoUnit} {packer : PacketizerBase} (unit : VideoUnit) :
      Cut h265 base units packer → unit.packets = [] → Cut h265 base (units ++ [unit]) packer
  | packetized {units : List VideoUnit} {packer : PacketizerBase} (unit : VideoUnit) :
      Cut h265 base units packer → (packetize h265 packer unit.data unit.ptsUsec).1 = unit.packets →
      Cut h265 base (units ++ [unit]) (packetize h265 packer unit.data unit.ptsUsec).2

/-- The packets of the access units, one after another. -/
def stream (units : List VideoUnit) : List Packet := units.flatMap VideoUnit.packets

theorem stream_concat (units : List VideoUnit) (unit : VideoUnit) :
    stream (units ++ [unit]) = stream units ++ unit.packets := by
  rw [stream, List.flatMap_append, List.flatMap_singleton]
  rfl

/-- The packetizer is as many numbers ahead as there are packets. -/
theorem Cut.packer {h265 : Bool} {base packer : PacketizerBase} {units : List VideoUnit}
    (cut : Cut h265 base units packer) : packer = base.advance (stream units).length := by
  induction cut with
  | nil => exact (base.advance_zero).symm
  | turnedAway unit _ none inductionHypothesis => rw [stream_concat, none, List.append_nil, inductionHypothesis]
  | packetized unit _ same inductionHypothesis =>
      rw [packetize_advance, same, inductionHypothesis, stream_concat, List.length_append,
        PacketizerBase.advance_advance]

/-- An access unit that made packets took the numbers behind those of the
access units before it. -/
theorem Cut.unit {h265 : Bool} {base packer : PacketizerBase} {units : List VideoUnit}
    (cut : Cut h265 base units packer) {number : Nat} {unit : VideoUnit} (found : units[number]? = some unit) :
    unit.packets = [] ∨
      (packetize h265 (base.advance (stream (units.take number)).length) unit.data unit.ptsUsec).1 =
        unit.packets := by
  have last : ∀ {units : List VideoUnit} (new : VideoUnit), (units ++ [new])[number]? = some unit →
      (number < units.length ∧ units[number]? = some unit ∧ (units ++ [new]).take number = units.take number) ∨
        (new = unit ∧ (units ++ [new]).take number = units) := by
    intro units new listed
    rcases Nat.lt_trichotomy number units.length with inside | end' | beyond
    · rw [List.getElem?_append_left inside] at listed
      exact Or.inl ⟨inside, listed, List.take_append_of_le_length inside.le⟩
    · rw [end', List.getElem?_concat_length] at listed
      exact Or.inr ⟨Option.some.inj listed, by rw [end', List.take_left]⟩
    · rw [List.getElem?_eq_none (by rw [List.length_append, List.length_singleton]; omega)] at listed
      cases listed
  induction cut with
  | nil => cases found
  | turnedAway new _ none inductionHypothesis =>
      rcases last new found with ⟨_, old, same⟩ | ⟨rfl, _⟩
      · rw [same]
        exact inductionHypothesis old
      · exact Or.inl none
  | packetized new earlier made inductionHypothesis =>
      rcases last new found with ⟨_, old, same⟩ | ⟨rfl, same⟩
      · rw [same]
        exact inductionHypothesis old
      · rw [same, ← earlier.packer]
        exact Or.inr made

/-- The packets of the session are numbered consecutively. -/
theorem Cut.numbered {h265 : Bool} {base packer : PacketizerBase} {units : List VideoUnit}
    (cut : Cut h265 base units packer) : Numbered base.seq (stream units) := by
  induction cut with
  | nil => exact numbered_nil _
  | turnedAway unit _ none inductionHypothesis =>
      rw [stream_concat, none, List.append_nil]
      exact inductionHypothesis
  | @packetized units packer unit earlier made inductionHypothesis =>
      rw [stream_concat, ← made, earlier.packer]
      exact numbered_append.mpr ⟨inductionHypothesis,
        (packetize_numbered h265 (base.advance (stream units).length) unit.data unit.ptsUsec).1⟩

/-- A broadcast is ignored, or its access unit joins those of the session. -/
theorem broadcastVideo_cases (server : RtpServer) (config : Config) (started now : Time) (data : List UInt8)
    (ptsUsec : Int64) (keyframe : Bool) :
    SameVideo server (server.broadcastVideo config started now data ptsUsec keyframe) ∨
      ∃ unit, SameVideo (server.record (.broadcast unit))
          { server.broadcastVideo config started now data ptsUsec keyframe with videoPacker := server.videoPacker } ∧
        ((unit.packets = [] ∧
            (server.broadcastVideo config started now data ptsUsec keyframe).videoPacker = server.videoPacker) ∨
          ((packetize config.h265 server.videoPacker unit.data unit.ptsUsec).1 = unit.packets ∧
            (server.broadcastVideo config started now data ptsUsec keyframe).videoPacker =
              (packetize config.h265 server.videoPacker unit.data unit.ptsUsec).2)) := by
  rw [broadcastVideo]
  simp only
  split
  · exact Or.inl (.of_eq rfl rfl)
  split
  · exact Or.inr ⟨⟨data, ptsUsec, keyframe, started + kMaxSendAge, []⟩, .of_eq rfl rfl, Or.inl ⟨rfl, rfl⟩⟩
  split
  · rename_i none
    refine Or.inl (.of_eq rfl ?_)
    rw [packetize_advance, List.isEmpty_iff.mp none, List.length_nil, PacketizerBase.advance_zero]
  · refine Or.inr ⟨⟨data, ptsUsec, keyframe, started + kMaxSendAge,
      (packetize config.h265 server.videoPacker data ptsUsec).1⟩, .of_eq ?_ rfl, Or.inr ⟨rfl, ?_⟩⟩
    · split <;> simp [record, dropVideoQueue]
    · rw [enqueue]
      split <;> split <;> rfl

/-- How many repairs the sender still takes before it sends a fresh packet, as
long as there are any. -/
def Sender.credit : Sender → Nat
  | .repairing _ done => kRepairsPerPacket - done
  | .holding _ done _ => kRepairsPerPacket - (done + 1)
  | .popping => 0
  | .sending _ => 0
  | .waiting => kRepairsPerPacket
  | .requesting => kRepairsPerPacket

theorem Sender.credit_le (sender : Sender) : sender.credit ≤ 4 := by
  cases sender <;> simp only [credit, kRepairsPerPacket] <;> omega

/-- What a step does to the video of the session. -/
inductive VideoStep (config : Config) (server next : RtpServer) : Prop where
  | same (unchanged : SameVideo server next)
  | connected (peer : SockAddr) (begun : SameVideo (server.record (.connected peer)) next)
      (stopped : next.peerStreaming = false)
  | broadcast (unit : VideoUnit)
      (joined : SameVideo (server.record (.broadcast unit)) { next with videoPacker := server.videoPacker })
      (cut : (unit.packets = [] ∧ next.videoPacker = server.videoPacker) ∨
        ((packetize config.h265 server.videoPacker unit.data unit.ptsUsec).1 = unit.packets ∧
          next.videoPacker = (packetize config.h265 server.videoPacker unit.data unit.ptsUsec).2))
  | fresh (sent : FreshPacket) (put : SameVideo (server.record (.fresh sent)) next)
      (turn : server.sender.credit = 0 ∧ next.sender.credit = 4 ∧ next.sender.repair = none)
  | repair (held : RepairPacket) (now : Time) (holds : server.sender.repair = some held)
      (streaming : server.peerStreaming = true) (current : held.generation = server.sendGeneration)
      (put : SameVideo (server.record (.repair held.video held.packet now server.peerUdp)) next)

theorem videoStep_of_step {action : Action} (stepped : step config server action = some next) :
    VideoStep config server next := by
  cases video : action.isVideo with
  | false => exact .same (sameVideo_of_step stepped video)
  | true =>
      cases stepped_of_step stepped with
      | accept peer => exact .connected peer (.of_eq rfl rfl) rfl
      | broadcastVideo started now data ptsUsec keyframe =>
          rcases broadcastVideo_cases server config started now data ptsUsec keyframe with
            same | ⟨unit, joined, cut⟩
          · exact .same same
          · exact .broadcast unit joined cut
      | @sendRepair flight done repair paced now sent position =>
          rcases server.sendRepair_cases flight done repair paced now sent with
            passed | ⟨streaming, current, _, left⟩
          · rw [passed]
            exact .same (.of_eq rfl rfl)
          · rw [left]
            refine .repair repair now ?_ streaming current (.of_eq rfl rfl)
            rw [position]
            rfl
      | @sendPacket flight packet paced now taken recorded position found =>
          rcases server.sendPacket_cases flight packet paced now taken recorded with
            ⟨_, isNext⟩ | ⟨_, _, ⟨_, isNext⟩ | ⟨_, isNext⟩⟩
          all_goals rw [isNext]
          · exact .same (.of_eq rfl rfl)
          · refine .fresh _ (.of_eq rfl rfl) ⟨?_, ?_⟩
            · rw [position]
              rfl
            · rw [record, continueWith]
              split <;> exact ⟨rfl, rfl⟩
          · exact .same (.of_eq rfl rfl)
      | _ => exact absurd video Bool.false_ne_true

theorem transmitted_record (server : RtpServer) (event : Event) (goesOn : ∀ peer, event ≠ .connected peer) :
    (server.record event).transmitted = server.transmitted ++ event.videoPacket.toList := by
  rw [transmitted, session_record, transmitted]
  cases event with
  | connected peer => exact absurd rfl (goesOn peer)
  | repair video packet sentAt destination =>
      cases video <;> simp [sessionStep, Event.videoPacket]
  | _ => simp [sessionStep, Event.videoPacket]

/-- Whether the event begins a session. -/
def Event.isConnected : Event → Bool
  | .connected _ => true
  | _ => false

theorem Event.goesOn {event : Event} (other : event.isConnected = false) : ∀ peer, event ≠ .connected peer := by
  rintro peer rfl
  cases other

theorem units_kept (server : RtpServer) {event : Event} (other : event.isConnected = false)
    (none : event.broadcastUnit = none) : (server.record event).units = server.units := by
  rw [units_record server event (Event.goesOn other), none]
  exact List.append_nil _

theorem wire_kept (server : RtpServer) {event : Event} (other : event.isConnected = false)
    (none : event.freshPacket = none) : (server.record event).wire = server.wire := by
  rw [wire_record server event (Event.goesOn other), none]
  exact List.append_nil _

theorem transmitted_kept (server : RtpServer) {event : Event} (other : event.isConnected = false)
    (none : event.videoPacket = none) : (server.record event).transmitted = server.transmitted := by
  rw [transmitted_record server event (Event.goesOn other), none]
  exact List.append_nil _

theorem units_connected (server : RtpServer) (peer : SockAddr) :
    (server.record (.connected peer)).units = [] ∧ (server.record (.connected peer)).wire = [] ∧
      (server.record (.connected peer)).transmitted = [] := by
  rw [RtpServer.units, RtpServer.wire, transmitted, session_record]
  exact ⟨rfl, rfl, rfl⟩

/-- In every reachable state the access units of the session were cut one after
another. -/
theorem cut_of_run {actions : List Action} (reached : run config actions = some server) :
    ∃ count, Cut config.h265 ((packetizer config.h265 config.videoSsrc 0).advance count) server.units
      server.videoPacker := by
  induction actions using List.reverseRecOn generalizing server with
  | nil =>
      cases reached
      exact ⟨0, by rw [PacketizerBase.advance_zero]; exact .nil⟩
  | append_singleton actions action inductionHypothesis =>
      obtain ⟨previous, reachedPrevious, stepped⟩ := run_concat_iff.mp reached
      obtain ⟨count, cut⟩ := inductionHypothesis reachedPrevious
      cases videoStep_of_step stepped with
      | same unchanged =>
          rw [unchanged.units, unchanged.packer]
          exact ⟨count, cut⟩
      | connected peer begun =>
          rw [begun.units, begun.packer, (units_connected previous peer).1]
          refine ⟨count + (stream previous.units).length, ?_⟩
          rw [← PacketizerBase.advance_advance, ← cut.packer]
          exact .nil
      | broadcast unit joined made =>
          have units : server.units = previous.units ++ [unit] :=
            joined.units.trans (units_record previous _ (Event.goesOn rfl))
          rw [units]
          rcases made with ⟨none, packer⟩ | ⟨made, packer⟩
          · rw [packer]
            exact ⟨count, cut.turnedAway unit none⟩
          · rw [packer]
            exact ⟨count, cut.packetized unit made⟩
      | fresh sent put _ =>
          rw [put.units, put.packer, units_kept previous rfl rfl]
          exact ⟨count, cut⟩
      | repair held now holds streaming current put =>
          rw [put.units, put.packer, units_kept previous rfl rfl]
          exact ⟨count, cut⟩

/-! ## Places in the session -/

/-- How many packets the packetizer has made in the session before this one. -/
def place (server : RtpServer) (sent : FreshPacket) : Nat :=
  (stream (server.units.take sent.unit)).length + sent.index

/-- Nothing was dropped between the first packet of the access unit and the packet
before it on the wire. -/
def Continues (server : RtpServer) (number : Nat) : Prop :=
  ∀ early first late, server.wire = early ++ first :: late → first.unit = number → first.index = 0 →
    ∀ previous ∈ early.getLast?, server.place previous + 1 = server.place first

theorem stream_append (early late : List VideoUnit) : stream (early ++ late) = stream early ++ stream late :=
  List.flatMap_append

theorem stream_take_succ {units : List VideoUnit} {number : Nat} {unit : VideoUnit}
    (found : units[number]? = some unit) :
    stream (units.take (number + 1)) = stream (units.take number) ++ unit.packets := by
  rw [List.take_add_one, found, Option.toList_some, stream_concat]

theorem length_stream_take_le {units : List VideoUnit} {first second : Nat} (order : first ≤ second) :
    (stream (units.take first)).length ≤ (stream (units.take second)).length := by
  obtain ⟨rest, split⟩ := List.take_prefix_take_left (l := units) order
  rw [← split, stream_append, List.length_append]
  exact Nat.le_add_right _ _

/-- The packets of an access unit are found behind those of the access units before. -/
theorem getElem?_stream {units : List VideoUnit} {number index : Nat} {unit : VideoUnit} {packet : Packet}
    (found : units[number]? = some unit) (listed : unit.packets[index]? = some packet) :
    (stream units)[(stream (units.take number)).length + index]? = some packet := by
  have inside := (List.getElem?_eq_some_iff.mp listed).1
  have split : stream units =
      stream (units.take number) ++ (unit.packets ++ stream (units.drop (number + 1))) := by
    rw [← List.append_assoc, ← stream_take_succ found, ← stream_append, List.take_append_drop]
  rw [split, List.getElem?_append_right (Nat.le_add_right _ _), Nat.add_sub_cancel_left,
    List.getElem?_append_left inside]
  exact listed

section Places

variable {server : RtpServer}

/-- The number of a packet is its place. -/
theorem seqOf_place {h265 : Bool} {base packer : PacketizerBase} (cut : Cut h265 base server.units packer)
    {sent : FreshPacket} (genuine : Genuine server.units sent) :
    seqOf sent.packet.bytes = base.seq + UInt16.ofNat (server.place sent) := by
  obtain ⟨unit, found, listed, _⟩ := genuine
  exact cut.numbered _ _ (getElem?_stream found listed)

/-- Places grow along the wire. -/
theorem place_lt {earlier later : FreshPacket} (genuine : Genuine server.units earlier)
    (follows : DependencyChain.Follows server.line.units earlier.part later.part) :
    server.place earlier < server.place later := by
  obtain ⟨unit, found, listed, _⟩ := genuine
  have inside := (List.getElem?_eq_some_iff.mp listed).1
  have length := congrArg List.length (stream_take_succ found)
  rw [List.length_append] at length
  rw [place, place]
  rcases follows with ⟨same, next⟩ | ⟨beyond, _⟩
  · change later.unit = earlier.unit at same
    change later.index = earlier.index + 1 at next
    rw [same, next]
    omega
  · have order : (stream (server.units.take (earlier.unit + 1))).length ≤
        (stream (server.units.take later.unit)).length := length_stream_take_le (Nat.succ_le_of_lt beyond)
    omega

/-- A packet directly in front of an access unit is the last one of its own. -/
theorem ends_of_place {previous first : FreshPacket} (genuine : Genuine server.units previous)
    (follows : DependencyChain.Follows server.line.units previous.part first.part) (begins : first.index = 0)
    (next : server.place previous + 1 = server.place first) :
    ∃ unit, server.units[previous.unit]? = some unit ∧ previous.index + 1 = unit.packets.length := by
  obtain ⟨unit, found, listed, _⟩ := genuine
  refine ⟨unit, found, ?_⟩
  have inside := (List.getElem?_eq_some_iff.mp listed).1
  have length := congrArg List.length (stream_take_succ found)
  rw [List.length_append] at length
  rw [place, place, begins] at next
  rcases follows with ⟨_, impossible⟩ | ⟨beyond, _⟩
  · change first.index = previous.index + 1 at impossible
    omega
  · have order : (stream (server.units.take (previous.unit + 1))).length ≤
        (stream (server.units.take first.unit)).length := length_stream_take_le (Nat.succ_le_of_lt beyond)
    omega

end Places

end RtpServer
end MetaShare
