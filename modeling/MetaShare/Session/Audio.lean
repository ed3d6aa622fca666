import MetaShare.Receiver.Routine
import MetaShare.Receiver.Survival
import MetaShare.Server.Sessions
import MetaShare.Session.Reception

namespace MetaShare

/-!
# Audio, from the broadcast to the sink

The server sends a block of Opus data as one packet, without a queue and without
a pacer, and keeps a copy for repairs.  The receiver hands on what arrives at once,
without a jitter buffer and without looking at sequence numbers.  So what the sink
gets is decided by the network alone: nothing between the two ends adds, alters or
reorders a block.
-/

namespace RtpReceiver

open Octets OrderedMap ReorderBuffer

/-! ## What the receiver plays -/

/-- A block of Opus data and the presentation time that it is played with. -/
structure OpusPacket where
  data : List UInt8
  ptsUsec : Int
  deriving DecidableEq

/-- The Opus packet that a datagram carries, if it does carry one. -/
def opusOf (config : Config) (data : List UInt8) : Option OpusPacket :=
  (audioOf config data).map (fun header =>
    ⟨slice data header.payloadOff (data.length - header.payloadOff), usec config.audioClockRate header.ts⟩)

theorem opusOf_of_header {config : Config} {data : List UInt8} {header : Header} (long : ¬ data.length < 12)
    (found : headerOf data = some header) (filled : ¬ data.length ≤ header.payloadOff)
    (other : ¬ (header.ssrc = config.videoSsrc ∧ header.pt = config.videoPt))
    (audio : header.ssrc = config.audioSsrc ∧ header.pt = config.audioPt) :
    opusOf config data = some ⟨slice data header.payloadOff (data.length - header.payloadOff),
      usec config.audioClockRate header.ts⟩ := by
  have noVideo : videoOf config data = none := by simp [videoOf, long, found, filled, other]
  have isAudio : audioOf config data = some header := by
    rw [audioOf, if_neg (not_or.mpr ⟨long, not_not.mpr noVideo⟩), found]
    simp only [if_neg filled, if_pos audio]
  rw [opusOf, isAudio, Option.map_some]

/-- The datagrams that arrive. -/
def datagrams (inputs : List Input) : List (List UInt8) :=
  inputs.filterMap (fun input =>
    match input with
    | .iteration (.packet data _ _ _) => some data
    | _ => none)

/-- What the sink has been given. -/
def played (log : List Effect) : List OpusPacket :=
  log.filterMap (fun effect =>
    match effect with
    | .opus data ptsUsec => some ⟨data, ptsUsec⟩
    | _ => none)

theorem played_append (early late : List Effect) : played (early ++ late) = played early ++ played late :=
  List.filterMap_append

theorem Grows.played_eq {config : Config} {before after : List Effect} (grows : Grows config before after) :
    played after = played before := by
  obtain ⟨more, grown, routine⟩ := grows
  have none : played more = [] := by
    apply List.filterMap_eq_nil_iff.mpr
    intro effect member
    cases routine effect member <;> rfl
  rw [grown, played_append, none, List.append_nil]

section Pass

variable {receiver after : RtpReceiver} {env : Environment} {config : Config}

theorem played_maybeSendReceiverReport :
    played (receiver.maybeSendReceiverReport env config).log = played receiver.log := by
  simp only [maybeSendReceiverReport]
  split
  · rfl
  split
  · rfl
  split
  · rfl
  split
  · rfl
  · rw [transmit]
    split
    · exact (played_append _ _).trans (List.append_nil _)
    · rfl

theorem played_receiveVideo {header : Header} {buf : List UInt8} {n : Nat}
    (taken : receiver.receiveVideo env config header buf n = .ok after) :
    played after.log = played receiver.log := by
  rw [(acceptVideo_handsOn taken).routine.log.played_eq, (noteArrival_counted _ env config _).log.played_eq]
  exact (played_append _ _).trans (List.append_nil _)

theorem played_receiveAudio {header : Header} {buf : List UInt8} {n : Nat}
    (heard : receiver.receiveAudio config header buf n = .ok after) :
    played after.log = played receiver.log ++
      [⟨slice buf header.payloadOff (n - header.payloadOff), usec config.audioClockRate header.ts⟩] := by
  rw [receiveAudio, checkedUsec] at heard
  split at heard
  · cases heard
  rw [ok_bind] at heard
  split at heard
  · cases heard
    exact played_append _ _
  · cases heard

/-- A datagram gives the sink the packet that it carries. -/
theorem played_receive {data stale : List UInt8} {address : InetAddress} {port : UInt16}
    (taken : receiver.receive env config data stale address port = .ok after) :
    played after.log = played receiver.log ++ (opusOf config data).toList := by
  have learned := (learnRemote_routine receiver env config address port).log.played_eq
  have nothing : opusOf config data = none → ∀ log, played log ++ (opusOf config data).toList = played log := by
    intro none log
    rw [none]
    exact List.append_nil _
  by_cases short : data.length < 12
  · rw [nothing (by simp [opusOf, audioOf, short])]
    rw [receive, if_pos short] at taken
    cases taken
    rfl
  have parsed := parseHeader_eq data stale (by omega)
  rw [receive, if_neg short] at taken
  rw [← learned]
  cases found : headerOf data with
  | none =>
      rw [nothing (by simp [opusOf, audioOf, found])]
      simp only [parsed, found, ok_bind] at taken
      cases taken
      rfl
  | some header =>
      simp only [parsed, found, ok_bind] at taken
      split at taken
      · rename_i empty
        rw [nothing (by simp [opusOf, audioOf, found, empty])]
        cases taken
        rfl
      rename_i filled
      obtain ⟨middle, accepted, reported⟩ := bind_ok taken
      cases reported
      rw [played_maybeSendReceiverReport]
      split at accepted
      · rename_i video
        rw [nothing (by simp [opusOf, audioOf, videoOf, short, found, filled, video]), played_receiveVideo accepted]
      rename_i other
      split at accepted
      · rename_i audio
        rw [opusOf_of_header short found filled other audio, played_receiveAudio accepted,
          slice_append_left _ _ _ _ (by omega)]
        rfl
      · rename_i neither
        rw [nothing (by simp [opusOf, audioOf, found, neither])]
        cases accepted
        rfl

theorem played_step {input : Input} (stepped : step env config receiver input = .ok after) :
    played after.log = played receiver.log ++ (datagrams [input]).filterMap (opusOf config) := by
  cases input with
  | keyframeRequest =>
      cases stepped
      exact ((requestKeyframe_handsOn receiver env config).routine.log.played_eq).trans (List.append_nil _).symm
  | iteration received =>
      obtain ⟨expired, isExpired, later⟩ := bind_ok stepped
      rw [← (expireEntries_handsOn _ isExpired).routine.log.played_eq]
      cases received with
      | timeout =>
          cases later
          exact played_maybeSendReceiverReport.trans (List.append_nil _).symm
      | failed =>
          cases later
          exact (List.append_nil _).symm
      | packet data stale address port =>
          rw [played_receive later]
          change _ = _ ++ [data].filterMap (opusOf config)
          cases carried : opusOf config data <;> simp [carried]

/-- A run gives the sink what the datagrams carry, in the order of arrival. -/
theorem played_run {inputs : List Input} (ran : run env config receiver inputs = .ok after) :
    played after.log = played receiver.log ++ (datagrams inputs).filterMap (opusOf config) := by
  induction inputs generalizing receiver with
  | nil =>
      cases ran
      exact (List.append_nil _).symm
  | cons input rest inductionHypothesis =>
      obtain ⟨middle, stepped, later⟩ := run_cons_ok ran
      have split : datagrams (input :: rest) = datagrams [input] ++ datagrams rest :=
        List.filterMap_append (l := [input])
      rw [inductionHypothesis later, played_step stepped, split, List.filterMap_append, List.append_assoc]

end Pass

end RtpReceiver

namespace RtpServer

open Rtp Transitions

/-! ## What the server airs -/

/-- A block that the encoder hands over. -/
structure OpusBlock where
  data : List UInt8
  ptsUsec : Int64
  deriving DecidableEq

/-- The block that a step puts on the wire: the peer is being streamed to, there is
data, and the socket takes the packet whole. -/
def Action.airs (server : RtpServer) : Action → Option OpusBlock
  | .broadcastAudio data ptsUsec sent _ =>
      if server.peerStreaming ∧ data ≠ [] ∧ sent then some ⟨data, ptsUsec⟩ else none
  | _ => none

/-- The blocks that a run puts on the wire. -/
def broadcasts (config : Config) : RtpServer → List Action → List OpusBlock
  | _, [] => []
  | server, action :: rest =>
      (action.airs server).toList ++
        match step config server action with
        | some next => broadcasts config next rest
        | none => []

def Event.audioPacket : Event → Option Packet
  | .audio packet _ => some packet.bytes
  | _ => none

def Event.audioRepair : Event → Option Packet
  | .repair false packet _ _ => some packet.bytes
  | _ => none

/-- The audio packets that were sent first, and those that were sent again. -/
def audioSent (server : RtpServer) : List Packet := server.log.filterMap Event.audioPacket

def audioRepairs (server : RtpServer) : List Packet := server.log.filterMap Event.audioRepair

/-- The packet is the block, framed under some sequence number. -/
def Frames (config : Config) (block : OpusBlock) (bytes : Packet) : Prop :=
  block.data ≠ [] ∧ ∃ seq, bytes =
    writeHeader kOpusPayloadType true seq ((OpusRtpPacketizer.create config.audioSsrc).stamp block.ptsUsec)
      config.audioSsrc ++ block.data

/-- Whatever audio is stored, waits or was sent as a repair is a copy of a packet
that was sent. -/
structure Aired (config : Config) (server : RtpServer) : Prop where
  packer : ∃ seq, server.audioPacker = { OpusRtpPacketizer.create config.audioSsrc with seq := seq }
  stored : server.audioRetx.Holds (fun packet => packet.bytes ∈ server.audioSent)
  repairs : ∀ repair ∈ server.repairs, repair.video = false → repair.packet.bytes ∈ server.audioSent
  copies : ∀ bytes ∈ server.audioRepairs, bytes ∈ server.audioSent

theorem aired_start (config : Config) : Aired config (start config) where
  packer := ⟨_, rfl⟩
  stored := fun _ impossible => nomatch impossible
  repairs := fun _ impossible => nomatch impossible
  copies := fun _ impossible => nomatch impossible

/-- The step has nothing to do with audio, except that it may drop copies. -/
structure Still (server next : RtpServer) : Prop where
  packer : next.audioPacker = server.audioPacker
  stored : next.audioRetx.packets ⊆ server.audioRetx.packets
  repairs : ∀ repair ∈ next.repairs, repair.video = false → repair ∈ server.repairs
  sent : next.audioSent = server.audioSent
  copies : next.audioRepairs = server.audioRepairs

namespace Still

variable {config : Config} {server middle next : RtpServer}

theorem of_same (packer : next.audioPacker = server.audioPacker) (stored : next.audioRetx = server.audioRetx)
    (repairs : next.repairs ⊆ server.repairs) (log : next.log = server.log) : Still server next where
  packer := packer
  stored := by
    rw [stored]
    exact List.Subset.refl _
  repairs := fun _ member _ => repairs member
  sent := congrArg (List.filterMap Event.audioPacket) log
  copies := congrArg (List.filterMap Event.audioRepair) log

theorem refl (server : RtpServer) : Still server server := .of_same rfl rfl (List.Subset.refl _) rfl

theorem trans (left : Still server middle) (right : Still middle next) : Still server next where
  packer := right.packer.trans left.packer
  stored := List.Subset.trans right.stored left.stored
  repairs repair member audio := left.repairs repair (right.repairs repair member audio) audio
  sent := right.sent.trans left.sent
  copies := right.copies.trans left.copies

theorem record (left : Still server next) {event : Event} (first : event.audioPacket = none)
    (again : event.audioRepair = none) : Still server (next.record event) := by
  refine left.trans ⟨rfl, List.Subset.refl _, fun _ member _ => member, ?_, ?_⟩
  · rw [audioSent, RtpServer.record, List.filterMap_append, List.filterMap_cons, first]
    exact List.append_nil _
  · rw [audioRepairs, RtpServer.record, List.filterMap_append, List.filterMap_cons, again]
    exact List.append_nil _

theorem setStreamRate (left : Still server next) (config : Config) (kbps : Int) :
    Still server (next.setStreamRate config kbps) := by
  rw [RtpServer.setStreamRate]
  split
  · exact left.record rfl rfl
  · exact left

theorem aired (still : Still server next) (aired : Aired config server) : Aired config next where
  packer := still.packer ▸ aired.packer
  stored entry member := still.sent ▸ aired.stored entry (still.stored member)
  repairs repair member audio := still.sent ▸ aired.repairs repair (still.repairs repair member audio) audio
  copies := by
    rw [still.copies, still.sent]
    exact aired.copies

end Still

section Steps

variable {config : Config} {server next : RtpServer}

theorem still_disconnect (config : Config) (signaling : Signaling) :
    Still server ({ server with signaling := signaling }.disconnect config) := by
  refine (Still.setStreamRate ?_ config 0).record rfl rfl
  exact .of_same rfl rfl (List.Subset.refl _) rfl

/-- The queues are emptied; a repair may still be in the hands of the sender. -/
theorem still_reset (signaling : Signaling) : Still server
    { server.resetVideoQueue with signaling := signaling } where
  packer := rfl
  stored := List.nil_subset _
  repairs _ member _ := List.mem_append_left _ ((List.append_nil server.sender.repair.toList) ▸ member)
  sent := rfl
  copies := rfl

theorem still_afterReset (reset : server.afterReset config = some next) : Still server next := by
  rw [afterReset] at reset
  split at reset <;> cases reset
  · exact (still_reset _).record rfl rfl
  · exact still_reset _
  · exact still_reset _

theorem still_onMessage (config : Config) (peer : SockAddr) (message : Signal.Message) :
    Still server (server.onMessage config peer message) := by
  cases kind : message.type <;> simp only [onMessage, kind]
  case ready =>
    rw [onReady]
    split
    · exact .refl server
    simp only
    split
    · exact .of_same rfl rfl (List.Subset.refl _) rfl
    · refine (Still.setStreamRate ?_ config _).record rfl rfl
      exact .of_same rfl rfl (List.Subset.refl _) rfl
  case bye => exact still_disconnect config _
  all_goals exact .refl server

/-- Shedding the queue keeps the copies of audio, and drops the repairs that wait. -/
theorem still_dropVideoQueue : Still server server.dropVideoQueue where
  packer := rfl
  stored := List.Subset.refl _
  repairs _ member _ := List.mem_append_left _ ((List.append_nil server.sender.repair.toList) ▸ member)
  sent := rfl
  copies := rfl

theorem still_enqueue (unit : VideoUnit) (number : Nat) : Still server (server.enqueue unit number) := by
  rw [enqueue]
  split <;> exact .of_same rfl rfl (List.Subset.refl _) rfl

theorem still_broadcastVideo (config : Config) (started now : Time) (data : List UInt8) (ptsUsec : Int64)
    (keyframe : Bool) : Still server (server.broadcastVideo config started now data ptsUsec keyframe) := by
  have packed : Still server { server with
      videoPacker := (packetize config.h265 server.videoPacker data ptsUsec).2 } :=
    .of_same rfl rfl (List.Subset.refl _) rfl
  rw [broadcastVideo]
  simp only
  split
  · exact .refl server
  split
  · exact (Still.refl server).record rfl rfl
  split
  · exact packed
  refine Still.trans (Still.record ?_ rfl rfl) (still_enqueue _ _)
  split
  · exact packed.trans still_dropVideoQueue
  · exact packed

theorem still_takeRepair {flight : Option Flight} {done : Nat} (position : server.sender = .repairing flight done) :
    Still server (server.takeRepair flight done) := by
  have empty : server.sender.repair = none := by rw [position]; rfl
  have left : ∀ sender : Sender, sender.repair = none → Still server { server with sender := sender } := by
    intro sender none
    refine .of_same rfl rfl ?_ rfl
    rw [repairs, repairs, empty, none]
    exact List.Subset.refl _
  rw [takeRepair]
  split
  · split
    · exact left _ (repair_repaired flight)
    · rename_i repair rest contents
      refine .of_same rfl rfl ?_ rfl
      rw [repairs, repairs, empty, contents]
      exact List.Subset.refl _
  · exact left _ (repair_repaired flight)

/-- The sender does not come to hold a repair. -/
theorem still_of_sender {sender : Sender} (none : sender.repair = none) :
    Still server { server with sender := sender } := by
  refine .of_same rfl rfl ?_ rfl
  rw [repairs, none]
  exact List.subset_append_right _ _

theorem still_popFrame : Still server server.popFrame := by
  rw [popFrame]
  split
  · exact still_of_sender rfl
  · refine .of_same rfl rfl ?_ rfl
    rw [repairs, repair_continueWith]
    exact List.subset_append_right _ _

theorem still_sendPacket {flight : Flight} {packet : MediaPacket} (paced : Bool) (now : Time) (taken : Bool)
    (recorded : Time) : Still server (server.sendPacket flight packet paced now taken recorded) := by
  rcases server.sendPacket_cases flight packet paced now taken recorded with
    ⟨_, isNext⟩ | ⟨_, _, ⟨_, isNext⟩ | ⟨_, isNext⟩⟩
  all_goals rw [isNext]
  · exact still_of_sender rfl
  · have moved : Still server { server with
        videoRetx := server.videoRetx.record recorded (seqOf packet.bytes) packet
        sender := continueWith { flight with next := flight.next + 1 } } := by
      refine .of_same rfl rfl ?_ rfl
      rw [repairs, repair_continueWith]
      exact List.subset_append_right _ _
    exact moved.record rfl rfl
  · exact still_dropVideoQueue.trans (still_of_sender rfl)

/-- The repair of audio that leaves is one that was in hand. -/
theorem Aired.sendRepair (aired : Aired config server) {flight : Option Flight} {done : Nat}
    {repair : RepairPacket} (position : server.sender = .holding flight done repair) (paced : Bool) (now : Time)
    (sent : Bool) :
    Aired config (server.sendRepair flight done repair paced now sent) ∧
      (server.sendRepair flight done repair paced now sent).audioSent = server.audioSent := by
  have onward : Still server { server with sender := .repairing flight (done + 1) } := still_of_sender rfl
  rcases server.sendRepair_cases flight done repair paced now sent with passed | ⟨_, _, _, left⟩
  · rw [passed]
    exact ⟨onward.aired aired, onward.sent⟩
  rw [left]
  cases video : repair.video with
  | true =>
      have still : Still server ({ server with sender := .repairing flight (done + 1) }.record
          (.repair true repair.packet now server.peerUdp)) := onward.record rfl rfl
      exact ⟨still.aired aired, still.sent⟩
  | false =>
      have inHand : repair.packet.bytes ∈ server.audioSent := by
        refine aired.repairs repair ?_ video
        rw [RtpServer.repairs, position]
        exact List.mem_cons_self
      have same : ({ server with sender := .repairing flight (done + 1) }.record
          (.repair false repair.packet now server.peerUdp)).audioSent = server.audioSent := by
        rw [audioSent, record, List.filterMap_append]
        exact List.append_nil _
      refine ⟨⟨aired.packer, ?_, ?_, ?_⟩, same⟩
      · intro entry member
        rw [same]
        exact aired.stored entry member
      · intro other member audio
        rw [same]
        exact aired.repairs other (onward.repairs other member audio) audio
      · intro bytes member
        rw [audioRepairs, record, List.filterMap_append] at member
        rw [same]
        rcases List.mem_append.mp member with older | own
        · exact aired.copies bytes older
        · rw [List.mem_singleton.mp own]
          exact inHand

/-- The repair of audio that is queued is a copy of a stored packet. -/
theorem Aired.retransmit (aired : Aired config server) (video : Bool) (seq : UInt16) (now : Time) :
    Aired config (server.retransmit video seq now) ∧
      (server.retransmit video seq now).audioSent = server.audioSent := by
  rcases server.retransmit_cases video seq now with same | ⟨stored, _, _, _, found, _, queued⟩
  · rw [same]
    exact ⟨aired, rfl⟩
  rw [queued]
  refine ⟨⟨aired.packer, aired.stored, ?_, aired.copies⟩, rfl⟩
  intro repair member audio
  rw [RtpServer.repairs, ← List.append_assoc] at member
  rcases List.mem_append.mp member with older | own
  · exact aired.repairs repair older audio
  · rw [List.mem_singleton.mp own] at audio ⊢
    change video = false at audio
    rw [audio] at found
    exact aired.stored.get found

/-- A packet that is sent is stored as well. -/
theorem Aired.send (aired : Aired config server) (recorded : Time) (bytes : Packet) :
    Aired config ({ server with
        audioRetx := server.audioRetx.record recorded (seqOf bytes) ⟨bytes, server.connection⟩ }.record
          (.audio ⟨bytes, server.connection⟩ server.peerUdp)) ∧
      ({ server with
        audioRetx := server.audioRetx.record recorded (seqOf bytes) ⟨bytes, server.connection⟩ }.record
          (.audio ⟨bytes, server.connection⟩ server.peerUdp)).audioSent = server.audioSent ++ [bytes] := by
  generalize isNext : RtpServer.record _ _ = next
  have grown : next.audioSent = server.audioSent ++ [bytes] := by
    rw [← isNext]
    exact List.filterMap_append
  have copies : next.audioRepairs = server.audioRepairs := by
    rw [← isNext]
    exact List.filterMap_append.trans (List.append_nil _)
  refine ⟨⟨?_, ?_, ?_, ?_⟩, grown⟩
  · rw [← isNext]
    exact aired.packer
  · rw [grown, ← isNext]
    refine RetransmitBuffer.Holds.record ?_ _ _ (List.mem_append_right _ List.mem_cons_self)
    exact fun entry member => List.mem_append_left _ (aired.stored entry member)
  · intro repair member audio
    rw [← isNext] at member
    rw [grown]
    exact List.mem_append_left _ (aired.repairs repair member audio)
  · intro copy member
    rw [copies] at member
    rw [grown]
    exact List.mem_append_left _ (aired.copies copy member)

/-- A broadcast that is sent adds its packet, framed under the next number. -/
theorem Aired.broadcastAudio (aired : Aired config server) (data : List UInt8) (ptsUsec : Int64) (sent : Bool)
    (recorded : Time) :
    Aired config (server.broadcastAudio data ptsUsec sent recorded) ∧
      ∃ more, (server.broadcastAudio data ptsUsec sent recorded).audioSent = server.audioSent ++ more ∧
        List.Forall₂ (Frames config)
          ((Action.broadcastAudio data ptsUsec sent recorded).airs server).toList more := by
  have silent : ∀ packer : PacketizerBase,
      (∃ seq, packer = { OpusRtpPacketizer.create config.audioSsrc with seq := seq }) →
      Aired config { server with audioPacker := packer } :=
    fun _ isPacker => ⟨isPacker, aired.stored, aired.repairs, aired.copies⟩
  rw [RtpServer.broadcastAudio, Action.airs]
  by_cases streaming : server.peerStreaming = true
  swap
  · rw [if_pos (by simpa using streaming), if_neg (fun all => streaming all.1)]
    exact ⟨aired, [], (List.append_nil _).symm, .nil⟩
  rw [if_neg (by simpa using streaming)]
  obtain ⟨seq, isPacker⟩ := aired.packer
  rw [isPacker, OpusRtpPacketizer.packetize]
  by_cases empty : data = []
  · rw [if_pos (List.length_eq_zero_iff.mpr empty), if_neg (fun all => all.2.1 empty)]
    exact ⟨silent _ ⟨seq, rfl⟩, [], (List.append_nil _).symm, .nil⟩
  rw [if_neg (fun zero => empty (List.length_eq_zero_iff.mp zero))]
  have next : ∃ number, ({ OpusRtpPacketizer.create config.audioSsrc with seq := seq } : PacketizerBase).nextSeq.2 =
      { OpusRtpPacketizer.create config.audioSsrc with seq := number } := ⟨_, rfl⟩
  cases sent with
  | false =>
      rw [if_neg (fun all => Bool.false_ne_true all.2.2)]
      exact ⟨silent _ next, [], (List.append_nil _).symm, .nil⟩
  | true =>
      rw [if_pos ⟨streaming, empty, rfl⟩]
      simp only [List.foldl_cons, List.foldl_nil, if_true]
      obtain ⟨airedNext, grown⟩ := (silent _ next).send recorded (writeHeader kOpusPayloadType true seq
        ((OpusRtpPacketizer.create config.audioSsrc).stamp ptsUsec) config.audioSsrc ++ data)
      exact ⟨airedNext, _, grown, .cons ⟨empty, seq, rfl⟩ .nil⟩

theorem airs_of_step (aired : Aired config server) {action : Action}
    (stepped : step config server action = some next) :
    Aired config next ∧ ∃ more, next.audioSent = server.audioSent ++ more ∧
      List.Forall₂ (Frames config) (action.airs server).toList more := by
  have quiet : Aired config next ∧ next.audioSent = server.audioSent → (action.airs server).toList = [] →
      Aired config next ∧ ∃ more, next.audioSent = server.audioSent ++ more ∧
        List.Forall₂ (Frames config) (action.airs server).toList more := by
    rintro ⟨airedNext, same⟩ none
    rw [none, same]
    exact ⟨airedNext, [], (List.append_nil _).symm, .nil⟩
  have still : Still server next → Aired config next ∧ next.audioSent = server.audioSent :=
    fun still => ⟨still.aired aired, still.sent⟩
  cases stepped_of_step stepped with
  | accept peer =>
      refine quiet (still (Still.record ?_ rfl rfl)) rfl
      exact .of_same rfl rfl (List.Subset.refl _) rfl
  | resetVideoQueue reset => exact quiet (still (still_afterReset reset)) rfl
  | message message => exact quiet (still (still_onMessage config _ message)) rfl
  | hangUp => exact quiet (still (still_disconnect config _)) rfl
  | signalingRequest =>
      refine quiet (still (Still.record ?_ rfl rfl)) rfl
      exact .of_same rfl rfl (List.Subset.refl _) rfl
  | setPacingBitrate =>
      refine quiet (still ?_) rfl
      rw [RtpServer.setPacingBitrate]
      split
      · exact .refl server
      · refine Still.setStreamRate ?_ config _
        exact .of_same rfl rfl (List.Subset.refl _) rfl
  | broadcastVideo started now data ptsUsec keyframe =>
      exact quiet (still (still_broadcastVideo config started now data ptsUsec keyframe)) rfl
  | captureRequest =>
      refine quiet (still (Still.record ?_ rfl rfl)) rfl
      exact .of_same rfl rfl (List.Subset.refl _) rfl
  | broadcastAudio data ptsUsec sent recorded => exact aired.broadcastAudio data ptsUsec sent recorded
  | wake => exact quiet (still (still_of_sender rfl)) rfl
  | takeRepair position => exact quiet (still (still_takeRepair position)) rfl
  | sendRepair paced now sent position => exact quiet (aired.sendRepair position paced now sent) rfl
  | popFrame => exact quiet (still still_popFrame) rfl
  | sendPacket paced now taken recorded => exact quiet (still (still_sendPacket paced now taken recorded)) rfl
  | senderRequest => exact quiet (still ((still_of_sender rfl).record rfl rfl)) rfl
  | receiveRtcp =>
      refine quiet (still ?_) rfl
      rw [RtpServer.receiveRtcp]
      split
      · exact .refl server
      · exact .of_same rfl rfl (List.Subset.refl _) rfl
  | @handleEvent event rest now =>
      have taken : Still server { server with rtcp := rest } := .of_same rfl rfl (List.Subset.refl _) rfl
      cases event with
      | keyframeRequest => exact quiet (still (taken.record rfl rfl)) rfl
      | retransmit video seq =>
          obtain ⟨airedNext, same⟩ := (taken.aired aired).retransmit video seq now
          exact quiet ⟨airedNext, same.trans taken.sent⟩ rfl
      | fractionLost octet => exact quiet (still taken) rfl

/-- The audio packets of a run are the blocks that it puts on the wire, framed. -/
theorem airs_of_run {actions : List Action} (aired : Aired config server)
    (ran : Transitions.run (step config) server actions = some next) :
    Aired config next ∧ ∃ more, next.audioSent = server.audioSent ++ more ∧
      List.Forall₂ (Frames config) (broadcasts config server actions) more := by
  induction actions generalizing server with
  | nil =>
      cases ran
      exact ⟨aired, [], (List.append_nil _).symm, .nil⟩
  | cons action rest inductionHypothesis =>
      obtain ⟨middle, stepped, later⟩ := run_cons_iff.mp ran
      obtain ⟨airedMiddle, now, grown, framed⟩ := airs_of_step aired stepped
      obtain ⟨airedNext, more, grownLater, framedLater⟩ := inductionHypothesis airedMiddle later
      refine ⟨airedNext, now ++ more, ?_, ?_⟩
      · rw [grownLater, grown, List.append_assoc]
      · rw [broadcasts, stepped]
        exact List.rel_append framed framedLater

end Steps

end RtpServer

namespace Session

open Octets Rtp RtpReceiver

/-! ## End to end -/

/-- The receiver has been configured for the audio of the server, and takes nothing
else for video. -/
structure Hears (server : RtpServer.Config) (config : Config) : Prop where
  ssrc : config.audioSsrc = server.audioSsrc
  pt : config.audioPt = kOpusPayloadType.toNat
  clock : config.audioClockRate = kOpusClockRate.toNat
  sink : config.audioSink = true
  videoPt : config.videoPt = kVideoPayloadType.toNat
  videoClock : config.videoClockRate ≠ 0

/-- What the sink gets for a block: the same data, and the time that the receiver
computes from the timestamp. -/
def heard (server : RtpServer.Config) (block : RtpServer.OpusBlock) : OpusPacket :=
  ⟨block.data, usec kOpusClockRate.toNat ((OpusRtpPacketizer.create server.audioSsrc).stamp block.ptsUsec).toNat⟩

/-- A framed block is taken for what it is. -/
theorem opusOf_frames {server : RtpServer.Config} {config : Config} (hears : Hears server config)
    {block : RtpServer.OpusBlock} {bytes : Packet} (framed : RtpServer.Frames server block bytes) :
    opusOf config bytes = some (heard server block) := by
  obtain ⟨filled, seq, isBytes⟩ := framed
  have positive := List.length_pos_of_ne_nil filled
  have size : bytes.length = 12 + block.data.length := by
    rw [isBytes, List.length_append]
    rfl
  have body : slice bytes 12 (bytes.length - 12) = block.data := by
    rw [size, Nat.add_sub_cancel_left, isBytes]
    exact slice_append _ _
  have header : headerOf bytes = _ := isBytes ▸ headerOf_writeHeader _ _ _ _ _ _
  have payloadType : (((kOpusPayloadType &&& 0x7F).toNat : Nat) : Int) = kOpusPayloadType.toNat := by decide
  have notVideo : (kOpusPayloadType.toNat : Int) ≠ kVideoPayloadType.toNat := by decide
  rw [opusOf_of_header (by omega) header (by simp only; omega), body, hears.clock]
  · rfl
  · rw [payloadType, hears.videoPt]
    exact fun both => notVideo both.2
  · exact ⟨hears.ssrc.symm, payloadType.trans hears.pt.symm⟩

/-- For a day of play the time is right to a timestamp tick. -/
theorem heard_near (server : RtpServer.Config) {block : RtpServer.OpusBlock} (valid : 0 ≤ block.ptsUsec)
    (early : block.ptsUsec.toInt * 48 < 2 ^ 32 * 1000) :
    block.ptsUsec.toInt - 21 ≤ (heard server block).ptsUsec ∧ (heard server block).ptsUsec ≤ block.ptsUsec.toInt := by
  have value : block.ptsUsec.toUInt64.toNat = block.ptsUsec.toInt.toNat := Int64.toNat_toUInt64_of_le valid
  have low : 0 ≤ block.ptsUsec.toInt := Int64.le_iff_toInt_le.mp valid
  have rate : (OpusRtpPacketizer.create server.audioSsrc).clockRate.toUInt64.toNat = 48000 := rfl
  have million : (1000000 : UInt64).toNat = 1000000 := rfl
  have product : block.ptsUsec.toInt.toNat * 48000 < 2 ^ 64 := by omega
  have quotient : block.ptsUsec.toInt.toNat * 48000 / 1000000 < 2 ^ 32 := by omega
  have stamped : ((OpusRtpPacketizer.create server.audioSsrc).stamp block.ptsUsec).toNat =
      block.ptsUsec.toInt.toNat * 48000 / 1000000 := by
    rw [PacketizerBase.stamp, UInt64.toNat_toUInt32, UInt64.toNat_div, UInt64.toNat_mul, value, rate, million,
      Nat.mod_eq_of_lt product, Nat.mod_eq_of_lt quotient]
  have clock : ((kOpusClockRate.toNat : Nat) : Int) = 48000 := rfl
  rw [heard, stamped, clock]
  simp only [usec]
  rw [Int.tdiv_eq_ediv_of_nonneg (by omega)]
  omega

/-- The datagrams that the receiver takes for audio packets. -/
def audioDatagrams (config : Config) (inputs : List Input) : List (List UInt8) :=
  (datagrams inputs).filter (fun data => (opusOf config data).isSome)

theorem filterMap_isSome {α β : Type} (read : α → Option β) (items : List α) :
    (items.filter (fun item => (read item).isSome)).filterMap read = items.filterMap read := by
  rw [List.filterMap_filter]
  apply List.filterMap_congr
  intro item _
  cases result : read item <;> simp

theorem filterMap_of_forall₂ {α β γ : Type} {read : β → Option γ} {meaning : α → γ} {items : List α}
    {lines : List β} (all : List.Forall₂ (fun item line => read line = some (meaning item)) items lines) :
    lines.filterMap read = items.map meaning := by
  induction all with
  | nil => rfl
  | cons head _ inductionHypothesis => rw [List.filterMap_cons, head, inductionHypothesis, List.map_cons]

/-- Audio end to end.  The packets that the server sends are the blocks that it puts
on the wire, and its repairs are copies of them.  However the network loses, repeats
or reorders packets, the sink gets one block for each packet that arrives, in the
order of arrival, and each is a block that was broadcast, with its data unaltered and
its time right to a tick. -/
theorem audio_delivered {serverConfig : RtpServer.Config} {actions : List RtpServer.Action} {server : RtpServer}
    (reached : RtpServer.run serverConfig actions = some server) {config : Config} (hears : Hears serverConfig config)
    (env : Environment) (inputs : List Input)
    (network : ∀ data ∈ audioDatagrams config inputs, data ∈ server.audioSent ∨ data ∈ server.audioRepairs) :
    let blocks := RtpServer.broadcasts serverConfig (RtpServer.start serverConfig) actions
    List.Forall₂ (fun block data => opusOf config data = some (heard serverConfig block)) blocks server.audioSent ∧
      server.audioRepairs ⊆ server.audioSent ∧
      ∃ receiver, RtpReceiver.run env config (start config) inputs = .ok receiver ∧
        played receiver.log = (audioDatagrams config inputs).filterMap (opusOf config) ∧
        (∀ packet ∈ played receiver.log, ∃ block ∈ blocks, packet = heard serverConfig block ∧
          (0 ≤ block.ptsUsec → block.ptsUsec.toInt * 48 < 2 ^ 32 * 1000 →
            block.ptsUsec.toInt - 21 ≤ packet.ptsUsec ∧ packet.ptsUsec ≤ block.ptsUsec.toInt)) ∧
        ((audioDatagrams config inputs).Sublist server.audioSent →
          (played receiver.log).Sublist (blocks.map (heard serverConfig))) ∧
        (audioDatagrams config inputs = server.audioSent →
          played receiver.log = blocks.map (heard serverConfig)) := by
  intro blocks
  obtain ⟨aired, more, grown, framed⟩ := RtpServer.airs_of_run (RtpServer.aired_start serverConfig) reached
  have sent : server.audioSent = more := grown
  have taken : List.Forall₂ (fun block data => opusOf config data = some (heard serverConfig block)) blocks
      server.audioSent := by
    rw [sent]
    exact framed.imp (fun _ _ framed => opusOf_frames hears framed)
  have ready : AudioReady config := by
    refine ⟨hears.sink, ?_⟩
    rw [hears.clock]
    decide
  obtain ⟨receiver, ran⟩ := run_ok env config hears.videoClock inputs (start config) (sound_start config)
    (Or.inl ready)
  have heardAll : played receiver.log = (audioDatagrams config inputs).filterMap (opusOf config) := by
    rw [audioDatagrams, filterMap_isSome]
    exact played_run ran
  have sentAll := filterMap_of_forall₂ taken
  refine ⟨taken, aired.copies, receiver, ran, heardAll, ?_, ?_, ?_⟩
  · intro packet member
    rw [heardAll, List.mem_filterMap] at member
    obtain ⟨data, arrives, carried⟩ := member
    have known : data ∈ server.audioSent := (network data arrives).elim id (fun again => aired.copies data again)
    obtain ⟨block, listed, isHeard⟩ := exists_of_forall₂ taken data known
    cases carried.symm.trans isHeard
    exact ⟨block, listed, rfl, heard_near serverConfig⟩
  · intro inOrder
    rw [heardAll, ← sentAll]
    exact inOrder.filterMap _
  · intro complete
    rw [heardAll, complete, sentAll]

/-- Two blocks, the second of which overtakes the first. -/
def sampleBlocks : List RtpServer.Action :=
  RtpServer.sampleReady ++ [.broadcastAudio [1, 2] 20000 true 0, .broadcastAudio [3] 40000 true 0]

def sampleAudio (seq : UInt16) (ts : UInt32) (data : List UInt8) : List UInt8 :=
  writeHeader kOpusPayloadType true seq ts 8 ++ data

theorem audio_delivered_sample :
    ∃ receiver, RtpReceiver.run sampleEnvironment sampleConfig (start sampleConfig)
        [arrivalInput (sampleAudio 1 1920 [3]), arrivalInput (sampleAudio 0 960 [1, 2])] = .ok receiver ∧
      ∀ packet ∈ played receiver.log, ∃ block ∈ RtpServer.broadcasts RtpServer.sampleConfig
        (RtpServer.start RtpServer.sampleConfig) sampleBlocks, packet = heard RtpServer.sampleConfig block := by
  obtain ⟨server, reached, sent⟩ : ∃ server, RtpServer.run RtpServer.sampleConfig sampleBlocks = some server ∧
      server.audioSent = [sampleAudio 0 960 [1, 2], sampleAudio 1 1920 [3]] := by
    rw [← Option.map_eq_some_iff]
    decide +kernel
  have hears : Hears RtpServer.sampleConfig sampleConfig := ⟨rfl, rfl, rfl, rfl, rfl, by decide⟩
  have network : ∀ data ∈ audioDatagrams sampleConfig
      [arrivalInput (sampleAudio 1 1920 [3]), arrivalInput (sampleAudio 0 960 [1, 2])],
      data ∈ server.audioSent ∨ data ∈ server.audioRepairs := by
    rw [sent]
    intro data member
    refine Or.inl ?_
    rcases List.mem_cons.mp (List.mem_of_mem_filter member) with second | rest
    · exact second ▸ List.mem_cons_of_mem _ List.mem_cons_self
    · exact List.mem_singleton.mp rest ▸ List.mem_cons_self
  obtain ⟨_, _, receiver, ran, _, known, _⟩ := audio_delivered reached hears sampleEnvironment _ network
  refine ⟨receiver, ran, ?_⟩
  intro packet member
  obtain ⟨block, listed, same, _⟩ := known packet member
  exact ⟨block, listed, same⟩

end Session
end MetaShare
