import MetaShare.Foundation.Json
import MetaShare.Server.Wire

namespace MetaShare
namespace RtpServer

open Rtp Transitions

/-!
# The conversation on the server's side

In a session the server says HELLO once its queues are empty and START when the
client is ready, and nothing else.  The body of HELLO is printed into a buffer of
fixed size; it is a JSON object of the parameters of the stream.
-/

/-! ## The body of HELLO -/

def helloBufferSize : Nat := 512

/-- The parameters fit the fields of type `int` that the server keeps them in. -/
structure Advertisable (config : Config) : Prop where
  width : Decimal.FitsInt config.width
  height : Decimal.FitsInt config.height
  fpsNum : Decimal.FitsInt config.fpsNum
  audioRate : Decimal.FitsInt config.audioRate
  audioChannels : Decimal.FitsInt config.audioChannels

def codecName (h265 : Bool) : List UInt8 := if h265 then octetsOf ['h', '2', '6', '5'] else octetsOf
    ['h', '2', '6', '4']

/-- A member whose value is a number. -/
def numbered (name : List Char) (number : Int) (rest : Json.Members) : Json.Members :=
  .cons (octetsOf name) (.number number) rest

def videoMembers (config : Config) : Json.Members :=
  .cons (octetsOf ['c', 'o', 'd', 'e', 'c']) (.text (codecName config.h265)) (
    numbered ['w', 'i', 'd', 't', 'h'] config.width (
    numbered ['h', 'e', 'i', 'g', 'h', 't'] config.height (
    numbered ['f', 'p', 's'] config.fpsNum (
    numbered ['p', 't'] kVideoPayloadType.toNat (
    numbered ['s', 's', 'r', 'c'] config.videoSsrc.toNat (
    numbered ['c', 'l', 'o', 'c', 'k'] kVideoClockRate.toNat .nil))))))

def audioMembers (config : Config) : Json.Members :=
  .cons (octetsOf ['c', 'o', 'd', 'e', 'c']) (.text (octetsOf ['o', 'p', 'u', 's'])) (
    numbered ['r', 'a', 't', 'e'] config.audioRate (
    numbered ['c', 'h', 'a', 'n', 'n', 'e', 'l', 's'] config.audioChannels (
    numbered ['p', 't'] kOpusPayloadType.toNat (
    numbered ['s', 's', 'r', 'c'] config.audioSsrc.toNat (
    numbered ['c', 'l', 'o', 'c', 'k'] kOpusClockRate.toNat .nil)))))

def helloMembers (config : Config) : Json.Members :=
  .cons (octetsOf ['v', 'i', 'd', 'e', 'o']) (.object (videoMembers config)) (
    .cons (octetsOf ['a', 'u', 'd', 'i', 'o']) (.object (audioMembers config)) .nil)

theorem octetsOf_append (front back : String) :
    octetsOf (String.toList (front ++ back)) = octetsOf front.toList ++ octetsOf back.toList := by
  rw [String.toList_append, octetsOf, List.map_append]
  rfl

theorem octetsOf_toString_int (number : Int) :
    octetsOf (String.toList (toString number)) = Decimal.ofInt number := rfl

theorem octetsOf_toString_nat (number : Nat) :
    octetsOf (String.toList (toString number)) = Decimal.ofInt (number : Int) := rfl

theorem punctuation : '\x7b'.toUInt8 = 123 ∧ '\x7d'.toUInt8 = 125 ∧ '\"'.toUInt8 = 34 ∧ ':'.toUInt8 = 58 ∧
    ','.toUInt8 = 44 := by
  decide

/-- What is printed is the text of the object. -/
theorem helloBody_eq (config : Config) : helloBody config = (Json.Value.object (helloMembers config)).write := by
  rw [helloBody]
  simp only [octetsOf_append, octetsOf_toString_int, octetsOf_toString_nat, List.append_assoc]
  simp only [helloMembers, videoMembers, audioMembers, numbered, Json.Value.write, Json.Members.write, Json.quote,
    List.append_assoc, List.cons_append, List.nil_append, if_true, Bool.false_eq_true, if_false, codecName]
  cases config.h265 <;> simp [octetsOf, punctuation]

theorem plain_helloMembers {config : Config} (advertisable : Advertisable config) : (helloMembers config).Plain := by
  obtain ⟨⟨_, _⟩, ⟨_, _⟩, ⟨_, _⟩, ⟨_, _⟩, ⟨_, _⟩⟩ := advertisable
  have video := config.videoSsrc.toNat_lt
  have audio := config.audioSsrc.toNat_lt
  have codec : (codecName config.h265).all Json.isPlain = true := by
    cases config.h265 <;> decide
  simp only [helloMembers, videoMembers, audioMembers, numbered, Json.Members.Plain, Json.Value.Plain]
  refine ⟨by decide, ⟨by decide, codec, ?_⟩, by decide, ⟨by decide, by decide, ?_⟩, trivial⟩
  · refine ⟨by decide, by omega, by decide, by omega, by decide, by omega, by decide, by decide, by decide, by omega,
      by decide, by decide, trivial⟩
  · refine ⟨by decide, by omega, by decide, by omega, by decide, by decide, by decide, by omega, by decide, by decide,
      trivial⟩

/-- The buffer holds the whole body, so the string is not taken beyond its end. -/
theorem length_helloBody {config : Config} (advertisable : Advertisable config) :
    (helloBody config).length < helloBufferSize := by
  obtain ⟨⟨_, _⟩, ⟨_, _⟩, ⟨_, _⟩, ⟨_, _⟩, ⟨_, _⟩⟩ := advertisable
  have width : (Decimal.ofInt config.width).length ≤ 11 := Decimal.length_ofInt_le (by decide) (by omega)
  have height : (Decimal.ofInt config.height).length ≤ 11 := Decimal.length_ofInt_le (by decide) (by omega)
  have fps : (Decimal.ofInt config.fpsNum).length ≤ 11 := Decimal.length_ofInt_le (by decide) (by omega)
  have rate : (Decimal.ofInt config.audioRate).length ≤ 11 := Decimal.length_ofInt_le (by decide) (by omega)
  have channels : (Decimal.ofInt config.audioChannels).length ≤ 11 := Decimal.length_ofInt_le (by decide) (by omega)
  have unsigned : ∀ number : UInt32, (Decimal.ofInt (number.toNat : Int)).length ≤ 11 := by
    intro number
    have small := number.toNat_lt
    exact Decimal.length_ofInt_le (by decide) (by omega)
  have video := unsigned config.videoSsrc
  have audio := unsigned config.audioSsrc
  have videoClock := unsigned kVideoClockRate
  have audioClock := unsigned kOpusClockRate
  have videoPt : (Decimal.ofInt (kVideoPayloadType.toNat : Int)).length ≤ 11 :=
    Decimal.length_ofInt_le (by decide) (by decide)
  have audioPt : (Decimal.ofInt (kOpusPayloadType.toNat : Int)).length ≤ 11 :=
    Decimal.length_ofInt_le (by decide) (by decide)
  have codec : (codecName config.h265).length = 4 := by
    cases config.h265 <;> rfl
  rw [helloBody_eq, helloBufferSize]
  simp only [helloMembers, videoMembers, audioMembers, numbered, Json.Value.write, Json.Members.write, Json.quote,
    List.length_append, List.length_cons, List.length_nil, if_true, Bool.false_eq_true, if_false, octetsOf,
    List.length_map, codec]
  omega

def hello (config : Config) : Signal.Message := ⟨.hello, helloBody config⟩

def startMessage : Signal.Message := ⟨.start, []⟩

/-! ## What has been said in the session -/

def Event.message : Event → Option Signal.Message
  | .signal message => some message
  | _ => none

/-- The messages to the client of the session. -/
def said (server : RtpServer) : List Signal.Message := server.session.filterMap Event.message

/-- Events that have to do with the conversation. -/
def Event.talks : Event → Bool
  | .connected _ | .signal _ => true
  | _ => false

theorem said_record (server : RtpServer) {event : Event} (goesOn : ∀ peer, event ≠ .connected peer) :
    (server.record event).said = server.said ++ event.message.toList := by
  rw [said, session_record]
  cases event with
  | connected peer => exact absurd rfl (goesOn peer)
  | signal message => exact List.filterMap_append
  | _ => exact List.filterMap_append

/-- The step of another thread. -/
structure Quiet (server next : RtpServer) : Prop where
  signaling : next.signaling = server.signaling
  peerStreaming : next.peerStreaming = server.peerStreaming
  readyPort : next.readyPort = server.readyPort
  said : next.said = server.said

namespace Quiet

variable {server middle next : RtpServer}

theorem of_log (signaling : next.signaling = server.signaling) (streaming : next.peerStreaming = server.peerStreaming)
    (readyPort : next.readyPort = server.readyPort) (log : next.log = server.log) : Quiet server next :=
  ⟨signaling, streaming, readyPort, congrArg (fun log => (log.foldl sessionStep []).filterMap Event.message) log⟩

theorem refl (server : RtpServer) : Quiet server server := .of_log rfl rfl rfl rfl

theorem trans (left : Quiet server middle) (right : Quiet middle next) : Quiet server next where
  signaling := right.signaling.trans left.signaling
  peerStreaming := right.peerStreaming.trans left.peerStreaming
  readyPort := right.readyPort.trans left.readyPort
  said := right.said.trans left.said

theorem record (left : Quiet server next) {event : Event} (silent : event.talks = false) :
    Quiet server (next.record event) := by
  refine left.trans ⟨rfl, rfl, rfl, ?_⟩
  cases event with
  | connected | signal => cases silent
  | _ =>
      refine (said_record next ?_).trans (List.append_nil _)
      intro peer impossible
      cases impossible

theorem setStreamRate (left : Quiet server next) (config : Config) (kbps : Int) :
    Quiet server (next.setStreamRate config kbps) := by
  rw [RtpServer.setStreamRate]
  split
  · exact left.record rfl
  · exact left

end Quiet

/-- The actions of the signaling thread. -/
def Action.signals : Action → Bool
  | .accept _ | .resetVideoQueue | .message _ | .hangUp | .signalingRequest => true
  | _ => false

section Steps

variable {config : Config} {server next : RtpServer}

theorem quiet_broadcastVideo (config : Config) (started now : Time) (data : List UInt8) (ptsUsec : Int64)
    (keyframe : Bool) : Quiet server (server.broadcastVideo config started now data ptsUsec keyframe) := by
  have enqueued : ∀ (queue : RtpServer) (unit : VideoUnit) (number : Nat),
      Quiet queue (queue.enqueue unit number) := by
    intro queue unit number
    rw [enqueue]
    split <;> exact .of_log rfl rfl rfl rfl
  rw [broadcastVideo]
  simp only
  split
  · exact .refl server
  split
  · exact (Quiet.refl server).record rfl
  split
  · exact .of_log rfl rfl rfl rfl
  refine Quiet.trans (Quiet.record ?_ rfl) (enqueued _ _ _)
  split <;> exact .of_log rfl rfl rfl rfl

theorem quiet_broadcastAudio (data : List UInt8) (ptsUsec : Int64) (sent : Bool) (recorded : Time) :
    Quiet server (server.broadcastAudio data ptsUsec sent recorded) := by
  refine broadcastAudio_keeps (Quiet server) server data ptsUsec sent recorded ?_ ?_
  · exact fun packer => .of_log rfl rfl rfl rfl
  · intro _ current bytes quiet
    refine Quiet.record (quiet.trans ?_) rfl
    exact .of_log rfl rfl rfl rfl

theorem quiet_sendRepair {flight : Option Flight} {done : Nat} {repair : RepairPacket} (paced : Bool) (now : Time)
    (sent : Bool) : Quiet server (server.sendRepair flight done repair paced now sent) := by
  have onward : Quiet server { server with sender := .repairing flight (done + 1) } := .of_log rfl rfl rfl rfl
  rcases server.sendRepair_cases flight done repair paced now sent with passed | ⟨_, _, _, left⟩
  · rw [passed]
    exact onward
  · rw [left]
    exact onward.record rfl

theorem quiet_sendPacket {flight : Flight} {packet : MediaPacket} (paced : Bool) (now : Time) (taken : Bool)
    (recorded : Time) : Quiet server (server.sendPacket flight packet paced now taken recorded) := by
  rcases server.sendPacket_cases flight packet paced now taken recorded with
    ⟨_, isNext⟩ | ⟨_, _, ⟨_, isNext⟩ | ⟨_, isNext⟩⟩
  all_goals rw [isNext]
  · exact .of_log rfl rfl rfl rfl
  · refine Quiet.record ?_ rfl
    exact .of_log rfl rfl rfl rfl
  · exact .of_log rfl rfl rfl rfl

theorem quiet_retransmit (video : Bool) (seq : UInt16) (now : Time) :
    Quiet server (server.retransmit video seq now) := by
  rcases server.retransmit_cases video seq now with same | ⟨_, _, _, _, _, _, queued⟩
  · rw [same]
    exact .refl server
  · rw [queued]
    exact .of_log rfl rfl rfl rfl

/-- The other threads take no part in the conversation. -/
theorem quiet_of_step {action : Action} (other : action.signals = false)
    (stepped : step config server action = some next) : Quiet server next := by
  cases stepped_of_step stepped with
  | accept | resetVideoQueue | message | hangUp | signalingRequest => cases other
  | setPacingBitrate =>
      rw [RtpServer.setPacingBitrate]
      split
      · exact .refl server
      · refine Quiet.setStreamRate ?_ config _
        exact .of_log rfl rfl rfl rfl
  | broadcastVideo => exact quiet_broadcastVideo config _ _ _ _ _
  | captureRequest | senderRequest =>
      refine Quiet.record ?_ rfl
      exact .of_log rfl rfl rfl rfl
  | broadcastAudio data ptsUsec sent recorded => exact quiet_broadcastAudio data ptsUsec sent recorded
  | wake => exact .of_log rfl rfl rfl rfl
  | takeRepair =>
      rw [RtpServer.takeRepair]
      repeat' split
      all_goals exact .of_log rfl rfl rfl rfl
  | sendRepair paced now sent => exact quiet_sendRepair paced now sent
  | popFrame =>
      rw [RtpServer.popFrame]
      split <;> exact .of_log rfl rfl rfl rfl
  | sendPacket paced now taken recorded => exact quiet_sendPacket paced now taken recorded
  | receiveRtcp =>
      rw [RtpServer.receiveRtcp]
      split <;> exact .of_log rfl rfl rfl rfl
  | @handleEvent event rest now =>
      have taken : Quiet server { server with rtcp := rest } := .of_log rfl rfl rfl rfl
      cases event with
      | keyframeRequest => exact taken.record rfl
      | retransmit video seq => exact taken.trans (quiet_retransmit video seq now)
      | fractionLost => exact taken

end Steps

/-! ## What the client of a session is told -/

/-- An address that media can be sent to. -/
def SockAddr.Routable (peer : SockAddr) : Prop := peer.family = AF_INET ∧ peer.address ≠ 0

/-- Until the queues are empty nothing has been said.  From then on HELLO has been
said, and START if and only if a READY has been taken; and a client whose READY has
been taken is streamed to as long as it is served. -/
structure Told (config : Config) (peer : SockAddr) (server : RtpServer) : Prop where
  client : ∀ other, server.signaling.client = some other → other = peer
  silent : server.signaling = .connecting peer → server.said = [] ∧ server.readyPort = none
  said : server.signaling ≠ .connecting peer →
    server.said = hello config :: (server.readyPort.map (fun _ => startMessage)).toList
  streams : server.readyPort.isSome = true → server.signaling.served.isSome = true → server.peerStreaming = true

section Told

variable {config : Config} {peer : SockAddr} {server next : RtpServer}

theorem told_accept (accepted : step config server (.accept peer) = some next) :
    Told config peer next ∧ next.readyPort = none ∧ next.session = [] := by
  cases stepped_of_step accepted
  have fresh : ({ server with signaling := .connecting peer }.connect peer).session = [] := by
    rw [connect, session_record]
    rfl
  refine ⟨⟨?_, fun _ => ⟨?_, rfl⟩, fun other => absurd rfl other, fun ready => ?_⟩, rfl, fresh⟩
  · intro other same
    exact (Option.some.inj same).symm
  · rw [RtpServer.said, fresh]
    rfl
  · cases ready

/-- What the other threads do changes nothing of it. -/
theorem Told.quiet (told : Told config peer server) (quiet : Quiet server next) : Told config peer next where
  client := quiet.signaling ▸ told.client
  silent := by
    rw [quiet.signaling, quiet.said, quiet.readyPort]
    exact told.silent
  said := by
    rw [quiet.signaling, quiet.said, quiet.readyPort]
    exact told.said
  streams := by
    rw [quiet.signaling, quiet.readyPort, quiet.peerStreaming]
    exact told.streams

/-- A client that is no longer served is not told anything more. -/
theorem Told.unserved (told : Told config peer server) (position : server.signaling ≠ .connecting peer)
    (client : next.signaling.client = none) (served : next.signaling.served = none)
    (said : next.said = server.said) (readyPort : next.readyPort = server.readyPort) : Told config peer next where
  client := by
    intro other isClient
    cases client.symm.trans isClient
  silent := by
    intro impossible
    rw [impossible] at client
    cases client
  said := by
    rw [said, readyPort]
    exact fun _ => told.said position
  streams := by
    intro _ isServed
    rw [served] at isServed
    cases isServed

theorem Told.hangUp (told : Told config peer server) (stepped : step config server .hangUp = some next) :
    Told config peer next ∧ next.readyPort = server.readyPort := by
  cases stepped_of_step stepped with
  | @hangUp other position =>
      have connected : server.signaling ≠ .connecting peer := by
        rcases position with is | is <;> rw [is] <;> exact Signaling.noConfusion
      have fields : ∀ before : RtpServer, (before.setStreamRate config 0).signaling = before.signaling ∧
          (before.setStreamRate config 0).readyPort = before.readyPort ∧
          (before.setStreamRate config 0).said = before.said := by
        intro before
        have quiet := (Quiet.refl before).setStreamRate config 0
        exact ⟨quiet.signaling, quiet.readyPort, quiet.said⟩
      have signaling : ({ server with signaling := .leaving other false }.disconnect config).signaling =
          .leaving other false := (fields _).1
      have readyPort : ({ server with signaling := .leaving other false }.disconnect config).readyPort =
          server.readyPort := (fields _).2.1
      have said : ({ server with signaling := .leaving other false }.disconnect config).said = server.said := by
        rw [RtpServer.disconnect, said_record _ (by intro _ impossible; cases impossible), (fields _).2.2]
        exact List.append_nil _
      exact ⟨told.unserved connected (by rw [signaling]; rfl) (by rw [signaling]; rfl) said readyPort, readyPort⟩

/-- HELLO is said when the queues are empty. -/
theorem Told.reset (told : Told config peer server) (stepped : step config server .resetVideoQueue = some next) :
    Told config peer next ∧ next.readyPort = server.readyPort := by
  cases stepped_of_step stepped with
  | resetVideoQueue reset =>
      rw [afterReset] at reset
      split at reset
      · rename_i other position
        have same := told.client other (by rw [position]; rfl)
        rw [same] at position
        obtain ⟨nothing, noPort⟩ := told.silent position
        cases reset
        generalize isNext : { server.resetVideoQueue with signaling := .serving other }.sendHello config = next
        have said : next.said = [hello config] := by
          rw [← isNext, sendHello, said_record _ (by intro _ impossible; cases impossible)]
          exact congrArg (· ++ [hello config]) nothing
        have position : next.signaling = .serving other := by
          rw [← isNext]
          rfl
        have unready : next.readyPort = none := by
          rw [← isNext]
          exact noPort
        refine ⟨⟨?_, ?_, fun _ => ?_, ?_⟩, unready.trans noPort.symm⟩
        · rw [position, ← same]
          exact fun client isClient => (Option.some.inj isClient).symm
        · rw [position]
          exact Signaling.noConfusion
        · rw [said, unready]
          rfl
        · rw [unready]
          exact fun isReady => absurd isReady Bool.false_ne_true
      · rename_i other position
        cases reset
        exact ⟨told.unserved (by rw [position]; exact Signaling.noConfusion) rfl rfl rfl rfl, rfl⟩
      · rename_i other position
        cases reset
        exact ⟨told.unserved (by rw [position]; exact Signaling.noConfusion) rfl rfl rfl rfl, rfl⟩
      · cases reset

theorem Told.request (told : Told config peer server) (stepped : step config server .signalingRequest = some next) :
    Told config peer next ∧ next.readyPort = server.readyPort := by
  cases stepped_of_step stepped with
  | @signalingRequest other position =>
      have same := told.client other (by rw [position]; rfl)
      have said := told.said (by rw [position]; exact Signaling.noConfusion)
      have streams := fun isReady => told.streams isReady (by rw [position]; rfl)
      refine ⟨⟨?_, Signaling.noConfusion, fun _ => ?_, fun isReady _ => streams isReady⟩, rfl⟩
      · intro client isClient
        rw [← same]
        exact (Option.some.inj isClient).symm
      · rw [onKeyframeRequest, said_record _ (by intro _ impossible; cases impossible)]
        exact (List.append_nil _).trans said

/-- Whatever the server does on its own, the conversation keeps its form. -/
theorem Told.step (told : Told config peer server) {action : Action} (noClient : ∀ other, action ≠ .accept other)
    (noMessage : ∀ message, action ≠ .message message) (stepped : step config server action = some next) :
    Told config peer next ∧ next.readyPort = server.readyPort := by
  cases action with
  | accept other => exact absurd rfl (noClient other)
  | message message => exact absurd rfl (noMessage message)
  | resetVideoQueue => exact told.reset stepped
  | hangUp => exact told.hangUp stepped
  | signalingRequest => exact told.request stepped
  | _ =>
      have quiet := quiet_of_step rfl stepped
      exact ⟨told.quiet quiet, quiet.readyPort⟩

/-- The first READY starts the stream. -/
theorem Told.ready (told : Told config peer server) (belongs : server.Belongs) (routable : peer.Routable)
    (unready : server.readyPort = none) {body : List UInt8} {port : UInt16} (parsed : parseReadyPort body = some port)
    (stepped : RtpServer.step config server (.message ⟨.ready, body⟩) = some next) :
    Told config peer next ∧ next.readyPort = some port := by
  cases stepped_of_step stepped with
  | @message other _ position =>
      have same := told.client other (by rw [position]; rfl)
      obtain ⟨old, address⟩ := belongs.target other (by rw [position]; rfl)
      have said := told.said (by rw [position]; exact Signaling.noConfusion)
      have reachable : ¬ (server.peerUdp.family ≠ AF_INET ∨ server.peerUdp.address = 0) := by
        rw [address, same]
        exact fun wrong => wrong.elim (fun family => family routable.1) routable.2
      have isNext : server.onMessage config other ⟨.ready, body⟩ =
          ({ server with
            readyPort := some port
            peerUdp := { server.peerUdp with port := port }
            peerStreaming := true
            signaling := .requesting other }.setStreamRate config server.pacingKbps).record
              (.signal startMessage) := by
        simp only [onMessage, onReady, parsed, if_neg reachable]
        rfl
      have quiet := (Quiet.refl { server with
        readyPort := some port
        peerUdp := { server.peerUdp with port := port }
        peerStreaming := true
        signaling := .requesting other }).setStreamRate config server.pacingKbps
      rw [isNext]
      generalize RtpServer.setStreamRate _ config server.pacingKbps = started at quiet
      refine ⟨⟨?_, ?_, fun _ => ?_, fun _ _ => quiet.peerStreaming⟩, quiet.readyPort⟩
      · intro client isClient
        rw [show (started.record _).signaling = _ from quiet.signaling] at isClient
        rw [← same]
        exact (Option.some.inj isClient).symm
      · intro impossible
        cases quiet.signaling.symm.trans impossible
      · rw [said_record _ (by intro _ impossible; cases impossible), quiet.said]
        rw [show (started.record _).readyPort = _ from quiet.readyPort]
        rw [unready] at said
        exact congrArg (· ++ [startMessage]) said

/-- INPUT and PING leave the server as it is. -/
theorem Told.chatter (told : Told config peer server) {message : Signal.Message} (noReady : message.type ≠ .ready)
    (noBye : message.type ≠ .bye) (stepped : RtpServer.step config server (.message message) = some next) :
    Told config peer next ∧ next.readyPort = server.readyPort := by
  cases stepped_of_step stepped with
  | @message other _ position =>
      have same : server.onMessage config other message = server := by
        cases kind : message.type <;> simp only [onMessage, kind] <;> contradiction
      rw [same]
      exact ⟨told, rfl⟩

end Told

/-! ## Where the media of a session goes -/

theorem mem_session_of_grown {server next : RtpServer} {events : List Event} (grown : next.log = server.log ++ events)
    {event : Event} (member : event ∈ next.session) : event ∈ server.session ∨ event ∈ events := by
  induction events using List.reverseRecOn generalizing next event with
  | nil =>
      rw [session, grown, List.append_nil] at member
      exact Or.inl member
  | append_singleton events last inductionHypothesis =>
      have split : next.session = sessionStep ({ next with log := server.log ++ events }.session) last := by
        rw [session, grown, ← List.append_assoc, List.foldl_append]
        rfl
      rw [split] at member
      have early : ∀ other ∈ { next with log := server.log ++ events }.session,
          other ∈ server.session ∨ other ∈ events ++ [last] := by
        intro other isMember
        exact (inductionHypothesis rfl isMember).imp_right (List.mem_append_left _)
      cases last with
      | connected peer => cases member
      | _ =>
          rcases List.mem_append.mp member with older | own
          · exact early event older
          · exact Or.inr (List.mem_append_right _ own)

/-- The media of the session goes to the peer, at the port of its READY. -/
def Addressed (peer : SockAddr) (port : Option UInt16) (server : RtpServer) : Prop :=
  ∀ event ∈ server.session, ∀ packet destination, event.media = some (packet, destination) →
    ∃ isPort ∈ port, isPort ≠ 0 ∧ destination = { peer with port := isPort }

theorem Addressed.step {config : Config} {peer : SockAddr} {port : Option UInt16} {server next : RtpServer}
    (addressed : Addressed peer port server) (belongs : server.Belongs) (told : Told config peer server)
    (same : ∀ isPort ∈ server.readyPort, port = some isPort) {action : Action}
    (stepped : RtpServer.step config server action = some next) : Addressed peer port next := by
  obtain ⟨events, grown, proper⟩ := sends_of_step belongs stepped
  intro event member packet destination sent
  rcases mem_session_of_grown grown member with older | new
  · exact addressed event older packet destination sent
  · obtain ⟨streaming, isPeer, _⟩ := proper event new packet destination sent
    obtain ⟨client, isPort, isClient, isReady, positive, isDestination⟩ := belongs.endpoint streaming
    rw [told.client client isClient] at isDestination
    exact ⟨isPort, same isPort isReady, positive, isPeer.trans isDestination⟩

end RtpServer
end MetaShare
