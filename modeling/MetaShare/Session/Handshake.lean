import MetaShare.Client.Negotiation
import MetaShare.Session.Audio

namespace MetaShare

open Rtp RtpServer StreamSession Transitions

/-!
# The handshake of a session

One connection, from the moment the server accepts it: the threads of the server
take their steps in any order, the client reads the lines of the server one by one
and writes its own, and either side may give the connection up at any time.  Lines
arrive whole and in order, and a line that the end of the connection cuts off
counts as its end.
-/

namespace Handshake

/-- Where the client stands.  It is refused if a line of the server makes it throw. -/
inductive Stage where
  | connected
  | preparing
  | ready
  | streaming
  | refused
  | left
  deriving DecidableEq

/-- What the client writes once it streams. -/
structure Chatter where
  message : Signal.Message
  kind : message.type = .input ∨ message.type = .ping
  sendable : message.Sendable

end Handshake

/-- The server, the lines that it has not read yet, how many of its lines the client
has read, and what the client knows. -/
structure Handshake where
  server : RtpServer
  upstream : List (List UInt8)
  read : Nat
  stage : Handshake.Stage
  parameters : Option Parameters
  /-- The local port of the receiver, once it runs. -/
  udpPort : Option UInt16

namespace Handshake

def start (server : RtpServer) : Handshake := ⟨server, [], 0, .connected, none, none⟩

/-- The lines from the server. -/
def downstream (handshake : Handshake) : List (List UInt8) := handshake.server.said.map Signal.serialize

inductive Action where
  /-- A step of the server that needs neither the client nor another one. -/
  | server (action : RtpServer.Action)
  | deliver
  | readLine
  | sendReady (udpPort : UInt16)
  | write (chatter : Chatter)
  | leave

/-- The client has read a line. -/
def onLine (json : JsonLibrary) (handshake : Handshake) (line : List UInt8) : Option Handshake :=
  let handshake := { handshake with read := handshake.read + 1 }
  match handshake.stage with
  | .connected =>
      match readHello json line with
      | none => some { handshake with stage := .refused }
      | some parameters => some { handshake with stage := .preparing, parameters := some parameters }
  | .ready =>
      if line = Signal.serialize startMessage then some { handshake with stage := .streaming }
      else some { handshake with stage := .refused }
  | .streaming => if line = Signal.serialize ⟨.bye, []⟩ then some { handshake with stage :=
    .left } else some handshake
  | _ => none

def withServer (handshake : Handshake) (server : RtpServer) : Handshake := { handshake with server := server }

/-- The server reads the next line of the client.  A line that is no message is skipped. -/
def deliver (config : Config) (handshake : Handshake) : Option Handshake :=
  match handshake.upstream, handshake.server.signaling with
  | octets :: rest, .serving _ =>
      match Signal.parse octets ⟨.hello, []⟩ with
      | none => some { handshake with upstream := rest }
      | some message =>
          (RtpServer.step config handshake.server (.message message)).map
            { handshake with upstream := rest }.withServer
  | _, _ => none

/-- What the server does without a client. -/
def own : RtpServer.Action → Bool
  | .accept _ | .message _ => false
  | _ => true

def step (config : Config) (json : JsonLibrary) (handshake : Handshake) : Action → Option Handshake
  | .server action =>
      if own action then (RtpServer.step config handshake.server action).map handshake.withServer else none
  | .deliver => handshake.deliver config
  | .readLine => handshake.downstream[handshake.read]?.bind (handshake.onLine json)
  | .sendReady udpPort =>
      if handshake.stage = .preparing ∧ udpPort ≠ 0 then
        some { handshake with
          stage := .ready
          udpPort := some udpPort
          upstream := handshake.upstream ++ [Signal.serialize (ready udpPort)] }
      else none
  | .write chatter =>
      if handshake.stage = .streaming then
        some { handshake with upstream := handshake.upstream ++ [Signal.serialize chatter.message] }
      else none
  | .leave => some { handshake with stage := .left }

/-! ## The invariant -/

/-- How far the client's request for media has come. -/
inductive Asked (handshake : Handshake) : Prop where
  | unready (upstream : handshake.upstream = []) (unread : handshake.server.readyPort = none)
      (udpPort : handshake.udpPort = none)
  | asking {port : UInt16} (bound : port ≠ 0) (upstream : handshake.upstream = [Signal.serialize (ready port)])
      (unread : handshake.server.readyPort = none) (udpPort : handshake.udpPort = some port)
  | taken {port : UInt16} (upstream : ∀ line ∈ handshake.upstream, ∃ chatter : Chatter,
        line = Signal.serialize chatter.message)
      (readyPort : handshake.server.readyPort = some port) (udpPort : handshake.udpPort = some port)

/-- What the client has read and knows. -/
def Stands (config : Config) (handshake : Handshake) : Prop :=
  match handshake.stage with
  | .connected => handshake.read = 0 ∧ handshake.udpPort = none
  | .preparing => handshake.read = 1 ∧ handshake.udpPort = none ∧ handshake.parameters = some (advertised config)
  | .ready => handshake.read = 1 ∧ handshake.udpPort.isSome = true
  | .streaming => handshake.read = 2 ∧ handshake.server.readyPort.isSome = true
  | .refused => False
  | .left => True

structure Agreed (config : Config) (peer : SockAddr) (handshake : Handshake) : Prop where
  belongs : handshake.server.Belongs
  told : Told config peer handshake.server
  addressed : Addressed peer handshake.udpPort handshake.server
  asked : handshake.Asked
  parameters : ∀ parameters ∈ handshake.parameters, parameters = advertised config
  stands : handshake.Stands config

theorem Asked.udpPort {handshake : Handshake} (asked : handshake.Asked) :
    ∀ port ∈ handshake.server.readyPort, handshake.udpPort = some port := by
  intro port isReady
  cases asked with
  | unready _ unread => cases unread.symm.trans isReady
  | asking _ _ unread => cases unread.symm.trans isReady
  | taken _ readyPort udpPort => exact udpPort.trans (readyPort.symm.trans isReady)

/-- The client's own steps leave the request as it is. -/
theorem Asked.of_same {handshake next : Handshake} (asked : handshake.Asked)
    (upstream : next.upstream = handshake.upstream)
    (readyPort : next.server.readyPort = handshake.server.readyPort) (same : next.udpPort = handshake.udpPort) :
    next.Asked := by
  cases asked with
  | unready empty unread udpPort =>
      exact .unready (upstream.trans empty) (readyPort.trans unread) (same.trans udpPort)
  | asking bound only unread udpPort =>
      exact .asking bound (upstream.trans only) (readyPort.trans unread) (same.trans udpPort)
  | taken chatters isReady udpPort =>
      exact .taken (upstream ▸ chatters) (readyPort.trans isReady) (same.trans udpPort)

/-- The steps of the server leave the client where it stands. -/
theorem Stands.of_server {config : Config} {handshake next : Handshake} (stands : handshake.Stands config)
    (stage : next.stage = handshake.stage) (read : next.read = handshake.read)
      (udpPort : next.udpPort = handshake.udpPort)
    (parameters : next.parameters = handshake.parameters)
    (readyPort : handshake.server.readyPort.isSome = true → next.server.readyPort.isSome = true) :
    next.Stands config := by
  rw [Stands] at stands ⊢
  rw [stage, read, udpPort, parameters]
  cases isStage : handshake.stage <;> rw [isStage] at stands
  case streaming => exact ⟨stands.1, readyPort stands.2⟩
  all_goals exact stands

/-- The server says at most two things, and the second only once it has the port. -/
theorem said_cases {config : Config} {peer : SockAddr} {server : RtpServer} (told : Told config peer server)
    {index : Nat} {message : Signal.Message} (found : server.said[index]? = some message) :
    (index = 0 ∧ message = hello config) ∨
      (index = 1 ∧ message = startMessage ∧ server.readyPort.isSome = true) := by
  by_cases connecting : server.signaling = .connecting peer
  · rw [(told.silent connecting).1] at found
    cases found
  rw [told.said connecting] at found
  cases ready : server.readyPort with
  | none =>
      rw [ready] at found
      match index, found with
      | 0, found => exact Or.inl ⟨rfl, (Option.some.inj found).symm⟩
  | some port =>
      rw [ready] at found
      match index, found with
      | 0, found => exact Or.inl ⟨rfl, (Option.some.inj found).symm⟩
      | 1, found => exact Or.inr ⟨rfl, (Option.some.inj found).symm, rfl⟩

section Steps

variable {config : Config} {json : JsonLibrary} {peer : SockAddr} {handshake next : Handshake}

theorem Agreed.server (agreed : Agreed config peer handshake) {action : RtpServer.Action} {server : RtpServer}
    (noClient : ∀ other, action ≠ .accept other) (noMessage : ∀ message, action ≠ .message message)
    (stepped : RtpServer.step config handshake.server action = some server) :
    Agreed config peer (handshake.withServer server) := by
  obtain ⟨told, readyPort⟩ := agreed.told.step noClient noMessage stepped
  refine ⟨agreed.belongs.step stepped, told, ?_, ?_, agreed.parameters, ?_⟩
  · exact agreed.addressed.step agreed.belongs agreed.told agreed.asked.udpPort stepped
  · exact agreed.asked.of_same rfl readyPort rfl
  · exact agreed.stands.of_server rfl rfl rfl rfl (fun isReady => (congrArg Option.isSome readyPort).trans isReady)

/-- The server takes the READY of the client, or what comes behind it. -/
theorem Agreed.deliver (agreed : Agreed config peer handshake) (routable : peer.Routable)
    (stepped : handshake.deliver config = some next) : Agreed config peer next := by
  rw [Handshake.deliver] at stepped
  split at stepped
  swap
  · cases stepped
  rename_i line rest _ upstream position
  have addressed {message : Signal.Message} {server : RtpServer}
      (taken : RtpServer.step config handshake.server (.message message) = some server) :
      Addressed peer handshake.udpPort server :=
    agreed.addressed.step agreed.belongs agreed.told agreed.asked.udpPort taken
  cases agreed.asked with
  | unready none => cases upstream.symm.trans none
  | @asking port bound only unread udpPort =>
      rw [upstream] at only
      obtain ⟨rfl, rfl⟩ := List.cons.inj only
      have parsed : Signal.parse (Signal.serialize (ready port)) ⟨.hello, []⟩ = some (ready port) :=
        Signal.parse_serialize (sendable_ready port) rfl
      rw [parsed] at stepped
      obtain ⟨server, taken, rfl⟩ := Option.map_eq_some_iff.mp stepped
      obtain ⟨told, isReady⟩ := agreed.told.ready agreed.belongs routable unread
        (parseReadyPort_readyBody bound) taken
      refine ⟨agreed.belongs.step taken, told, addressed taken, ?_, agreed.parameters, ?_⟩
      · exact .taken (List.forall_mem_nil _) isReady udpPort
      · exact agreed.stands.of_server rfl rfl rfl rfl (fun _ => congrArg Option.isSome isReady)
  | taken chatters readyPort udpPort =>
      rw [upstream] at chatters
      obtain ⟨chatter, isLine⟩ := chatters line List.mem_cons_self
      have parsed : Signal.parse line ⟨.hello, []⟩ = some chatter.message := by
        rw [isLine]
        exact Signal.parse_serialize chatter.sendable rfl
      rw [parsed] at stepped
      obtain ⟨server, taken, rfl⟩ := Option.map_eq_some_iff.mp stepped
      obtain ⟨told, same⟩ := agreed.told.chatter (by rcases chatter.kind with kind | kind <;> simp [kind])
        (by rcases chatter.kind with kind | kind <;> simp [kind]) taken
      refine ⟨agreed.belongs.step taken, told, addressed taken, ?_, agreed.parameters, ?_⟩
      · refine .taken ?_ (same.trans readyPort) udpPort
        exact fun other member => chatters other (List.mem_cons_of_mem _ member)
      · exact agreed.stands.of_server rfl rfl rfl rfl (fun isReady => (congrArg Option.isSome same).trans isReady)

/-- Whatever line comes, it is the one that the client expects. -/
theorem Agreed.readLine (agreed : Agreed config peer handshake) (conforms : json.Conforms)
    (advertisable : Advertisable config) {line : List UInt8}
      (found : handshake.downstream[handshake.read]? = some line)
    (stepped : handshake.onLine json line = some next) : Agreed config peer next := by
  rw [downstream, List.getElem?_map] at found
  obtain ⟨message, isSaid, rfl⟩ := Option.map_eq_some_iff.mp found
  have stands := agreed.stands
  rw [Stands] at stands
  rw [onLine] at stepped
  cases stage : handshake.stage <;> rw [stage] at stands <;> simp only [stage] at stepped
  case connected =>
    rcases said_cases agreed.told isSaid with ⟨_, rfl⟩ | ⟨second, _⟩
    · rw [readHello_hello conforms advertisable] at stepped
      cases stepped
      refine ⟨agreed.belongs, agreed.told, agreed.addressed, ?_, ?_, ?_⟩
      · exact agreed.asked.of_same rfl rfl rfl
      · intro parameters known
        exact (Option.some.inj known).symm
      · rw [Stands]
        exact ⟨congrArg (· + 1) stands.1, stands.2, rfl⟩
    · exact absurd (stands.1.symm.trans second) (by decide)
  case ready =>
    rcases said_cases agreed.told isSaid with ⟨first, _⟩ | ⟨_, rfl, isReady⟩
    · exact absurd (stands.1.symm.trans first) (by decide)
    · rw [if_pos rfl] at stepped
      cases stepped
      refine ⟨agreed.belongs, agreed.told, agreed.addressed, agreed.asked.of_same rfl rfl rfl, agreed.parameters, ?_⟩
      rw [Stands]
      exact ⟨congrArg (· + 1) stands.1, isReady⟩
  case streaming =>
    rcases said_cases agreed.told isSaid with ⟨first, _⟩ | ⟨second, _⟩
    · exact absurd (stands.1.symm.trans first) (by decide)
    · exact absurd (stands.1.symm.trans second) (by decide)
  all_goals cases stepped

/-- The client asks for media once its receiver is bound, so none is on its way yet. -/
theorem Agreed.sendReady (agreed : Agreed config peer handshake) {udpPort : UInt16}
    (stepped : step config json handshake (.sendReady udpPort) = some next) : Agreed config peer next := by
  obtain ⟨⟨stage, bound⟩, rfl⟩ := eq_of_guarded stepped
  have stands := agreed.stands
  rw [Stands, stage] at stands
  obtain ⟨read, none, known⟩ := stands
  refine ⟨agreed.belongs, agreed.told, ?_, ?_, agreed.parameters, ?_⟩
  · intro event member packet destination sent
    obtain ⟨port, isPort, _⟩ := agreed.addressed event member packet destination sent
    cases none.symm.trans isPort
  · cases agreed.asked with
    | unready upstream unread _ =>
        refine .asking bound ?_ unread rfl
        rw [upstream]
        rfl
    | asking _ _ _ some => cases none.symm.trans some
    | taken _ _ some => cases none.symm.trans some
  · exact ⟨read, rfl⟩

theorem Agreed.write (agreed : Agreed config peer handshake) {chatter : Chatter}
    (stepped : step config json handshake (.write chatter) = some next) : Agreed config peer next := by
  obtain ⟨stage, rfl⟩ := eq_of_guarded stepped
  have stands := agreed.stands
  rw [Stands, stage] at stands
  refine ⟨agreed.belongs, agreed.told, agreed.addressed, ?_, agreed.parameters, ?_⟩
  · have isReady := stands.2
    cases agreed.asked with
    | unready _ unread =>
        rw [unread] at isReady
        cases isReady
    | asking _ _ unread =>
        rw [unread] at isReady
        cases isReady
    | taken chatters readyPort udpPort =>
        refine .taken ?_ readyPort udpPort
        intro line member
        rcases List.mem_append.mp member with older | own
        · exact chatters line older
        · exact ⟨chatter, List.mem_singleton.mp own⟩
  · exact agreed.stands.of_server rfl rfl rfl rfl id

theorem Agreed.leave (agreed : Agreed config peer handshake) :
    Agreed config peer { handshake with stage := .left } :=
  ⟨agreed.belongs, agreed.told, agreed.addressed, agreed.asked.of_same rfl rfl rfl, agreed.parameters, trivial⟩

theorem Agreed.step (agreed : Agreed config peer handshake) (conforms : json.Conforms)
    (advertisable : Advertisable config) (routable : peer.Routable) {action : Action}
    (stepped : Handshake.step config json handshake action = some next) : Agreed config peer next := by
  cases action with
  | deliver => exact agreed.deliver routable stepped
  | readLine =>
      obtain ⟨line, found, taken⟩ := Option.bind_eq_some_iff.mp stepped
      exact agreed.readLine conforms advertisable found taken
  | sendReady udpPort => exact agreed.sendReady stepped
  | write chatter => exact agreed.write stepped
  | leave =>
      cases stepped
      exact agreed.leave
  | server action =>
      obtain ⟨isOwn, moved⟩ := Option.ite_none_right_eq_some.mp stepped
      obtain ⟨server, taken, rfl⟩ := Option.map_eq_some_iff.mp moved
      refine agreed.server ?_ ?_ taken
      · rintro other rfl
        cases isOwn
      · rintro message rfl
        cases isOwn

/-- Behind `accept` nothing has been said in either direction. -/
theorem agreed_start {idle server : RtpServer} (belongs : idle.Belongs)
    (accepted : RtpServer.step config idle (.accept peer) = some server) : Agreed config peer (start server) := by
  obtain ⟨told, unready, fresh⟩ := told_accept accepted
  refine ⟨belongs.step accepted, told, ?_, .unready rfl unready rfl, ?_, ⟨rfl, rfl⟩⟩
  · intro event member
    rw [start, fresh] at member
    cases member
  · exact fun parameters impossible => absurd impossible (Option.not_mem_none parameters)

end Steps

/-! ## What has been agreed -/

/-- The decoders and the receiver are set up for what the server sends. -/
structure Configured (config : Config) (parameters : Parameters) : Prop where
  codec : parameters.vCodec = codecName config.h265
  size : parameters.vWidth.toInt = config.width ∧ parameters.vHeight.toInt = config.height
  audio : ∃ audio, parameters.audio = some audio ∧ audio.aRate.toInt = config.audioRate ∧
    audio.aChannels.toInt = config.audioChannels
  video : ∀ audioOk seq, Session.Matches (RtpReceiver.configure parameters.hello audioOk) config.h265
    (packetizer config.h265 config.videoSsrc seq)
  hears : Session.Hears config (RtpReceiver.configure parameters.hello true)

theorem configured_advertised {config : Config} (advertisable : Advertisable config) :
    Configured config (advertised config) where
  codec := rfl
  size := ⟨toInt_ofInt advertisable.width, toInt_ofInt advertisable.height⟩
  audio := ⟨_, rfl, toInt_ofInt advertisable.audioRate, toInt_ofInt advertisable.audioChannels⟩
  video audioOk seq := by
    have codec : equalsIgnoreCase (octetsOf ['h', '2', '6', '5']) (codecName config.h265) = config.h265 := by
      cases config.h265 <;> decide
    have pt : (Int32.ofInt kVideoPayloadType.toNat).toInt = (kVideoPayloadType &&& 0x7F).toNat := by decide
    have clock : (Int32.ofInt kVideoClockRate.toNat).toInt = kVideoClockRate.toNat := by decide
    have running : kVideoClockRate ≠ 0 := by decide
    have ssrc := toUInt32_ofInt config.videoSsrc
    cases isH265 : config.h265 with
    | true => exact ⟨codec.trans isH265, ssrc, pt, clock, running⟩
    | false => exact ⟨codec.trans isH265, ssrc, pt, clock, running⟩
  hears := by
    have audioPt : (Int32.ofInt kOpusPayloadType.toNat).toInt = kOpusPayloadType.toNat := by decide
    have audioClock : (Int32.ofInt kOpusClockRate.toNat).toInt = kOpusClockRate.toNat := by decide
    have videoPt : (Int32.ofInt kVideoPayloadType.toNat).toInt = kVideoPayloadType.toNat := by decide
    have videoClock : (Int32.ofInt kVideoClockRate.toNat).toInt ≠ 0 := by decide
    exact ⟨toUInt32_ofInt config.audioSsrc, audioPt, audioClock, rfl, videoPt, videoClock⟩

/-- Where a connection stands: nothing that the server says is refused; what the
client knows is right; media goes nowhere but to the port that the receiver has
bound; a streaming client that is served is streamed to; and a client that waits for
the server has something to read, or the server has. -/
structure Negotiated (config : Config) (peer : SockAddr) (handshake : Handshake) : Prop where
  accepted : handshake.stage ≠ .refused
  configured : ∀ parameters ∈ handshake.parameters, Configured config parameters
  addressed : Addressed peer handshake.udpPort handshake.server
  streams : handshake.stage = .streaming → handshake.server.signaling.served.isSome = true →
    handshake.server.peerStreaming = true ∧
      ∃ port ∈ handshake.udpPort, port ≠ 0 ∧ handshake.server.peerUdp = { peer with port := port }
  greeting : handshake.stage = .connected → handshake.server.signaling.served.isSome = true →
    handshake.downstream[handshake.read]? = some (Signal.serialize (hello config))
  answer : handshake.stage = .ready → handshake.server.signaling.served.isSome = true →
    (∃ port ∈ handshake.udpPort, handshake.upstream = [Signal.serialize (ready port)]) ∨
      handshake.downstream[handshake.read]? = some (Signal.serialize startMessage)

section Agreed

variable {config : Config} {peer : SockAddr} {handshake : Handshake}

theorem Agreed.said (agreed : Agreed config peer handshake)
    (served : handshake.server.signaling.served.isSome = true) :
    handshake.server.said = hello config :: (handshake.server.readyPort.map (fun _ => startMessage)).toList := by
  apply agreed.told.said
  intro connecting
  rw [connecting] at served
  cases served

theorem Agreed.streams (agreed : Agreed config peer handshake) (stage : handshake.stage = .streaming)
    (served : handshake.server.signaling.served.isSome = true) :
    handshake.server.peerStreaming = true ∧
      ∃ port ∈ handshake.udpPort, port ≠ 0 ∧ handshake.server.peerUdp = { peer with port := port } := by
  have stands := agreed.stands
  rw [Stands, stage] at stands
  have streaming := agreed.told.streams stands.2 served
  obtain ⟨client, port, isClient, isReady, bound, destination⟩ := agreed.belongs.endpoint streaming
  rw [agreed.told.client client isClient] at destination
  exact ⟨streaming, port, agreed.asked.udpPort port isReady, bound, destination⟩

theorem Agreed.greeting (agreed : Agreed config peer handshake) (stage : handshake.stage = .connected)
    (served : handshake.server.signaling.served.isSome = true) :
    handshake.downstream[handshake.read]? = some (Signal.serialize (hello config)) := by
  have stands := agreed.stands
  rw [Stands, stage] at stands
  rw [downstream, agreed.said served, stands.1]
  rfl

theorem Agreed.answer (agreed : Agreed config peer handshake) (stage : handshake.stage = .ready)
    (served : handshake.server.signaling.served.isSome = true) :
    (∃ port ∈ handshake.udpPort, handshake.upstream = [Signal.serialize (ready port)]) ∨
      handshake.downstream[handshake.read]? = some (Signal.serialize startMessage) := by
  have stands := agreed.stands
  rw [Stands, stage] at stands
  cases agreed.asked with
  | unready _ _ none =>
      have bound := stands.2
      rw [none] at bound
      cases bound
  | @asking port _ upstream _ udpPort => exact Or.inl ⟨port, udpPort, upstream⟩
  | taken _ readyPort =>
      rw [downstream, agreed.said served, stands.1, readyPort]
      exact Or.inr rfl

end Agreed

/-- Whatever the server did before, in every state of a connection that any
interleaving of its threads and of the client reaches, the two sides agree. -/
theorem negotiated {config : Config} (advertisable : Advertisable config) {json : JsonLibrary}
    (conforms : json.Conforms) {before : List RtpServer.Action} {idle server : RtpServer}
    (reached : RtpServer.run config before = some idle) {peer : SockAddr} (routable : peer.Routable)
    (accepted : RtpServer.step config idle (.accept peer) = some server) {actions : List Action}
    {handshake : Handshake} (ran : run (step config json) (start server) actions = some handshake) :
    (helloBody config).length < helloBufferSize ∧ Negotiated config peer handshake := by
  have agreed : Agreed config peer handshake :=
    run_invariant (fun _ _ _ agreed stepped => Agreed.step agreed conforms advertisable routable stepped)
      (agreed_start (belongs_of_run reached) accepted) ran
  refine ⟨length_helloBody advertisable, ⟨?_, ?_, agreed.addressed, agreed.streams, agreed.greeting, agreed.answer⟩⟩
  · intro refused
    have stands := agreed.stands
    rw [Stands, refused] at stands
    exact stands
  · intro parameters known
    rw [agreed.parameters parameters known]
    exact configured_advertised advertisable

/-! ## A small handshake -/

/-- A library that reads what the writer writes. -/
def sampleJson : JsonLibrary where
  parse := Json.readObject
  toInteger
    | .number number => some (Int32.ofInt number)
    | _ => none
  toText
    | .text octets => some octets
    | _ => none

theorem conforms_sampleJson : sampleJson.Conforms where
  parse _ plain := Json.readObject_write plain
  integer _ _ _ := rfl
  text _ := rfl

def samplePeer : SockAddr := ⟨AF_INET, 0xC0A80001, 40000⟩

/-- The client reads HELLO, binds port 5004, and reads START. -/
def sampleActions : List Action :=
  [.server .resetVideoQueue, .readLine, .sendReady 5004, .deliver, .server .signalingRequest, .readLine]

theorem negotiated_sample :
    ∃ handshake server, RtpServer.step RtpServer.sampleConfig (RtpServer.start RtpServer.sampleConfig)
        (.accept samplePeer) = some server ∧
      run (step RtpServer.sampleConfig sampleJson) (start server) sampleActions = some handshake ∧
      handshake.stage = .streaming ∧ Negotiated RtpServer.sampleConfig samplePeer handshake := by
  obtain ⟨server, accepted, handshake, ran, stage⟩ : ∃ server, RtpServer.step RtpServer.sampleConfig
      (RtpServer.start RtpServer.sampleConfig) (.accept samplePeer) = some server ∧
      ∃ handshake, run (step RtpServer.sampleConfig sampleJson) (start server) sampleActions = some handshake ∧
        handshake.stage = .streaming := by
    refine ⟨_, rfl, ?_⟩
    rw [← Option.map_eq_some_iff]
    decide +kernel
  have advertisable : Advertisable RtpServer.sampleConfig := by
    refine ⟨?_, ?_, ?_, ?_, ?_⟩ <;> decide
  have reached : RtpServer.run RtpServer.sampleConfig [] = some (RtpServer.start RtpServer.sampleConfig) := rfl
  have routable : samplePeer.Routable := ⟨rfl, by decide⟩
  refine ⟨handshake, server, accepted, ran, stage, ?_⟩
  exact (negotiated advertisable conforms_sampleJson reached routable accepted ran).2

end Handshake
end MetaShare
