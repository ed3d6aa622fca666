import MetaShare.Receiver.Delivery
import MetaShare.Receiver.Survival

namespace MetaShare
namespace RtpReceiver

open Octets OrderedMap

/-!
# Where feedback goes

NACKs, picture loss indications and receiver reports are sent to one endpoint,
which the loop learns once.  The endpoint is learned when twelve octets have
arrived from somewhere, before anything in them is checked.
-/

abbrev Endpoint := InetAddress × Int

/-- Where feedback is sent. -/
def endpoint (receiver : RtpReceiver) : Option Endpoint :=
  receiver.remoteAddress.map (fun address => (address, receiver.remotePort))

/-- Whatever has been sent in between went to this endpoint. -/
def Addressed (before after : RtpReceiver) (peer : Option Endpoint) : Prop :=
  ∃ effects, after.log = before.log ++ effects ∧
    ∀ datagram address port, Effect.sent datagram address port ∈ effects → peer = some (address, port)

/-- The endpoint is kept, and all feedback goes there. -/
structure Answers (before after : RtpReceiver) : Prop where
  endpoint : after.endpoint = before.endpoint
  addressed : Addressed before after before.endpoint

/-! ## Senders -/

theorem Addressed.refl (receiver : RtpReceiver) (peer : Option Endpoint) : Addressed receiver receiver peer :=
  ⟨[], (List.append_nil _).symm, fun _ _ _ impossible => by cases impossible⟩

theorem Addressed.trans {first second third : RtpReceiver} {peer : Option Endpoint}
    (left : Addressed first second peer) (right : Addressed second third peer) : Addressed first third peer := by
  obtain ⟨early, grown, sentEarly⟩ := left
  obtain ⟨late, grownAgain, sentLate⟩ := right
  refine ⟨early ++ late, by rw [grownAgain, grown, List.append_assoc], ?_⟩
  intro datagram address port member
  exact (List.mem_append.mp member).elim (sentEarly datagram address port) (sentLate datagram address port)

theorem Answers.of_same {before after : RtpReceiver} (remoteAddress : after.remoteAddress = before.remoteAddress)
    (remotePort : after.remotePort = before.remotePort) (log : after.log = before.log) :
    Answers before after := by
  refine ⟨?_, [], by rw [log, List.append_nil], fun _ _ _ impossible => by cases impossible⟩
  rw [RtpReceiver.endpoint, RtpReceiver.endpoint, remoteAddress, remotePort]

theorem Answers.refl (receiver : RtpReceiver) : Answers receiver receiver := .of_same rfl rfl rfl

theorem Answers.trans {first second third : RtpReceiver} (left : Answers first second)
    (right : Answers second third) : Answers first third := by
  have later := right.addressed
  rw [left.endpoint] at later
  exact ⟨right.endpoint.trans left.endpoint, left.addressed.trans later⟩

/-- An effect that is no datagram. -/
def Effect.isSilent : Effect → Bool
  | .sent _ _ _ => false
  | _ => true

theorem Answers.log_append (receiver : RtpReceiver) (effects : List Effect)
    (silent : ∀ effect ∈ effects, effect.isSilent = true) :
    Answers receiver { receiver with log := receiver.log ++ effects } := by
  refine ⟨rfl, effects, rfl, fun datagram address port member => ?_⟩
  cases silent _ member

theorem endpoint_of_remote {receiver : RtpReceiver} {address : InetAddress}
    (remote : receiver.remoteAddress = some address) :
    receiver.endpoint = some (address, receiver.remotePort) := by
  rw [RtpReceiver.endpoint, remote]
  rfl

/-- Requests that come from handing packets on go to the endpoint. -/
theorem HandsOn.answers {config : Config} {before after : RtpReceiver} (handsOn : HandsOn config before after) :
    Answers before after := by
  obtain ⟨more, grown, handed⟩ := handsOn.log
  refine ⟨?_, more, grown, fun datagram address port member => ?_⟩
  · rw [RtpReceiver.endpoint, RtpReceiver.endpoint, handsOn.remoteAddress, handsOn.remotePort]
  · cases handed _ member with
    | pli known => exact endpoint_of_remote known

section Feedback

variable (receiver : RtpReceiver) (env : Environment) (config : Config)

theorem transmit_answers (datagram : List UInt8) {address : InetAddress} {port : Int}
    (peer : receiver.endpoint = some (address, port)) :
    Answers receiver (receiver.transmit env datagram address port) := by
  rw [transmit]
  split
  · refine ⟨rfl, [.sent datagram address port], rfl, ?_⟩
    intro other otherAddress otherPort member
    cases List.mem_singleton.mp member
    exact peer
  · exact .of_same rfl rfl rfl

theorem maybeSendReceiverReport_answers : Answers receiver (receiver.maybeSendReceiverReport env config) := by
  have noted : Answers receiver { receiver.tick with lastRrMs := receiver.clock env } := .of_same rfl rfl rfl
  simp only [maybeSendReceiverReport]
  split
  · exact .of_same rfl rfl rfl
  split
  · exact noted
  rename_i address remote
  split
  · exact noted
  split
  · exact noted
  · refine Answers.trans ?_ (transmit_answers _ env _ ?_)
    · exact .of_same rfl rfl rfl
    · exact endpoint_of_remote remote

theorem sendNacksFrom_answers {address : InetAddress} {port : Int} (extPid afterGap : Int)
    (peer : receiver.endpoint = some (address, port)) :
    Answers receiver (sendNacksFrom env config address port extPid afterGap receiver) := by
  induction extPid, receiver using sendNacksFrom.induct env config address port afterGap with
  | case1 extPid receiver more packed sent succeeded inductionHypothesis =>
      have requests := Answers.log_append sent ((numbersFrom extPid (packed.2 + 1)).map Effect.requested)
        (by simp [Effect.isSilent])
      have transmitted := (transmit_answers receiver env _ peer).trans requests
      rw [sendNacksFrom, if_pos more, if_pos succeeded]
      exact transmitted.trans (inductionHypothesis (transmitted.endpoint.trans peer))
  | case2 extPid receiver more failed =>
      rw [sendNacksFrom, if_pos more, if_neg failed]
      exact transmit_answers receiver env _ peer
  | case3 extPid receiver finished =>
      rw [sendNacksFrom, if_neg finished]
      exact .refl receiver

theorem sendNacksForRange_answers (firstMissing afterGap : Int) :
    Answers receiver (receiver.sendNacksForRange env config firstMissing afterGap) := by
  rw [sendNacksForRange]
  split
  · exact .refl receiver
  rename_i address remote
  split
  · exact .refl receiver
  · exact sendNacksFrom_answers receiver env config firstMissing afterGap (endpoint_of_remote remote)

theorem noteArrival_answers (ext : Int) : Answers receiver (receiver.noteArrival env config ext) := by
  have counted : Answers receiver { receiver with statReceived := receiver.statReceived + 1 } :=
    .of_same rfl rfl rfl
  have raised : ∀ middle, Answers receiver middle → Answers receiver
      { middle with
        highestExtSeq := ext
        statFirstExtSeq := if middle.statFirstExtSeq < 0 then ext else middle.statFirstExtSeq } :=
    fun _ answers => answers.trans (.of_same rfl rfl rfl)
  simp only [noteArrival]
  split
  · apply raised
    split
    · split
      · exact counted.trans (sendNacksForRange_answers _ env config _ _)
      · exact counted.trans (sendAutoPli_handsOn _ env config).answers
    · exact counted
  · exact counted

end Feedback

/-! ## Arrival -/

section Arrival

variable {receiver after : RtpReceiver} {env : Environment} {config : Config}

theorem receiveVideo_answers {header : Header} {buf : List UInt8} {n : Nat}
    (received : receiver.receiveVideo env config header buf n = .ok after) : Answers receiver after := by
  rw [receiveVideo] at received
  refine Answers.trans ?_ (acceptVideo_handsOn received).answers
  refine Answers.trans (.log_append receiver [.arrived _] ?_) (noteArrival_answers _ env config _)
  intro effect member
  rw [List.mem_singleton.mp member]
  rfl

theorem receiveAudio_answers {header : Header} {buf : List UInt8} {n : Nat}
    (heard : receiver.receiveAudio config header buf n = .ok after) : Answers receiver after := by
  rw [receiveAudio] at heard
  obtain ⟨ptsUsec, _, played⟩ := bind_ok heard
  split at played
  · cases played
    refine .log_append receiver _ ?_
    intro effect member
    rw [List.mem_singleton.mp member]
    rfl
  · cases played

end Arrival

theorem learnRemote_addressed (receiver : RtpReceiver) (env : Environment) (config : Config)
    (address : InetAddress) (port : UInt16) :
    (receiver.learnRemote env config address port).endpoint =
        receiver.endpoint.or (some (address, (port.toNat : Int))) ∧
      Addressed receiver (receiver.learnRemote env config address port)
        (receiver.learnRemote env config address port).endpoint := by
  rw [learnRemote]
  split
  · rename_i known remote
    rw [endpoint_of_remote remote, Option.some_or]
    exact ⟨rfl, .refl receiver _⟩
  · rename_i unknown
    have nobody : receiver.endpoint = none := by
      rw [RtpReceiver.endpoint, unknown]
      rfl
    rw [nobody, Option.none_or]
    simp only
    split
    · have asked := (sendPli_handsOn
        { receiver with remoteAddress := some address, remotePort := port.toNat, pliPending := false }
        env config).answers
      refine ⟨asked.endpoint, ?_⟩
      rw [asked.endpoint]
      exact asked.addressed
    · exact ⟨rfl, [], (List.append_nil _).symm, fun _ _ _ impossible => by cases impossible⟩

theorem receive_addressed {receiver after : RtpReceiver} {env : Environment} {config : Config}
    {data stale : List UInt8} {address : InetAddress} {port : UInt16}
    (received : receiver.receive env config data stale address port = .ok after) :
    after.endpoint =
        (if 12 ≤ data.length then receiver.endpoint.or (some (address, (port.toNat : Int))) else receiver.endpoint) ∧
      Addressed receiver after after.endpoint := by
  rw [receive] at received
  split at received
  · rename_i short
    cases received
    rw [if_neg (by omega)]
    exact ⟨rfl, .refl _ _⟩
  rename_i long
  rw [if_pos (by omega)]
  obtain ⟨isLearned, early⟩ := learnRemote_addressed receiver env config address port
  have finish : Answers (receiver.learnRemote env config address port) after →
      after.endpoint = receiver.endpoint.or (some (address, (port.toNat : Int))) ∧
        Addressed receiver after after.endpoint := by
    intro answers
    refine ⟨answers.endpoint.trans isLearned, ?_⟩
    rw [answers.endpoint]
    exact early.trans answers.addressed
  apply finish
  obtain ⟨header?, _, parsed⟩ := bind_ok received
  cases header? with
  | none =>
      cases parsed
      exact .refl _
  | some header =>
      simp only at parsed
      split at parsed
      · cases parsed
        exact .refl _
      obtain ⟨middle, taken, reported⟩ := bind_ok parsed
      cases reported
      refine Answers.trans ?_ (maybeSendReceiverReport_answers middle env config)
      split at taken
      · exact receiveVideo_answers taken
      split at taken
      · exact receiveAudio_answers taken
      · cases taken
        exact .refl _

/-! ## Whom the receiver hears -/

/-- The datagram that an input brings, and where it comes from. -/
def Input.datagram : Input → Option (List UInt8 × Endpoint)
  | .iteration (.packet data _ address port) => some (data, address, (port.toNat : Int))
  | _ => none

def Input.brings (accepts : List UInt8 → Bool) (input : Input) : Bool :=
  input.datagram.any (fun datagram => accepts datagram.1)

/-- Where the first such datagram comes from. -/
def firstSender (accepts : List UInt8 → Bool) (inputs : List Input) : Option Endpoint :=
  (inputs.find? (Input.brings accepts)).bind (fun input => input.datagram.map Prod.snd)

/-- An RTP packet of the session. -/
def Genuine (config : Config) (data : List UInt8) : Prop :=
  12 ≤ data.length ∧ version data = 2 ∧
    (ssrc data = config.videoSsrc ∧ (payloadType data : Int) = config.videoPt ∨
      ssrc data = config.audioSsrc ∧ (payloadType data : Int) = config.audioPt)

instance (config : Config) (data : List UInt8) : Decidable (Genuine config data) := by
  unfold Genuine
  infer_instance

def Input.isGenuine (config : Config) (input : Input) : Bool :=
  input.brings (fun data => decide (Genuine config data))

def Input.isRequest : Input → Bool
  | .keyframeRequest => true
  | .iteration _ => false

/-- An RTP packet of the session has come from there. -/
def HasSent (config : Config) (inputs : List Input) (peer : Endpoint) : Prop :=
  ∃ input ∈ inputs, input.isGenuine config = true ∧ input.datagram.map Prod.snd = some peer

instance (config : Config) (inputs : List Input) (peer : Endpoint) : Decidable (HasSent config inputs peer) := by
  unfold HasSent
  infer_instance

/-- Whoever sent the first datagram with twelve octets. -/
def firstHeard (inputs : List Input) : Option Endpoint :=
  firstSender (fun data => decide (12 ≤ data.length)) inputs

theorem datagram_of_brings {accepts : List UInt8 → Bool} {input : Input} (brings : input.brings accepts = true) :
    ∃ data sender, input.datagram = some (data, sender) ∧ accepts data = true := by
  obtain ⟨⟨data, sender⟩, isDatagram, accepted⟩ := (Option.any_eq_true _ _).mp brings
  exact ⟨data, sender, isDatagram, accepted⟩

theorem firstSender_cons (accepts : List UInt8 → Bool) (input : Input) (rest : List Input) :
    firstSender accepts (input :: rest) = (firstSender accepts [input]).or (firstSender accepts rest) := by
  rw [firstSender, firstSender, List.find?_cons, List.find?_cons, List.find?_nil]
  cases brings : input.brings accepts with
  | false => rfl
  | true =>
      obtain ⟨data, sender, isDatagram, _⟩ := datagram_of_brings brings
      rw [Option.bind_some, isDatagram]
      rfl

theorem firstSender_append (accepts : List UInt8 → Bool) (first second : List Input) :
    firstSender accepts (first ++ second) = (firstSender accepts first).or (firstSender accepts second) := by
  induction first with
  | nil => rfl
  | cons input rest inductionHypothesis =>
      rw [List.cons_append, firstSender_cons, inductionHypothesis, firstSender_cons accepts input rest,
        Option.or_assoc]

/-! ## Every step -/

/-- What the expiry and the rest of a step send, and to whom. -/
def Directs (env : Environment) (config : Config) (early late : Option Endpoint) (before after : RtpReceiver) :
    Input → Prop
  | .keyframeRequest => Addressed before after early
  | .iteration _ => ∃ expired, before.expire env config = .ok expired ∧ Addressed before expired early ∧
      Addressed expired after late

theorem step_directs {receiver after : RtpReceiver} {env : Environment} {config : Config} {input : Input}
    (stepped : step env config receiver input = .ok after) :
    after.endpoint = receiver.endpoint.or (firstHeard [input]) ∧
      Directs env config receiver.endpoint after.endpoint receiver after input := by
  cases input with
  | keyframeRequest =>
      cases stepped
      have answers := (requestKeyframe_handsOn receiver env config).answers
      exact ⟨answers.endpoint.trans (Option.or_none).symm, answers.addressed⟩
  | iteration received =>
      rw [step, iterate] at stepped
      obtain ⟨expired, isExpired, passed⟩ := bind_ok stepped
      have waited := (expireEntries_handsOn receiver.jitter isExpired).answers
      have quiet : Answers expired after → after.endpoint = receiver.endpoint ∧
          Directs env config receiver.endpoint after.endpoint receiver after (.iteration received) := by
        intro answers
        refine ⟨answers.endpoint.trans waited.endpoint, expired, isExpired, waited.addressed, ?_⟩
        rw [answers.endpoint]
        exact answers.addressed
      cases received with
      | timeout =>
          cases passed
          obtain ⟨same, directs⟩ := quiet (maybeSendReceiverReport_answers expired env config)
          exact ⟨same.trans (Option.or_none).symm, directs⟩
      | failed =>
          cases passed
          obtain ⟨same, directs⟩ := quiet (.refl _)
          exact ⟨same.trans (Option.or_none).symm, directs⟩
      | packet data stale address port =>
          obtain ⟨isEndpoint, sent⟩ := receive_addressed passed
          refine ⟨?_, expired, isExpired, waited.addressed, sent⟩
          rw [isEndpoint, waited.endpoint]
          have brings : Input.brings (fun data => decide (12 ≤ data.length))
              (.iteration (.packet data stale address port)) = decide (12 ≤ data.length) := rfl
          rw [firstHeard, firstSender, List.find?_cons, List.find?_nil, brings]
          by_cases long : 12 ≤ data.length
          · rw [if_pos long, decide_eq_true long]
            rfl
          · rw [if_neg long, decide_eq_false long]
            exact (Option.or_none).symm

/-- The endpoint is whoever was heard first. -/
theorem run_endpoint {env : Environment} {config : Config} (inputs : List Input) {receiver after : RtpReceiver}
    (ran : run env config receiver inputs = .ok after) :
    after.endpoint = receiver.endpoint.or (firstHeard inputs) := by
  induction inputs generalizing receiver with
  | nil =>
      cases ran
      exact (Option.or_none).symm
  | cons input rest inductionHypothesis =>
      obtain ⟨middle, stepped, later⟩ := run_cons_ok ran
      rw [inductionHypothesis later, (step_directs stepped).1, firstHeard, firstHeard, firstHeard, Option.or_assoc,
        ← firstSender_cons]

/-! ## Before the first packet -/

/-- Nothing is held, no keyframe request waits, and no video packet has come. -/
structure Unprovoked (receiver : RtpReceiver) : Prop where
  jitter : receiver.jitter = []
  pliPending : receiver.pliPending = false
  highestExtSeq : receiver.highestExtSeq < 0

/-- Nothing that feedback depends on has changed, and nothing has been sent. -/
structure Silent (before after : RtpReceiver) : Prop where
  jitter : after.jitter = before.jitter
  pliPending : after.pliPending = before.pliPending
  highestExtSeq : after.highestExtSeq = before.highestExtSeq
  log : after.log = before.log

theorem Silent.trans {first second third : RtpReceiver} (left : Silent first second) (right : Silent second third) :
    Silent first third :=
  ⟨right.jitter.trans left.jitter, right.pliPending.trans left.pliPending,
    right.highestExtSeq.trans left.highestExtSeq, right.log.trans left.log⟩

theorem Unprovoked.silent {before after : RtpReceiver} (unprovoked : Unprovoked before)
    (silent : Silent before after) : Unprovoked after :=
  ⟨silent.jitter.trans unprovoked.jitter, silent.pliPending.trans unprovoked.pliPending,
    silent.highestExtSeq.symm ▸ unprovoked.highestExtSeq⟩

theorem Silent.addressed {before after : RtpReceiver} (silent : Silent before after) (peer : Option Endpoint) :
    Addressed before after peer :=
  ⟨[], by rw [silent.log, List.append_nil], fun _ _ _ impossible => by cases impossible⟩

theorem maybeSendReceiverReport_silent {receiver : RtpReceiver} (env : Environment) (config : Config)
    (unprovoked : Unprovoked receiver) : Silent receiver (receiver.maybeSendReceiverReport env config) := by
  simp only [maybeSendReceiverReport]
  split
  · exact ⟨rfl, rfl, rfl, rfl⟩
  split
  · exact ⟨rfl, rfl, rfl, rfl⟩
  split
  · exact ⟨rfl, rfl, rfl, rfl⟩
  rw [if_pos]
  · exact ⟨rfl, rfl, rfl, rfl⟩
  · exact Or.inr unprovoked.highestExtSeq

theorem learnRemote_silent {receiver : RtpReceiver} (env : Environment) (config : Config) (address : InetAddress)
    (port : UInt16) (unprovoked : Unprovoked receiver) :
    Silent receiver (receiver.learnRemote env config address port) := by
  rw [learnRemote]
  split
  · exact ⟨rfl, rfl, rfl, rfl⟩
  · simp only
    rw [if_neg (by rw [unprovoked.pliPending]; exact Bool.false_ne_true)]
    exact ⟨rfl, rfl, rfl, rfl⟩

/-- A datagram that is no packet of the session provokes nothing. -/
theorem receive_silent {receiver after : RtpReceiver} {env : Environment} {config : Config} {data stale : List UInt8}
    {address : InetAddress} {port : UInt16} (unprovoked : Unprovoked receiver) (foreign : ¬ Genuine config data)
    (received : receiver.receive env config data stale address port = .ok after) : Silent receiver after := by
  have learned := learnRemote_silent env config address port unprovoked
  rw [receive] at received
  split at received
  · cases received
    exact ⟨rfl, rfl, rfl, rfl⟩
  rename_i long
  rw [parseHeader_eq data stale (by omega), ok_bind] at received
  cases found : headerOf data with
  | none =>
      rw [found] at received
      cases received
      exact learned
  | some header =>
      have parsed := parsed_of_headerOf (by omega) found
      have notVideo : ¬ (header.ssrc = config.videoSsrc ∧ header.pt = config.videoPt) := by
        intro own
        rw [parsed.ssrc, parsed.pt] at own
        exact foreign ⟨by omega, parsed.version, Or.inl own⟩
      have notAudio : ¬ (header.ssrc = config.audioSsrc ∧ header.pt = config.audioPt) := by
        intro own
        rw [parsed.ssrc, parsed.pt] at own
        exact foreign ⟨by omega, parsed.version, Or.inr own⟩
      rw [found] at received
      simp only [if_neg notVideo, if_neg notAudio] at received
      split at received
      · cases received
        exact learned
      · cases received
        exact learned.trans (maybeSendReceiverReport_silent env config (unprovoked.silent learned))

theorem Unprovoked.expire {receiver : RtpReceiver} (env : Environment) (config : Config)
    (unprovoked : Unprovoked receiver) : receiver.expire env config = .ok receiver := by
  rw [RtpReceiver.expire, unprovoked.jitter]
  rfl

/-- Without a keyframe request and without a packet of the session nothing is sent. -/
theorem step_silent {receiver after : RtpReceiver} {env : Environment} {config : Config} {input : Input}
    (unprovoked : Unprovoked receiver) (unasked : input.isRequest = false) (foreign : input.isGenuine config = false)
    (stepped : step env config receiver input = .ok after) : Silent receiver after := by
  cases input with
  | keyframeRequest => exact Bool.noConfusion unasked
  | iteration received =>
      rw [step, iterate, unprovoked.expire, ok_bind] at stepped
      cases received with
      | timeout =>
          cases stepped
          exact maybeSendReceiverReport_silent env config unprovoked
      | failed =>
          cases stepped
          exact ⟨rfl, rfl, rfl, rfl⟩
      | packet data stale address port => exact receive_silent unprovoked (of_decide_eq_false foreign) stepped

theorem run_silent {env : Environment} {config : Config} (inputs : List Input) {receiver after : RtpReceiver}
    (unprovoked : Unprovoked receiver)
    (quiet : ∀ input ∈ inputs, input.isRequest = false ∧ input.isGenuine config = false)
    (ran : run env config receiver inputs = .ok after) : Unprovoked after := by
  induction inputs generalizing receiver with
  | nil =>
      cases ran
      exact unprovoked
  | cons input rest inductionHypothesis =>
      obtain ⟨middle, stepped, later⟩ := run_cons_ok ran
      obtain ⟨unasked, foreign⟩ := quiet input List.mem_cons_self
      have next := unprovoked.silent (step_silent unprovoked unasked foreign stepped)
      exact inductionHypothesis next (fun other member => quiet other (List.mem_cons_of_mem _ member)) later

/-! ## Feedback reaches the streamer -/

/-- What has been sent in between, and where. -/
def sentBetween (before after : RtpReceiver) : List (List UInt8 × Endpoint) :=
  (after.log.drop before.log.length).filterMap (fun effect => match effect with
    | .sent datagram address port => some (datagram, address, port)
    | _ => none)

/-- Feedback may go there: a packet of the session has come from there, and if one has
come from the streamer, it is the streamer. -/
def Proper (config : Config) (streamer : Endpoint) (inputs : List Input) (peer : Endpoint) : Prop :=
  HasSent config inputs peer ∧ (HasSent config inputs streamer → peer = streamer)

/-- What the expiry and the rest of a step send goes where it may go, by what has come
before and by what has come with the step. -/
def StepDirected (env : Environment) (config : Config) (streamer : Endpoint) (done : List Input)
    (receiver after : RtpReceiver) : Input → Prop
  | .keyframeRequest => ∀ sent ∈ sentBetween receiver after, Proper config streamer done sent.2
  | .iteration received => ∃ expired, receiver.expire env config = .ok expired ∧
      (∀ sent ∈ sentBetween receiver expired, Proper config streamer done sent.2) ∧
        ∀ sent ∈ sentBetween expired after, Proper config streamer (done ++ [.iteration received]) sent.2

/-- In every step of a run, all feedback goes where it may go. -/
def Directed (env : Environment) (config : Config) (streamer : Endpoint) (inputs : List Input) : Prop :=
  ∀ done input rest receiver after, inputs = done ++ input :: rest →
    run env config (start config) done = .ok receiver → step env config receiver input = .ok after →
    StepDirected env config streamer done receiver after input

/-- The first datagram with twelve octets is a packet of the session. -/
def GenuineFirst (config : Config) (inputs : List Input) : Prop :=
  ∀ input ∈ inputs.find? (Input.brings (fun data => decide (12 ≤ data.length))), input.isGenuine config = true

/-- Until a packet of the session comes from there, no keyframe is requested, and none
comes from elsewhere. -/
def QuietUntil (config : Config) (peer : Endpoint) (inputs : List Input) : Prop :=
  ∀ early input late, inputs = early ++ input :: late → ¬ HasSent config (early ++ [input]) peer →
    input.isRequest = false ∧ input.isGenuine config = false

/-- The first datagram with twelve octets comes from the streamer, if a packet of the
session does.  It is one itself, or nothing provokes feedback before one comes from its
sender. -/
structure StreamerFirst (config : Config) (streamer : Endpoint) (inputs : List Input) : Prop where
  own : HasSent config inputs streamer → ∀ peer ∈ firstHeard inputs, peer = streamer
  packet : GenuineFirst config inputs ∨ ∀ peer ∈ firstHeard inputs, QuietUntil config peer inputs

section Stages

variable {env : Environment} {config : Config} {streamer peer : Endpoint} {done late : List Input}

theorem sentBetween_of_addressed {before after : RtpReceiver} {peer : Option Endpoint}
    (addressed : Addressed before after peer) {sent : List UInt8 × Endpoint}
    (member : sent ∈ sentBetween before after) : peer = some sent.2 := by
  obtain ⟨effects, grown, goes⟩ := addressed
  rw [sentBetween, grown, List.drop_left] at member
  obtain ⟨effect, isEffect, isSent⟩ := List.mem_filterMap.mp member
  cases effect <;> cases isSent
  exact goes _ _ _ isEffect

theorem sentBetween_silent {before after : RtpReceiver} (silent : Silent before after)
    {sent : List UInt8 × Endpoint} : sent ∉ sentBetween before after := by
  intro member
  exact Option.some_ne_none _ (sentBetween_of_addressed (silent.addressed none) member).symm

theorem HasSent.append (heard : HasSent config done peer) (late : List Input) :
    HasSent config (done ++ late) peer := by
  obtain ⟨input, member, holds⟩ := heard
  exact ⟨input, List.mem_append_left _ member, holds⟩

theorem firstHeard_append (heard : firstHeard done = some peer) (late : List Input) :
    firstHeard (done ++ late) = some peer := by
  rw [firstHeard, firstSender_append]
  change (firstHeard done).or _ = _
  rw [heard, Option.some_or]

/-- The condition on the inputs so far. -/
theorem StreamerFirst.of_append (first : StreamerFirst config streamer (done ++ late)) :
    StreamerFirst config streamer done where
  own := fun heard peer isFirst => first.own (heard.append late) peer (firstHeard_append isFirst late)
  packet := by
    rcases first.packet with genuine | quiet
    · refine Or.inl fun input isFirst => genuine input ?_
      rw [List.find?_append, Option.mem_def.mp isFirst]
      rfl
    · refine Or.inr fun peer isFirst early input rest split => ?_
      refine quiet peer (firstHeard_append isFirst late) early input (rest ++ late) ?_
      rw [split, List.append_assoc, List.cons_append]

/-- A genuine datagram of twelve octets that comes first has come from whom the receiver
hears first. -/
theorem heard_of_genuineFirst (genuine : GenuineFirst config done) (isFirst : firstHeard done = some peer) :
    HasSent config done peer := by
  obtain ⟨input, found, sender⟩ := Option.bind_eq_some_iff.mp isFirst
  exact ⟨input, List.mem_of_find?_eq_some found, genuine input found, sender⟩

theorem quiet_of_unheard (quiet : QuietUntil config peer done) (unheard : ¬ HasSent config done peer) :
    ∀ input ∈ done, input.isRequest = false ∧ input.isGenuine config = false := by
  intro input member
  obtain ⟨early, late, rfl⟩ := List.append_of_mem member
  refine quiet early input late rfl fun heard => unheard ?_
  have longer := heard.append late
  rwa [List.append_assoc] at longer

/-- Under the condition, either feedback may go to whom the receiver has heard first, or
nothing has provoked any. -/
theorem StreamerFirst.proper (first : StreamerFirst config streamer done) (isFirst : firstHeard done = some peer) :
    Proper config streamer done peer ∨
      ∀ input ∈ done, input.isRequest = false ∧ input.isGenuine config = false := by
  by_cases heard : HasSent config done peer
  · exact Or.inl ⟨heard, fun own => first.own own peer isFirst⟩
  · rcases first.packet with genuine | quiet
    · exact absurd (heard_of_genuineFirst genuine isFirst) heard
    · exact Or.inr (quiet_of_unheard (quiet peer isFirst) heard)

theorem unprovoked_start (config : Config) : Unprovoked (start config) :=
  ⟨rfl, rfl, Int.negSucc_lt_zero 0⟩

end Stages

/-- A keyframe request brings no datagram. -/
theorem hasSent_request {config : Config} {done : List Input} {peer : Endpoint} :
    HasSent config (done ++ [.keyframeRequest]) peer ↔ HasSent config done peer := by
  constructor
  · rintro ⟨input, member, genuine, sender⟩
    rcases List.mem_append.mp member with before | last
    · exact ⟨input, before, genuine, sender⟩
    · rw [List.mem_singleton.mp last] at genuine
      exact Bool.noConfusion genuine
  · exact fun hasSent => hasSent.append _

theorem step_directed {env : Environment} {config : Config} {streamer : Endpoint} {done : List Input} {input : Input}
    {receiver after : RtpReceiver} (first : StreamerFirst config streamer (done ++ [input]))
    (ran : run env config (start config) done = .ok receiver) (stepped : step env config receiver input = .ok after) :
    StepDirected env config streamer done receiver after input := by
  have early : receiver.endpoint = firstHeard done := run_endpoint done ran
  obtain ⟨isEndpoint, directs⟩ := step_directs stepped
  have late : after.endpoint = firstHeard (done ++ [input]) := by
    rw [isEndpoint, early, firstHeard, firstHeard, firstHeard, firstSender_append]
  have unprovoked : (∀ other ∈ done, other.isRequest = false ∧ other.isGenuine config = false) →
      Unprovoked receiver := fun quiet => run_silent done (unprovoked_start config) quiet ran
  rw [early, late] at directs
  cases input with
  | keyframeRequest =>
      intro sent member
      have isFirst := firstHeard_append (sentBetween_of_addressed directs member) [.keyframeRequest]
      rcases first.proper isFirst with ⟨hasSent, own⟩ | quiet
      · exact ⟨hasSent_request.mp hasSent, fun streamerSent => own (hasSent_request.mpr streamerSent)⟩
      · exact Bool.noConfusion (quiet _ (List.mem_append_right _ List.mem_cons_self)).1
  | iteration received =>
      obtain ⟨expired, isExpired, before, behind⟩ := directs
      refine ⟨expired, isExpired, fun sent member => ?_, fun sent member => ?_⟩
      · rcases first.of_append.proper (sentBetween_of_addressed before member) with proper | quiet
        · exact proper
        · cases isExpired.symm.trans ((unprovoked quiet).expire env config)
          exact absurd member (sentBetween_silent ⟨rfl, rfl, rfl, rfl⟩)
      · rcases first.proper (sentBetween_of_addressed behind member) with proper | quiet
        · exact proper
        · obtain ⟨unasked, foreign⟩ := quiet _ (List.mem_append_right _ List.mem_cons_self)
          have idle := unprovoked (fun other member => quiet other (List.mem_append_left _ member))
          cases isExpired.symm.trans (idle.expire env config)
          exact absurd member (sentBetween_silent (step_silent idle unasked foreign stepped))

/-- If the first datagram with twelve octets comes from the streamer, and is a packet of
the session or comes before anything provokes feedback, then all feedback goes to whom
a packet of the session has come from, and to the streamer once one has come from it. -/
theorem feedback_directed (env : Environment) {config : Config} {streamer : Endpoint} {inputs : List Input}
    (first : StreamerFirst config streamer inputs) : Directed env config streamer inputs := by
  intro done input rest receiver after isSplit ran stepped
  rw [isSplit, ← List.singleton_append, ← List.append_assoc] at first
  exact step_directed first.of_append ran stepped

def strayConfig : Config where
  videoSsrc := 7
  videoPt := 96
  h265 := false
  videoClockRate := 90000
  audioSsrc := 8
  audioPt := 111
  audioClockRate := 48000
  audioSink := true

def strayEnvironment : Environment := ⟨fun _ => 0, fun _ => true⟩

/-- A video packet of the streamer, which holds one small unit. -/
def streamed (seq : UInt8) : Input :=
  .iteration (.packet [0x80, 96, 0, seq, 0, 0, 0, 0, 0, 0, 0, 7, 0x65, 1] [] [10, 0, 0, 1] 5004)

/-- Twelve zero octets from elsewhere, and then the stream without its second packet. -/
def strayInputs : List Input :=
  [.iteration (.packet (List.replicate 12 0) [] [10, 0, 0, 9] 9), streamed 1, streamed 3]

/-- Twelve zero octets of the streamer, which nobody answers, and then its stream. -/
def openedInputs : List Input :=
  [.iteration (.packet (List.replicate 12 0) [] [10, 0, 0, 1] 5004), streamed 1, streamed 3]

theorem feedback_directed_sample : Directed strayEnvironment strayConfig ([10, 0, 0, 1], 5004) openedInputs := by
  have isFirst : firstHeard openedInputs = some ([10, 0, 0, 1], 5004) := by decide
  apply feedback_directed
  refine ⟨fun _ peer isPeer => (Option.some.inj (isFirst.symm.trans isPeer)).symm, Or.inr ?_⟩
  intro peer isPeer
  cases isFirst.symm.trans isPeer
  intro early input late split unheard
  rcases early with _ | ⟨first, early⟩
  · cases split
    decide
  · have second : streamed 1 ∈ first :: early ++ [input] := by
      have rest := (List.cons.inj split).2
      rcases early with _ | ⟨next, early⟩
      · rw [(List.cons.inj rest).1]
        exact List.mem_cons_of_mem _ List.mem_cons_self
      · rw [(List.cons.inj rest).1]
        exact List.mem_cons_of_mem _ List.mem_cons_self
    exact absurd ⟨streamed 1, second, by decide, by decide⟩ unheard

/-- The NACK for the second packet goes to whoever sent the zeros. -/
theorem feedback_diverted :
    ¬ Directed strayEnvironment strayConfig ([10, 0, 0, 1], 5004) strayInputs ∧
      (run strayEnvironment strayConfig (start strayConfig) strayInputs).toOption.map
          (sentBetween (start strayConfig)) = some [(nack 7 2 0, [10, 0, 0, 9], 9)] := by
  refine ⟨fun directed => ?_, by decide +kernel⟩
  have ends : (do
      let receiver ← run strayEnvironment strayConfig (start strayConfig) (strayInputs.take 2)
      let expired ← receiver.expire strayEnvironment strayConfig
      let after ← step strayEnvironment strayConfig receiver (streamed 3)
      pure (sentBetween expired after) : Checked (List (List UInt8 × Endpoint))) =
        .ok [(nack 7 2 0, [10, 0, 0, 9], 9)] := by decide +kernel
  obtain ⟨receiver, ran, ends⟩ := bind_ok ends
  obtain ⟨expired, isExpired, ends⟩ := bind_ok ends
  obtain ⟨after, stepped, ends⟩ := bind_ok ends
  obtain ⟨other, isOther, _, behind⟩ := directed (strayInputs.take 2) (streamed 3) [] receiver after rfl ran stepped
  cases isOther.symm.trans isExpired
  have sent : sentBetween expired after = [(nack 7 2 0, [10, 0, 0, 9], 9)] := Except.ok.inj ends
  have misdirected := behind _ (sent ▸ List.mem_cons_self)
  exact absurd misdirected.1 (by decide +kernel)

end RtpReceiver
end MetaShare
