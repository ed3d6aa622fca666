import MetaShare.Receiver.Arrival

namespace MetaShare
namespace RtpReceiver

open Octets OrderedMap

/-!
# The receive loop and foreign datagrams

The socket of the receiver is open to the network, and no exception is caught
while a datagram is processed.  A configuration comes from a HELLO message and
from whether the audio decoder could be initialized.
-/

/-! ## The configuration of a session -/

structure AudioParams where
  ssrc : UInt32
  pt : Int
  clock : Int

/-- The stream parameters of a HELLO message that concern the receiver. -/
structure Hello where
  ssrc : UInt32
  pt : Int
  codecIsH265 : Bool
  clock : Int
  audio : Option AudioParams

/-- What the receiver is set up with.  A session without audio keeps the
defaults, and a session without an audio decoder has no audio sink. -/
def configure (hello : Hello) (audioOk : Bool) : Config where
  videoSsrc := hello.ssrc
  videoPt := hello.pt
  h265 := hello.codecIsH265
  videoClockRate := hello.clock
  audioSsrc := (hello.audio.map AudioParams.ssrc).getD 0xFFFFFFFF
  audioPt := (hello.audio.map AudioParams.pt).getD (-1)
  audioClockRate := (hello.audio.map AudioParams.clock).getD 48000
  audioSink := hello.audio.isSome && audioOk

def Hello.Clocked (hello : Hello) : Prop :=
  0 < hello.clock ∧ ∀ audio ∈ hello.audio, 0 < audio.clock

theorem videoClockRate_ne_zero {hello : Hello} (clocked : hello.Clocked) (audioOk : Bool) :
    (configure hello audioOk).videoClockRate ≠ 0 :=
  ne_of_gt clocked.1

theorem audioClockRate_ne_zero {hello : Hello} (clocked : hello.Clocked) (audioOk : Bool) :
    (configure hello audioOk).audioClockRate ≠ 0 := by
  cases audio : hello.audio with
  | none =>
      rw [configure, audio]
      exact (by decide : (48000 : Int) ≠ 0)
  | some params =>
      rw [configure, audio]
      exact ne_of_gt (clocked.2 params audio)

/-! ## Only the datagram is read -/

section Local

variable (receiver : RtpReceiver) (env : Environment) (config : Config) (data stale : List UInt8)

theorem deliver_append (ext : Int) {off len : Nat} (inside : off + len ≤ data.length) (marker : Bool) (ts : Nat) :
    receiver.deliver env config ext (data ++ stale) off len marker ts =
      receiver.deliver env config ext data off len marker ts := by
  have whole : off + len ≤ (data ++ stale).length := by
    rw [List.length_append]
    omega
  rw [deliver, deliver]
  simp only [VideoDepacketizer.feed_eq_consume _ _ _ _ whole, VideoDepacketizer.feed_eq_consume _ _ _ _ inside,
    slice_append_left _ _ _ _ inside]

theorem acceptVideo_append (ext : Int) {off len : Nat} (inside : off + len ≤ data.length) (marker : Bool)
    (ts : Nat) :
    receiver.acceptVideo env config ext (data ++ stale) off len marker ts =
      receiver.acceptVideo env config ext data off len marker ts := by
  have whole : off + len ≤ (data ++ stale).length := by
    rw [List.length_append]
    omega
  rw [acceptVideo, acceptVideo, deliver_append receiver env config data stale ext inside, bytesAt_of_le whole,
    bytesAt_of_le inside, slice_append_left _ _ _ _ inside]

theorem receiveVideo_append (header : Header) (filled : header.payloadOff < data.length) :
    receiver.receiveVideo env config header (data ++ stale) data.length =
      receiver.receiveVideo env config header data data.length :=
  acceptVideo_append _ env config data stale _ (by omega) _ _

theorem receiveAudio_append (header : Header) (filled : header.payloadOff < data.length) :
    receiver.receiveAudio config header (data ++ stale) data.length =
      receiver.receiveAudio config header data data.length := by
  rw [receiveAudio, receiveAudio, slice_append_left _ _ _ _ (by omega)]

/-- Processing a datagram does not depend on what lies behind it in the receive
buffer. -/
theorem receive_append (address : InetAddress) (port : UInt16) :
    receiver.receive env config data stale address port = receiver.receive env config data [] address port := by
  rw [receive, receive]
  split
  · rfl
  · rename_i long
    have same := parseHeader_eq data stale (by omega)
    have alone := parseHeader_eq data [] (by omega)
    simp only [same, alone, ok_bind]
    cases headerOf data with
    | none => rfl
    | some header =>
        simp only
        split
        · rfl
        · rename_i filled
          rw [receiveVideo_append _ env config data stale header (by omega), receiveAudio_append _ config data stale
            header (by omega), List.append_nil]

end Local

/-! ## Fields of a datagram

The fields below follow the format of RTP packets, not the parser.
-/

section Fields

variable (data : List UInt8)

def version : UInt8 := (data.getD 0 0 >>> (6 : UInt8)) &&& 3

def payloadType : Nat := (data.getD 1 0 &&& 0x7F).toNat

def ssrc : UInt32 :=
  UInt32.ofNat (word32 (data.getD 8 0) (data.getD 9 0) (data.getD 10 0) (data.getD 11 0))

/-- The end of the CSRC list. -/
def csrcEnd : Nat := 12 + (data.getD 0 0 &&& 0x0F).toNat * 4

def Extended : Prop := data.getD 0 0 &&& 0x10 ≠ 0

instance : Decidable (Extended data) := inferInstanceAs (Decidable (_ ≠ _))

/-- The end of the header: of the extension, if there is one. -/
def headerEnd : Nat :=
  if Extended data then
    csrcEnd data + (4 + word16 (data.getD (csrcEnd data + 2) 0) (data.getD (csrcEnd data + 3) 0) * 4)
  else csrcEnd data

/-- The datagram ends within the first word of its header extension. -/
def CutExtension : Prop := Extended data ∧ csrcEnd data < data.length ∧ data.length < csrcEnd data + 4

end Fields

theorem payloadOffset_eq (data : List UInt8) :
    payloadOffset data data.length (data.getD 0 0) =
      .ok (if Extended data ∧ csrcEnd data + 4 ≤ data.length then headerEnd data else csrcEnd data) := by
  have unfolded : payloadOffset data data.length (data.getD 0 0) =
      if Extended data ∧ csrcEnd data + 4 ≤ data.length then do
        let wordsHigh ← byteAt data (csrcEnd data + 2)
        let wordsLow ← byteAt data (csrcEnd data + 3)
        pure (csrcEnd data + (4 + word16 wordsHigh wordsLow * 4))
      else pure (csrcEnd data) := rfl
  rw [unfolded]
  split
  · rename_i complete
    rw [byteAt_getD (by omega), byteAt_getD (by omega), headerEnd, if_pos complete.1]
    rfl
  · rfl

/-- What the parser reads. -/
structure Parsed (data : List UInt8) (header : Header) : Prop where
  version : version data = 2
  pt : header.pt = payloadType data
  ssrc : header.ssrc = ssrc data
  payloadOff : header.payloadOff =
    if Extended data ∧ csrcEnd data + 4 ≤ data.length then headerEnd data else csrcEnd data

theorem parsed_of_headerOf {data : List UInt8} {header : Header} (long : 12 ≤ data.length)
    (found : headerOf data = some header) : Parsed data header := by
  have parsed := parseHeader_eq data [] long
  rw [List.append_nil, found, parseHeader, byteAt_getD (by omega), ok_bind] at parsed
  split at parsed
  · cases parsed
  · rename_i isTwo
    rw [byteAt_getD (by omega), byteAt_getD (by omega), byteAt_getD (by omega), byteAt_getD (by omega),
      byteAt_getD (by omega), byteAt_getD (by omega), byteAt_getD (by omega), byteAt_getD (by omega),
      byteAt_getD (by omega), byteAt_getD (by omega), byteAt_getD (by omega), payloadOffset_eq] at parsed
    cases parsed
    exact ⟨not_not.mp isTwo, rfl, rfl, rfl⟩

/-! ## Handling a datagram -/

/-- The state of the video path. -/
structure SameVideo (before after : RtpReceiver) : Prop where
  depack : after.depack = before.depack
  jitter : after.jitter = before.jitter
  nextExtSeq : after.nextExtSeq = before.nextExtSeq
  highestExtSeq : after.highestExtSeq = before.highestExtSeq

/-- A datagram that the video path has to ignore. -/
def Ignorable (config : Config) (data : List UInt8) : Prop :=
  data.length < 12 ∨ version data ≠ 2 ∨ ssrc data ≠ config.videoSsrc ∨ payloadType data ≠ config.videoPt ∨
    data.length < headerEnd data

/-- The datagram is processed without an exception, nothing is read outside of
it, and it leaves the video path alone if it is to be ignored. -/
def Handles (env : Environment) (config : Config) (receiver : RtpReceiver) (data stale : List UInt8)
    (address : InetAddress) (port : UInt16) : Prop :=
  ∃ after, receiver.receive env config data stale address port = .ok after ∧
    receiver.receive env config data [] address port = .ok after ∧
    (Ignorable config data → SameVideo receiver after)

/-- The audio packet that a datagram carries, if it does carry one. -/
def audioOf (config : Config) (data : List UInt8) : Option Header :=
  if data.length < 12 ∨ videoOf config data ≠ none then none
  else match headerOf data with
    | none => none
    | some header =>
        if data.length ≤ header.payloadOff then none
        else if header.ssrc = config.audioSsrc ∧ header.pt = config.audioPt then some header
        else none

/-- An audio packet for which there is no decoder. -/
def Unheard (config : Config) (data : List UInt8) : Prop :=
  config.audioSink = false ∧ (audioOf config data).isSome = true

/-- The packet with this number is ahead of the playout point and not held. -/
def AwaitsNumber (receiver : RtpReceiver) (ext : Int) : Prop :=
  receiver.nextExtSeq < 0 ∨ ext = receiver.nextExtSeq ∨
    receiver.nextExtSeq < ext ∧ containsKey ext receiver.jitter = false

/-- The receiver still has use for the video packet in a datagram. -/
def Awaits (config : Config) (receiver : RtpReceiver) (data : List UInt8) : Prop :=
  ∃ arrival ∈ videoOf config data, receiver.AwaitsNumber (extendSeq receiver.highestExtSeq arrival.seq)

theorem header_of_videoOf {config : Config} {data : List UInt8} {arrival : Arrival}
    (video : videoOf config data = some arrival) :
    ∃ header, Parsed data header ∧ header.payloadOff < data.length ∧ 12 ≤ data.length ∧
      header.ssrc = config.videoSsrc ∧ header.pt = config.videoPt := by
  rw [videoOf] at video
  split at video
  · cases video
  rename_i long
  split at video
  · cases video
  rename_i header found
  split at video
  · cases video
  rename_i filled
  split at video
  · rename_i own
    exact ⟨header, parsed_of_headerOf (by omega) found, by omega, by omega, own⟩
  · cases video

/-- The parser takes a datagram that it should ignore only if its extension is
cut. -/
theorem ignorable_iff_of_video {config : Config} {data : List UInt8} {arrival : Arrival}
    (video : videoOf config data = some arrival) : Ignorable config data ↔ CutExtension data := by
  obtain ⟨header, parsed, filled, long, ownSsrc, ownPt⟩ := header_of_videoOf video
  have bound : headerEnd data = csrcEnd data ∧ ¬ Extended data ∨
      csrcEnd data + 4 ≤ headerEnd data ∧ Extended data := by
    rw [headerEnd]
    split
    · rename_i extended
      exact Or.inr ⟨by omega, extended⟩
    · rename_i plain
      exact Or.inl ⟨rfl, plain⟩
  have offset := parsed.payloadOff
  rw [parsed.ssrc] at ownSsrc
  rw [parsed.pt] at ownPt
  constructor
  · rintro (short | other | other | other | tooLong)
    · omega
    · exact absurd parsed.version other
    · exact absurd ownSsrc other
    · exact absurd ownPt other
    · split at offset
      · omega
      · rename_i incomplete
        rcases bound with ⟨same, _⟩ | ⟨_, extended⟩
        · omega
        · have short : ¬ csrcEnd data + 4 ≤ data.length := fun complete => incomplete ⟨extended, complete⟩
          exact ⟨extended, by omega, by omega⟩
  · rintro ⟨extended, _, cut⟩
    have far := (bound.resolve_left (fun plain => plain.2 extended)).1
    exact Or.inr (Or.inr (Or.inr (Or.inr (by omega))))

/-- Audio that nobody hears ends the loop. -/
theorem receive_unheard (receiver : RtpReceiver) (env : Environment) {config : Config} {data : List UInt8}
    (stale : List UInt8) (address : InetAddress) (port : UInt16) (rate : config.audioClockRate ≠ 0)
    (unheard : Unheard config data) :
    receiver.receive env config data stale address port = .error .nullPointer := by
  obtain ⟨noSink, isAudio⟩ := unheard
  rw [audioOf] at isAudio
  split at isAudio
  · cases isAudio
  rename_i candidate
  rw [not_or, not_not] at candidate
  split at isAudio
  · cases isAudio
  rename_i header found
  split at isAudio
  · cases isAudio
  rename_i filled
  split at isAudio
  · rename_i own
    have notVideo : ¬ (header.ssrc = config.videoSsrc ∧ header.pt = config.videoPt) := by
      intro video
      simp [videoOf, candidate.1, found, filled, video] at candidate
    have parsed := parseHeader_eq data stale (by omega)
    rw [receive, if_neg candidate.1]
    simp only [parsed, found, ok_bind, if_neg filled, if_neg notVideo, if_pos own]
    rw [receiveAudio, checkedUsec, if_neg rate, ok_bind, if_neg (by rw [noSink]; exact Bool.false_ne_true)]
    rfl
  · cases isAudio

/-- Whatever is neither video nor such audio is survived. -/
theorem receive_quiet (receiver : RtpReceiver) (env : Environment) {config : Config} {data : List UInt8}
    (stale : List UInt8) (address : InetAddress) (port : UInt16) (rate : config.audioClockRate ≠ 0)
    (other : videoOf config data = none) (heard : ¬ Unheard config data) :
    ∃ after, receiver.receive env config data stale address port = .ok after ∧ Quiet receiver after := by
  have quiet := receive_other receiver env config data stale address port other
  cases sink : config.audioSink with
  | true =>
      obtain ⟨after, same⟩ := quiet.2 ⟨sink, rate⟩
      exact ⟨after, same, quiet.1 after same⟩
  | false =>
      have silent : audioOf config data = none := by
        rw [← Option.not_isSome_iff_eq_none]
        exact fun isAudio => heard ⟨sink, isAudio⟩
      have succeeds : ∃ after, receiver.receive env config data stale address port = .ok after := by
        by_cases short : data.length < 12
        · exact ⟨receiver, by rw [receive, if_pos short]; rfl⟩
        have parsed := parseHeader_eq data stale (by omega)
        rw [receive, if_neg short]
        simp only [parsed, ok_bind]
        cases found : headerOf data with
        | none => exact ⟨_, rfl⟩
        | some header =>
            simp only
            split
            · exact ⟨_, rfl⟩
            rename_i filled
            have notVideo : ¬ (header.ssrc = config.videoSsrc ∧ header.pt = config.videoPt) := by
              intro video
              simp [videoOf, short, found, filled, video] at other
            have notAudio : ¬ (header.ssrc = config.audioSsrc ∧ header.pt = config.audioPt) := by
              intro audio
              simp [audioOf, short, other, found, filled, audio] at silent
            rw [if_neg notVideo, if_neg notAudio]
            exact ⟨_, rfl⟩
      obtain ⟨after, same⟩ := succeeds
      exact ⟨after, same, quiet.1 after same⟩

theorem Quiet.sameVideo {before after : RtpReceiver} (quiet : Quiet before after) : SameVideo before after :=
  ⟨quiet.depack, quiet.jitter, quiet.nextExtSeq, quiet.highestExtSeq⟩

theorem SameVideo.congr {before before' after after' : RtpReceiver} (first : SameVideo before before')
    (second : SameVideo after' after) : SameVideo before after ↔ SameVideo before' after' := by
  constructor
  · intro same
    exact ⟨second.depack.symm.trans (same.depack.trans first.depack.symm),
      second.jitter.symm.trans (same.jitter.trans first.jitter.symm),
      second.nextExtSeq.symm.trans (same.nextExtSeq.trans first.nextExtSeq.symm),
      second.highestExtSeq.symm.trans (same.highestExtSeq.trans first.highestExtSeq.symm)⟩
  · intro same
    exact ⟨second.depack.trans (same.depack.trans first.depack),
      second.jitter.trans (same.jitter.trans first.jitter),
      second.nextExtSeq.trans (same.nextExtSeq.trans first.nextExtSeq),
      second.highestExtSeq.trans (same.highestExtSeq.trans first.highestExtSeq)⟩

namespace Noted

variable {config : Config} {receiver noted : RtpReceiver} {ext : Int}
  (arrival : Noted config receiver noted ext)
include arrival

theorem sameVideo (reached : ext ≤ receiver.highestExtSeq) : SameVideo receiver noted :=
  ⟨arrival.quiet.depack, arrival.quiet.jitter, arrival.quiet.nextExtSeq,
    arrival.quiet.highestExtSeq.trans (max_eq_left reached)⟩

/-- The video path changes exactly if it awaits the packet. -/
theorem sameVideo_iff (env : Environment) (buf : List UInt8) (off len : Nat) (marker : Bool) (ts : Nat)
    (rate : config.videoClockRate ≠ 0) (range : off + len ≤ buf.length) :
    ∃ after, noted.acceptVideo env config ext buf off len marker ts = .ok after ∧
      (SameVideo receiver after ↔ ¬ AwaitsNumber receiver ext) := by
  have unstarted := arrival.before.unstarted
  have nextBound := arrival.before.nextBound
  have valid := arrival.valid
  rw [RtpReceiver.acceptVideo, arrival.next, arrival.quiet.jitter]
  split
  · rename_i late
    refine ⟨noted, rfl, fun _ awaits => ?_, fun _ => arrival.sameVideo (by omega)⟩
    rcases awaits with early | due | ⟨ahead, _⟩ <;> omega
  split
  · rename_i due
    obtain ⟨after, delivered, delivers⟩ := deliver_ok noted env config ext buf off len marker ts rate range
    refine ⟨after, delivered, fun same => ?_, fun idle => ?_⟩
    · have next := delivers.nextExtSeq.symm.trans same.nextExtSeq
      omega
    · exact absurd (due.imp id Or.inl) idle
  split
  · rename_i held
    obtain ⟨entry, member, isKey⟩ := List.any_eq_true.mp held
    rw [beq_iff_eq] at isKey
    have bound := arrival.before.heldBound entry member
    refine ⟨noted, rfl, fun _ awaits => ?_, fun _ => arrival.sameVideo (by omega)⟩
    rcases awaits with early | due | ⟨_, absent⟩
    · omega
    · omega
    · exact absurd (held.symm.trans absent) (by decide)
  · rename_i late due absent
    rw [Bool.not_eq_true] at absent
    rw [bytesAt_of_le range, ok_bind]
    refine ⟨_, rfl, fun same => ?_, fun idle => ?_⟩
    · have longer : (put ext ⟨slice buf off len, marker, ts, noted.clock env⟩ receiver.jitter).length =
          receiver.jitter.length := congrArg List.length same.jitter
      rw [length_put ext _ _ absent] at longer
      exact absurd longer (Nat.succ_ne_self _)
    · have ahead : receiver.nextExtSeq < ext := by omega
      exact absurd (Or.inr (Or.inr ⟨ahead, absent⟩)) idle

end Noted

/-- A video packet is survived, and changes the video path exactly if it is
awaited. -/
theorem receive_video_iff {receiver : RtpReceiver} (env : Environment) {config : Config} {data : List UInt8}
    (stale : List UInt8) (address : InetAddress) (port : UInt16) (rate : config.videoClockRate ≠ 0)
    (sound : Sound config receiver) (settled : (buffer config receiver).Settled)
    (small : receiver.jitter.length ≤ JITTER_MAX) {arrival : Arrival} (video : videoOf config data = some arrival) :
    ∃ after, receiver.receive env config data stale address port = .ok after ∧
      (SameVideo receiver after ↔ ¬ Awaits config receiver data) := by
  obtain ⟨header, filled, isArrival, same⟩ := receive_video receiver env config data stale address port video
  generalize isExt : extendSeq receiver.highestExtSeq header.seq = ext
  generalize isLearned : receiver.learnRemote env config address port = learned
  have quiet : Quiet receiver learned := isLearned ▸ learnRemote_quiet receiver env config address port
  generalize isRecorded : learned.record (.arrived ext) = recorded
  have recording : Quiet receiver recorded := quiet.trans (isRecorded ▸ .record _ _ rfl)
  have noted : Noted config recorded (recorded.noteArrival env config ext) ext := by
    refine ⟨recording.sound sound, recording.buffer_eq config ▸ settled, recording.jitter ▸ small, ?_,
      noteArrival_quiet _ env config _⟩
    intro unstarted
    rw [recording.highestExtSeq] at unstarted
    rw [← isExt, extendSeq, if_pos unstarted]
    exact Int.natCast_nonneg _
  obtain ⟨accepted, isAccepted, changes⟩ := noted.sameVideo_iff env (data ++ stale) header.payloadOff
    (data.length - header.payloadOff) header.marker header.ts rate (by rw [List.length_append]; omega)
  have taken : learned.receiveVideo env config header (data ++ stale) data.length = .ok accepted := by
    rw [receiveVideo, quiet.highestExtSeq, isExt, isRecorded]
    exact isAccepted
  refine ⟨accepted.maybeSendReceiverReport env config, ?_, ?_⟩
  · rw [same, isLearned, taken]
    rfl
  · have reported := (maybeSendReceiverReport_quiet accepted env config).sameVideo
    rw [(recording.sameVideo).congr reported, changes]
    have awaited : Awaits config receiver data ↔ receiver.AwaitsNumber ext := by
      rw [Awaits, video, ← isExt, isArrival]
      simp
    rw [awaited, AwaitsNumber, AwaitsNumber, recording.nextExtSeq, recording.jitter]

/-- A datagram is handled unless it is audio that nobody hears, or a video
packet with a cut extension that is still awaited. -/
theorem handles_iff {receiver : RtpReceiver} (env : Environment) {config : Config} (data stale : List UInt8)
    (address : InetAddress) (port : UInt16) (videoRate : config.videoClockRate ≠ 0)
    (audioRate : config.audioClockRate ≠ 0) (sound : Sound config receiver)
    (settled : (buffer config receiver).Settled) (small : receiver.jitter.length ≤ JITTER_MAX) :
    receiver.Handles env config data stale address port ↔
      ¬ Unheard config data ∧ ¬ (CutExtension data ∧ Awaits config receiver data) := by
  have alone := receive_append receiver env config data stale address port
  cases video : videoOf config data with
  | none =>
      have unawaited : ¬ Awaits config receiver data := by
        rintro ⟨arrival, isArrival, _⟩
        cases video.symm.trans isArrival
      refine ⟨?_, ?_⟩
      · rintro ⟨after, same, _, _⟩
        refine ⟨fun unheard => ?_, fun cut => unawaited cut.2⟩
        cases (receive_unheard receiver env stale address port audioRate unheard).symm.trans same
      · rintro ⟨heard, _⟩
        obtain ⟨after, same, quiet⟩ := receive_quiet receiver env stale address port audioRate video heard
        exact ⟨after, same, alone.symm.trans same, fun _ => quiet.sameVideo⟩
  | some arrival =>
      have heard : ¬ Unheard config data := by
        rintro ⟨_, isAudio⟩
        rw [audioOf, if_pos (Or.inr (by rw [video]; exact Option.some_ne_none _))] at isAudio
        cases isAudio
      obtain ⟨after, same, changes⟩ := receive_video_iff env stale address port videoRate sound settled small video
      rw [Handles, ignorable_iff_of_video video]
      refine ⟨?_, ?_⟩
      · rintro ⟨other, isOther, _, kept⟩
        cases same.symm.trans isOther
        exact ⟨heard, fun cut => changes.mp (kept cut.1) cut.2⟩
      · rintro ⟨_, uncut⟩
        exact ⟨after, same, alone.symm.trans same, fun cut => changes.mpr (fun awaits => uncut ⟨cut, awaits⟩)⟩

/-! ## Runs -/

theorem expire_ok {receiver : RtpReceiver} (env : Environment) {config : Config}
    (rate : config.videoClockRate ≠ 0) (sound : Sound config receiver) :
    ∃ expired, receiver.expire env config = .ok expired ∧ Expires config receiver expired :=
  expireEntries_refines env config rate receiver.jitter receiver sound rfl

/-- A pass of the loop is survived. -/
theorem iterate_ok {receiver : RtpReceiver} (env : Environment) {config : Config}
    (videoRate : config.videoClockRate ≠ 0) (audioRate : config.audioClockRate ≠ 0) (sound : Sound config receiver)
    (received : Received) (heard : ∀ data stale address port, received = .packet data stale address port →
      ¬ Unheard config data) :
    ∃ after, receiver.iterate env config received = .ok after ∧ Sound config after := by
  have succeeds : ∃ after, receiver.iterate env config received = .ok after := by
    obtain ⟨expired, isExpired, expires⟩ := expire_ok env videoRate sound
    rw [iterate, isExpired, ok_bind]
    cases received with
    | timeout => exact ⟨_, rfl⟩
    | failed => exact ⟨_, rfl⟩
    | packet data stale address port =>
        cases video : videoOf config data with
        | none =>
            obtain ⟨after, same, _⟩ := receive_quiet expired env stale address port audioRate video
              (heard data stale address port rfl)
            exact ⟨after, same⟩
        | some arrival =>
            obtain ⟨after, same, _⟩ := receive_video_iff env stale address port videoRate expires.sound
              expires.settled expires.small video
            exact ⟨after, same⟩
  obtain ⟨after, same⟩ := succeeds
  exact ⟨after, same, ((iterate_refines env config received videoRate sound).1 after same).sound⟩

/-- No datagram of a run is audio that nobody hears. -/
def Heard (config : Config) (inputs : List Input) : Prop :=
  ∀ data stale address port, .iteration (.packet data stale address port) ∈ inputs → ¬ Unheard config data

theorem run_heard (env : Environment) {config : Config} (videoRate : config.videoClockRate ≠ 0)
    (audioRate : config.audioClockRate ≠ 0) (inputs : List Input) {receiver : RtpReceiver}
    (sound : Sound config receiver) (heard : Heard config inputs) :
    ∃ after, run env config receiver inputs = .ok after ∧ Sound config after := by
  induction inputs generalizing receiver with
  | nil => exact ⟨receiver, rfl, sound⟩
  | cons input rest inductionHypothesis =>
      have later : Heard config rest := fun data stale address port member =>
        heard data stale address port (List.mem_cons_of_mem _ member)
      rw [run, List.foldlM_cons]
      cases input with
      | keyframeRequest =>
          exact inductionHypothesis ((requestKeyframe_quiet receiver env config).sound sound) later
      | iteration received =>
          obtain ⟨middle, same, soundMiddle⟩ := iterate_ok env videoRate audioRate sound received (by
            rintro data stale address port rfl
            exact heard data stale address port List.mem_cons_self)
          rw [step, same, ok_bind]
          exact inductionHypothesis soundMiddle later

/-- A run is survived if no exception ends it, and if every datagram is handled
in the state in which it arrives, when the repair of older losses has expired. -/
def Survives (env : Environment) (config : Config) (inputs : List Input) : Prop :=
  (∃ after, run env config (start config) inputs = .ok after) ∧
    ∀ before data stale address port rest,
      inputs = before ++ .iteration (.packet data stale address port) :: rest →
      ∃ receiver expired, run env config (start config) before = .ok receiver ∧
        receiver.expire env config = .ok expired ∧ expired.Handles env config data stale address port

/-- No video packet with a cut extension arrives while it is awaited. -/
def Uncut (env : Environment) (config : Config) (inputs : List Input) : Prop :=
  ∀ before data stale address port rest receiver expired,
    inputs = before ++ .iteration (.packet data stale address port) :: rest →
    run env config (start config) before = .ok receiver → receiver.expire env config = .ok expired →
    ¬ (CutExtension data ∧ Awaits config expired data)

theorem handles_reached {env : Environment} {config : Config} (videoRate : config.videoClockRate ≠ 0)
    (audioRate : config.audioClockRate ≠ 0) {before : List Input} {receiver expired : RtpReceiver}
    (ran : run env config (start config) before = .ok receiver)
    (isExpired : receiver.expire env config = .ok expired) (data stale : List UInt8) (address : InetAddress)
    (port : UInt16) :
    expired.Handles env config data stale address port ↔
      ¬ Unheard config data ∧ ¬ (CutExtension data ∧ Awaits config expired data) := by
  have sound := (run_refines env config videoRate before (start config) receiver (sound_start config) ran).1
  obtain ⟨same, isSame, expires⟩ := expire_ok env videoRate sound
  cases isExpired.symm.trans isSame
  exact handles_iff env data stale address port videoRate audioRate expires.sound expires.settled expires.small

theorem survives_iff_heard (env : Environment) {config : Config} (videoRate : config.videoClockRate ≠ 0)
    (audioRate : config.audioClockRate ≠ 0) (inputs : List Input) :
    Survives env config inputs ↔ Heard config inputs ∧ Uncut env config inputs := by
  constructor
  · rintro ⟨_, handled⟩
    constructor
    · intro data stale address port member
      obtain ⟨before, rest, isSplit⟩ := List.append_of_mem member
      obtain ⟨receiver, expired, ran, isExpired, handles⟩ := handled before data stale address port rest isSplit
      exact ((handles_reached videoRate audioRate ran isExpired data stale address port).mp handles).1
    · intro before data stale address port rest receiver expired isSplit ran isExpired
      obtain ⟨_, _, ran', isExpired', handles⟩ := handled before data stale address port rest isSplit
      cases ran.symm.trans ran'
      cases isExpired.symm.trans isExpired'
      exact ((handles_reached videoRate audioRate ran isExpired data stale address port).mp handles).2
  · rintro ⟨heard, uncut⟩
    constructor
    · obtain ⟨after, ran, _⟩ := run_heard env videoRate audioRate inputs (sound_start config) heard
      exact ⟨after, ran⟩
    · rintro before data stale address port rest isSplit
      have early : Heard config before := fun data stale address port member =>
        heard data stale address port (isSplit ▸ List.mem_append_left _ member)
      have now : ¬ Unheard config data := heard data stale address port
        (isSplit ▸ List.mem_append_right _ List.mem_cons_self)
      obtain ⟨receiver, ran, sound⟩ := run_heard env videoRate audioRate before (sound_start config) early
      obtain ⟨expired, isExpired, _⟩ := expire_ok env videoRate sound
      refine ⟨receiver, expired, ran, isExpired, ?_⟩
      rw [handles_reached videoRate audioRate ran isExpired]
      exact ⟨now, uncut before data stale address port rest receiver expired isSplit ran isExpired⟩

/-- Without audio no datagram is an audio packet. -/
theorem unheard_iff (hello : Hello) (audioOk : Bool) (data : List UInt8) :
    Unheard (configure hello audioOk) data ↔
      hello.audio ≠ none ∧ audioOk = false ∧ (audioOf (configure hello audioOk) data).isSome = true := by
  cases audio : hello.audio with
  | some params =>
      have sink : (configure hello audioOk).audioSink = audioOk := by
        rw [configure, audio]
        rfl
      rw [Unheard, sink]
      exact ⟨fun unheard => ⟨Option.some_ne_none _, unheard⟩, fun unheard => unheard.2⟩
  | none =>
      have noType : (configure hello audioOk).audioPt = -1 := by
        rw [configure, audio]
        rfl
      refine ⟨fun unheard => ?_, fun unheard => absurd rfl unheard.1⟩
      obtain ⟨_, isAudio⟩ := unheard
      rw [audioOf] at isAudio
      split at isAudio
      · cases isAudio
      split at isAudio
      · cases isAudio
      split at isAudio
      · cases isAudio
      split at isAudio
      · rename_i own
        rw [noType] at own
        omega
      · cases isAudio

/-- A session survives all datagrams exactly if none of them is an audio packet
while the audio decoder is missing, and none is an awaited video packet with a
cut extension. -/
theorem survives_iff (env : Environment) (hello : Hello) (clocked : hello.Clocked) (audioOk : Bool)
    (inputs : List Input) :
    Survives env (configure hello audioOk) inputs ↔
      (hello.audio ≠ none → audioOk = false → ∀ data stale address port,
        .iteration (.packet data stale address port) ∈ inputs → audioOf (configure hello audioOk) data = none) ∧
      Uncut env (configure hello audioOk) inputs := by
  have videoRate := videoClockRate_ne_zero clocked audioOk
  have audioRate := audioClockRate_ne_zero clocked audioOk
  have heardIff : (hello.audio ≠ none → audioOk = false → ∀ data stale address port,
      .iteration (.packet data stale address port) ∈ inputs → audioOf (configure hello audioOk) data = none) ↔
      Heard (configure hello audioOk) inputs := by
    constructor
    · intro silent data stale address port member unheard
      obtain ⟨present, failed, isAudio⟩ := (unheard_iff hello audioOk data).mp unheard
      rw [silent present failed data stale address port member] at isAudio
      cases isAudio
    · intro heard present failed data stale address port member
      rw [← Option.not_isSome_iff_eq_none]
      intro isAudio
      exact heard data stale address port member ((unheard_iff hello audioOk data).mpr ⟨present, failed, isAudio⟩)
  rw [heardIff]
  exact survives_iff_heard env videoRate audioRate inputs

def deafHello : Hello where
  ssrc := 7
  pt := 96
  codecIsH265 := true
  clock := 90000
  audio := some ⟨8, 111, 48000⟩

/-- An audio packet of one octet. -/
def shortAudio : List UInt8 := [0x80, 111, 0, 0, 0, 0, 0, 0, 0, 0, 0, 8, 1]

/-- Without an audio decoder the first audio packet ends the loop. -/
theorem survives_not_always :
    ¬ ∀ (env : Environment) (hello : Hello), hello.Clocked → ∀ (audioOk : Bool) (inputs : List Input),
      Survives env (configure hello audioOk) inputs := by
  intro always
  obtain ⟨⟨after, ran⟩, _⟩ := always ⟨fun _ => 0, fun _ => true⟩ deafHello
    ⟨by decide, fun audio member => by cases member; decide⟩ false [.iteration (.packet shortAudio [] [] 0)]
  have fails : run ⟨fun _ => 0, fun _ => true⟩ (configure deafHello false) (start (configure deafHello false))
      [.iteration (.packet shortAudio [] [] 0)] = .error .nullPointer := rfl
  cases fails.symm.trans ran

/-- With a decoder it does not. -/
theorem survives_iff_sample :
    Survives ⟨fun _ => 0, fun _ => true⟩ (configure deafHello true) [.iteration (.packet shortAudio [] [] 0)] := by
  refine (survives_iff ⟨fun _ => 0, fun _ => true⟩ deafHello
    ⟨by decide, fun audio member => by cases member; decide⟩ true _).mpr ⟨fun _ impossible => ?_, ?_⟩
  · cases impossible
  · rintro before data stale address port rest receiver expired isSplit _ _ ⟨⟨extended, _⟩, _⟩
    have member : Input.iteration (.packet data stale address port) ∈
        [Input.iteration (.packet shortAudio [] [] 0)] := isSplit ▸ List.mem_append_right before List.mem_cons_self
    cases List.mem_singleton.mp member
    exact extended (by decide)

end RtpReceiver
end MetaShare
