import MetaShare.Receiver.Playout

namespace MetaShare
namespace RtpReceiver

open Octets OrderedMap ReorderBuffer

/-!
# Arrivals, passes and runs

The second half of a pass takes what the socket returned.  A video packet is
unwrapped and offered to the buffer; everything else leaves the video path
alone.  With the releases of the first half, a pass of the loop is a run of the
reorder buffer, and so is any sequence of passes, whatever the clock shows and
whatever else arrives in between.
-/

/-! ## Offering what arrived -/

/-- Only the count, the highest number and feedback change when an arrival is
noted. -/
theorem noteArrival_quiet (receiver : RtpReceiver) (env : Environment) (config : Config) (ext : Int) :
    Quiet { receiver with highestExtSeq := max receiver.highestExtSeq ext }
      (receiver.noteArrival env config ext) := by
  simp only [noteArrival]
  split
  · rename_i ahead
    -- The feedback is sent before the new highest number is stored.
    have raise : ∀ after, Quiet receiver after →
        Quiet { receiver with highestExtSeq := max receiver.highestExtSeq ext }
          { after with
            highestExtSeq := ext
            statFirstExtSeq := if after.statFirstExtSeq < 0 then ext else after.statFirstExtSeq } := by
      intro after quiet
      exact ⟨quiet.depack, quiet.jitter, quiet.nextExtSeq, (max_eq_right (le_of_lt ahead)).symm, quiet.log,
        quiet.reads⟩
    apply raise
    have counted : Quiet receiver { receiver with statReceived := receiver.statReceived + 1 } :=
      .of_same rfl rfl rfl rfl rfl le_rfl
    split
    · split
      · exact counted.trans (sendNacksForRange_quiet _ env config _ _)
      · exact counted.trans (sendAutoPli_quiet _ env config)
    · exact counted
  · rename_i behind
    exact .of_same rfl rfl rfl (max_eq_left (not_lt.mp behind)).symm rfl le_rfl

/-- The receiver after an arrival has been noted, and before the packet is
taken, delivered or dropped. -/
structure Noted (config : Config) (receiver noted : RtpReceiver) (ext : Int) : Prop where
  before : Sound config receiver
  settled : (buffer config receiver).Settled
  small : receiver.jitter.length ≤ JITTER_MAX
  valid : receiver.highestExtSeq < 0 → 0 ≤ ext
  quiet : Quiet { receiver with highestExtSeq := max receiver.highestExtSeq ext } noted

namespace Noted

variable {config : Config} {receiver noted : RtpReceiver} {ext : Int}
  (arrival : Noted config receiver noted ext)
include arrival

theorem buffer_eq : buffer config noted = buffer config receiver := arrival.quiet.buffer_eq config

theorem highest : noted.highestExtSeq = max receiver.highestExtSeq ext := arrival.quiet.highestExtSeq

theorem next : noted.nextExtSeq = receiver.nextExtSeq := arrival.quiet.nextExtSeq

theorem consistent : Consistent config noted :=
  arrival.quiet.consistent ⟨arrival.before.consistent.announced, arrival.before.consistent.content⟩

theorem heldBound : ∀ entry ∈ noted.jitter, entry.1 ≤ noted.highestExtSeq := by
  rw [arrival.quiet.jitter, arrival.highest]
  exact fun entry member => le_max_of_le_left (arrival.before.heldBound entry member)

theorem offer_wellFormed (packet : VideoPacket) : ((buffer config receiver).offer ext packet).WellFormed :=
  Buffer.offer_wellFormed arrival.before.wellFormed arrival.settled ext packet

/-- A packet that is dropped leaves a sound receiver behind. -/
theorem sound (started : 0 ≤ receiver.nextExtSeq) : Sound config noted := by
  have unstarted := arrival.before.unstarted
  have nextBound := arrival.before.nextBound
  refine ⟨arrival.consistent, arrival.buffer_eq ▸ arrival.before.wellFormed, ?_, ?_, arrival.heldBound, ?_⟩
  · rw [arrival.next, arrival.highest]
    omega
  · rw [arrival.next, arrival.highest]
    omega
  · rw [arrival.quiet.jitter]
    exact arrival.before.bounded

/-- The in-order path. -/
theorem deliver (env : Environment) (buf : List UInt8) (off len : Nat) (marker : Bool) (ts : Nat)
    (rate : config.videoClockRate ≠ 0) (range : off + len ≤ buf.length)
    (due : receiver.nextExtSeq < 0 ∨ ext = receiver.nextExtSeq) :
    ∃ after, noted.deliver env config ext buf off len marker ts = .ok after ∧ Sound config after ∧
      after.highestExtSeq = max receiver.highestExtSeq ext ∧
      buffer config after =
        (buffer config receiver).offer ext ⟨slice buf off len, marker, usec config.videoClockRate ts⟩ := by
  obtain ⟨after, delivered, delivers⟩ := deliver_ok noted env config ext buf off len marker ts rate range
  have unstarted := arrival.before.unstarted
  have valid := arrival.valid
  have offered := arrival.offer_wellFormed ⟨slice buf off len, marker, usec config.videoClockRate ts⟩
  have inOrder : (buffer config receiver).offer ext
      ⟨slice buf off len, marker, usec config.videoClockRate ts⟩ =
      { buffer config receiver with
        next := some (ext + 1)
        delivered := (buffer config receiver).delivered ++
          [⟨false, ext, ⟨slice buf off len, marker, usec config.videoClockRate ts⟩⟩] } := by
    by_cases started : receiver.nextExtSeq < 0
    · have position : (buffer config receiver).next = none := if_pos started
      simp only [Buffer.offer, position, Buffer.deliver, Option.any_none]
    · have position : (buffer config receiver).next = some ext := by
        rw [buffer, if_neg started, due.resolve_left started]
      simp [Buffer.offer, position, Buffer.deliver]
  have refines : buffer config after = (buffer config receiver).offer ext
      ⟨slice buf off len, marker, usec config.videoClockRate ts⟩ := by
    have moved : (if ext + 1 < 0 then none else some (ext + 1)) = some (ext + 1) := if_neg (by omega)
    rw [inOrder, ← arrival.buffer_eq, buffer, delivers.nextExtSeq, delivers.jitter, delivers.delivered,
      moved, arrival.consistent.announced]
    rfl
  refine ⟨after, delivered, ⟨?_, refines ▸ offered, ?_, ?_, ?_, ?_⟩,
    delivers.highestExtSeq.trans arrival.highest, refines⟩
  · exact delivers.consistent arrival.consistent false (by rw [← arrival.consistent.announced]) rfl rfl
  · rw [delivers.nextExtSeq, delivers.highestExtSeq, arrival.highest]
    omega
  · rw [delivers.nextExtSeq, delivers.highestExtSeq, arrival.highest]
    omega
  · rw [delivers.jitter, delivers.highestExtSeq]
    exact arrival.heldBound
  · rw [delivers.jitter, arrival.quiet.jitter]
    exact arrival.before.bounded

/-- An early packet is held back. -/
theorem hold (payload : List UInt8) (marker : Bool) (ts : Nat) (now : Int)
    (early : 0 ≤ receiver.nextExtSeq ∧ receiver.nextExtSeq < ext)
    (absent : containsKey ext noted.jitter = false) :
    Sound config { noted.tick with jitter := put ext ⟨payload, marker, ts, now⟩ noted.jitter } ∧
      buffer config { noted.tick with jitter := put ext ⟨payload, marker, ts, now⟩ noted.jitter } =
        (buffer config receiver).offer ext ⟨payload, marker, usec config.videoClockRate ts⟩ := by
  have unstarted := arrival.before.unstarted
  have nextBound := arrival.before.nextBound
  have position : (buffer config receiver).next = some receiver.nextExtSeq := if_neg (by omega)
  have fresh : containsKey ext (buffer config receiver).held = false := by
    rw [← absent, arrival.quiet.jitter]
    exact containsKey_map (HeldVideo.packet config) ext receiver.jitter
  have refines : buffer config
      { noted.tick with jitter := put ext ⟨payload, marker, ts, now⟩ noted.jitter } =
      (buffer config receiver).offer ext ⟨payload, marker, usec config.videoClockRate ts⟩ := by
    have stored := put_map (HeldVideo.packet config) ext ⟨payload, marker, ts, now⟩ noted.jitter
    rw [Buffer.offer, position]
    simp only [if_neg (show ¬ ext < receiver.nextExtSeq by omega),
      if_neg (show ¬ ext = receiver.nextExtSeq by omega), fresh, Bool.false_eq_true, if_false]
    rw [← position, ← arrival.buffer_eq]
    exact congrArg (fun held => ({ buffer config noted with held := held } : Buffer VideoPacket)) stored
  refine ⟨⟨⟨arrival.consistent.announced, arrival.consistent.content⟩, ?_, ?_, ?_, ?_, ?_⟩, refines⟩
  · rw [refines]
    exact arrival.offer_wellFormed _
  · show noted.nextExtSeq < 0 ↔ noted.highestExtSeq < 0
    rw [arrival.next, arrival.highest]
    omega
  · show noted.nextExtSeq ≤ noted.highestExtSeq + 1
    rw [arrival.next, arrival.highest]
    omega
  · intro entry member
    rcases (mem_put ext _ _ absent entry).mp member with new | old
    · rw [new]
      show ext ≤ noted.highestExtSeq
      rw [arrival.highest]
      omega
    · exact arrival.heldBound entry old
  · show (put ext _ noted.jitter).length ≤ JITTER_MAX + 1
    rw [length_put ext _ _ absent, arrival.quiet.jitter]
    exact Nat.succ_le_succ arrival.small

/-- What becomes of an arriving packet is an offer to the buffer. -/
theorem acceptVideo (env : Environment) (buf : List UInt8) (off len : Nat) (marker : Bool) (ts : Nat)
    (rate : config.videoClockRate ≠ 0) (range : off + len ≤ buf.length) :
    ∃ after, noted.acceptVideo env config ext buf off len marker ts = .ok after ∧ Sound config after ∧
      after.highestExtSeq = max receiver.highestExtSeq ext ∧
      buffer config after =
        (buffer config receiver).offer ext ⟨slice buf off len, marker, usec config.videoClockRate ts⟩ := by
  rw [RtpReceiver.acceptVideo, arrival.next]
  by_cases stale : 0 ≤ receiver.nextExtSeq ∧ ext < receiver.nextExtSeq
  · have position : (buffer config receiver).next = some receiver.nextExtSeq := if_neg (by omega)
    refine ⟨noted, if_pos stale, arrival.sound stale.1, arrival.highest, ?_⟩
    rw [arrival.buffer_eq, Buffer.offer, position]
    exact (if_pos stale.2).symm
  rw [if_neg stale]
  by_cases due : receiver.nextExtSeq < 0 ∨ ext = receiver.nextExtSeq
  · rw [if_pos due]
    exact arrival.deliver env buf off len marker ts rate range due
  rw [if_neg due]
  cases present : containsKey ext noted.jitter with
  | true =>
      have position : (buffer config receiver).next = some receiver.nextExtSeq := if_neg (by omega)
      have listed : containsKey ext (buffer config receiver).held = true := by
        rw [← present, arrival.quiet.jitter]
        exact containsKey_map (HeldVideo.packet config) ext receiver.jitter
      refine ⟨noted, rfl, arrival.sound (by omega), arrival.highest, ?_⟩
      rw [arrival.buffer_eq, Buffer.offer, position]
      simp only [if_neg (show ¬ ext < receiver.nextExtSeq by omega),
        if_neg (show ¬ ext = receiver.nextExtSeq by omega), listed, if_true]
  | false =>
      rw [bytesAt_of_le range]
      obtain ⟨sound, refines⟩ := arrival.hold (slice buf off len) marker ts (noted.clock env) (by omega) present
      exact ⟨_, rfl, sound, arrival.highest, refines⟩

end Noted

/-! ## Parsing -/

theorem byteAt_append (data stale : List UInt8) (index : Nat) (inside : index < data.length) :
    byteAt (data ++ stale) index = byteAt data index := by
  rw [byteAt, List.getElem?_append_left inside, byteAt]

theorem slice_append_left (data stale : List UInt8) (off len : Nat) (inside : off + len ≤ data.length) :
    slice (data ++ stale) off len = slice data off len := by
  rw [slice, slice, List.drop_append_of_le_length (by omega), List.take_append_of_le_length]
  rw [List.length_drop]
  omega

/-- The header of a datagram, read from its own octets only. -/
def headerOf (data : List UInt8) : Option Header :=
  match parseHeader data data.length with
  | .ok header? => header?
  | .error _ => none

theorem payloadOffset_append (data stale : List UInt8) (flags : UInt8) :
    payloadOffset (data ++ stale) data.length flags = payloadOffset data data.length flags := by
  simp only [payloadOffset]
  split
  · rw [byteAt_append _ _ _ (by omega), byteAt_append _ _ _ (by omega)]
  · rfl

theorem payloadOffset_ok (data : List UInt8) (flags : UInt8) :
    ∃ off, payloadOffset data data.length flags = .ok off := by
  simp only [payloadOffset]
  split
  · rw [byteAt_of_lt (by omega), byteAt_of_lt (by omega)]
    exact ⟨_, rfl⟩
  · exact ⟨_, rfl⟩

/-- Parsing reads nothing behind the datagram and does not throw. -/
theorem parseHeader_eq (data stale : List UInt8) (long : 12 ≤ data.length) :
    parseHeader (data ++ stale) data.length = .ok (headerOf data) := by
  have own : parseHeader (data ++ stale) data.length = parseHeader data data.length := by
    have read : ∀ index, index < 12 → byteAt (data ++ stale) index = byteAt data index :=
      fun index inside => byteAt_append data stale index (by omega)
    rw [parseHeader, parseHeader, read 0 (by decide), read 1 (by decide), read 2 (by decide),
      read 3 (by decide), read 4 (by decide), read 5 (by decide), read 6 (by decide), read 7 (by decide),
      read 8 (by decide), read 9 (by decide), read 10 (by decide), read 11 (by decide)]
    simp only [payloadOffset_append]
  have succeeds : ∃ header?, parseHeader data data.length = .ok header? := by
    have read : ∀ index, index < 12 → ∃ octet, byteAt data index = .ok octet :=
      fun index inside => ⟨_, byteAt_of_lt (by omega)⟩
    obtain ⟨flags, flagsRead⟩ := read 0 (by decide)
    obtain ⟨off, offset⟩ := payloadOffset_ok data flags
    rw [parseHeader, flagsRead, ok_bind]
    split
    · exact ⟨_, rfl⟩
    · rw [byteAt_of_lt (by omega), byteAt_of_lt (by omega), byteAt_of_lt (by omega), byteAt_of_lt (by omega),
        byteAt_of_lt (by omega), byteAt_of_lt (by omega), byteAt_of_lt (by omega), byteAt_of_lt (by omega),
        byteAt_of_lt (by omega), byteAt_of_lt (by omega), byteAt_of_lt (by omega), offset]
      exact ⟨_, rfl⟩
  obtain ⟨header?, parsed⟩ := succeeds
  rw [own, headerOf, parsed]

/-- What an arriving video packet amounts to. -/
structure Arrival where
  seq : Nat
  packet : VideoPacket
  deriving DecidableEq

/-- The video packet that a datagram carries, if it does carry one. -/
def videoOf (config : Config) (data : List UInt8) : Option Arrival :=
  if data.length < 12 then none
  else match headerOf data with
    | none => none
    | some header =>
        if data.length ≤ header.payloadOff then none
        else if header.ssrc = config.videoSsrc ∧ header.pt = config.videoPt then
          some ⟨header.seq, slice data header.payloadOff (data.length - header.payloadOff),
            header.marker, usec config.videoClockRate header.ts⟩
        else none

/-- The video packet that a pass of the loop takes. -/
def arrivalOf (config : Config) : Received → Option Arrival
  | .packet data _ _ _ => videoOf config data
  | _ => none

/-! ## One pass -/

/-- The part of the state that decides which packets are played out. -/
structure View where
  buffer : Buffer VideoPacket
  highestExtSeq : Int

def view (config : Config) (receiver : RtpReceiver) : View :=
  ⟨buffer config receiver, receiver.highestExtSeq⟩

/-- Offer an arrival, if there is one, under its extended sequence number. -/
def View.accept (before : View) : Option Arrival → View
  | none => before
  | some arrival =>
      let ext := extendSeq before.highestExtSeq arrival.seq
      ⟨before.buffer.offer ext arrival.packet, max before.highestExtSeq ext⟩

theorem Quiet.view_eq {before after : RtpReceiver} (quiet : Quiet before after) (config : Config) :
    view config after = view config before := by
  rw [view, quiet.buffer_eq, quiet.highestExtSeq, view]

/-- The audio path needs a sink and a clock rate. -/
def AudioReady (config : Config) : Prop := config.audioSink = true ∧ config.audioClockRate ≠ 0

theorem receiveAudio_quiet {receiver after : RtpReceiver} {config : Config} {header : Header}
    {buf : List UInt8} {n : Nat} (heard : receiver.receiveAudio config header buf n = .ok after) :
    Quiet receiver after := by
  rw [receiveAudio, checkedUsec] at heard
  split at heard
  · cases heard
  · rw [ok_bind] at heard
    split at heard
    · cases heard
      exact .record _ _ rfl
    · cases heard

theorem receiveAudio_ok (receiver : RtpReceiver) {config : Config} (header : Header) (buf : List UInt8)
    (n : Nat) (ready : AudioReady config) : ∃ after, receiver.receiveAudio config header buf n = .ok after := by
  rw [receiveAudio, checkedUsec, if_neg ready.2, ok_bind, if_pos ready.1]
  exact ⟨_, rfl⟩

theorem receiveVideo_refines {receiver : RtpReceiver} (env : Environment) (config : Config)
    (header : Header) (data stale : List UInt8) (rate : config.videoClockRate ≠ 0)
    (sound : Sound config receiver) (settled : (buffer config receiver).Settled)
    (small : receiver.jitter.length ≤ JITTER_MAX) (filled : header.payloadOff < data.length) :
    ∃ after, receiver.receiveVideo env config header (data ++ stale) data.length = .ok after ∧
      Sound config after ∧
      view config after = (view config receiver).accept (some ⟨header.seq,
        slice data header.payloadOff (data.length - header.payloadOff), header.marker,
        usec config.videoClockRate header.ts⟩) := by
  have recorded : Quiet receiver (receiver.record (.arrived (extendSeq receiver.highestExtSeq header.seq))) :=
    .record _ _ rfl
  have arrival : Noted config (receiver.record (.arrived (extendSeq receiver.highestExtSeq header.seq)))
      ((receiver.record (.arrived (extendSeq receiver.highestExtSeq header.seq))).noteArrival env config
        (extendSeq receiver.highestExtSeq header.seq)) (extendSeq receiver.highestExtSeq header.seq) := by
    refine ⟨recorded.sound sound, ?_, small, ?_, noteArrival_quiet _ env config _⟩
    · rw [recorded.buffer_eq]
      exact settled
    · intro unstarted
      rw [extendSeq, if_pos (by exact unstarted)]
      exact Int.natCast_nonneg _
  obtain ⟨after, accepted, soundAfter, highest, refines⟩ := arrival.acceptVideo env (data ++ stale)
    header.payloadOff (data.length - header.payloadOff) header.marker header.ts rate
    (by rw [List.length_append]; omega)
  refine ⟨after, accepted, soundAfter, ?_⟩
  rw [slice_append_left _ _ _ _ (by omega), recorded.buffer_eq] at refines
  rw [view, refines, highest]
  rfl

/-- What a datagram that carries no video packet leads to: nothing, the remote
endpoint, a report, or audio. -/
theorem receive_other_cases (receiver : RtpReceiver) (env : Environment) (config : Config)
    (data stale : List UInt8) (address : InetAddress) (port : UInt16) (other : videoOf config data = none) :
    receiver.receive env config data stale address port = .ok receiver ∨
    receiver.receive env config data stale address port =
      .ok (receiver.learnRemote env config address port) ∨
    receiver.receive env config data stale address port =
      .ok ((receiver.learnRemote env config address port).maybeSendReceiverReport env config) ∨
    ∃ header buf n, receiver.receive env config data stale address port =
      (receiver.learnRemote env config address port).receiveAudio config header buf n >>=
        fun after => .ok (after.maybeSendReceiverReport env config) := by
  by_cases short : data.length < 12
  · exact Or.inl (by rw [receive, if_pos short]; rfl)
  have parsed := parseHeader_eq data stale (by omega)
  cases found : headerOf data with
  | none =>
      refine Or.inr (Or.inl ?_)
      rw [receive, if_neg short]
      simp only [parsed, found, ok_bind]
      rfl
  | some header =>
      by_cases empty : data.length ≤ header.payloadOff
      · refine Or.inr (Or.inl ?_)
        rw [receive, if_neg short]
        simp only [parsed, found, ok_bind, if_pos empty]
        rfl
      have notVideo : ¬ (header.ssrc = config.videoSsrc ∧ header.pt = config.videoPt) := by
        intro video
        simp [videoOf, short, found, empty, video] at other
      by_cases audio : header.ssrc = config.audioSsrc ∧ header.pt = config.audioPt
      · refine Or.inr (Or.inr (Or.inr ⟨header, data ++ stale, data.length, ?_⟩))
        rw [receive, if_neg short]
        simp only [parsed, found, ok_bind, if_neg empty, if_neg notVideo, if_pos audio]
        rfl
      · refine Or.inr (Or.inr (Or.inl ?_))
        rw [receive, if_neg short]
        simp only [parsed, found, ok_bind, if_neg empty, if_neg notVideo, if_neg audio]
        rfl

/-- A datagram that carries no video packet leads to feedback, or to audio. -/
theorem receive_other (receiver : RtpReceiver) (env : Environment) (config : Config)
    (data stale : List UInt8) (address : InetAddress) (port : UInt16) (other : videoOf config data = none) :
    (∀ after, receiver.receive env config data stale address port = .ok after → Quiet receiver after) ∧
    (AudioReady config → ∃ after, receiver.receive env config data stale address port = .ok after) := by
  have learned := learnRemote_quiet receiver env config address port
  have known : ∀ result, receiver.receive env config data stale address port = .ok result →
      Quiet receiver result →
      (∀ after, receiver.receive env config data stale address port = .ok after → Quiet receiver after) ∧
      (AudioReady config → ∃ after, receiver.receive env config data stale address port = .ok after) := by
    intro result same quiet
    refine ⟨?_, fun _ => ⟨result, same⟩⟩
    intro after isAfter
    cases same.symm.trans isAfter
    exact quiet
  rcases receive_other_cases receiver env config data stale address port other with
    ignored | silent | reported | ⟨header, buf, n, taken⟩
  · exact known receiver ignored (.refl receiver)
  · exact known _ silent learned
  · exact known _ reported (learned.trans (maybeSendReceiverReport_quiet _ env config))
  cases heard : (receiver.learnRemote env config address port).receiveAudio config header buf n with
  | ok after =>
      refine known (after.maybeSendReceiverReport env config) ?_ ?_
      · rw [taken, heard]
        rfl
      · exact (learned.trans (receiveAudio_quiet heard)).trans (maybeSendReceiverReport_quiet after env config)
  | error exception =>
      have fails : receiver.receive env config data stale address port = .error exception := by
        rw [taken, heard]
        rfl
      constructor
      · intro after impossible
        cases fails.symm.trans impossible
      · intro ready
        obtain ⟨after, same⟩ := receiveAudio_ok (receiver.learnRemote env config address port) header buf n ready
        cases heard.symm.trans same

/-- A datagram that carries a video packet is taken by the video path. -/
theorem receive_video (receiver : RtpReceiver) (env : Environment) (config : Config)
    (data stale : List UInt8) (address : InetAddress) (port : UInt16) {arrival : Arrival}
    (video : videoOf config data = some arrival) :
    ∃ header, header.payloadOff < data.length ∧
      arrival = ⟨header.seq, slice data header.payloadOff (data.length - header.payloadOff),
        header.marker, usec config.videoClockRate header.ts⟩ ∧
      receiver.receive env config data stale address port =
        (receiver.learnRemote env config address port).receiveVideo env config header
            (data ++ stale) data.length >>=
          fun after => .ok (after.maybeSendReceiverReport env config) := by
  rw [videoOf] at video
  split at video
  · cases video
  rename_i long
  have parsed := parseHeader_eq data stale (by omega)
  split at video
  · cases video
  rename_i header found
  split at video
  · cases video
  rename_i filled
  split at video
  · rename_i own
    refine ⟨header, by omega, (Option.some.inj video).symm, ?_⟩
    rw [receive, if_neg long]
    simp only [parsed, found, ok_bind, if_neg filled, if_pos own]
    rfl
  · cases video

/-- Whatever the socket returns, the video path takes at most one packet. -/
theorem receive_refines {receiver : RtpReceiver} (env : Environment) (config : Config)
    (data stale : List UInt8) (address : InetAddress) (port : UInt16) (rate : config.videoClockRate ≠ 0)
    (sound : Sound config receiver) (settled : (buffer config receiver).Settled)
    (small : receiver.jitter.length ≤ JITTER_MAX) :
    (∀ after, receiver.receive env config data stale address port = .ok after →
      Sound config after ∧ view config after = (view config receiver).accept (videoOf config data)) ∧
    (AudioReady config ∨ videoOf config data ≠ none →
      ∃ after, receiver.receive env config data stale address port = .ok after) := by
  cases carried : videoOf config data with
  | none =>
      obtain ⟨quiet, succeeds⟩ := receive_other receiver env config data stale address port carried
      refine ⟨fun after isAfter => ?_, fun ready => succeeds (ready.resolve_right (fun some => some rfl))⟩
      exact ⟨(quiet after isAfter).sound sound, (quiet after isAfter).view_eq config⟩
  | some arrival =>
      have learned := learnRemote_quiet receiver env config address port
      obtain ⟨header, filled, rfl, same⟩ := receive_video receiver env config data stale address port carried
      obtain ⟨after, accepted, soundAfter, refines⟩ := receiveVideo_refines env config header data stale
        rate (learned.sound sound) (by rw [learned.buffer_eq]; exact settled)
        (by rw [learned.jitter]; exact small) filled
      have reported := maybeSendReceiverReport_quiet after env config
      rw [same, accepted, ok_bind]
      refine ⟨?_, fun _ => ⟨_, rfl⟩⟩
      intro final isFinal
      cases isFinal
      refine ⟨reported.sound soundAfter, ?_⟩
      rw [reported.view_eq, refines, learned.view_eq]

/-- A pass of the loop: releases until nothing is due, then at most one offer. -/
structure Passes (env : Environment) (config : Config) (received : Received) (before after : RtpReceiver) :
    Prop where
  sound : Sound config after
  pass : ∃ expired, before.expire env config = .ok expired ∧
    Buffer.Steps (buffer config before) [] (buffer config expired) ∧ (buffer config expired).Settled ∧
    view config after = View.accept ⟨buffer config expired, before.highestExtSeq⟩ (arrivalOf config received)

theorem iterate_refines {receiver : RtpReceiver} (env : Environment) (config : Config) (received : Received)
    (rate : config.videoClockRate ≠ 0) (sound : Sound config receiver) :
    (∀ after, receiver.iterate env config received = .ok after → Passes env config received receiver after) ∧
    (AudioReady config ∨ arrivalOf config received ≠ none ∨ (∀ data stale address port,
        received ≠ .packet data stale address port) →
      ∃ after, receiver.iterate env config received = .ok after) := by
  obtain ⟨expired, same, soundExpired, highest, steps, settled, small, _, _⟩ :=
    expireEntries_refines env config rate receiver.jitter receiver sound rfl
  rw [iterate, expire, same, ok_bind]
  have untouched : ∀ after, Quiet expired after → arrivalOf config received = none →
      Passes env config received receiver after := by
    intro after quiet none
    refine ⟨quiet.sound soundExpired, expired, same, steps, settled, ?_⟩
    rw [quiet.view_eq, none, View.accept, view, highest]
  cases received with
  | timeout =>
      refine ⟨?_, fun _ => ⟨_, rfl⟩⟩
      intro after isAfter
      cases isAfter
      exact untouched _ (maybeSendReceiverReport_quiet expired env config) rfl
  | failed =>
      refine ⟨?_, fun _ => ⟨_, rfl⟩⟩
      intro after isAfter
      cases isAfter
      exact untouched _ (.refl expired) rfl
  | packet data stale address port =>
      obtain ⟨taken, succeeds⟩ := receive_refines env config data stale address port rate soundExpired
        settled small
      refine ⟨?_, ?_⟩
      · intro after isAfter
        obtain ⟨soundAfter, accepted⟩ := taken after isAfter
        refine ⟨soundAfter, expired, same, steps, settled, ?_⟩
        rw [accepted, view, highest]
        rfl
      · rintro (ready | video | other)
        · exact succeeds (Or.inl ready)
        · exact succeeds (Or.inr video)
        · exact absurd rfl (other data stale address port)

/-! ## Runs of the loop -/

/-- The extended sequence numbers that arrivals get, in the order of arrival. -/
def unwrapAll : Int → List Arrival → List (Int × VideoPacket)
  | _, [] => []
  | highestExtSeq, arrival :: rest =>
      let ext := extendSeq highestExtSeq arrival.seq
      (ext, arrival.packet) :: unwrapAll (max highestExtSeq ext) rest

/-- The highest number after some arrivals. -/
def highestAfter (highestExtSeq : Int) (arrivals : List Arrival) : Int :=
  arrivals.foldl (fun highest arrival => max highest (extendSeq highest arrival.seq)) highestExtSeq

def arrivalsOf (config : Config) (inputs : List Input) : List Arrival :=
  inputs.filterMap (fun input =>
    match input with
    | .iteration received => arrivalOf config received
    | .keyframeRequest => none)

theorem run_cons_ok {env : Environment} {config : Config} {receiver after : RtpReceiver} {input : Input}
    {rest : List Input} (ran : run env config receiver (input :: rest) = .ok after) :
    ∃ middle, step env config receiver input = .ok middle ∧ run env config middle rest = .ok after := by
  rw [run, List.foldlM_cons] at ran
  exact bind_ok ran

/-- Every run of the receiver is a run of the reorder buffer that is offered
the arriving video packets under their extended sequence numbers. -/
theorem run_refines (env : Environment) (config : Config) (rate : config.videoClockRate ≠ 0)
    (inputs : List Input) (receiver after : RtpReceiver) (sound : Sound config receiver)
    (ran : run env config receiver inputs = .ok after) :
    Sound config after ∧
      Buffer.Steps (buffer config receiver)
        (unwrapAll receiver.highestExtSeq (arrivalsOf config inputs)) (buffer config after) ∧
      after.highestExtSeq = highestAfter receiver.highestExtSeq (arrivalsOf config inputs) := by
  induction inputs generalizing receiver with
  | nil =>
      cases ran
      exact ⟨sound, .refl, rfl⟩
  | cons input rest inductionHypothesis =>
      obtain ⟨middle, stepped, ranRest⟩ := run_cons_ok ran
      cases input with
      | keyframeRequest =>
          cases stepped
          have quiet := requestKeyframe_quiet receiver env config
          have later := inductionHypothesis _ (quiet.sound sound) ranRest
          rw [quiet.buffer_eq, quiet.highestExtSeq] at later
          exact later
      | iteration received =>
          obtain ⟨soundMiddle, expired, _, steps, settled, accepted⟩ :=
            (iterate_refines env config received rate sound).1 middle stepped
          obtain ⟨soundAfter, later, highest⟩ := inductionHypothesis middle soundMiddle ranRest
          have buffers := congrArg View.buffer accepted
          have highests := congrArg View.highestExtSeq accepted
          cases arrives : arrivalOf config received with
          | none =>
              have same : arrivalsOf config (.iteration received :: rest) = arrivalsOf config rest := by
                simp [arrivalsOf, arrives]
              rw [arrives] at buffers highests
              change buffer config middle = buffer config expired at buffers
              change middle.highestExtSeq = receiver.highestExtSeq at highests
              rw [same, ← highests]
              refine ⟨soundAfter, ?_, highest⟩
              rw [buffers] at later
              exact steps.trans later
          | some arrival =>
              have split : arrivalsOf config (.iteration received :: rest) =
                  arrival :: arrivalsOf config rest := by
                simp [arrivalsOf, arrives]
              rw [arrives] at buffers highests
              change buffer config middle = (buffer config expired).offer _ arrival.packet at buffers
              change middle.highestExtSeq = max receiver.highestExtSeq _ at highests
              rw [split]
              refine ⟨soundAfter, ?_, ?_⟩
              · rw [unwrapAll, ← highests]
                rw [buffers] at later
                exact (steps.offer _ arrival.packet settled).trans later
              · rw [highest, highests]
                rfl

/-- A run passes through the state before and after each of its inputs. -/
theorem run_append {env : Environment} {config : Config} {receiver middle : RtpReceiver} {done : List Input}
    (ran : run env config receiver done = .ok middle) (rest : List Input) :
    run env config receiver (done ++ rest) = run env config middle rest := by
  rw [run] at ran
  rw [run, List.foldlM_append, ran, ok_bind, run]

theorem run_split {env : Environment} {config : Config} {receiver after : RtpReceiver}
    {before rest : List Input} {input : Input}
    (ran : run env config receiver (before ++ input :: rest) = .ok after) :
    ∃ middle next, run env config receiver before = .ok middle ∧ step env config middle input = .ok next ∧
      run env config next rest = .ok after := by
  rw [run, List.foldlM_append] at ran
  obtain ⟨middle, early, late⟩ := bind_ok ran
  obtain ⟨next, stepped, later⟩ := run_cons_ok late
  exact ⟨middle, next, early, stepped, later⟩

/-- Without a clock rate the first video packet raises an exception. -/
theorem receiveVideo_without_rate {receiver : RtpReceiver} (env : Environment) {config : Config}
    (rate : config.videoClockRate = 0) (unstarted : receiver.nextExtSeq < 0) (header : Header)
    (buf : List UInt8) (n : Nat) : receiver.receiveVideo env config header buf n = .error .arithmetic := by
  have quiet := noteArrival_quiet (receiver.record (.arrived (extendSeq receiver.highestExtSeq header.seq)))
    env config (extendSeq receiver.highestExtSeq header.seq)
  have next := quiet.nextExtSeq
  change _ = receiver.nextExtSeq at next
  rw [receiveVideo, acceptVideo, next, if_neg (by omega), if_pos (Or.inl unstarted), deliver, checkedUsec,
    if_pos rate]
  rfl

theorem iterate_without_rate {env : Environment} {config : Config} (rate : config.videoClockRate = 0)
    {received : Received} {receiver after : RtpReceiver} (unstarted : receiver.nextExtSeq < 0)
    (nothing : receiver.jitter = []) (passed : receiver.iterate env config received = .ok after) :
    arrivalOf config received = none ∧ Quiet receiver after := by
  rw [iterate, expire, nothing] at passed
  cases received with
  | timeout =>
      cases passed
      exact ⟨rfl, maybeSendReceiverReport_quiet receiver env config⟩
  | failed =>
      cases passed
      exact ⟨rfl, .refl receiver⟩
  | packet data stale address port =>
      change receiver.receive env config data stale address port = .ok after at passed
      cases carried : videoOf config data with
      | none =>
          exact ⟨carried, (receive_other receiver env config data stale address port carried).1 after passed⟩
      | some arrival =>
          obtain ⟨header, _, _, same⟩ := receive_video receiver env config data stale address port carried
          have next := (learnRemote_quiet receiver env config address port).nextExtSeq
          rw [same, receiveVideo_without_rate env rate (next ▸ unstarted)] at passed
          cases passed

/-- Without a clock rate no video packet is survived, so none has arrived. -/
theorem run_without_rate {env : Environment} {config : Config} (rate : config.videoClockRate = 0)
    (inputs : List Input) {receiver after : RtpReceiver} (unstarted : receiver.nextExtSeq < 0)
    (nothing : receiver.jitter = []) (ran : run env config receiver inputs = .ok after) :
    arrivalsOf config inputs = [] ∧ Quiet receiver after := by
  induction inputs generalizing receiver with
  | nil =>
      cases ran
      exact ⟨rfl, .refl _⟩
  | cons input rest inductionHypothesis =>
      obtain ⟨middle, stepped, ranRest⟩ := run_cons_ok ran
      have extend : Quiet receiver middle → arrivalsOf config rest = [] ∧ Quiet receiver after := by
        intro quiet
        obtain ⟨none, later⟩ := inductionHypothesis (quiet.nextExtSeq ▸ unstarted) (quiet.jitter ▸ nothing) ranRest
        exact ⟨none, quiet.trans later⟩
      cases input with
      | keyframeRequest =>
          cases stepped
          exact extend (requestKeyframe_quiet receiver env config)
      | iteration received =>
          obtain ⟨noArrival, quiet⟩ := iterate_without_rate rate unstarted nothing stepped
          obtain ⟨none, later⟩ := extend quiet
          refine ⟨?_, later⟩
          rw [arrivalsOf, List.filterMap_cons]
          simp only [noArrival]
          exact none

/-- A run from the start, with any configuration. -/
theorem run_from_start {env : Environment} {config : Config} {inputs : List Input} {after : RtpReceiver}
    (ran : run env config (start config) inputs = .ok after) :
    Sound config after ∧
      Buffer.Steps Buffer.empty (unwrapAll (-1) (arrivalsOf config inputs)) (buffer config after) ∧
      after.highestExtSeq = highestAfter (-1) (arrivalsOf config inputs) := by
  by_cases rate : config.videoClockRate = 0
  · obtain ⟨none, quiet⟩ := run_without_rate rate inputs (show (-1 : Int) < 0 by decide) rfl ran
    rw [none, quiet.buffer_eq]
    exact ⟨quiet.sound (sound_start config), .refl, quiet.highestExtSeq⟩
  · exact run_refines env config rate inputs (start config) after (sound_start config) ran

/-- Every datagram that arrives is a video packet. -/
def VideoOnly (config : Config) (inputs : List Input) : Prop :=
  ∀ data stale address port, .iteration (.packet data stale address port) ∈ inputs →
    videoOf config data ≠ none

/-- The loop survives whatever it receives, unless that is audio for which
there is no sink. -/
theorem run_ok (env : Environment) (config : Config) (rate : config.videoClockRate ≠ 0)
    (inputs : List Input) (receiver : RtpReceiver) (sound : Sound config receiver)
    (ready : AudioReady config ∨ VideoOnly config inputs) :
    ∃ after, run env config receiver inputs = .ok after := by
  induction inputs generalizing receiver with
  | nil => exact ⟨receiver, rfl⟩
  | cons input rest inductionHypothesis =>
      have stepped : ∃ middle, step env config receiver input = .ok middle ∧ Sound config middle := by
        cases input with
        | keyframeRequest => exact ⟨_, rfl, (requestKeyframe_quiet receiver env config).sound sound⟩
        | iteration received =>
            obtain ⟨passes, succeeds⟩ := iterate_refines env config received rate sound
            have enough : AudioReady config ∨ arrivalOf config received ≠ none ∨
                (∀ data stale address port, received ≠ .packet data stale address port) := by
              rcases ready with audio | video
              · exact Or.inl audio
              · cases received with
                | packet data stale address port =>
                    exact Or.inr (Or.inl (video data stale address port List.mem_cons_self))
                | timeout => exact Or.inr (Or.inr (by intros; exact nofun))
                | failed => exact Or.inr (Or.inr (by intros; exact nofun))
            obtain ⟨middle, same⟩ := succeeds enough
            exact ⟨middle, same, (passes middle same).sound⟩
      obtain ⟨middle, same, soundMiddle⟩ := stepped
      rw [run, List.foldlM_cons, same, ok_bind]
      exact inductionHypothesis middle soundMiddle (ready.imp_right (fun video data stale address port member =>
        video data stale address port (List.mem_cons_of_mem _ member)))

end RtpReceiver
end MetaShare
