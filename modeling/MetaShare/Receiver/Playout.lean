import MetaShare.Receiver.Loop

namespace MetaShare
namespace RtpReceiver

open Octets OrderedMap ReorderBuffer

/-!
# The loop refines the reorder buffer

The loop has two delivery paths, one for a packet that is due on arrival and
one through the jitter buffer.  Both move the same playout point, and this
module shows that together they are nothing but the operations of
`ReorderBuffer.Buffer`: each pass of the loop first releases held packets until
nothing is due, and then offers what arrived.  Feedback, statistics and the
clock have no influence beyond the choice of how much is released.

The depacketizer and the frames it has shown are a function of the deliveries.
-/

/-- What the depacketizer is given of a packet. -/
structure VideoPacket where
  payload : List UInt8
  marker : Bool
  ptsUsec : Int
  deriving DecidableEq

/-! ## Reading the log -/

/-- The deliveries so far, and whether a gap has been announced since. -/
def playoutStep : Bool × List (Delivery VideoPacket) → Effect → Bool × List (Delivery VideoPacket)
  | (_, delivered), .gap => (true, delivered)
  | (announced, delivered), .fed ext payload marker ptsUsec =>
      (false, delivered ++ [⟨announced, ext, ⟨payload, marker, ptsUsec⟩⟩])
  | state, _ => state

def playout (log : List Effect) : Bool × List (Delivery VideoPacket) :=
  log.foldl playoutStep (false, [])

def shownBy : Effect → Option Frame
  | .frame frame => some frame
  | _ => none

/-- The frames handed to the video sink. -/
def frames (log : List Effect) : List Frame := log.filterMap shownBy

/-- Entries that concern neither the depacketizer nor the video sink. -/
def Effect.isQuiet : Effect → Bool
  | .gap => false
  | .fed _ _ _ _ => false
  | .frame _ => false
  | _ => true

theorem playout_append (first second : List Effect) :
    playout (first ++ second) = second.foldl playoutStep (playout first) :=
  List.foldl_append

theorem frames_append (first second : List Effect) :
    frames (first ++ second) = frames first ++ frames second :=
  List.filterMap_append

theorem playout_quiet (log quiet : List Effect) (silent : ∀ effect ∈ quiet, effect.isQuiet = true) :
    playout (log ++ quiet) = playout log := by
  rw [playout_append]
  generalize playout log = state
  induction quiet generalizing state with
  | nil => rfl
  | cons effect rest inductionHypothesis =>
      have head := silent effect List.mem_cons_self
      have same : playoutStep state effect = state := by
        cases effect <;> first | rfl | cases head
      rw [List.foldl_cons, same]
      exact inductionHypothesis (fun other member => silent other (List.mem_cons_of_mem _ member)) state

theorem frames_quiet (log quiet : List Effect) (silent : ∀ effect ∈ quiet, effect.isQuiet = true) :
    frames (log ++ quiet) = frames log := by
  have none : frames quiet = [] := by
    apply List.filterMap_eq_nil_iff.mpr
    intro effect member
    have quiet := silent effect member
    cases effect <;> first | rfl | cases quiet
  rw [frames_append, none, List.append_nil]

/-- The frames of one call of the depacketizer leave the playout alone. -/
theorem playout_frames (log : List Effect) (shown : Option Frame) :
    playout (log ++ shown.toList.map Effect.frame) = playout log := by
  cases shown with
  | none => simp
  | some frame => rw [playout_append]; rfl

theorem frames_frames (log : List Effect) (shown : Option Frame) :
    frames (log ++ shown.toList.map Effect.frame) = frames log ++ shown.toList := by
  rw [frames_append]
  cases shown <;> rfl

/-! ## Feedback does not touch the video path -/

/-- Only feedback, clock and statistics differ. -/
structure Quiet (before after : RtpReceiver) : Prop where
  depack : after.depack = before.depack
  jitter : after.jitter = before.jitter
  nextExtSeq : after.nextExtSeq = before.nextExtSeq
  highestExtSeq : after.highestExtSeq = before.highestExtSeq
  log : ∃ quiet, after.log = before.log ++ quiet ∧ ∀ effect ∈ quiet, effect.isQuiet = true
  reads : before.reads ≤ after.reads

theorem Quiet.of_same {before after : RtpReceiver} (depack : after.depack = before.depack)
    (jitter : after.jitter = before.jitter) (nextExtSeq : after.nextExtSeq = before.nextExtSeq)
    (highestExtSeq : after.highestExtSeq = before.highestExtSeq) (log : after.log = before.log)
    (reads : before.reads ≤ after.reads) : Quiet before after :=
  ⟨depack, jitter, nextExtSeq, highestExtSeq, ⟨[], by rw [log, List.append_nil], by simp⟩, reads⟩

theorem Quiet.refl (receiver : RtpReceiver) : Quiet receiver receiver :=
  .of_same rfl rfl rfl rfl rfl le_rfl

theorem Quiet.trans {first second third : RtpReceiver} (left : Quiet first second)
    (right : Quiet second third) : Quiet first third := by
  obtain ⟨early, grown, silentEarly⟩ := left.log
  obtain ⟨late, grownAgain, silentLate⟩ := right.log
  refine ⟨right.depack.trans left.depack, right.jitter.trans left.jitter,
    right.nextExtSeq.trans left.nextExtSeq, right.highestExtSeq.trans left.highestExtSeq,
    ⟨early ++ late, ?_, ?_⟩, left.reads.trans right.reads⟩
  · rw [grownAgain, grown, List.append_assoc]
  · intro effect member
    exact (List.mem_append.mp member).elim (silentEarly effect) (silentLate effect)

/-- Entries about feedback may be added to the log. -/
theorem Quiet.log_append (receiver : RtpReceiver) (quiet : List Effect)
    (silent : ∀ effect ∈ quiet, effect.isQuiet = true) :
    Quiet receiver { receiver with log := receiver.log ++ quiet } :=
  ⟨rfl, rfl, rfl, rfl, ⟨quiet, rfl, silent⟩, le_rfl⟩

theorem Quiet.record (receiver : RtpReceiver) (effect : Effect) (silent : effect.isQuiet = true) :
    Quiet receiver (receiver.record effect) := by
  apply Quiet.log_append
  intro other member
  rw [List.mem_singleton.mp member]
  exact silent

section Feedback

variable (receiver : RtpReceiver) (env : Environment) (config : Config)

theorem tick_quiet : Quiet receiver receiver.tick :=
  .of_same rfl rfl rfl rfl rfl (Nat.le_succ _)

theorem transmit_quiet (datagram : List UInt8) (address : InetAddress) (port : Int) :
    Quiet receiver (receiver.transmit env datagram address port) := by
  have counted : Quiet receiver { receiver with sends := receiver.sends + 1 } :=
    .of_same rfl rfl rfl rfl rfl le_rfl
  rw [transmit]
  split
  · exact counted.trans (.record _ _ rfl)
  · exact counted

theorem sendPli_quiet : Quiet receiver (receiver.sendPli env config) := by
  unfold sendPli
  split
  · exact .refl receiver
  · split
    · exact .refl receiver
    · exact transmit_quiet receiver env _ _ _

theorem requestKeyframe_quiet : Quiet receiver (receiver.requestKeyframe env config) := by
  have noted : Quiet receiver { receiver.tick with lastExternalPliMs := receiver.clock env } :=
    .of_same rfl rfl rfl rfl rfl (Nat.le_succ _)
  simp only [requestKeyframe]
  split
  · exact tick_quiet receiver
  · split
    · exact noted.trans (.of_same rfl rfl rfl rfl rfl le_rfl)
    · exact noted.trans (sendPli_quiet _ env config)

theorem sendAutoPli_quiet : Quiet receiver (receiver.sendAutoPli env config) := by
  have noted : Quiet receiver { receiver.tick with lastAutoPli := receiver.clock env } :=
    .of_same rfl rfl rfl rfl rfl (Nat.le_succ _)
  simp only [sendAutoPli]
  split
  · exact noted.trans (sendPli_quiet _ env config)
  · exact tick_quiet receiver

theorem sendNacksFrom_quiet (address : InetAddress) (port extPid afterGap : Int) :
    Quiet receiver (sendNacksFrom env config address port extPid afterGap receiver) := by
  induction extPid, receiver using sendNacksFrom.induct env config address port afterGap with
  | case1 extPid receiver more packed sent succeeded inductionHypothesis =>
      have requests := Quiet.log_append sent ((numbersFrom extPid (packed.2 + 1)).map Effect.requested)
        (by simp [Effect.isQuiet])
      rw [sendNacksFrom, if_pos more, if_pos succeeded]
      exact ((transmit_quiet receiver env _ address port).trans requests).trans inductionHypothesis
  | case2 extPid receiver more failed =>
      rw [sendNacksFrom, if_pos more, if_neg failed]
      exact transmit_quiet receiver env _ address port
  | case3 extPid receiver finished =>
      rw [sendNacksFrom, if_neg finished]
      exact .refl receiver

theorem sendNacksForRange_quiet (firstMissing afterGap : Int) :
    Quiet receiver (receiver.sendNacksForRange env config firstMissing afterGap) := by
  unfold sendNacksForRange
  split
  · exact .refl receiver
  · split
    · exact .refl receiver
    · exact sendNacksFrom_quiet receiver env config _ _ _ _

theorem maybeSendReceiverReport_quiet :
    Quiet receiver (receiver.maybeSendReceiverReport env config) := by
  have noted : Quiet receiver { receiver.tick with lastRrMs := receiver.clock env } :=
    .of_same rfl rfl rfl rfl rfl (Nat.le_succ _)
  simp only [maybeSendReceiverReport]
  split
  · exact tick_quiet receiver
  split
  · exact noted
  split
  · exact noted
  split
  · exact noted
  · refine Quiet.trans ?_ (transmit_quiet _ env _ _ _)
    exact .of_same rfl rfl rfl rfl rfl (Nat.le_succ _)

theorem learnRemote_quiet (address : InetAddress) (port : UInt16) :
    Quiet receiver (receiver.learnRemote env config address port) := by
  have learned : Quiet receiver { receiver with remoteAddress := some address, remotePort := port.toNat } :=
    .of_same rfl rfl rfl rfl rfl le_rfl
  simp only [learnRemote]
  split
  · exact .refl receiver
  · split
    · refine Quiet.trans ?_ (sendPli_quiet _ env config)
      exact .of_same rfl rfl rfl rfl rfl le_rfl
    · exact learned

theorem isDue_quiet (s receivedMs : Int) : Quiet receiver (receiver.isDue env s receivedMs).2 := by
  unfold isDue
  split
  · exact .refl receiver
  · exact tick_quiet receiver

end Feedback

/-! ## The buffer behind the loop -/

/-- What a held packet will be delivered as. -/
def HeldVideo.packet (config : Config) (hv : HeldVideo) : VideoPacket :=
  ⟨hv.payload, hv.marker, usec config.videoClockRate hv.ts⟩

def heldPackets (config : Config) (jitter : List (Int × HeldVideo)) : List (Int × VideoPacket) :=
  jitter.map (fun entry => (entry.1, entry.2.packet config))

/-- The reorder buffer that a receiver's state stands for. -/
def buffer (config : Config) (receiver : RtpReceiver) : Buffer VideoPacket where
  next := if receiver.nextExtSeq < 0 then none else some receiver.nextExtSeq
  held := heldPackets config receiver.jitter
  delivered := (playout receiver.log).2

/-- The depacketizer call that belongs to a delivery. -/
def consumeDelivery (depack : VideoDepacketizer) (delivery : Delivery VideoPacket) :
    VideoDepacketizer × Option Frame :=
  (if delivery.gap then depack.onGap else depack).consume delivery.value.payload
    delivery.value.marker delivery.value.ptsUsec

def consumeStep (state : VideoDepacketizer × List Frame) (delivery : Delivery VideoPacket) :
    VideoDepacketizer × List Frame :=
  ((consumeDelivery state.1 delivery).1, state.2 ++ (consumeDelivery state.1 delivery).2.toList)

/-- The depacketizer and the frames shown after a list of deliveries. -/
def consumeAll (depack : VideoDepacketizer) (deliveries : List (Delivery VideoPacket)) :
    VideoDepacketizer × List Frame :=
  deliveries.foldl consumeStep (depack, [])

theorem consumeAll_concat (depack : VideoDepacketizer) (deliveries : List (Delivery VideoPacket))
    (delivery : Delivery VideoPacket) :
    consumeAll depack (deliveries ++ [delivery]) =
      consumeStep (consumeAll depack deliveries) delivery := by
  rw [consumeAll, List.foldl_append]
  rfl

/-- The depacketizer state and the frames shown are those of the deliveries. -/
structure Consistent (config : Config) (receiver : RtpReceiver) : Prop where
  announced : (playout receiver.log).1 = false
  content : (receiver.depack, frames receiver.log) =
    consumeAll (.create config.h265) (playout receiver.log).2

theorem consistent_start (config : Config) : Consistent config (start config) := ⟨rfl, rfl⟩

theorem Quiet.playout_eq {before after : RtpReceiver} (quiet : Quiet before after) :
    playout after.log = playout before.log := by
  obtain ⟨more, grown, silent⟩ := quiet.log
  rw [grown, playout_quiet _ _ silent]

theorem Quiet.frames_eq {before after : RtpReceiver} (quiet : Quiet before after) :
    frames after.log = frames before.log := by
  obtain ⟨more, grown, silent⟩ := quiet.log
  rw [grown, frames_quiet _ _ silent]

theorem Quiet.buffer_eq {before after : RtpReceiver} (quiet : Quiet before after) (config : Config) :
    buffer config after = buffer config before := by
  simp only [buffer, quiet.nextExtSeq, quiet.jitter, quiet.playout_eq]

theorem Quiet.consistent {before after : RtpReceiver} (quiet : Quiet before after) {config : Config}
    (consistent : Consistent config before) : Consistent config after := by
  refine ⟨quiet.playout_eq ▸ consistent.announced, ?_⟩
  rw [quiet.depack, quiet.frames_eq, quiet.playout_eq]
  exact consistent.content

/-! ## One delivery -/

/-- What a delivery does: the playout point moves, the call is recorded, and
the frame it completes is shown. -/
structure Delivers (config : Config) (before after : RtpReceiver) (ext : Int) (packet : VideoPacket) :
    Prop where
  jitter : after.jitter = before.jitter
  nextExtSeq : after.nextExtSeq = ext + 1
  highestExtSeq : after.highestExtSeq = before.highestExtSeq
  delivered : playout after.log =
    (false, (playout before.log).2 ++ [⟨(playout before.log).1, ext, packet⟩])
  depack : after.depack = (before.depack.consume packet.payload packet.marker packet.ptsUsec).1
  shown : frames after.log =
    frames before.log ++ (before.depack.consume packet.payload packet.marker packet.ptsUsec).2.toList
  reads : before.reads ≤ after.reads

theorem Delivers.quiet {config : Config} {before after later : RtpReceiver} {ext : Int}
    {packet : VideoPacket} (delivers : Delivers config before after ext packet)
    (quiet : Quiet after later) : Delivers config before later ext packet :=
  ⟨quiet.jitter.trans delivers.jitter, quiet.nextExtSeq.trans delivers.nextExtSeq,
    quiet.highestExtSeq.trans delivers.highestExtSeq, quiet.playout_eq.trans delivers.delivered,
    quiet.depack.trans delivers.depack, quiet.frames_eq.trans delivers.shown,
    delivers.reads.trans quiet.reads⟩

/-- A delivery from a range inside its buffer succeeds. -/
theorem deliver_ok (receiver : RtpReceiver) (env : Environment) (config : Config) (ext : Int)
    (data : List UInt8) (off len : Nat) (marker : Bool) (ts : Nat)
    (rate : config.videoClockRate ≠ 0) (range : off + len ≤ data.length) :
    ∃ after, receiver.deliver env config ext data off len marker ts = .ok after ∧
      Delivers config receiver after ext
        ⟨slice data off len, marker, usec config.videoClockRate ts⟩ := by
  have fed := receiver.depack.feed_eq_consume data off len range marker (usec config.videoClockRate ts)
  simp only [deliver, checkedUsec, if_neg rate, ok_bind, fed]
  generalize result : receiver.depack.consume (slice data off len) marker (usec config.videoClockRate ts) =
    consumed
  obtain ⟨depack, shown⟩ := consumed
  have delivers : Delivers config receiver
      { receiver with
        nextExtSeq := ext + 1
        depack := depack
        log := receiver.log ++ .fed ext (slice data off len) marker (usec config.videoClockRate ts) ::
          shown.toList.map Effect.frame }
      ext ⟨slice data off len, marker, usec config.videoClockRate ts⟩ := by
    have split : receiver.log ++ .fed ext (slice data off len) marker (usec config.videoClockRate ts) ::
        shown.toList.map Effect.frame =
        (receiver.log ++ [.fed ext (slice data off len) marker (usec config.videoClockRate ts)]) ++
          shown.toList.map Effect.frame := by simp
    refine ⟨rfl, rfl, rfl, ?_, ?_, ?_, le_rfl⟩
    · rw [split, playout_frames, playout_append]
      rfl
    · rw [result]
    · rw [split, frames_frames, frames_append, result]
      simp [frames, shownBy]
  cases depack.needsKeyframe with
  | true => exact ⟨_, rfl, delivers.quiet (requestKeyframe_quiet _ env config)⟩
  | false => exact ⟨_, rfl, delivers⟩

/-- After a delivery the depacketizer has consumed one delivery more. -/
theorem Delivers.consistent {config : Config} {before after : RtpReceiver} {ext : Int}
    {packet : VideoPacket} (delivers : Delivers config before after ext packet)
    {base : RtpReceiver} (consistent : Consistent config base) (gap : Bool)
    (log : playout before.log = (gap, (playout base.log).2))
    (depack : before.depack = if gap then base.depack.onGap else base.depack)
    (shown : frames before.log = frames base.log) :
    Consistent config after := by
  have content := consistent.content
  refine ⟨by rw [delivers.delivered], ?_⟩
  rw [delivers.delivered, log]
  simp only [consumeAll_concat, ← content, consumeStep, consumeDelivery]
  rw [delivers.depack, delivers.shown, shown, depack]

/-! ## The invariant of the loop -/

/-- What holds of the receiver between passes of its loop. -/
structure Sound (config : Config) (receiver : RtpReceiver) : Prop where
  consistent : Consistent config receiver
  wellFormed : (buffer config receiver).WellFormed
  unstarted : receiver.nextExtSeq < 0 ↔ receiver.highestExtSeq < 0
  nextBound : receiver.nextExtSeq ≤ receiver.highestExtSeq + 1
  heldBound : ∀ entry ∈ receiver.jitter, entry.1 ≤ receiver.highestExtSeq
  bounded : receiver.jitter.length ≤ JITTER_MAX + 1

/-- Neither the playout point nor a held packet is beyond what was received. -/
theorem Sound.within {config : Config} {receiver : RtpReceiver} (sound : Sound config receiver) :
    (buffer config receiver).Within receiver.highestExtSeq := by
  refine ⟨fun next position => ?_, fun entry member => ?_⟩
  · rw [buffer] at position
    split at position
    · cases position
    · cases position
      exact sound.nextBound
  · obtain ⟨held, listed, rfl⟩ := List.mem_map.mp member
    exact sound.heldBound held listed

theorem sound_start (config : Config) : Sound config (start config) where
  consistent := consistent_start config
  wellFormed := Buffer.wellFormed_empty
  unstarted := Iff.rfl
  nextBound := (by decide : (-1 : Int) ≤ -1 + 1)
  heldBound := by intro entry member; cases member
  bounded := Nat.zero_le _

theorem Quiet.sound {before after : RtpReceiver} (quiet : Quiet before after) {config : Config}
    (sound : Sound config before) : Sound config after where
  consistent := quiet.consistent sound.consistent
  wellFormed := quiet.buffer_eq config ▸ sound.wellFormed
  unstarted := by rw [quiet.nextExtSeq, quiet.highestExtSeq]; exact sound.unstarted
  nextBound := by rw [quiet.nextExtSeq, quiet.highestExtSeq]; exact sound.nextBound
  heldBound := by rw [quiet.jitter, quiet.highestExtSeq]; exact sound.heldBound
  bounded := by rw [quiet.jitter]; exact sound.bounded

/-- While packets are held there is a playout point, and it is not beyond them. -/
theorem Sound.playoutPoint {config : Config} {receiver : RtpReceiver} (sound : Sound config receiver)
    {entry : Int × HeldVideo} (held : entry ∈ receiver.jitter) :
    0 ≤ receiver.nextExtSeq ∧ receiver.nextExtSeq ≤ entry.1 := by
  have listed : (entry.1, entry.2.packet config) ∈ (buffer config receiver).held :=
    List.mem_map_of_mem held
  by_cases started : receiver.nextExtSeq < 0
  · have none : (buffer config receiver).next = none := if_pos started
    rw [sound.wellFormed.fresh none] at listed
    cases listed
  · have position : (buffer config receiver).next = some receiver.nextExtSeq := if_neg started
    exact ⟨by omega, sound.wellFormed.ahead _ position _ listed⟩

/-! ## Releasing held packets -/

/-- Announcing a gap only marks the depacketizer and the log. -/
structure Announces (before after : RtpReceiver) : Prop where
  depack : after.depack = before.depack.onGap
  jitter : after.jitter = before.jitter
  nextExtSeq : after.nextExtSeq = before.nextExtSeq
  highestExtSeq : after.highestExtSeq = before.highestExtSeq
  announced : playout after.log = (true, (playout before.log).2)
  shown : frames after.log = frames before.log
  reads : before.reads ≤ after.reads

theorem announceGap_announces (receiver : RtpReceiver) (env : Environment) (config : Config) :
    Announces receiver (receiver.announceGap env config) := by
  have quiet := sendAutoPli_quiet ({ receiver with depack := receiver.depack.onGap }.record .gap) env config
  refine ⟨quiet.depack, quiet.jitter, quiet.nextExtSeq, quiet.highestExtSeq, ?_, ?_, quiet.reads⟩
  · rw [announceGap, quiet.playout_eq, record, playout_append]
    rfl
  · rw [announceGap, quiet.frames_eq, record, frames_append]
    exact List.append_nil _

/-- Handing on the lowest held packet is a release of the buffer. -/
theorem release_refines (receiver : RtpReceiver) (env : Environment) (config : Config) (s : Int)
    (hv : HeldVideo) (rest : List (Int × HeldVideo)) (rate : config.videoClockRate ≠ 0)
    (sound : Sound config receiver) (held : receiver.jitter = (s, hv) :: rest) :
    ∃ after, receiver.release env config s hv rest = .ok after ∧ after.jitter = rest ∧
      after.highestExtSeq = receiver.highestExtSeq ∧ receiver.reads ≤ after.reads ∧ Sound config after ∧
      buffer config after = (buffer config receiver).release := by
  obtain ⟨started, notBehind⟩ := sound.playoutPoint (held ▸ List.mem_cons_self)
  -- The state in which the packet is delivered, with or without an announcement.
  have prepared : ∃ ready : RtpReceiver, receiver.release env config s hv rest =
        ready.deliver env config s hv.payload 0 hv.payload.length hv.marker hv.ts ∧
      ready.jitter = rest ∧ ready.highestExtSeq = receiver.highestExtSeq ∧ receiver.reads ≤ ready.reads ∧
      playout ready.log = (decide (receiver.nextExtSeq ≠ s), (playout receiver.log).2) ∧
      ready.depack = (if decide (receiver.nextExtSeq ≠ s) then receiver.depack.onGap else receiver.depack) ∧
      frames ready.log = frames receiver.log := by
    by_cases due : s = receiver.nextExtSeq
    · refine ⟨{ receiver with jitter := rest }, ?_, rfl, rfl, le_rfl, ?_, ?_, rfl⟩
      · rw [release, if_neg (fun skipped => skipped.2 due)]
      · have silent := sound.consistent.announced
        rw [decide_eq_false (fun different => different due.symm), ← silent]
      · rw [decide_eq_false (fun different => different due.symm)]
        rfl
    · have announces := announceGap_announces { receiver with jitter := rest } env config
      refine ⟨_, ?_, announces.jitter, announces.highestExtSeq, announces.reads, ?_, ?_, announces.shown⟩
      · rw [release, if_pos ⟨started, due⟩]
      · rw [announces.announced, decide_eq_true (Ne.symm due)]
      · rw [announces.depack, decide_eq_true (Ne.symm due)]
        rfl
  obtain ⟨ready, same, jitter, highest, reads, log, depack, shown⟩ := prepared
  obtain ⟨after, delivered, delivers⟩ := deliver_ok ready env config s hv.payload 0 hv.payload.length
    hv.marker hv.ts rate (by omega)
  rw [slice_all] at delivers
  have position : (buffer config receiver).next = some receiver.nextExtSeq := if_neg (by omega)
  have refines : buffer config after = (buffer config receiver).release := by
    have contents : (buffer config receiver).held = (s, hv.packet config) :: heldPackets config rest := by
      simp [buffer, held, heldPackets]
    have gap : (decide (receiver.nextExtSeq ≠ s)) =
        (buffer config receiver).next.any (fun next => next != s) := by
      rw [position, Option.any_some, bne, decide_not, beq_eq_decide]
    have moved : (if s + 1 < 0 then none else some (s + 1)) = some (s + 1) := if_neg (by omega)
    rw [Buffer.release, contents]
    rw [buffer, delivers.nextExtSeq, delivers.jitter, jitter, delivers.delivered, log, gap, moved]
    rfl
  refine ⟨after, same.trans delivered, delivers.jitter.trans jitter, delivers.highestExtSeq.trans highest,
    reads.trans delivers.reads, ?_, refines⟩
  have bound := sound.heldBound (s, hv) (held ▸ List.mem_cons_self)
  refine ⟨delivers.consistent sound.consistent _ log depack shown, ?_, ?_, ?_, ?_, ?_⟩
  · rw [refines]
    exact Buffer.release_wellFormed sound.wellFormed
  · rw [delivers.nextExtSeq, delivers.highestExtSeq, highest]
    omega
  · rw [delivers.nextExtSeq, delivers.highestExtSeq, highest]
    omega
  · rw [delivers.jitter, jitter, delivers.highestExtSeq, highest]
    intro entry member
    exact sound.heldBound entry (held ▸ List.mem_cons_of_mem _ member)
  · have size := sound.bounded
    rw [held, List.length_cons] at size
    rw [delivers.jitter, jitter]
    omega

/-- What the expiry loop does: it is a run of releases, after which nothing held
is due and the jitter buffer has room for one more packet. -/
structure Expires (config : Config) (before after : RtpReceiver) : Prop where
  sound : Sound config after
  highestExtSeq : after.highestExtSeq = before.highestExtSeq
  steps : Buffer.Steps (buffer config before) [] (buffer config after)
  settled : (buffer config after).Settled
  small : after.jitter.length ≤ JITTER_MAX
  held : ∀ entry ∈ after.jitter, entry ∈ before.jitter
  reads : before.reads ≤ after.reads

theorem expireEntries_refines (env : Environment) (config : Config) (rate : config.videoClockRate ≠ 0)
    (entries : List (Int × HeldVideo)) (receiver : RtpReceiver) (sound : Sound config receiver)
    (held : receiver.jitter = entries) :
    ∃ after, expireEntries env config entries receiver = .ok after ∧ Expires config receiver after := by
  induction entries generalizing receiver with
  | nil =>
      refine ⟨receiver, rfl, sound, rfl, .refl, ?_, by rw [held]; exact Nat.zero_le _, fun _ => id, le_rfl⟩
      intro next position entry member
      simp [buffer, held, heldPackets] at member
  | cons entry rest inductionHypothesis =>
      obtain ⟨s, hv⟩ := entry
      have quiet := isDue_quiet receiver env s hv.receivedMs
      have checked := quiet.sound sound
      rw [expireEntries]
      cases due : (receiver.isDue env s hv.receivedMs).1 with
      | true =>
          obtain ⟨released, same, jitter, highest, reads, soundReleased, refines⟩ :=
            release_refines _ env config s hv rest rate checked (quiet.jitter.trans held)
          obtain ⟨after, finished, expires⟩ := inductionHypothesis released soundReleased jitter
          refine ⟨after, ?_, expires.sound, ?_, ?_, expires.settled, expires.small, ?_,
            (quiet.reads.trans reads).trans expires.reads⟩
          · rw [if_pos rfl, same]
            exact finished
          · rw [expires.highestExtSeq, highest, quiet.highestExtSeq]
          · have steps := expires.steps
            rw [refines, quiet.buffer_eq] at steps
            exact Buffer.Steps.trans (.release .refl) steps
          · intro entry member
            rw [held]
            exact List.mem_cons_of_mem _ (jitter ▸ expires.held entry member)
      | false =>
          -- The lowest packet is not due, so it and all others are ahead.
          have waits : 0 ≤ receiver.nextExtSeq ∧ s ≠ receiver.nextExtSeq ∧
              receiver.jitter.length ≤ JITTER_MAX := by
            by_cases early : receiver.nextExtSeq < 0 ∨ s = receiver.nextExtSeq ∨
                receiver.jitter.length > JITTER_MAX
            · rw [isDue, if_pos early] at due
              cases due
            · omega
          refine ⟨_, if_neg Bool.false_ne_true, checked, quiet.highestExtSeq, ?_, ?_, ?_, ?_, quiet.reads⟩
          · rw [quiet.buffer_eq]
            exact .refl
          · rw [quiet.buffer_eq]
            intro next position entry member
            have listed : (s, hv) ∈ receiver.jitter := held ▸ List.mem_cons_self
            have first := sound.playoutPoint listed
            have same : receiver.nextExtSeq = next := by
              rw [buffer, if_neg (by omega)] at position
              exact Option.some.inj position
            have ordered := sound.wellFormed.ordered
            have contents : (buffer config receiver).held =
                (s, hv.packet config) :: heldPackets config rest := by
              simp [buffer, held, heldPackets]
            rw [contents] at ordered member
            rcases List.mem_cons.mp member with lowest | later
            · rw [lowest]
              show next < s
              omega
            · have above : s < entry.1 := (List.pairwise_cons.mp ordered).1 entry later
              omega
          · rw [quiet.jitter]
            exact waits.2.2
          · rw [quiet.jitter]
            exact fun _ => id

end RtpReceiver
end MetaShare
