import MetaShare.Receiver.Loop

namespace MetaShare
namespace RtpReceiver

open Octets OrderedMap

/-!
# What handing packets on changes

Packets are handed on in order, or once they have waited for too long.  That changes
neither the endpoint nor the statistics of the receiver, and adds to its log what is
fed and shown, the gaps, and requests for keyframes, which go to the endpoint.
-/

/-- An entry of the log that comes from handing packets on. -/
inductive Effect.IsHandedOn (config : Config) (receiver : RtpReceiver) : Effect → Prop where
  | gap : IsHandedOn config receiver .gap
  | fed (ext : Int) (payload : List UInt8) (marker : Bool) (ptsUsec : Int) :
      IsHandedOn config receiver (.fed ext payload marker ptsUsec)
  | frame (frame : Frame) : IsHandedOn config receiver (.frame frame)
  | pli {address : InetAddress} (known : receiver.remoteAddress = some address) :
      IsHandedOn config receiver (.sent (pli config.videoSsrc) address receiver.remotePort)

/-- The endpoint and the statistics stay, and the log grows by such entries. -/
structure HandsOn (config : Config) (before after : RtpReceiver) : Prop where
  remoteAddress : after.remoteAddress = before.remoteAddress
  remotePort : after.remotePort = before.remotePort
  highestExtSeq : after.highestExtSeq = before.highestExtSeq
  statFirstExtSeq : after.statFirstExtSeq = before.statFirstExtSeq
  statReceived : after.statReceived = before.statReceived
  statExpectedPrior : after.statExpectedPrior = before.statExpectedPrior
  statReceivedPrior : after.statReceivedPrior = before.statReceivedPrior
  lastRrMs : after.lastRrMs = before.lastRrMs
  log : ∃ more, after.log = before.log ++ more ∧ ∀ effect ∈ more, effect.IsHandedOn config before

/-- The entries depend on the endpoint only. -/
theorem Effect.IsHandedOn.of_endpoint {config : Config} {before after : RtpReceiver} {effect : Effect}
    (remoteAddress : after.remoteAddress = before.remoteAddress) (remotePort : after.remotePort = before.remotePort)
    (handedOn : effect.IsHandedOn config after) : effect.IsHandedOn config before := by
  cases handedOn with
  | gap => exact .gap
  | fed ext payload marker ptsUsec => exact .fed ext payload marker ptsUsec
  | frame frame => exact .frame frame
  | pli known =>
      rw [remotePort]
      exact .pli (remoteAddress.symm.trans known)

namespace HandsOn

variable {config : Config} {first second third : RtpReceiver}

theorem of_same (remoteAddress : second.remoteAddress = first.remoteAddress)
    (remotePort : second.remotePort = first.remotePort) (highestExtSeq : second.highestExtSeq = first.highestExtSeq)
    (statFirstExtSeq : second.statFirstExtSeq = first.statFirstExtSeq)
    (statReceived : second.statReceived = first.statReceived)
    (statExpectedPrior : second.statExpectedPrior = first.statExpectedPrior)
    (statReceivedPrior : second.statReceivedPrior = first.statReceivedPrior)
    (lastRrMs : second.lastRrMs = first.lastRrMs) (log : second.log = first.log) : HandsOn config first second :=
  ⟨remoteAddress, remotePort, highestExtSeq, statFirstExtSeq, statReceived, statExpectedPrior, statReceivedPrior,
    lastRrMs, [], by rw [log, List.append_nil], fun _ impossible => absurd impossible List.not_mem_nil⟩

theorem refl (config : Config) (receiver : RtpReceiver) : HandsOn config receiver receiver :=
  .of_same rfl rfl rfl rfl rfl rfl rfl rfl rfl

theorem trans (left : HandsOn config first second) (right : HandsOn config second third) :
    HandsOn config first third := by
  obtain ⟨early, grown, handedEarly⟩ := left.log
  obtain ⟨late, grownAgain, handedLate⟩ := right.log
  refine ⟨right.remoteAddress.trans left.remoteAddress, right.remotePort.trans left.remotePort,
    right.highestExtSeq.trans left.highestExtSeq, right.statFirstExtSeq.trans left.statFirstExtSeq,
    right.statReceived.trans left.statReceived, right.statExpectedPrior.trans left.statExpectedPrior,
    right.statReceivedPrior.trans left.statReceivedPrior, right.lastRrMs.trans left.lastRrMs, early ++ late, ?_, ?_⟩
  · rw [grownAgain, grown, List.append_assoc]
  · intro effect member
    rcases List.mem_append.mp member with isEarly | isLate
    · exact handedEarly effect isEarly
    · exact (handedLate effect isLate).of_endpoint left.remoteAddress left.remotePort

/-- Such an entry may be added to the log. -/
theorem record (receiver : RtpReceiver) {effect : Effect} (handedOn : effect.IsHandedOn config receiver) :
    HandsOn config receiver (receiver.record effect) := by
  refine ⟨rfl, rfl, rfl, rfl, rfl, rfl, rfl, rfl, [effect], rfl, ?_⟩
  intro other member
  rw [List.mem_singleton.mp member]
  exact handedOn

end HandsOn

section Requests

variable (receiver : RtpReceiver) (env : Environment) (config : Config)

theorem sendPli_handsOn : HandsOn config receiver (receiver.sendPli env config) := by
  rw [sendPli]
  split
  · exact .refl config receiver
  rename_i address known
  split
  · exact .refl config receiver
  have counted : HandsOn config receiver { receiver with sends := receiver.sends + 1 } :=
    .of_same rfl rfl rfl rfl rfl rfl rfl rfl rfl
  rw [transmit]
  split
  · exact counted.trans (.record _ (.pli known))
  · exact counted

theorem requestKeyframe_handsOn : HandsOn config receiver (receiver.requestKeyframe env config) := by
  have noted : HandsOn config receiver { receiver.tick with lastExternalPliMs := receiver.clock env } :=
    .of_same rfl rfl rfl rfl rfl rfl rfl rfl rfl
  simp only [requestKeyframe]
  split
  · exact .of_same rfl rfl rfl rfl rfl rfl rfl rfl rfl
  split
  · exact noted.trans (.of_same rfl rfl rfl rfl rfl rfl rfl rfl rfl)
  · exact noted.trans (sendPli_handsOn _ env config)

theorem sendAutoPli_handsOn : HandsOn config receiver (receiver.sendAutoPli env config) := by
  have noted : HandsOn config receiver { receiver.tick with lastAutoPli := receiver.clock env } :=
    .of_same rfl rfl rfl rfl rfl rfl rfl rfl rfl
  simp only [sendAutoPli]
  split
  · exact noted.trans (sendPli_handsOn _ env config)
  · exact .of_same rfl rfl rfl rfl rfl rfl rfl rfl rfl

theorem announceGap_handsOn : HandsOn config receiver (receiver.announceGap env config) := by
  have told : HandsOn config receiver { receiver with depack := receiver.depack.onGap } :=
    .of_same rfl rfl rfl rfl rfl rfl rfl rfl rfl
  exact (told.trans (.record _ .gap)).trans (sendAutoPli_handsOn _ env config)

theorem isDue_handsOn (s receivedMs : Int) : HandsOn config receiver (receiver.isDue env s receivedMs).2 := by
  rw [isDue]
  split <;> exact .of_same rfl rfl rfl rfl rfl rfl rfl rfl rfl

end Requests

section Delivery

variable {receiver after : RtpReceiver} {env : Environment} {config : Config}

theorem deliver_handsOn {ext : Int} {data : List UInt8} {off len : Nat} {marker : Bool} {ts : Nat}
    (delivered : receiver.deliver env config ext data off len marker ts = .ok after) :
    HandsOn config receiver after := by
  rw [deliver] at delivered
  obtain ⟨ptsUsec, _, fed⟩ := bind_ok delivered
  obtain ⟨⟨depack, shown⟩, _, finished⟩ := bind_ok fed
  have grown : HandsOn config receiver
      { receiver with
        nextExtSeq := ext + 1
        depack := depack
        log := receiver.log ++ .fed ext (slice data off len) marker ptsUsec :: shown.toList.map Effect.frame } := by
    refine ⟨rfl, rfl, rfl, rfl, rfl, rfl, rfl, rfl, _, rfl, ?_⟩
    intro effect member
    rcases List.mem_cons.mp member with rfl | later
    · exact .fed _ _ _ _
    · obtain ⟨frame, _, rfl⟩ := List.mem_map.mp later
      exact .frame frame
  cases finished
  split
  · exact grown.trans (requestKeyframe_handsOn _ env config)
  · exact grown

theorem release_handsOn {s : Int} {hv : HeldVideo} {rest : List (Int × HeldVideo)}
    (released : receiver.release env config s hv rest = .ok after) : HandsOn config receiver after := by
  have taken : HandsOn config receiver { receiver with jitter := rest } :=
    .of_same rfl rfl rfl rfl rfl rfl rfl rfl rfl
  simp only [release] at released
  split at released
  · exact (taken.trans (announceGap_handsOn _ env config)).trans (deliver_handsOn released)
  · exact taken.trans (deliver_handsOn released)

theorem expireEntries_handsOn (entries : List (Int × HeldVideo))
    (expired : expireEntries env config entries receiver = .ok after) : HandsOn config receiver after := by
  induction entries generalizing receiver with
  | nil =>
      cases expired
      exact .refl config _
  | cons entry rest inductionHypothesis =>
      obtain ⟨s, hv⟩ := entry
      have judged := isDue_handsOn receiver env config s hv.receivedMs
      simp only [expireEntries] at expired
      split at expired
      · obtain ⟨middle, released, later⟩ := bind_ok expired
        exact (judged.trans (release_handsOn released)).trans (inductionHypothesis later)
      · cases expired
        exact judged

/-- A packet that arrives in order is handed on, another one is held or dropped. -/
theorem acceptVideo_handsOn {ext : Int} {buf : List UInt8} {off len : Nat} {marker : Bool} {ts : Nat}
    (accepted : receiver.acceptVideo env config ext buf off len marker ts = .ok after) :
    HandsOn config receiver after := by
  rw [acceptVideo] at accepted
  split at accepted
  · cases accepted
    exact .refl config receiver
  split at accepted
  · exact deliver_handsOn accepted
  split at accepted
  · cases accepted
    exact .refl config receiver
  · obtain ⟨payload, _, held⟩ := bind_ok accepted
    cases held
    exact .of_same rfl rfl rfl rfl rfl rfl rfl rfl rfl

end Delivery

end RtpReceiver
end MetaShare
