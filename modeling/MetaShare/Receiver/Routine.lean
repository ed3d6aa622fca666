import MetaShare.Receiver.Nack

namespace MetaShare
namespace RtpReceiver

open Octets OrderedMap ReorderBuffer

/-!
# Routine work of the receiver

Delivery, requests for packets and requests for keyframes leave the statistics of
the receiver alone, and what they add to its log are neither arrivals, nor audio,
nor reports.
-/

/-- An entry of the log that comes from delivery, or from a request. -/
inductive Effect.IsRoutine (config : Config) : Effect → Prop where
  | requested (ext : Int) : IsRoutine config (.requested ext)
  | gap : IsRoutine config .gap
  | fed (ext : Int) (payload : List UInt8) (marker : Bool) (ptsUsec : Int) :
      IsRoutine config (.fed ext payload marker ptsUsec)
  | frame (frame : Frame) : IsRoutine config (.frame frame)
  | pli (address : InetAddress) (port : Int) : IsRoutine config (.sent (pli config.videoSsrc) address port)
  | nack (pid blp : UInt16) (address : InetAddress) (port : Int) :
      IsRoutine config (.sent (nack config.videoSsrc pid blp) address port)

/-- The log grows by routine entries. -/
def Grows (config : Config) (before after : List Effect) : Prop :=
  ∃ more, after = before ++ more ∧ ∀ effect ∈ more, effect.IsRoutine config

/-- The statistics stay, and the log grows by routine entries. -/
structure Routine (config : Config) (before after : RtpReceiver) : Prop where
  highestExtSeq : after.highestExtSeq = before.highestExtSeq
  statFirstExtSeq : after.statFirstExtSeq = before.statFirstExtSeq
  statReceived : after.statReceived = before.statReceived
  statExpectedPrior : after.statExpectedPrior = before.statExpectedPrior
  statReceivedPrior : after.statReceivedPrior = before.statReceivedPrior
  lastRrMs : after.lastRrMs = before.lastRrMs
  log : Grows config before.log after.log

theorem Grows.refl (config : Config) (log : List Effect) : Grows config log log :=
  ⟨[], (List.append_nil _).symm, fun _ member => nomatch member⟩

theorem Grows.trans {config : Config} {first second third : List Effect} (left : Grows config first second)
    (right : Grows config second third) : Grows config first third := by
  obtain ⟨early, grown, routineEarly⟩ := left
  obtain ⟨late, grownAgain, routineLate⟩ := right
  refine ⟨early ++ late, ?_, ?_⟩
  · rw [grownAgain, grown, List.append_assoc]
  · intro effect member
    exact (List.mem_append.mp member).elim (routineEarly effect) (routineLate effect)

theorem Grows.snoc {config : Config} (log : List Effect) {effect : Effect} (routine : effect.IsRoutine config) :
    Grows config log (log ++ [effect]) := by
  refine ⟨[effect], rfl, ?_⟩
  intro other member
  rw [List.mem_singleton.mp member]
  exact routine

namespace Routine

variable {config : Config} {first second third : RtpReceiver}

theorem of_same (highestExtSeq : second.highestExtSeq = first.highestExtSeq)
    (statFirstExtSeq : second.statFirstExtSeq = first.statFirstExtSeq)
    (statReceived : second.statReceived = first.statReceived)
    (statExpectedPrior : second.statExpectedPrior = first.statExpectedPrior)
    (statReceivedPrior : second.statReceivedPrior = first.statReceivedPrior)
    (lastRrMs : second.lastRrMs = first.lastRrMs) (log : second.log = first.log) : Routine config first second :=
  ⟨highestExtSeq, statFirstExtSeq, statReceived, statExpectedPrior, statReceivedPrior, lastRrMs,
    log ▸ .refl config _⟩

theorem refl (config : Config) (receiver : RtpReceiver) : Routine config receiver receiver :=
  .of_same rfl rfl rfl rfl rfl rfl rfl

theorem trans (left : Routine config first second) (right : Routine config second third) :
    Routine config first third :=
  ⟨right.highestExtSeq.trans left.highestExtSeq, right.statFirstExtSeq.trans left.statFirstExtSeq,
    right.statReceived.trans left.statReceived, right.statExpectedPrior.trans left.statExpectedPrior,
    right.statReceivedPrior.trans left.statReceivedPrior, right.lastRrMs.trans left.lastRrMs,
    left.log.trans right.log⟩

end Routine

/-- Handing packets on is routine. -/
theorem HandsOn.routine {config : Config} {before after : RtpReceiver} (handsOn : HandsOn config before after) :
    Routine config before after := by
  obtain ⟨more, grown, handed⟩ := handsOn.log
  refine ⟨handsOn.highestExtSeq, handsOn.statFirstExtSeq, handsOn.statReceived, handsOn.statExpectedPrior,
    handsOn.statReceivedPrior, handsOn.lastRrMs, more, grown, fun effect member => ?_⟩
  cases handed effect member with
  | gap => exact .gap
  | fed ext payload marker ptsUsec => exact .fed ext payload marker ptsUsec
  | frame frame => exact .frame frame
  | pli known => exact .pli _ _

section Feedback

variable (receiver : RtpReceiver) (env : Environment) (config : Config)

theorem transmit_routine (datagram : List UInt8) (address : InetAddress) (port : Int)
    (routine : (Effect.sent datagram address port).IsRoutine config) :
    Routine config receiver (receiver.transmit env datagram address port) := by
  rw [transmit]
  split
  · exact ⟨rfl, rfl, rfl, rfl, rfl, rfl, .snoc _ routine⟩
  · exact .of_same rfl rfl rfl rfl rfl rfl rfl

theorem sendNacksFrom_routine (address : InetAddress) (port extPid afterGap : Int) :
    Routine config receiver (sendNacksFrom env config address port extPid afterGap receiver) := by
  induction extPid, receiver using sendNacksFrom.induct env config address port afterGap with
  | case1 extPid receiver more packed sent succeeded inductionHypothesis =>
      rw [sendNacksFrom, if_pos more, if_pos succeeded]
      have asked : Routine config receiver sent :=
        transmit_routine receiver env config _ _ _ (.nack _ _ _ _)
      have marked : Grows config sent.log
          (sent.log ++ (numbersFrom extPid (packed.2 + 1)).map Effect.requested) := by
        refine ⟨_, rfl, ?_⟩
        intro effect member
        obtain ⟨number, _, rfl⟩ := List.mem_map.mp member
        exact .requested number
      have booked : Routine config receiver
          { sent with log := sent.log ++ (numbersFrom extPid (packed.2 + 1)).map Effect.requested } :=
        ⟨asked.highestExtSeq, asked.statFirstExtSeq, asked.statReceived, asked.statExpectedPrior,
          asked.statReceivedPrior, asked.lastRrMs, asked.log.trans marked⟩
      exact booked.trans inductionHypothesis
  | case2 extPid receiver more failed =>
      rw [sendNacksFrom, if_pos more, if_neg failed]
      exact transmit_routine receiver env config _ _ _ (.nack _ _ _ _)
  | case3 extPid receiver finished =>
      rw [sendNacksFrom, if_neg finished]
      exact .refl config receiver

theorem sendNacksForRange_routine (firstMissing afterGap : Int) :
    Routine config receiver (receiver.sendNacksForRange env config firstMissing afterGap) := by
  unfold sendNacksForRange
  split
  · exact .refl config receiver
  · split
    · exact .refl config receiver
    · exact sendNacksFrom_routine receiver env config _ _ _ _

theorem learnRemote_routine (address : InetAddress) (port : UInt16) :
    Routine config receiver (receiver.learnRemote env config address port) := by
  have learned : Routine config receiver
      { receiver with remoteAddress := some address, remotePort := port.toNat } :=
    .of_same rfl rfl rfl rfl rfl rfl rfl
  unfold learnRemote
  split
  · exact .refl config receiver
  · dsimp only
    split
    · refine Routine.trans ?_ (sendPli_handsOn _ env config).routine
      exact .of_same rfl rfl rfl rfl rfl rfl rfl
    · exact learned

end Feedback

/-- What noting an arrival does to the statistics. -/
structure Counted (config : Config) (ext : Int) (before after : RtpReceiver) : Prop where
  highestExtSeq : after.highestExtSeq = max before.highestExtSeq ext
  statFirstExtSeq : after.statFirstExtSeq =
    if before.highestExtSeq < ext ∧ before.statFirstExtSeq < 0 then ext else before.statFirstExtSeq
  statReceived : after.statReceived = before.statReceived + 1
  statExpectedPrior : after.statExpectedPrior = before.statExpectedPrior
  statReceivedPrior : after.statReceivedPrior = before.statReceivedPrior
  lastRrMs : after.lastRrMs = before.lastRrMs
  log : Grows config before.log after.log

theorem noteArrival_counted (receiver : RtpReceiver) (env : Environment) (config : Config) (ext : Int) :
    Counted config ext receiver (receiver.noteArrival env config ext) := by
  simp only [noteArrival]
  split
  · rename_i ahead
    have stored : ∀ middle, Routine config { receiver with statReceived := receiver.statReceived + 1 } middle →
        Counted config ext receiver { middle with
          highestExtSeq := ext
          statFirstExtSeq := if middle.statFirstExtSeq < 0 then ext else middle.statFirstExtSeq } := by
      intro middle routine
      refine ⟨(max_eq_right (le_of_lt ahead)).symm, ?_, routine.statReceived, routine.statExpectedPrior,
        routine.statReceivedPrior, routine.lastRrMs, routine.log⟩
      change (if middle.statFirstExtSeq < 0 then ext else middle.statFirstExtSeq) = _
      rw [routine.statFirstExtSeq]
      simp only [show receiver.highestExtSeq < ext from ahead, true_and]
    apply stored
    split
    · split
      · exact sendNacksForRange_routine _ env config _ _
      · exact (sendAutoPli_handsOn _ env config).routine
    · exact .refl config _
  · rename_i behind
    refine ⟨(max_eq_left (not_lt.mp behind)).symm, ?_, rfl, rfl, rfl, rfl, .refl config _⟩
    rw [if_neg (fun both => behind both.1)]

end RtpReceiver
end MetaShare
