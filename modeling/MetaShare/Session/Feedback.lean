import MetaShare.Receiver.Nack
import MetaShare.Session.Reception

namespace MetaShare
namespace Session

open Octets Rtp RtpReceiver ReorderBuffer

/-!
# Requests of the client as the server reads them

The client writes NACKs and the streamer parses them; the two are separate
programs that must agree on the packing of consecutive numbers into bitmaps, on
the byte order, and on what happens at the wrap of the 16-bit numbers.  They
do, and over a whole run the requests are neither repeated nor made for what
has arrived.
-/

/-- The numbers under which the packets of a run arrive are their send indices,
moved by a constant. -/
theorem arrivedNumbers_of_run {env : Environment} {config : Config} {inputs : List Input}
    {first : UInt16} {indices : List Nat} {after : RtpReceiver}
    (numbered : Numbered first (arrivalsOf config inputs) indices) (near : Near indices)
    (ran : run env config (start config) inputs = .ok after) :
    arrivedNumbers after.log =
      indices.map (fun (index : Nat) => index + offsetOf (arrivalsOf config inputs) indices) := by
  have offered : unwrapAll (start config).highestExtSeq (arrivalsOf config inputs) = _ :=
    unwrapAll_eq numbered near
  rw [(run_booked inputs (booked_start config) ran).2, offered]
  exact numbering_keys _ numbered

/-- With sends that succeed, every gap is asked for exactly: each missing
number once, in ascending order, from the video buffer.  Over a run nothing is
asked for twice, or after it has arrived. -/
theorem nacks_agree (env : Environment) (config : Config) (audioSsrc : UInt32)
    (succeeds : ∀ count, env.sendSucceeds count = true) :
    (∀ (receiver : RtpReceiver) (firstMissing : Int) (count : Nat),
      receiver.remoteAddress ≠ none → 0 ≤ receiver.remotePort → 1 ≤ count → count ≤ 256 →
        asked config.videoSsrc audioSsrc
            (receiver.sendNacksForRange env config firstMissing (firstMissing + count)).log =
          asked config.videoSsrc audioSsrc receiver.log ++
            (numbersFrom firstMissing count).map (fun ext => (true, lowWord ext))) ∧
    (∀ (inputs : List Input) (receiver : RtpReceiver), run env config (start config) inputs = .ok receiver →
      (∀ (received : Received) (after : RtpReceiver), receiver.iterate env config received = .ok after →
        asked config.videoSsrc audioSsrc after.log = asked config.videoSsrc audioSsrc receiver.log ++
          (numbersFrom (receiver.highestExtSeq + 1)
            (gapBefore receiver.highestExtSeq (arrivalOf config received))).map
              (fun ext => (true, lowWord ext))) ∧
      asked config.videoSsrc audioSsrc receiver.log =
        (requestedNumbers receiver.log).map (fun ext => (true, lowWord ext)) ∧
      (ledger receiver.log).Pairwise Fresh ∧
      (∀ (first : UInt16) (indices : List Nat), Numbered first (arrivalsOf config inputs) indices →
        Near indices → arrivedNumbers receiver.log =
          indices.map (fun (index : Nat) => index + offsetOf (arrivalsOf config inputs) indices))) := by
  constructor
  · intro receiver firstMissing count known valid _ _
    obtain ⟨sent, requests, _, complete⟩ :=
      sendNacksForRange_requests receiver env config firstMissing (firstMissing + count)
    have all : sent = count := by
      have := complete succeeds known valid
      omega
    rw [requests.asked audioSsrc, all]
  · intro inputs receiver ran
    have booked := (run_booked inputs (booked_start config) ran).1
    refine ⟨?_, booked.wire audioSsrc, booked.fresh, ?_⟩
    · intro received after passed
      obtain ⟨count, logs⟩ := iterate_logs booked.known passed
      rw [logs.asked audioSsrc, logs.complete succeeds]
    · intro first indices numbered near
      exact arrivedNumbers_of_run numbered near ran

/-- The third packet arrives first behind the first one, so the second is asked
for, across the wrap of the sequence numbers. -/
theorem nacks_agree_sample :
    ∃ after, run sampleEnvironment sampleConfig (start sampleConfig) (sampleInputs [0, 2, 1]) = .ok after ∧
      asked 7 8 after.log = (requestedNumbers after.log).map (fun ext => (true, lowWord ext)) ∧
      (ledger after.log).Pairwise Fresh := by
  obtain ⟨after, ran⟩ := run_ok sampleEnvironment sampleConfig (by decide) (sampleInputs [0, 2, 1])
    (start sampleConfig) (sound_start sampleConfig) (Or.inl ⟨rfl, by decide⟩)
  have agree := (nacks_agree sampleEnvironment sampleConfig 8 (fun _ => rfl)).2 _ after ran
  exact ⟨after, ran, agree.2.1, agree.2.2.1⟩

end Session
end MetaShare
