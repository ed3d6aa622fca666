import MetaShare.Receiver.Arrival

namespace MetaShare
namespace RtpReceiver

open Octets OrderedMap ReorderBuffer

/-!
# Waiting long enough

A held packet carries the reading of the clock at its arrival.  Once a pass of
the loop begins later than that by the repair budget, for every held packet, the
pass releases all of them.  The clock is only assumed not to run backwards.
-/

/-- Every held packet is stamped with some earlier reading of the clock. -/
def Stamped (env : Environment) (receiver : RtpReceiver) : Prop :=
  ∀ entry ∈ receiver.jitter, ∃ count < receiver.reads, entry.2.receivedMs = env.elapsedRealtime count

theorem stamped_start (env : Environment) (config : Config) : Stamped env (start config) := by
  intro entry impossible
  cases impossible

theorem Stamped.of_held {env : Environment} {before after : RtpReceiver} (stamped : Stamped env before)
    (held : ∀ entry ∈ after.jitter, entry ∈ before.jitter) (reads : before.reads ≤ after.reads) :
    Stamped env after := by
  intro entry member
  obtain ⟨count, earlier, same⟩ := stamped entry (held entry member)
  exact ⟨count, lt_of_lt_of_le earlier reads, same⟩

theorem Quiet.stamped {env : Environment} {before after : RtpReceiver} (quiet : Quiet before after)
    (stamped : Stamped env before) : Stamped env after :=
  stamped.of_held (fun _ member => quiet.jitter ▸ member) quiet.reads

/-- The packet that is taken is stamped when it is held. -/
theorem acceptVideo_stamped {receiver after : RtpReceiver} {env : Environment} {config : Config} {ext : Int}
    {buf : List UInt8} {off len : Nat} {marker : Bool} {ts : Nat} (rate : config.videoClockRate ≠ 0)
    (range : off + len ≤ buf.length) (stamped : Stamped env receiver)
    (accepted : receiver.acceptVideo env config ext buf off len marker ts = .ok after) : Stamped env after := by
  rw [acceptVideo] at accepted
  split at accepted
  · cases accepted
    exact stamped
  split at accepted
  · obtain ⟨delivered, same, delivers⟩ := deliver_ok receiver env config ext buf off len marker ts rate range
    cases same.symm.trans accepted
    exact stamped.of_held (fun entry member => delivers.jitter ▸ member) delivers.reads
  cases present : containsKey ext receiver.jitter with
  | true =>
      rw [present, if_pos rfl] at accepted
      cases accepted
      exact stamped
  | false =>
      rw [present, if_neg Bool.false_ne_true, bytesAt_of_le range] at accepted
      cases accepted
      intro entry member
      rcases (mem_put ext _ _ present entry).mp member with new | old
      · exact ⟨receiver.reads, Nat.lt_succ_self _, by rw [new]; rfl⟩
      · obtain ⟨count, earlier, same⟩ := stamped entry old
        exact ⟨count, Nat.lt_succ_of_lt earlier, same⟩

theorem receive_stamped {receiver after : RtpReceiver} {env : Environment} {config : Config}
    {data stale : List UInt8} {address : InetAddress} {port : UInt16} (rate : config.videoClockRate ≠ 0)
    (stamped : Stamped env receiver)
    (received : receiver.receive env config data stale address port = .ok after) : Stamped env after := by
  cases carried : videoOf config data with
  | none =>
      exact ((receive_other receiver env config data stale address port carried).1 after received).stamped stamped
  | some arrival =>
      obtain ⟨header, filled, _, same⟩ := receive_video receiver env config data stale address port carried
      have learned := learnRemote_quiet receiver env config address port
      have recorded := learned.trans (.record _
        (.arrived (extendSeq (receiver.learnRemote env config address port).highestExtSeq header.seq)) rfl)
      have noted := noteArrival_quiet
        ((receiver.learnRemote env config address port).record
          (.arrived (extendSeq (receiver.learnRemote env config address port).highestExtSeq header.seq)))
        env config (extendSeq (receiver.learnRemote env config address port).highestExtSeq header.seq)
      have early := noted.stamped (recorded.stamped stamped)
      rw [same] at received
      obtain ⟨middle, taken, finished⟩ := bind_ok received
      cases finished
      have range : header.payloadOff + (data.length - header.payloadOff) ≤ (data ++ stale).length := by
        rw [List.length_append]
        omega
      exact (maybeSendReceiverReport_quiet middle env config).stamped
        (acceptVideo_stamped rate range early taken)

theorem iterate_stamped {receiver after : RtpReceiver} {env : Environment} {config : Config} {received : Received}
    (rate : config.videoClockRate ≠ 0) (sound : Sound config receiver) (stamped : Stamped env receiver)
    (passed : receiver.iterate env config received = .ok after) : Stamped env after := by
  obtain ⟨expired, same, expires⟩ := expireEntries_refines env config rate receiver.jitter receiver sound rfl
  have early := stamped.of_held expires.held expires.reads
  rw [iterate, expire, same, ok_bind] at passed
  cases received with
  | timeout =>
      cases passed
      exact (maybeSendReceiverReport_quiet expired env config).stamped early
  | failed =>
      cases passed
      exact early
  | packet data stale address port => exact receive_stamped rate early passed

/-- In every run held packets are stamped with earlier readings. -/
theorem run_stamped {env : Environment} {config : Config} (rate : config.videoClockRate ≠ 0)
    (inputs : List Input) {receiver after : RtpReceiver} (sound : Sound config receiver)
    (stamped : Stamped env receiver) (ran : run env config receiver inputs = .ok after) : Stamped env after := by
  induction inputs generalizing receiver with
  | nil =>
      cases ran
      exact stamped
  | cons input rest inductionHypothesis =>
      obtain ⟨middle, stepped, later⟩ := run_cons_ok ran
      cases input with
      | keyframeRequest =>
          cases stepped
          have quiet := requestKeyframe_quiet receiver env config
          exact inductionHypothesis (quiet.sound sound) (quiet.stamped stamped) later
      | iteration received =>
          exact inductionHypothesis ((iterate_refines env config received rate sound).1 middle stepped).sound
            (iterate_stamped rate sound stamped stepped) later

/-! ## Expiry -/

/-- The clock does not run backwards. -/
def Monotone (env : Environment) : Prop :=
  ∀ early late : Nat, early ≤ late → env.elapsedRealtime early ≤ env.elapsedRealtime late

/-- When the clock is read next, every held packet has waited long enough. -/
def Overdue (env : Environment) (receiver : RtpReceiver) : Prop :=
  ∀ entry ∈ receiver.jitter, entry.2.receivedMs + REPAIR_BUDGET_MS ≤ receiver.clock env

theorem Overdue.of_held {env : Environment} {before after : RtpReceiver} (monotone : Monotone env)
    (overdue : Overdue env before) (held : ∀ entry ∈ after.jitter, entry ∈ before.jitter)
    (reads : before.reads ≤ after.reads) : Overdue env after := fun entry member =>
  le_trans (overdue entry (held entry member)) (monotone _ _ reads)

/-- A pass that begins late enough releases everything. -/
theorem expireEntries_overdue (env : Environment) (config : Config) (rate : config.videoClockRate ≠ 0)
    (monotone : Monotone env) (entries : List (Int × HeldVideo)) (receiver after : RtpReceiver)
    (sound : Sound config receiver) (held : receiver.jitter = entries) (overdue : Overdue env receiver)
    (expired : expireEntries env config entries receiver = .ok after) : after.jitter = [] := by
  induction entries generalizing receiver with
  | nil =>
      cases expired
      exact held
  | cons entry rest inductionHypothesis =>
      obtain ⟨s, hv⟩ := entry
      have quiet := isDue_quiet receiver env s hv.receivedMs
      have checked := quiet.sound sound
      have waited : hv.receivedMs + REPAIR_BUDGET_MS ≤ receiver.clock env :=
        overdue (s, hv) (held ▸ List.mem_cons_self)
      have due : (receiver.isDue env s hv.receivedMs).1 = true := by
        rw [isDue]
        split
        · rfl
        · exact decide_eq_true (by omega)
      obtain ⟨released, same, jitter, _, reads, soundReleased, _⟩ :=
        release_refines _ env config s hv rest rate checked (quiet.jitter.trans held)
      simp only [expireEntries, due, if_true, same, ok_bind] at expired
      refine inductionHypothesis released soundReleased jitter ?_ expired
      refine overdue.of_held monotone (fun entry member => ?_) (quiet.reads.trans reads)
      rw [held]
      exact List.mem_cons_of_mem _ (jitter ▸ member)

/-- All earlier readings of the clock lie back by more than the repair budget. -/
def Waited (env : Environment) (receiver : RtpReceiver) : Prop :=
  ∀ count < receiver.reads, env.elapsedRealtime count + REPAIR_BUDGET_MS < receiver.clock env

theorem Stamped.overdue {env : Environment} {receiver : RtpReceiver} (stamped : Stamped env receiver)
    (waited : Waited env receiver) : Overdue env receiver := by
  intro entry member
  obtain ⟨count, earlier, same⟩ := stamped entry member
  rw [same]
  exact (waited count earlier).le

end RtpReceiver
end MetaShare
