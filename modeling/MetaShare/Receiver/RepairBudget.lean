import MetaShare.Receiver.Expiry

namespace MetaShare
namespace RtpReceiver

open Octets OrderedMap ReorderBuffer

/-!
# How long a packet is held

The expiry looks at the lowest held packet only, and stops if that one may still
wait.  The packets behind it have then waited less, provided that no packet was
put in front of one that had been received before it.
-/

/-- The last reading of the clock so far, which the expiry stopped at. -/
def closing (receiver : RtpReceiver) (env : Environment) : Int := env.elapsedRealtime (receiver.reads - 1)

/-- Nothing that is still held has used up its repair budget. -/
def Timely (env : Environment) (receiver : RtpReceiver) : Prop :=
  ∀ entry ∈ receiver.jitter, receiver.closing env - entry.2.receivedMs < REPAIR_BUDGET_MS

/-- The held packets wait in turn. -/
def Waits (receiver : RtpReceiver) : Prop :=
  InTurn HeldVideo.receivedMs receiver.nextExtSeq receiver.jitter

/-! ## Expiry -/

theorem Sound.ordered {config : Config} {receiver : RtpReceiver} (sound : Sound config receiver) :
    Ordered receiver.jitter := by
  have ordered := sound.wellFormed.ordered
  rw [Ordered, buffer, heldPackets, List.pairwise_map] at ordered
  exact ordered

/-- The playout point is behind a packet that has been released. -/
theorem next_of_release {config : Config} {before after : RtpReceiver} {s : Int} {hv : HeldVideo}
    {rest : List (Int × HeldVideo)} (held : before.jitter = (s, hv) :: rest)
    (released : buffer config after = (buffer config before).release) : after.nextExtSeq = s + 1 := by
  have contents : (buffer config before).held = (s, hv.packet config) :: heldPackets config rest := by
    rw [buffer, held]
    rfl
  have moved := congrArg Buffer.next released
  rw [Buffer.release, contents] at moved
  change (if after.nextExtSeq < 0 then none else some after.nextExtSeq) = some (s + 1) at moved
  split at moved
  · cases moved
  · exact Option.some.inj moved

/-- After the expiry all that is held may still wait. -/
theorem expireEntries_timely (env : Environment) (config : Config) (rate : config.videoClockRate ≠ 0)
    (entries : List (Int × HeldVideo)) (receiver after : RtpReceiver) (sound : Sound config receiver)
    (held : receiver.jitter = entries) (waits : Waits receiver)
    (expired : expireEntries env config entries receiver = .ok after) : Waits after ∧ Timely env after := by
  induction entries generalizing receiver with
  | nil =>
      cases expired
      refine ⟨waits, fun entry impossible => ?_⟩
      rw [held] at impossible
      cases impossible
  | cons entry rest inductionHypothesis =>
      obtain ⟨s, hv⟩ := entry
      have quiet := isDue_quiet receiver env s hv.receivedMs
      have ordered := held ▸ sound.ordered
      have turns : InTurn HeldVideo.receivedMs receiver.nextExtSeq ((s, hv) :: rest) := held ▸ waits
      have current := (sound.playoutPoint (held ▸ List.mem_cons_self)).2
      simp only [expireEntries] at expired
      split at expired
      · obtain ⟨released, same, jitter, _, _, soundReleased, refines⟩ :=
          release_refines _ env config s hv rest rate (quiet.sound sound) (quiet.jitter.trans held)
        have moved := next_of_release (quiet.jitter.trans held) refines
        rw [same, ok_bind] at expired
        refine inductionHypothesis released soundReleased jitter ?_ expired
        rw [Waits, jitter, moved]
        exact turns.tail ordered current
      · rename_i early
        cases expired
        rw [isDue] at early ⊢
        split at early
        · exact absurd rfl early
        rename_i ahead
        rw [if_neg ahead]
        rw [not_or, not_or] at ahead
        have young : receiver.clock env - hv.receivedMs < REPAIR_BUDGET_MS :=
          not_le.mp (fun overdue => early (decide_eq_true overdue))
        refine ⟨waits, fun entry member => ?_⟩
        change receiver.clock env - entry.2.receivedMs < REPAIR_BUDGET_MS
        change entry ∈ receiver.jitter at member
        rw [held] at member
        rcases List.mem_cons.mp member with isFirst | later
        · rw [isFirst]
          exact young
        · have older := turns.first ordered ahead.2.1 entry later
          omega

/-! ## Arrival -/

theorem sendPli_reads (receiver : RtpReceiver) (env : Environment) (config : Config) :
    (receiver.sendPli env config).reads = receiver.reads := by
  rw [sendPli]
  split
  · rfl
  split
  · rfl
  · rw [transmit]
    split <;> rfl

theorem learnRemote_reads (receiver : RtpReceiver) (env : Environment) (config : Config)
    (address : InetAddress) (port : UInt16) :
    (receiver.learnRemote env config address port).reads = receiver.reads := by
  rw [learnRemote]
  split
  · rfl
  · simp only
    split
    · exact sendPli_reads _ env config
    · rfl

theorem noteArrival_reads (receiver : RtpReceiver) (env : Environment) (config : Config) {ext : Int}
    (behind : ext ≤ receiver.highestExtSeq) : (receiver.noteArrival env config ext).reads = receiver.reads := by
  simp only [noteArrival, if_neg (not_lt.mpr behind)]

/-- The held packets are the same, and the playout point has moved by one at most. -/
structure Keeping (before after : RtpReceiver) : Prop where
  jitter : after.jitter = before.jitter
  next : before.nextExtSeq < 0 ∨ after.nextExtSeq = before.nextExtSeq ∨
    after.nextExtSeq = before.nextExtSeq + 1

/-- A packet has been put among the held ones.  If it is not the highest, the
clock has not been read before that. -/
structure Holding (env : Environment) (before after : RtpReceiver) (ext : Int) (hv : HeldVideo) : Prop where
  jitter : after.jitter = put ext hv before.jitter
  next : after.nextExtSeq = before.nextExtSeq
  ahead : before.nextExtSeq < ext
  absent : containsKey ext before.jitter = false
  stamp : ∃ count, before.reads ≤ count ∧ count < after.reads ∧ hv.receivedMs = env.elapsedRealtime count ∧
    (ext ≤ before.highestExtSeq → count = before.reads)

theorem acceptVideo_jitter {receiver noted after : RtpReceiver} {env : Environment} {config : Config} {ext : Int}
    {buf : List UInt8} {off len : Nat} {marker : Bool} {ts : Nat} (rate : config.videoClockRate ≠ 0)
    (range : off + len ≤ buf.length) (jitter : noted.jitter = receiver.jitter)
    (next : noted.nextExtSeq = receiver.nextExtSeq) (reads : receiver.reads ≤ noted.reads)
    (unread : ext ≤ receiver.highestExtSeq → noted.reads = receiver.reads)
    (accepted : noted.acceptVideo env config ext buf off len marker ts = .ok after) :
    Keeping receiver after ∨ ∃ hv, Holding env receiver after ext hv := by
  rw [acceptVideo, next, jitter] at accepted
  split at accepted
  · cases accepted
    exact Or.inl ⟨jitter, Or.inr (Or.inl next)⟩
  rename_i current
  split at accepted
  · rename_i due
    obtain ⟨delivered, same, delivers⟩ := deliver_ok noted env config ext buf off len marker ts rate range
    cases same.symm.trans accepted
    refine Or.inl ⟨delivers.jitter.trans jitter, due.imp id (fun isNext => Or.inr ?_)⟩
    rw [delivers.nextExtSeq, isNext]
  rename_i early
  split at accepted
  · cases accepted
    exact Or.inl ⟨jitter, Or.inr (Or.inl next)⟩
  rename_i absent
  rw [bytesAt_of_le range, ok_bind] at accepted
  cases accepted
  refine Or.inr ⟨⟨slice buf off len, marker, ts, noted.clock env⟩, rfl, next, by omega,
    Bool.eq_false_iff.mpr absent, noted.reads, reads, Nat.lt_succ_self _, rfl, unread⟩

/-- What a datagram does to the held packets. -/
theorem receive_jitter {receiver after : RtpReceiver} {env : Environment} {config : Config}
    {data stale : List UInt8} {address : InetAddress} {port : UInt16} (rate : config.videoClockRate ≠ 0)
    (received : receiver.receive env config data stale address port = .ok after) :
    Keeping receiver after ∨ ∃ arrival ∈ videoOf config data, ∃ hv,
      Holding env receiver after (extendSeq receiver.highestExtSeq arrival.seq) hv := by
  cases carried : videoOf config data with
  | none =>
      have quiet := (receive_other receiver env config data stale address port carried).1 after received
      exact Or.inl ⟨quiet.jitter, Or.inr (Or.inl quiet.nextExtSeq)⟩
  | some arrival =>
      obtain ⟨header, filled, rfl, same⟩ := receive_video receiver env config data stale address port carried
      rw [same] at received
      obtain ⟨middle, taken, finished⟩ := bind_ok received
      have learned := learnRemote_quiet receiver env config address port
      have unread := learnRemote_reads receiver env config address port
      generalize receiver.learnRemote env config address port = remote at taken learned unread
      have noted :=
        noteArrival_quiet (remote.record (.arrived (extendSeq remote.highestExtSeq header.seq))) env config
        (extendSeq remote.highestExtSeq header.seq)
      have quiet := maybeSendReceiverReport_quiet middle env config
      cases finished
      rw [receiveVideo] at taken
      rw [learned.highestExtSeq] at taken noted
      have range : header.payloadOff + (data.length - header.payloadOff) ≤ (data ++ stale).length := by
        rw [List.length_append]
        omega
      have outcome := acceptVideo_jitter rate range (noted.jitter.trans learned.jitter)
        (noted.nextExtSeq.trans learned.nextExtSeq) (le_trans learned.reads noted.reads) ?_ taken
      · rcases outcome with keeping | ⟨hv, holding⟩
        · refine Or.inl ⟨quiet.jitter.trans keeping.jitter, ?_⟩
          rw [quiet.nextExtSeq]
          exact keeping.next
        · obtain ⟨count, later, earlier, stamp, first⟩ := holding.stamp
          exact Or.inr ⟨_, rfl, hv, quiet.jitter.trans holding.jitter, quiet.nextExtSeq.trans holding.next,
            holding.ahead, holding.absent, count, later, lt_of_lt_of_le earlier quiet.reads, stamp, first⟩
      · intro behind
        have behindRemote := le_of_le_of_eq behind learned.highestExtSeq.symm
        exact (noteArrival_reads (remote.record _) env config behindRemote).trans unread

/-! ## Every step -/

/-- The packet with this number would be held in front of one that was received
earlier, and not directly behind a held one. -/
structure Shields (env : Environment) (receiver : RtpReceiver) (ext : Int) : Prop where
  ahead : receiver.nextExtSeq < ext
  absent : containsKey ext receiver.jitter = false
  alone : containsKey (ext - 1) receiver.jitter = false
  older : ∃ entry ∈ receiver.jitter, ext < entry.1 ∧ entry.2.receivedMs < receiver.clock env

/-- What holds between the passes of the loop. -/
structure Aging (env : Environment) (config : Config) (receiver : RtpReceiver) : Prop where
  sound : Sound config receiver
  stamped : Stamped env receiver
  waits : Waits receiver

theorem aging_start (env : Environment) (config : Config) : Aging env config (start config) := by
  refine ⟨sound_start config, stamped_start env config, fun head impossible => ?_⟩
  cases impossible

theorem Quiet.waits {before after : RtpReceiver} (quiet : Quiet before after) (waits : Waits before) :
    Waits after := by
  rw [Waits, quiet.jitter, quiet.nextExtSeq]
  exact waits

/-- After the expiry no held packet is the next one. -/
theorem skipped_of_settled {config : Config} {receiver : RtpReceiver} (sound : Sound config receiver)
    (settled : (buffer config receiver).Settled) : ∀ entry ∈ receiver.jitter, entry.1 ≠ receiver.nextExtSeq := by
  intro entry member
  have started := (sound.playoutPoint member).1
  have listed : (entry.1, entry.2.packet config) ∈ (buffer config receiver).held := List.mem_map_of_mem member
  have ahead := settled receiver.nextExtSeq (if_neg (by omega)) _ listed
  exact ne_of_gt ahead

theorem waits_of_receive {receiver after : RtpReceiver} {env : Environment} {config : Config}
    {data stale : List UInt8} {address : InetAddress} {port : UInt16} (rate : config.videoClockRate ≠ 0)
    (monotone : Monotone env) (aging : Aging env config receiver) (settled : (buffer config receiver).Settled)
    (unshielded : ∀ arrival ∈ videoOf config data,
      ¬ Shields env receiver (extendSeq receiver.highestExtSeq arrival.seq))
    (received : receiver.receive env config data stale address port = .ok after) : Waits after := by
  have skipped := skipped_of_settled aging.sound settled
  rcases receive_jitter rate received with keeping | ⟨arrival, carried, hv, holding⟩
  · rw [Waits, keeping.jitter]
    exact aging.waits.move skipped after.nextExtSeq
  · obtain ⟨count, later, _, stamp, first⟩ := holding.stamp
    rw [Waits, holding.jitter, holding.next]
    refine aging.waits.put holding.absent (fun entry member _ => ?_) (fun alone entry member behind => ?_)
    · obtain ⟨early, before, isStamp⟩ := aging.stamped entry member
      rw [isStamp, stamp]
      exact monotone early count (by omega)
    · have bound := aging.sound.heldBound entry member
      rw [stamp, first (by omega)]
      exact not_lt.mp (fun older =>
        unshielded arrival carried ⟨holding.ahead, holding.absent, alone, entry, member, behind, older⟩)

/-- Whenever a packet is held it shields none that was received earlier. -/
def Unshielded (env : Environment) (config : Config) (inputs : List Input) : Prop :=
  ∀ done data stale address port rest receiver expired,
    inputs = done ++ .iteration (.packet data stale address port) :: rest →
    run env config (start config) done = .ok receiver → receiver.expire env config = .ok expired →
    ∀ arrival ∈ videoOf config data, ¬ Shields env expired (extendSeq expired.highestExtSeq arrival.seq)

theorem Aging.expire {receiver : RtpReceiver} {env : Environment} {config : Config} (rate : config.videoClockRate ≠ 0)
    (aging : Aging env config receiver) : ∃ expired, receiver.expire env config = .ok expired ∧
      Expires config receiver expired ∧ Aging env config expired ∧ Timely env expired := by
  obtain ⟨expired, same, expires⟩ := expireEntries_refines env config rate receiver.jitter receiver aging.sound rfl
  obtain ⟨waits, timely⟩ := expireEntries_timely env config rate receiver.jitter receiver expired aging.sound rfl
    aging.waits same
  exact ⟨expired, same, expires, ⟨expires.sound, aging.stamped.of_held expires.held expires.reads, waits⟩, timely⟩

theorem Aging.iterate {receiver after : RtpReceiver} {env : Environment} {config : Config} {received : Received}
    (rate : config.videoClockRate ≠ 0) (monotone : Monotone env) (aging : Aging env config receiver)
    (unshielded : ∀ data stale address port expired, received = .packet data stale address port →
      receiver.expire env config = .ok expired →
      ∀ arrival ∈ videoOf config data, ¬ Shields env expired (extendSeq expired.highestExtSeq arrival.seq))
    (passed : receiver.iterate env config received = .ok after) : Aging env config after := by
  refine ⟨((iterate_refines env config received rate aging.sound).1 after passed).sound,
    iterate_stamped rate aging.sound aging.stamped passed, ?_⟩
  obtain ⟨expired, same, expires, agingExpired, _⟩ := aging.expire rate
  rw [RtpReceiver.iterate, same, ok_bind] at passed
  cases received with
  | timeout =>
      cases passed
      exact (maybeSendReceiverReport_quiet expired env config).waits agingExpired.waits
  | failed =>
      cases passed
      exact agingExpired.waits
  | packet data stale address port =>
      exact waits_of_receive rate monotone agingExpired expires.settled
        (unshielded data stale address port expired rfl same) passed

/-- The held packets wait in turn throughout a run. -/
theorem run_aging {env : Environment} {config : Config} (rate : config.videoClockRate ≠ 0) (monotone : Monotone env)
    {inputs : List Input} (unshielded : Unshielded env config inputs) {receiver : RtpReceiver}
    (ran : run env config (start config) inputs = .ok receiver) : Aging env config receiver := by
  induction inputs using List.reverseRecOn generalizing receiver with
  | nil =>
      cases ran
      exact aging_start env config
  | append_singleton done input inductionHypothesis =>
      obtain ⟨middle, next, early, stepped, finished⟩ := run_split ran
      cases finished
      have before : Unshielded env config done := by
        intro first data stale address port rest other expired isSplit
        refine unshielded first data stale address port (rest ++ [input]) other expired ?_
        rw [isSplit, List.append_assoc]
        rfl
      have aging := inductionHypothesis before early
      cases input with
      | keyframeRequest =>
          cases stepped
          have quiet := requestKeyframe_quiet middle env config
          exact ⟨quiet.sound aging.sound, quiet.stamped aging.stamped, quiet.waits aging.waits⟩
      | iteration received =>
          refine aging.iterate rate monotone (fun data stale address port expired isPacket => ?_) stepped
          subst isPacket
          exact unshielded done data stale address port [] middle expired rfl early

/-! ## What a shielded packet has to wait for -/

/-- The clock stands still from some reading on. -/
def Environment.stopped (env : Environment) (reads : Nat) (now : Int) : Environment :=
  { env with elapsedRealtime := fun count => if count < reads then env.elapsedRealtime count else now }

theorem clock_stopped (env : Environment) {reads : Nat} (now : Int) {receiver : RtpReceiver}
    (late : reads ≤ receiver.reads) : receiver.clock (env.stopped reads now) = now :=
  if_neg (not_lt.mpr late)

theorem monotone_stopped {env : Environment} (monotone : Monotone env) (reads : Nat) {now : Int}
    (reached : env.elapsedRealtime (reads - 1) ≤ now) : Monotone (env.stopped reads now) := by
  intro early late before
  change (if early < reads then _ else _) ≤ (if late < reads then _ else _)
  split
  · split
    · exact monotone early late before
    · exact le_trans (monotone early (reads - 1) (by omega)) reached
  · rw [if_neg (by omega)]

/-- The expiry stops at a young packet whose predecessor is missing, if not
before, and leaves what lies behind it. -/
theorem expireEntries_shielded (env : Environment) {config : Config} (rate : config.videoClockRate ≠ 0)
    (reads : Nat) (now : Int) {ext : Int} {hv : HeldVideo} {entry : Int × HeldVideo}
    (young : now - hv.receivedMs < REPAIR_BUDGET_MS) (behind : ext < entry.1) (entries : List (Int × HeldVideo))
    (receiver : RtpReceiver) (sound : Sound config receiver) (held : receiver.jitter = entries)
    (late : reads ≤ receiver.reads) (small : entries.length ≤ JITTER_MAX) (skipped : ext ≠ receiver.nextExtSeq)
    (alone : containsKey (ext - 1) entries = false) (shield : (ext, hv) ∈ entries) (member : entry ∈ entries) :
    ∃ after, expireEntries (env.stopped reads now) config entries receiver = .ok after ∧ entry ∈ after.jitter ∧
      after.closing (env.stopped reads now) = now := by
  induction entries generalizing receiver with
  | nil => cases shield
  | cons first rest inductionHypothesis =>
      obtain ⟨s, value⟩ := first
      have quiet := isDue_quiet receiver (env.stopped reads now) s value.receivedMs
      have above := (List.pairwise_cons.mp (held ▸ sound.ordered)).1
      have started := (sound.playoutPoint (held ▸ List.mem_cons_self)).1
      simp only [expireEntries]
      split
      · rename_i due
        obtain ⟨released, same, jitter, _, more, soundReleased, refines⟩ :=
          release_refines _ (env.stopped reads now) config s value rest rate (quiet.sound sound)
            (quiet.jitter.trans held)
        have moved := next_of_release (quiet.jitter.trans held) refines
        have distinct := (containsKey_eq_false_iff _ _).mp alone
        have notPrevious : s ≠ ext - 1 := distinct (s, value) List.mem_cons_self
        have later : (ext, hv) ∈ rest := by
          rcases List.mem_cons.mp shield with isFirst | later
          · -- The shield itself is not due.
            obtain ⟨rfl, rfl⟩ := Prod.mk.inj isFirst
            rw [isDue, if_neg] at due
            · rw [clock_stopped env now late, decide_eq_true_iff] at due
              omega
            · rw [held, not_or, not_or]
              exact ⟨not_lt.mpr started, skipped, not_lt.mpr small⟩
          · exact later
        have beyond := above (ext, hv) later
        have entryLater : entry ∈ rest := by
          rcases List.mem_cons.mp member with isFirst | entryLater
          · rw [isFirst] at behind
            change ext < s at behind
            change s < ext at beyond
            omega
          · exact entryLater
        rw [same, ok_bind]
        refine inductionHypothesis released soundReleased jitter (le_trans late (le_trans quiet.reads more))
          (by rw [List.length_cons] at small; omega) (by rw [moved]; omega) ?_ later entryLater
        exact (containsKey_eq_false_iff _ _).mpr (fun other listed => distinct other (List.mem_cons_of_mem _ listed))
      · rename_i early
        refine ⟨_, rfl, ?_, ?_⟩
        · rw [quiet.jitter, held]
          exact member
        · rw [isDue] at early ⊢
          split at early
          · exact absurd rfl early
          rename_i ahead
          rw [if_neg ahead]
          exact if_neg (not_lt.mpr late)

/-- Once a packet has been held in front of one that was received earlier, and
not directly behind a held one, a clock can stop such that the next expiry
leaves one behind whose budget is used up. -/
theorem shields_exceed {env : Environment} {config : Config} (rate : config.videoClockRate ≠ 0)
    (monotone : Monotone env) {before after : RtpReceiver} {ext : Int} {hv : HeldVideo} (sound : Sound config before)
    (soundAfter : Sound config after) (shields : Shields env before ext) (holding : Holding env before after ext hv)
    (small : after.jitter.length ≤ JITTER_MAX)
    (young : env.elapsedRealtime (after.reads - 1) - hv.receivedMs < REPAIR_BUDGET_MS) :
    ∃ now, Monotone (env.stopped after.reads now) ∧
      ∃ expired, after.expire (env.stopped after.reads now) config = .ok expired ∧
        ¬ Timely (env.stopped after.reads now) expired := by
  obtain ⟨entry, member, behind, older⟩ := shields.older
  obtain ⟨count, _, _, stamp, first⟩ := holding.stamp
  have bound := sound.heldBound entry member
  rw [RtpReceiver.clock, ← first (by omega), ← stamp] at older
  have kept : entry ∈ after.jitter := by
    rw [holding.jitter]
    exact (mem_put _ _ _ holding.absent entry).mpr (Or.inr member)
  have shield : (ext, hv) ∈ after.jitter := by
    rw [holding.jitter]
    exact (mem_put _ _ _ holding.absent _).mpr (Or.inl rfl)
  have alone : containsKey (ext - 1) after.jitter = false := by
    rw [containsKey_eq_false_iff, holding.jitter]
    intro other listed
    rcases (mem_put _ _ _ holding.absent other).mp listed with rfl | old
    · change ext ≠ ext - 1
      omega
    · exact (containsKey_eq_false_iff _ _).mp shields.alone other old
  have ahead := holding.ahead
  refine ⟨max (env.elapsedRealtime (after.reads - 1)) (entry.2.receivedMs + REPAIR_BUDGET_MS),
    monotone_stopped monotone _ (le_max_left _ _), ?_⟩
  obtain ⟨expired, same, left, closes⟩ := expireEntries_shielded env rate after.reads
    (max (env.elapsedRealtime (after.reads - 1)) (entry.2.receivedMs + REPAIR_BUDGET_MS)) (by omega) behind
    after.jitter after soundAfter rfl (le_refl _) small (by rw [holding.next]; omega) alone shield kept
  refine ⟨expired, same, fun timely => ?_⟩
  have bounded := timely entry left
  rw [closes] at bounded
  omega

/-! ## Repair waiting is bounded -/

/-- No expiry of a run leaves a packet behind whose budget is used up.  If it
ends within `wait` of the one before, no packet was held for `wait` longer. -/
structure RepairBounded (env : Environment) (config : Config) (inputs : List Input) : Prop where
  timely : ∀ done rest receiver expired, inputs = done ++ rest →
    run env config (start config) done = .ok receiver → receiver.expire env config = .ok expired → Timely env expired
  released : ∀ done received requests rest receiver expired middle later wait,
    inputs = done ++ .iteration received :: requests ++ rest → (∀ input ∈ requests, input = .keyframeRequest) →
    run env config (start config) done = .ok receiver → receiver.expire env config = .ok expired →
    run env config receiver (.iteration received :: requests) = .ok middle →
    middle.expire env config = .ok later → later.closing env ≤ expired.closing env + wait →
    ∀ entry ∈ middle.jitter, later.closing env - entry.2.receivedMs < REPAIR_BUDGET_MS + wait

theorem run_requests {env : Environment} {config : Config} {requests : List Input}
    (only : ∀ input ∈ requests, input = .keyframeRequest) {receiver after : RtpReceiver}
    (ran : run env config receiver requests = .ok after) : Quiet receiver after := by
  induction requests generalizing receiver with
  | nil =>
      cases ran
      exact .refl _
  | cons input rest inductionHypothesis =>
      cases only input List.mem_cons_self
      obtain ⟨middle, stepped, later⟩ := run_cons_ok ran
      cases stepped
      exact (requestKeyframe_quiet receiver env config).trans
        (inductionHypothesis (fun other member => only other (List.mem_cons_of_mem _ member)) later)

/-- After a pass only the packets are held that the expiry left, and one that
has been received since. -/
theorem held_of_iterate {receiver expired after : RtpReceiver} {env : Environment} {config : Config}
    {received : Received} (rate : config.videoClockRate ≠ 0) (isExpired : receiver.expire env config = .ok expired)
    (passed : receiver.iterate env config received = .ok after) : ∀ entry ∈ after.jitter, entry ∈ expired.jitter ∨
      ∃ count, expired.reads ≤ count ∧ entry.2.receivedMs = env.elapsedRealtime count := by
  rw [iterate, isExpired, ok_bind] at passed
  intro entry member
  cases received with
  | timeout =>
      cases passed
      exact Or.inl ((maybeSendReceiverReport_quiet expired env config).jitter ▸ member)
  | failed =>
      cases passed
      exact Or.inl member
  | packet data stale address port =>
      rcases receive_jitter rate passed with keeping | ⟨arrival, _, hv, holding⟩
      · exact Or.inl (keeping.jitter ▸ member)
      · obtain ⟨count, later, _, stamp, _⟩ := holding.stamp
        rw [holding.jitter] at member
        rcases (mem_put _ _ _ holding.absent entry).mp member with rfl | old
        · exact Or.inr ⟨count, later, stamp⟩
        · exact Or.inl old

/-- Without a clock rate nothing is ever held. -/
theorem repair_bounded_without_rate (env : Environment) {config : Config} (rate : config.videoClockRate = 0)
    (inputs : List Input) : RepairBounded env config inputs := by
  have nothing : ∀ done receiver, run env config (start config) done = .ok receiver → receiver.jitter = [] :=
    fun done receiver ran =>
      (run_without_rate rate done (show (-1 : Int) < 0 by decide) rfl ran).2.jitter
  constructor
  · intro done rest receiver expired _ ran isExpired entry member
    have empty := nothing done receiver ran
    rw [expire, empty] at isExpired
    cases isExpired
    rw [empty] at member
    cases member
  · intro done received requests rest receiver expired middle later wait _ _ ran _ passed _ _ entry member
    rw [nothing (done ++ .iteration received :: requests) middle ((run_append ran _).trans passed)] at member
    cases member

/-- Repair waiting is bounded as long as no packet is held in front of one that
was received earlier, other than directly behind a held one. -/
theorem repair_bounded (env : Environment) (config : Config) (inputs : List Input) (monotone : Monotone env)
    (unshielded : Unshielded env config inputs) : RepairBounded env config inputs := by
  by_cases rate : config.videoClockRate = 0
  · exact repair_bounded_without_rate env rate inputs
  have early : ∀ done rest, inputs = done ++ rest → Unshielded env config done := by
    intro done rest isSplit first data stale address port more other expired isSplitAgain
    refine unshielded first data stale address port (more ++ rest) other expired ?_
    rw [isSplit, isSplitAgain, List.append_assoc]
    rfl
  have timely : ∀ done rest receiver expired, inputs = done ++ rest →
      run env config (start config) done = .ok receiver → receiver.expire env config = .ok expired →
      Timely env expired := by
    intro done rest receiver expired isSplit ran isExpired
    obtain ⟨same, isSame, _, _, timely⟩ := (run_aging rate monotone (early done rest isSplit) ran).expire rate
    cases isSame.symm.trans isExpired
    exact timely
  refine ⟨timely, ?_⟩
  intro done received requests rest receiver expired middle later wait isSplit only ran isExpired passed _ close
    entry member
  obtain ⟨next, iterated, requested⟩ := run_cons_ok passed
  rw [(run_requests only requested).jitter] at member
  rw [List.append_assoc] at isSplit
  rcases held_of_iterate rate isExpired iterated entry member with old | ⟨count, after, stamp⟩
  · have young := timely done _ receiver expired isSplit ran isExpired entry old
    omega
  · have later : expired.closing env ≤ env.elapsedRealtime count := monotone _ _ (by omega)
    have positive : (0 : Int) < REPAIR_BUDGET_MS := by decide
    rw [stamp]
    omega

/-! ## Two small runs -/

def heldConfig : Config where
  videoSsrc := 7
  videoPt := 96
  h265 := false
  videoClockRate := 90000
  audioSsrc := 8
  audioPt := 111
  audioClockRate := 48000
  audioSink := true

/-- Seven milliseconds pass between two readings. -/
def heldEnvironment : Environment := ⟨fun count => 7 * count, fun _ => true⟩

theorem monotone_heldEnvironment : Monotone heldEnvironment := by
  intro early late before
  change 7 * (early : Int) ≤ 7 * (late : Int)
  omega

/-- A video packet with one small unit. -/
def unit (seq : UInt8) : Input :=
  .iteration (.packet [0x80, 96, 0, seq, 0, 0, 0, 0, 0, 0, 0, 7, 0x65, 1] [] [10, 0, 0, 1] 5004)

/-- One millisecond passes between two readings. -/
def slowEnvironment : Environment := ⟨fun count => count, fun _ => true⟩

theorem monotone_slowEnvironment : Monotone slowEnvironment := fun _ _ before => Int.ofNat_le.mpr before

/-- What is held, and the number of the packet that arrives next. -/
theorem not_shields {done : List Input} {data : List UInt8} (keys : List Int) (ext : Int)
    (outcome : (run slowEnvironment heldConfig (start heldConfig) done >>= fun receiver =>
      receiver.expire slowEnvironment heldConfig).toOption.map (fun expired => (expired.jitter.map Prod.fst,
        (videoOf heldConfig data).map (fun arrival => extendSeq expired.highestExtSeq arrival.seq))) =
          some (keys, some ext)) (harmless : ext - 1 ∈ keys ∨ ∀ key ∈ keys, key < ext)
    {receiver expired : RtpReceiver} (ran : run slowEnvironment heldConfig (start heldConfig) done = .ok receiver)
    (isExpired : receiver.expire slowEnvironment heldConfig = .ok expired) :
    ∀ arrival ∈ videoOf heldConfig data,
      ¬ Shields slowEnvironment expired (extendSeq expired.highestExtSeq arrival.seq) := by
  intro arrival carried shields
  rw [ran, ok_bind, isExpired] at outcome
  obtain ⟨isKeys, isExt⟩ := Prod.mk.inj (Option.some.inj outcome)
  rw [carried] at isExt
  rw [show extendSeq expired.highestExtSeq arrival.seq = ext from Option.some.inj isExt] at shields
  rcases harmless with behind | below
  · rw [← isKeys] at behind
    obtain ⟨entry, member, isKey⟩ := List.mem_map.mp behind
    exact (containsKey_eq_false_iff _ _).mp shields.alone entry member isKey
  · obtain ⟨entry, member, later, _⟩ := shields.older
    have bound := below entry.1 (isKeys ▸ List.mem_map_of_mem member)
    omega

/-- Packet 10 is put behind packet 7, which is held, and packet 8 between the two. -/
theorem repair_bounded_sample : RepairBounded slowEnvironment heldConfig [unit 1, unit 7, unit 10, unit 8] := by
  apply repair_bounded slowEnvironment heldConfig _ monotone_slowEnvironment
  intro done data stale address port rest receiver expired isSplit ran isExpired
  rcases done with _ | ⟨first, _ | ⟨second, _ | ⟨third, _ | ⟨fourth, more⟩⟩⟩⟩
  · cases isSplit
    exact not_shields [] 1 (by decide +kernel) (by decide) ran isExpired
  · cases isSplit
    exact not_shields [] 7 (by decide +kernel) (by decide) ran isExpired
  · cases isSplit
    exact not_shields [7] 10 (by decide +kernel) (by decide) ran isExpired
  · cases isSplit
    exact not_shields [7, 10] 8 (by decide +kernel) (by decide) ran isExpired
  · have length := congrArg List.length isSplit
    simp at length

/-! ## A late packet in front -/

/-- While packet 10 is held, packet 7 arrives and is put in front of it. -/
def shieldedInputs : List Input := [unit 1, unit 10, unit 7]

/-- Packet 10 is received at 7 ms and still held when the expiry stops at 42 ms. -/
theorem repair_not_always_bounded :
    ¬ ∀ (env : Environment) (config : Config) (inputs : List Input), Monotone env →
      RepairBounded env config inputs := by
  intro always
  have bounded := always heldEnvironment heldConfig shieldedInputs monotone_heldEnvironment
  have outcome : (run heldEnvironment heldConfig (start heldConfig) shieldedInputs >>= fun receiver =>
      receiver.expire heldEnvironment heldConfig).toOption.map (fun expired =>
        (expired.jitter.map (fun entry => (entry.1, entry.2.receivedMs)), expired.closing heldEnvironment)) =
      some ([(7, 28), (10, 7)], 42) := by decide +kernel
  cases ran : run heldEnvironment heldConfig (start heldConfig) shieldedInputs with
  | error exception =>
      rw [ran] at outcome
      cases outcome
  | ok receiver =>
      rw [ran, ok_bind] at outcome
      cases isExpired : receiver.expire heldEnvironment heldConfig with
      | error exception =>
          rw [isExpired] at outcome
          cases outcome
      | ok expired =>
          rw [isExpired] at outcome
          obtain ⟨held, closes⟩ := Prod.mk.inj (Option.some.inj outcome)
          have member : ((10 : Int), (7 : Int)) ∈
              expired.jitter.map (fun entry => (entry.1, entry.2.receivedMs)) := by
            rw [held]
            decide
          obtain ⟨entry, listed, isEntry⟩ := List.mem_map.mp member
          have young := bounded.timely shieldedInputs [] receiver expired (List.append_nil _).symm ran isExpired
            entry listed
          rw [closes, (Prod.mk.inj isEntry).2] at young
          exact absurd young (by decide)

end RtpReceiver
end MetaShare
