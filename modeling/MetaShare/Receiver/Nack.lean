import Mathlib.Data.List.Nodup
import MetaShare.Receiver.Ledger

namespace MetaShare
namespace RtpReceiver

open Octets OrderedMap ReorderBuffer

/-!
# Negative acknowledgements

A gap is asked for in datagrams of one entry each: a packet id and a bitmap of
up to sixteen packets behind it.  Entry by entry the bitmaps cover the gap
without overlap, and the server reads exactly the covered numbers back.  What a
pass of the loop adds to the ledger follows from where it sends: at an arrival
beyond the highest number, for the numbers in between.
-/

/-! ## Consecutive numbers -/

theorem numbersFrom_add (first : Int) (early late : Nat) :
    numbersFrom first (early + late) = numbersFrom first early ++ numbersFrom (first + early) late := by
  rw [numbersFrom, List.range_add, List.map_append, List.map_map]
  refine congrArg₂ (· ++ ·) rfl (List.map_congr_left ?_)
  intro i _
  show first + ((early + i : Nat) : Int) = first + early + i
  omega

theorem mem_numbersFrom {first ext : Int} {count : Nat} :
    ext ∈ numbersFrom first count ↔ first ≤ ext ∧ ext < first + count := by
  rw [numbersFrom, List.mem_map]
  constructor
  · rintro ⟨i, member, rfl⟩
    have := List.mem_range.mp member
    omega
  · intro inside
    exact ⟨(ext - first).toNat, List.mem_range.mpr (by omega), by omega⟩

theorem numbersFrom_nodup (first : Int) (count : Nat) : (numbersFrom first count).Nodup := by
  refine List.Nodup.map ?_ List.nodup_range
  intro left right same
  have : first + (left : Int) = first + right := same
  omega

/-! ## One datagram -/

/-- The bitmap covers what is left of the gap, up to sixteen numbers. -/
theorem packBlp_eq (extPid afterGap : Int) (start count : Nat) :
    packBlp extPid afterGap (List.range' start count) (2 ^ start - 1, start) =
      (2 ^ min (start + count) (max start (afterGap - 1 - extPid).toNat) - 1,
        min (start + count) (max start (afterGap - 1 - extPid).toNat)) := by
  induction count generalizing start with
  | zero =>
      have nothing : min (start + 0) (max start (afterGap - 1 - extPid).toNat) = start := by omega
      rw [nothing]
      rfl
  | succ count inductionHypothesis =>
      rw [List.range'_succ, packBlp]
      split
      · rename_i ended
        have stop : min (start + (count + 1)) (max start (afterGap - 1 - extPid).toNat) = start := by omega
        rw [stop]
      · rename_i more
        have set : (2 ^ start - 1) ||| (1 <<< start) = 2 ^ (start + 1) - 1 := by
          have low : 2 ^ start - 1 < 2 ^ start := Nat.sub_lt (Nat.two_pow_pos start) Nat.one_pos
          rw [Nat.or_comm, shift_or_eq_add 1 _ start low, Nat.pow_succ]
          omega
        have same : min (start + 1 + count) (max (start + 1) (afterGap - 1 - extPid).toNat) =
            min (start + (count + 1)) (max start (afterGap - 1 - extPid).toNat) := by omega
        rw [set, inductionHypothesis, same]

theorem lowWord_toNat (ext : Int) : ((lowWord ext).toNat : Int) = ext % 65536 := by
  have nonneg := Int.emod_nonneg ext (show (65536 : Int) ≠ 0 by decide)
  have below := Int.emod_lt_of_pos ext (show (0 : Int) < 65536 by decide)
  rw [lowWord, UInt16.toNat_ofNat']
  omega

/-- Counting on from a truncated number is truncating the later number. -/
theorem lowWord_add (ext : Int) (i : Nat) :
    UInt16.ofNat ((lowWord ext).toNat + i) = lowWord (ext + i) := by
  apply UInt16.toNat_inj.mp
  have whole := lowWord_toNat ext
  have later := lowWord_toNat (ext + i)
  rw [UInt16.toNat_ofNat']
  show ((lowWord ext).toNat + i) % 65536 = _
  omega

/-- The server reads back the packet id and the bitmap. -/
theorem handleRtcp_nack (videoSsrc audioSsrc : UInt32) (pid blp : UInt16) :
    RtpServer.handleRtcp videoSsrc audioSsrc (nack videoSsrc pid blp) =
      RtpServer.retransmitEntry true pid.toNat blp.toNat := by
  have words : word16 0 3 = 3 := rfl
  have version : (129 : UInt8) &&& 192 = 128 := by decide
  have format : (129 : UInt8) &&& 31 = 1 := by decide
  simp [RtpServer.handleRtcp, RtpServer.retransmitEntries, nack, ofWord32, ofWord16, words, version, format]

/-- What the server retransmits for a NACK whose bitmap has its lowest bits
set. -/
theorem retransmissions_nack (videoSsrc audioSsrc : UInt32) (extPid : Int) (count : Nat)
    (short : count ≤ 16) :
    RtpServer.retransmissions videoSsrc audioSsrc
        (nack videoSsrc (lowWord extPid) (UInt16.ofNat (2 ^ count - 1))) =
      (numbersFrom extPid (count + 1)).map (fun ext => (true, lowWord ext)) := by
  have fits : 2 ^ count - 1 < 65536 := by
    have := Nat.pow_le_pow_right (show 0 < 2 by decide) short
    omega
  have bitmap : (UInt16.ofNat (2 ^ count - 1)).toNat = 2 ^ count - 1 := UInt16.toNat_ofNat_of_lt fits
  rw [RtpServer.retransmissions, handleRtcp_nack, bitmap, RtpServer.retransmitEntry_consecutive _ _ _ short,
    List.filterMap_map, numbersFrom, List.map_map, ← List.filterMap_eq_map]
  refine List.filterMap_congr (fun i _ => ?_)
  show some (true, UInt16.ofNat _) = some (true, lowWord _)
  rw [lowWord_add]

/-! ## One gap -/

/-- Exactly these numbers have been asked for in between. -/
structure Requests (config : Config) (before after : RtpReceiver) (first : Int) (count : Nat) : Prop where
  remoteAddress : after.remoteAddress = before.remoteAddress
  remotePort : after.remotePort = before.remotePort
  ledger : ledger after.log = ledger before.log ++ (numbersFrom first count).map Entry.requested
  asked : ∀ audioSsrc, asked config.videoSsrc audioSsrc after.log =
    asked config.videoSsrc audioSsrc before.log ++
      (numbersFrom first count).map (fun ext => (true, lowWord ext))

theorem Keeps.requests {config : Config} {before after : RtpReceiver} (keeps : Keeps before after)
    (first : Int) : Requests config before after first 0 where
  remoteAddress := keeps.remoteAddress
  remotePort := keeps.remotePort
  ledger := keeps.ledger_eq.trans (List.append_nil _).symm
  asked audioSsrc := (keeps.asked_eq _ audioSsrc).trans (List.append_nil _).symm

theorem Requests.trans {config : Config} {first second third : RtpReceiver} {start : Int} {early late : Nat}
    (left : Requests config first second start early)
    (right : Requests config second third (start + early) late) :
    Requests config first third start (early + late) where
  remoteAddress := right.remoteAddress.trans left.remoteAddress
  remotePort := right.remotePort.trans left.remotePort
  ledger := by
    rw [right.ledger, left.ledger, numbersFrom_add, List.map_append, List.append_assoc]
  asked audioSsrc := by
    rw [right.asked, left.asked, numbersFrom_add, List.map_append, List.append_assoc]

theorem ledger_requested (numbers : List Int) :
    ledger (numbers.map Effect.requested) = numbers.map Entry.requested := by
  rw [ledger, List.filterMap_map, ← List.filterMap_eq_map]
  rfl

theorem asked_requested (videoSsrc audioSsrc : UInt32) (numbers : List Int) :
    asked videoSsrc audioSsrc (numbers.map Effect.requested) = [] := by
  rw [asked, List.flatMap_eq_nil_iff]
  intro effect member
  obtain ⟨_, _, rfl⟩ := List.mem_map.mp member
  rfl

section Gap

variable (receiver : RtpReceiver) (env : Environment) (config : Config)

/-- One datagram that is sent asks for what it covers. -/
theorem nack_requests (address : InetAddress) (port extPid : Int) (count : Nat) (short : count ≤ 16)
    (succeeded : env.sendSucceeds receiver.sends = true) :
    let sent := receiver.transmit env
      (nack config.videoSsrc (lowWord extPid) (UInt16.ofNat (2 ^ count - 1))) address port
    Requests config receiver
      { sent with log := sent.log ++ (numbersFrom extPid (count + 1)).map Effect.requested } extPid (count + 1) := by
  simp only [transmit, if_pos succeeded, record]
  refine ⟨rfl, rfl, ?_, fun audioSsrc => ?_⟩
  · rw [ledger_append, ledger_append, ledger_requested]
    exact congrArg (· ++ _) (List.append_nil _)
  · rw [asked_append, asked_append, asked_requested, List.append_nil]
    refine congrArg (_ ++ ·) ?_
    rw [asked, List.flatMap_singleton]
    exact retransmissions_nack _ audioSsrc extPid count short

/-- The sending loop asks for the numbers of the gap in ascending order, all of
them unless a send fails. -/
theorem sendNacksFrom_requests (address : InetAddress) (port extPid afterGap : Int) :
    ∃ count : Nat,
      Requests config receiver (sendNacksFrom env config address port extPid afterGap receiver) extPid count ∧
      extPid + count ≤ max extPid afterGap ∧
      ((∀ n, env.sendSucceeds n = true) → extPid + count = max extPid afterGap) := by
  induction extPid, receiver using sendNacksFrom.induct env config address port afterGap with
  | case1 extPid receiver more packed sent succeeded inductionHypothesis =>
      rw [sendNacksFrom, if_pos more, if_pos succeeded]
      have packs := packBlp_eq extPid afterGap 0 16
      rw [← List.range_eq_range'] at packs
      obtain ⟨size, sized⟩ : ∃ size, size = min (0 + 16) (max 0 (afterGap - 1 - extPid).toNat) := ⟨_, rfl⟩
      rw [← sized] at packs
      have isPacked : packed = (2 ^ size - 1, size) := packs
      have datagram := nack_requests receiver env config address port extPid size (by omega) succeeded
      obtain ⟨count, requests, bounded, complete⟩ := inductionHypothesis
      change Requests config _ (sendNacksFrom env config address port (extPid + 1 + packed.2) afterGap _)
        (extPid + 1 + packed.2) count at requests
      simp only [sent, isPacked] at requests bounded complete ⊢
      change packBlp extPid afterGap (List.range 16) (0, 0) = _ at isPacked
      rw [isPacked]
      refine ⟨size + 1 + count, datagram.trans ?_, by omega, fun succeeds => ?_⟩
      · have next : extPid + ((size + 1 : Nat) : Int) = extPid + 1 + size := by omega
        rw [next]
        exact requests
      · have := complete succeeds
        omega
  | case2 extPid receiver more failed =>
      rw [sendNacksFrom, if_pos more, if_neg failed]
      refine ⟨0, ?_, by omega, fun succeeds => absurd (succeeds _) failed⟩
      apply Keeps.requests
      rw [transmit, if_neg failed]
      exact .of_same rfl rfl rfl rfl
  | case3 extPid receiver finished =>
      rw [sendNacksFrom, if_neg finished]
      exact ⟨0, (Keeps.refl receiver).requests extPid, by omega, fun _ => by omega⟩

theorem sendNacksForRange_requests (firstMissing afterGap : Int) :
    ∃ count : Nat,
      Requests config receiver (receiver.sendNacksForRange env config firstMissing afterGap)
        firstMissing count ∧
      firstMissing + count ≤ max firstMissing afterGap ∧
      ((∀ n, env.sendSucceeds n = true) → receiver.remoteAddress ≠ none → 0 ≤ receiver.remotePort →
        firstMissing + count = max firstMissing afterGap) := by
  cases known : receiver.remoteAddress with
  | none =>
      simp only [sendNacksForRange, known]
      exact ⟨0, (Keeps.refl receiver).requests firstMissing, by omega, fun _ impossible => absurd rfl impossible⟩
  | some address =>
      simp only [sendNacksForRange, known]
      by_cases unset : receiver.remotePort < 0
      · rw [if_pos unset]
        exact ⟨0, (Keeps.refl receiver).requests firstMissing, by omega, fun _ _ valid => by omega⟩
      · rw [if_neg unset]
        obtain ⟨count, requests, bounded, complete⟩ :=
          sendNacksFrom_requests receiver env config address receiver.remotePort firstMissing afterGap
        exact ⟨count, requests, bounded, fun succeeds _ _ => complete succeeds⟩

end Gap

/-! ## One arrival -/

/-- The number of packets that are asked for when a packet arrives: those
missing in front of it, unless there are too many. -/
def detectedGap (highestExtSeq ext : Int) : Nat :=
  if 0 ≤ highestExtSeq ∧ ext - highestExtSeq - 1 ≤ NACK_MAX_GAP then (ext - highestExtSeq - 1).toNat else 0

theorem noteArrival_requests (receiver : RtpReceiver) (env : Environment) (config : Config) (ext : Int) :
    ∃ count, Requests config receiver (receiver.noteArrival env config ext) (receiver.highestExtSeq + 1) count ∧
      count ≤ detectedGap receiver.highestExtSeq ext ∧
      ((∀ n, env.sendSucceeds n = true) → receiver.remoteAddress ≠ none → 0 ≤ receiver.remotePort →
        count = detectedGap receiver.highestExtSeq ext) := by
  -- Counting and storing the new highest number keep the ledger.
  have stored : ∀ (middle : RtpReceiver) (first : Int) (count : Nat),
      Requests config { receiver with statReceived := receiver.statReceived + 1 } middle first count →
      Requests config receiver
        { middle with
          highestExtSeq := ext
          statFirstExtSeq := if middle.statFirstExtSeq < 0 then ext else middle.statFirstExtSeq } first count :=
    fun _ _ _ requests => ⟨requests.remoteAddress, requests.remotePort, requests.ledger, requests.asked⟩
  have counted : Keeps receiver { receiver with statReceived := receiver.statReceived + 1 } :=
    .of_same rfl rfl rfl rfl
  simp only [noteArrival]
  split
  · split
    · rename_i skipped
      split
      · rename_i small
        obtain ⟨count, requests, bounded, complete⟩ := sendNacksForRange_requests
          { receiver with statReceived := receiver.statReceived + 1 } env config (receiver.highestExtSeq + 1) ext
        have gap : detectedGap receiver.highestExtSeq ext = (ext - receiver.highestExtSeq - 1).toNat :=
          if_pos ⟨skipped.1, small⟩
        refine ⟨count, stored _ _ _ requests, by omega, fun succeeds known valid => ?_⟩
        have := complete succeeds known valid
        omega
      · rename_i large
        have gap : detectedGap receiver.highestExtSeq ext = 0 := if_neg (fun both => large both.2)
        exact ⟨0, stored _ _ _ ((sendAutoPli_handsOn _ env config).keeps.requests _), Nat.zero_le _,
          fun _ _ _ => gap.symm⟩
    · rename_i consecutive
      have gap : detectedGap receiver.highestExtSeq ext = 0 := by
        rw [detectedGap]
        split <;> omega
      exact ⟨0, stored _ _ _ ((Keeps.refl _).requests _), Nat.zero_le _, fun _ _ _ => gap.symm⟩
  · rename_i old
    have gap : detectedGap receiver.highestExtSeq ext = 0 := by
      rw [detectedGap]
      split <;> omega
    exact ⟨0, counted.requests _, Nat.zero_le _, fun _ _ _ => gap.symm⟩

/-! ## One pass -/

/-- Once the remote endpoint is known it has a port. -/
def Known (receiver : RtpReceiver) : Prop := receiver.remoteAddress ≠ none → 0 ≤ receiver.remotePort

/-- What a pass that takes an arrival, or none, adds to the ledger when it asks
for `count` packets. -/
def noted (highestExtSeq : Int) (count : Nat) : Option Arrival → List Entry
  | none => []
  | some arrival => .arrived (extendSeq highestExtSeq arrival.seq) ::
      (numbersFrom (highestExtSeq + 1) count).map Entry.requested

def gapBefore (highestExtSeq : Int) : Option Arrival → Nat
  | none => 0
  | some arrival => detectedGap highestExtSeq (extendSeq highestExtSeq arrival.seq)

/-- What a pass of the loop does to the ledger, and what it asks for on the
wire. -/
structure Logs (env : Environment) (config : Config) (arrival? : Option Arrival) (before after : RtpReceiver)
    (count : Nat) : Prop where
  known : Known after
  highestExtSeq : after.highestExtSeq = highestAfter before.highestExtSeq arrival?.toList
  bounded : count ≤ gapBefore before.highestExtSeq arrival?
  complete : (∀ n, env.sendSucceeds n = true) → count = gapBefore before.highestExtSeq arrival?
  ledger : ledger after.log = ledger before.log ++ noted before.highestExtSeq count arrival?
  asked : ∀ audioSsrc, asked config.videoSsrc audioSsrc after.log =
    asked config.videoSsrc audioSsrc before.log ++
      (numbersFrom (before.highestExtSeq + 1) count).map (fun ext => (true, lowWord ext))

theorem Logs.after_keeps {env : Environment} {config : Config} {arrival? : Option Arrival}
    {before middle after : RtpReceiver} {count : Nat} (logs : Logs env config arrival? before middle count)
    (keeps : Keeps middle after) : Logs env config arrival? before after count where
  known := by
    rw [Known, keeps.remoteAddress, keeps.remotePort]
    exact logs.known
  highestExtSeq := keeps.highestExtSeq.trans logs.highestExtSeq
  bounded := logs.bounded
  complete := logs.complete
  ledger := keeps.ledger_eq.trans logs.ledger
  asked audioSsrc := (keeps.asked_eq _ audioSsrc).trans (logs.asked audioSsrc)

/-- A pass without an arrival may learn the remote endpoint, and no more. -/
theorem Logs.of_none {env : Environment} {config : Config} {before after : RtpReceiver}
    (known : Known after) (highest : after.highestExtSeq = before.highestExtSeq)
    (plain : ∃ plain, after.log = before.log ++ plain ∧ ∀ effect ∈ plain, effect.isPlain = true) :
    Logs env config none before after 0 := by
  obtain ⟨plain, grown, silent⟩ := plain
  refine ⟨known, highest, Nat.le_refl _, fun _ => rfl, ?_, fun audioSsrc => ?_⟩
  · rw [grown, ledger_append, ledger_plain plain silent, noted]
  · rw [grown, asked_append, asked_plain _ _ plain silent]
    rfl

theorem Keeps.logs {before after : RtpReceiver} (keeps : Keeps before after) (known : Known before)
    (env : Environment) (config : Config) : Logs env config none before after 0 := by
  refine .of_none ?_ keeps.highestExtSeq keeps.log
  rw [Known, keeps.remoteAddress, keeps.remotePort]
  exact known

/-- What happens before the arrival does not matter. -/
theorem Logs.of_none_trans {env : Environment} {config : Config} {arrival? : Option Arrival}
    {before middle after : RtpReceiver} {count : Nat} (first : Logs env config none before middle 0)
    (second : Logs env config arrival? middle after count) : Logs env config arrival? before after count := by
  have same : middle.highestExtSeq = before.highestExtSeq := first.highestExtSeq
  obtain ⟨known, highest, bounded, complete, ledger, asked⟩ := second
  rw [same] at highest bounded complete ledger
  refine ⟨known, highest, bounded, complete, ?_, fun audioSsrc => ?_⟩
  · rw [ledger, first.ledger, noted, List.append_nil]
  · have unasked := first.asked audioSsrc
    rw [numbersFrom, List.range_zero, List.map_nil, List.map_nil, List.append_nil] at unasked
    rw [asked, unasked, same]

theorem learnRemote_logs {receiver : RtpReceiver} (env : Environment) (config : Config)
    (address : InetAddress) (port : UInt16) (known : Known receiver) :
    Logs env config none receiver (receiver.learnRemote env config address port) 0 ∧
      (receiver.learnRemote env config address port).remoteAddress ≠ none := by
  cases remote : receiver.remoteAddress with
  | some other =>
      simp only [learnRemote, remote]
      exact ⟨(Keeps.refl receiver).logs known env config, Option.some_ne_none _⟩
  | none =>
      simp only [learnRemote, remote]
      have valid : (0 : Int) ≤ (port.toNat : Int) := Int.natCast_nonneg _
      split
      · have asked := (sendPli_handsOn
          { receiver with remoteAddress := some address, remotePort := port.toNat, pliPending := false }
          env config).keeps
        refine ⟨.of_none (fun _ => ?_) asked.highestExtSeq asked.log, ?_⟩
        · rw [asked.remotePort]
          exact valid
        · rw [asked.remoteAddress]
          exact Option.some_ne_none _
      · exact ⟨.of_none (fun _ => valid) rfl ⟨[], (List.append_nil _).symm, by simp⟩, Option.some_ne_none _⟩

theorem receiveVideo_logs {receiver after : RtpReceiver} {env : Environment} {config : Config}
    {header : Header} {buf : List UInt8} {n : Nat} (packet : VideoPacket) (known : Known receiver)
    (endpoint : receiver.remoteAddress ≠ none)
    (received : receiver.receiveVideo env config header buf n = .ok after) :
    ∃ count, Logs env config (some ⟨header.seq, packet⟩) receiver after count := by
  rw [receiveVideo] at received
  generalize extended : extendSeq receiver.highestExtSeq header.seq = ext at received
  have accepted := (acceptVideo_handsOn received).keeps
  obtain ⟨count, requests, bounded, complete⟩ :=
    noteArrival_requests (receiver.record (.arrived ext)) env config ext
  have quiet := noteArrival_quiet (receiver.record (.arrived ext)) env config ext
  subst extended
  have logs : Logs env config (some ⟨header.seq, packet⟩) receiver
      ((receiver.record (.arrived (extendSeq receiver.highestExtSeq header.seq))).noteArrival env config
        (extendSeq receiver.highestExtSeq header.seq)) count := by
    refine ⟨?_, quiet.highestExtSeq, bounded, fun succeeds => complete succeeds endpoint (known endpoint), ?_, ?_⟩
    · rw [Known, requests.remoteAddress, requests.remotePort]
      exact known
    · rw [requests.ledger, noted]
      show ledger (receiver.log ++ [_]) ++ _ = _
      rw [ledger_append, List.append_assoc]
      rfl
    · intro audioSsrc
      rw [requests.asked]
      show asked _ _ (receiver.log ++ [_]) ++ _ = _
      rw [asked_append]
      exact congrArg (· ++ _) (List.append_nil _)
  exact ⟨count, logs.after_keeps accepted⟩

theorem receive_logs {receiver after : RtpReceiver} {env : Environment} {config : Config}
    {data stale : List UInt8} {address : InetAddress} {port : UInt16} (known : Known receiver)
    (received : receiver.receive env config data stale address port = .ok after) :
    ∃ count, Logs env config (videoOf config data) receiver after count := by
  obtain ⟨learned, endpoint⟩ := learnRemote_logs env config address port known
  cases carried : videoOf config data with
  | some arrival =>
      obtain ⟨header, _, rfl, same⟩ := receive_video receiver env config data stale address port carried
      rw [same] at received
      obtain ⟨middle, taken, finished⟩ := bind_ok received
      cases finished
      obtain ⟨count, logs⟩ := receiveVideo_logs _ learned.known endpoint taken
      exact ⟨count, (learned.of_none_trans logs).after_keeps (maybeSendReceiverReport_keeps middle env config)⟩
  | none =>
      refine ⟨0, ?_⟩
      rcases receive_other_cases receiver env config data stale address port carried with
        ignored | silent | reported | ⟨header, buf, n, taken⟩
      · cases ignored.symm.trans received
        exact (Keeps.refl receiver).logs known env config
      · cases silent.symm.trans received
        exact learned
      · cases reported.symm.trans received
        exact learned.after_keeps (maybeSendReceiverReport_keeps _ env config)
      · rw [taken] at received
        obtain ⟨middle, heard, finished⟩ := bind_ok received
        cases finished
        exact (learned.after_keeps (receiveAudio_keeps heard)).after_keeps
          (maybeSendReceiverReport_keeps middle env config)

theorem iterate_logs {receiver after : RtpReceiver} {env : Environment} {config : Config} {received : Received}
    (known : Known receiver) (passed : receiver.iterate env config received = .ok after) :
    ∃ count, Logs env config (arrivalOf config received) receiver after count := by
  rw [iterate] at passed
  obtain ⟨middle, expired, handled⟩ := bind_ok passed
  have first := (expireEntries_handsOn receiver.jitter expired).keeps.logs known env config
  cases received with
  | timeout =>
      cases handled
      exact ⟨0, first.after_keeps (maybeSendReceiverReport_keeps middle env config)⟩
  | failed =>
      cases handled
      exact ⟨0, first⟩
  | packet data stale address port =>
      obtain ⟨count, logs⟩ := receive_logs first.known handled
      exact ⟨count, first.of_none_trans logs⟩

/-! ## Runs -/

def Entry.number : Entry → Int
  | .arrived ext => ext
  | .requested ext => ext

def Entry.arrival : Entry → Option Int
  | .arrived ext => some ext
  | .requested _ => none

def Entry.request : Entry → Option Int
  | .arrived _ => none
  | .requested ext => some ext

/-- The extended sequence numbers of the video packets that have arrived. -/
def arrivedNumbers (log : List Effect) : List Int := (ledger log).filterMap Entry.arrival

/-- The extended sequence numbers that have been asked for. -/
def requestedNumbers (log : List Effect) : List Int := (ledger log).filterMap Entry.request

/-- A later entry does not ask for a number that has arrived or been asked for. -/
def Fresh (earlier later : Entry) : Prop :=
  ∀ ext, later = .requested ext → earlier ≠ .arrived ext ∧ earlier ≠ .requested ext

/-- The ledger of a run: no request is made twice or too late, and what the
server is asked for on the wire are the requests. -/
structure Booked (config : Config) (receiver : RtpReceiver) : Prop where
  known : Known receiver
  fresh : (ledger receiver.log).Pairwise Fresh
  bound : ∀ entry ∈ ledger receiver.log, entry.number ≤ receiver.highestExtSeq
  wire : ∀ audioSsrc, asked config.videoSsrc audioSsrc receiver.log =
    (requestedNumbers receiver.log).map (fun ext => (true, lowWord ext))

theorem booked_start (config : Config) : Booked config (start config) where
  known := fun impossible => absurd rfl impossible
  fresh := List.Pairwise.nil
  bound := by
    intro entry impossible
    cases impossible
  wire _ := rfl

theorem detectedGap_bound {highestExtSeq ext : Int} {count : Nat} (bounded : count ≤ detectedGap highestExtSeq ext)
    {number : Int} (asked : number ∈ numbersFrom (highestExtSeq + 1) count) :
    highestExtSeq < number ∧ number < ext := by
  have inside := mem_numbersFrom.mp asked
  rw [detectedGap] at bounded
  split at bounded <;> omega

/-- A pass only asks for numbers above everything in the ledger. -/
theorem noted_number {highestExtSeq : Int} {count : Nat} {arrival? : Option Arrival}
    (bounded : count ≤ gapBefore highestExtSeq arrival?) {entry : Entry}
    (member : entry ∈ noted highestExtSeq count arrival?) :
    entry.number ≤ highestAfter highestExtSeq arrival?.toList ∧
      (∀ ext, entry = .requested ext → highestExtSeq < ext) := by
  cases arrival? with
  | none => cases member
  | some arrival =>
      show _ ≤ max highestExtSeq _ ∧ _
      rcases List.mem_cons.mp member with arrived | asked
      · rw [arrived]
        exact ⟨le_max_right _ _, fun ext impossible => nomatch impossible⟩
      · obtain ⟨number, listed, rfl⟩ := List.mem_map.mp asked
        have inside := detectedGap_bound bounded listed
        refine ⟨le_max_of_le_right inside.2.le, ?_⟩
        intro ext same
        cases same
        exact inside.1

/-- Within one pass nothing is asked for twice, nor what has just arrived. -/
theorem noted_fresh {highestExtSeq : Int} {count : Nat} {arrival? : Option Arrival}
    (bounded : count ≤ gapBefore highestExtSeq arrival?) :
    (noted highestExtSeq count arrival?).Pairwise Fresh := by
  cases arrival? with
  | none => exact List.Pairwise.nil
  | some arrival =>
      refine List.pairwise_cons.mpr ⟨?_, List.pairwise_map.mpr ?_⟩
      · intro later member ext same
        rw [same] at member
        obtain ⟨number, listed, isExt⟩ := List.mem_map.mp member
        cases isExt
        have inside := detectedGap_bound bounded listed
        refine ⟨fun equal => ?_, nofun⟩
        have := Entry.arrived.inj equal
        omega
      · refine (numbersFrom_nodup (highestExtSeq + 1) count).imp ?_
        intro first second different ext same
        cases same
        exact ⟨nofun, fun equal => different (Entry.requested.inj equal)⟩

theorem requests_noted (highestExtSeq : Int) (count : Nat) (arrival? : Option Arrival)
    (bounded : count ≤ gapBefore highestExtSeq arrival?) :
    (noted highestExtSeq count arrival?).filterMap Entry.request = numbersFrom (highestExtSeq + 1) count := by
  have all : ∀ numbers : List Int, (numbers.map Entry.requested).filterMap Entry.request = numbers := by
    intro numbers
    rw [List.filterMap_map]
    exact List.filterMap_some
  cases arrival? with
  | none =>
      have nothing : count = 0 := Nat.le_zero.mp bounded
      rw [nothing]
      rfl
  | some arrival =>
      rw [noted, List.filterMap_cons]
      exact all _

theorem arrivals_noted (highestExtSeq : Int) (count : Nat) (arrival? : Option Arrival) :
    (noted highestExtSeq count arrival?).filterMap Entry.arrival =
      (unwrapAll highestExtSeq arrival?.toList).map Prod.fst := by
  cases arrival? with
  | none => rfl
  | some arrival =>
      have none : ∀ numbers : List Int, (numbers.map Entry.requested).filterMap Entry.arrival = [] := by
        intro numbers
        rw [List.filterMap_map]
        exact List.filterMap_eq_nil_iff.mpr (fun _ _ => rfl)
      rw [noted, List.filterMap_cons]
      simp only [Entry.arrival, none]
      rfl

theorem Logs.booked {env : Environment} {config : Config} {arrival? : Option Arrival}
    {before after : RtpReceiver} {count : Nat} (logs : Logs env config arrival? before after count)
    (booked : Booked config before) : Booked config after where
  known := logs.known
  fresh := by
    rw [logs.ledger]
    refine List.pairwise_append.mpr ⟨booked.fresh, noted_fresh logs.bounded, ?_⟩
    intro earlier old later new ext same
    have low := booked.bound earlier old
    have high := (noted_number logs.bounded new).2 ext same
    constructor <;> rintro rfl <;> exact absurd high (not_lt.mpr low)
  bound := by
    rw [logs.ledger, logs.highestExtSeq]
    intro entry member
    rcases List.mem_append.mp member with old | new
    · refine le_trans (booked.bound entry old) ?_
      cases arrival? with
      | none => exact le_rfl
      | some arrival => exact le_max_left _ _
    · exact (noted_number logs.bounded new).1
  wire audioSsrc := by
    rw [logs.asked, booked.wire, requestedNumbers, requestedNumbers, logs.ledger, List.filterMap_append,
      List.map_append, requests_noted _ _ _ logs.bounded]

theorem unwrapAll_append (highestExtSeq : Int) (early late : List Arrival) :
    unwrapAll highestExtSeq (early ++ late) =
      unwrapAll highestExtSeq early ++ unwrapAll (highestAfter highestExtSeq early) late := by
  induction early generalizing highestExtSeq with
  | nil => rfl
  | cons arrival rest inductionHypothesis =>
      rw [List.cons_append, unwrapAll, inductionHypothesis]
      rfl

/-- The ledger of a run has the arrivals under their extended sequence
numbers. -/
theorem run_booked {env : Environment} {config : Config} (inputs : List Input) {receiver after : RtpReceiver}
    (booked : Booked config receiver) (ran : run env config receiver inputs = .ok after) :
    Booked config after ∧ arrivedNumbers after.log = arrivedNumbers receiver.log ++
      (unwrapAll receiver.highestExtSeq (arrivalsOf config inputs)).map Prod.fst := by
  induction inputs generalizing receiver with
  | nil =>
      cases ran
      exact ⟨booked, (List.append_nil _).symm⟩
  | cons input rest inductionHypothesis =>
      obtain ⟨middle, stepped, later⟩ := run_cons_ok ran
      -- The entries of one input, and then those of the rest.
      have extend : ∀ (arrival? : Option Arrival) (count : Nat), Logs env config arrival? receiver middle count →
          arrivalsOf config (input :: rest) = arrival?.toList ++ arrivalsOf config rest →
          Booked config after ∧ arrivedNumbers after.log = arrivedNumbers receiver.log ++
            (unwrapAll receiver.highestExtSeq (arrivalsOf config (input :: rest))).map Prod.fst := by
        intro arrival? count logs split
        obtain ⟨bookedAfter, arrived⟩ := inductionHypothesis (logs.booked booked) later
        refine ⟨bookedAfter, ?_⟩
        rw [arrived, split, unwrapAll_append, List.map_append, ← List.append_assoc, logs.highestExtSeq]
        refine congrArg (· ++ _) ?_
        rw [arrivedNumbers, logs.ledger, List.filterMap_append, arrivals_noted]
        rfl
      cases input with
      | keyframeRequest =>
          cases stepped
          exact extend none 0 ((requestKeyframe_handsOn receiver env config).keeps.logs booked.known env config) rfl
      | iteration received =>
          obtain ⟨count, logs⟩ := iterate_logs booked.known stepped
          apply extend (arrivalOf config received) count logs
          cases arrives : arrivalOf config received <;> simp [arrivalsOf, arrives]

end RtpReceiver
end MetaShare
