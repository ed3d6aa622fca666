import MetaShare.Receiver.Routine
import MetaShare.Session.Reception
import Mathlib

namespace MetaShare

/-!
# Receiver reports

About once in a second the receiver reports the loss since its last report, and
the streamer reads the fraction out of the report.  The passes that report divide the
arrivals of a run into intervals.  A report that cannot be sent ends its interval
all the same.
-/

namespace RtpServer

/-- What a feedback event says about the loss. -/
def RtcpEvent.loss : RtcpEvent → Option UInt8
  | .fractionLost octet => some octet
  | _ => none

end RtpServer

namespace RtpReceiver

open Octets OrderedMap ReorderBuffer

/-! ## The statistics of arrivals -/

/-- The highest of the numbers, or -1. -/
def highest (numbers : List Int) : Int := numbers.foldl max (-1)

/-- How many packets there are from the first number to the highest one. -/
def expected : List Int → Int
  | [] => 0
  | first :: others => highest (first :: others) - first + 1

/-- The packets that were expected among the group, less those that arrived. -/
def lost (before group : List Int) : Int :=
  expected (before ++ group) - expected before - group.length

/-- The loss of a group of arrivals in parts of 256. -/
def lossOctet (before group : List Int) : UInt8 :=
  let interval := expected (before ++ group) - expected before
  if 0 < interval ∧ 0 < lost before group then
    UInt8.ofNat (min 255 (lost before group * 256 / interval)).toNat
  else 0

/-- What is read from the reports of consecutive groups of arrivals, of which some
were sent. -/
def readings : List Int → List (List Int × Bool) → List UInt8
  | _, [] => []
  | before, (group, sent) :: later =>
      (if sent then [lossOctet before group] else []) ++ readings (before ++ group) later

theorem highest_append (numbers : List Int) (number : Int) :
    highest (numbers ++ [number]) = max (highest numbers) number := by
  rw [highest, List.foldl_append]
  rfl

theorem readings_append (before : List Int) (early late : List (List Int × Bool)) :
    readings before (early ++ late) =
      readings before early ++ readings (before ++ (early.map Prod.fst).flatten) late := by
  induction early generalizing before with
  | nil =>
      rw [List.map_nil, List.flatten_nil, List.append_nil]
      exact (List.nil_append _).symm
  | cons interval early inductionHypothesis =>
      rw [List.cons_append, readings, readings, inductionHypothesis, List.append_assoc, List.map_cons,
        List.flatten_cons, List.append_assoc]

/-! ## The intervals of a run -/

/-- A pass has reported: it has found that a report was due, it knows where to send it,
and packets have been counted. -/
def reports (before after : RtpReceiver) : Bool :=
  decide (before.lastRrMs ≠ after.lastRrMs) && after.remoteAddress.isSome &&
    (decide (0 ≤ after.remotePort) && decide (0 ≤ after.statFirstExtSeq) && decide (0 ≤ after.highestExtSeq))

/-- The arrivals so far, divided at the reports, and those behind the last report.  The
arrival of a pass comes before its report, and the report is the last that it sends. -/
def divide (env : Environment) (divided : List (List Int × Bool) × List Int) (before after : RtpReceiver) :
    List (List Int × Bool) × List Int :=
  let group := divided.2 ++ (arrivedNumbers after.log).drop (arrivedNumbers before.log).length
  if reports before after then (divided.1 ++ [(group, env.sendSucceeds (after.sends - 1))], [])
  else (divided.1, group)

/-- The intervals of a run. -/
def intervals (env : Environment) (config : Config) :
    List Input → RtpReceiver → List (List Int × Bool) × List Int → List (List Int × Bool) × List Int
  | [], _, divided => divided
  | input :: rest, receiver, divided =>
      match step env config receiver input with
      | .ok after => intervals env config rest after (divide env divided receiver after)
      | .error _ => divided

/-! ## What is missing -/

/-- The number below the interval of a group. -/
def base (before group : List Int) : Int :=
  if before = [] then group.headD 0 - 1 else highest before

theorem le_highest_fold (numbers : List Int) (start : Int) : start ≤ numbers.foldl max start := by
  induction numbers generalizing start with
  | nil => exact le_refl _
  | cons number numbers inductionHypothesis =>
      exact le_trans (le_max_left start number) (inductionHypothesis _)

theorem le_fold_of_mem {numbers : List Int} {number : Int} (member : number ∈ numbers) (start : Int) :
    number ≤ numbers.foldl max start := by
  induction numbers generalizing start with
  | nil => cases member
  | cons first numbers inductionHypothesis =>
      rcases List.mem_cons.mp member with rfl | later
      · exact le_trans (le_max_right _ _) (le_highest_fold numbers _)
      · exact inductionHypothesis later _

theorem le_highest {numbers : List Int} {number : Int} (member : number ∈ numbers) : number ≤ highest numbers :=
  le_fold_of_mem member _

theorem expected_sub {before group : List Int} (some : before ++ group ≠ []) :
    expected (before ++ group) - expected before = highest (before ++ group) - base before group := by
  cases before with
  | nil =>
      cases group with
      | nil => exact absurd rfl some
      | cons first others =>
          rw [List.nil_append, expected, expected, base, if_pos rfl, List.headD_cons]
          omega
  | cons first others =>
      rw [base, if_neg (List.cons_ne_nil _ _), List.cons_append, expected, expected]
      omega

theorem base_le {before group : List Int} (some : before ++ group ≠ []) :
    base before group ≤ highest (before ++ group) := by
  cases before with
  | nil =>
      cases group with
      | nil => exact absurd rfl some
      | cons first others =>
          have bound := le_highest (List.mem_cons_self : first ∈ first :: others)
          rw [base, if_pos rfl, List.headD_cons, List.nil_append]
          omega
  | cons first others =>
      rw [base, if_neg (List.cons_ne_nil _ _), highest, highest, List.foldl_append]
      exact le_highest_fold _ _

/-- If every packet of a group arrives once and none of them late, the loss is the
number of packets that are missing. -/
theorem lost_eq_missing {before group : List Int} (some : before ++ group ≠ [])
    (early : ∀ number ∈ group, base before group < number) (once : group.Nodup) :
    lost before group =
      ((Finset.Ioc (base before group) (highest (before ++ group))) \ group.toFinset).card := by
  have inside : group.toFinset ⊆ Finset.Ioc (base before group) (highest (before ++ group)) := by
    intro number member
    rw [List.mem_toFinset] at member
    exact Finset.mem_Ioc.mpr ⟨early number member, le_highest (List.mem_append_right _ member)⟩
  have size := Finset.card_le_card inside
  rw [List.toFinset_card_of_nodup once, Int.card_Ioc] at size
  have apart := base_le some
  rw [lost, expected_sub some, Finset.card_sdiff_of_subset inside, List.toFinset_card_of_nodup once, Int.card_Ioc]
  omega

/-- Then the octet of the report is the share of the packets that are missing. -/
theorem lossOctet_eq_missing {before group : List Int} (some : before ++ group ≠ [])
    (early : ∀ number ∈ group, base before group < number) (once : group.Nodup) :
    lossOctet before group = UInt8.ofNat (min 255
      (((Finset.Ioc (base before group) (highest (before ++ group))) \ group.toFinset).card * 256 /
        (highest (before ++ group) - base before group).toNat)) := by
  have apart := base_le some
  rw [lossOctet, lost_eq_missing some early once, expected_sub some]
  obtain ⟨size, isSize⟩ := Int.eq_ofNat_of_zero_le (Int.sub_nonneg.mpr apart)
  rw [isSize, Int.toNat_natCast]
  generalize ((Finset.Ioc (base before group) (highest (before ++ group))) \ group.toFinset).card = missing
  split
  · have share : min 255 ((missing : Int) * 256 / size) = ((min 255 (missing * 256 / size) : Nat) : Int) := by
      push_cast
      rfl
    rw [share, Int.toNat_natCast]
  · rename_i none
    have zero : missing = 0 ∨ size = 0 := by omega
    rcases zero with rfl | rfl
    · rw [Nat.zero_mul, Nat.zero_div, Nat.min_zero]
      rfl
    · rw [Nat.div_zero, Nat.min_zero]
      rfl

/-! ## Reading a report -/

/-- The losses that the server reads out of what is sent. -/
def Effect.losses (videoSsrc audioSsrc : UInt32) : Effect → List UInt8
  | .sent datagram _ _ => (RtpServer.handleRtcp videoSsrc audioSsrc datagram).filterMap RtpServer.RtcpEvent.loss
  | _ => []

def lossesRead (videoSsrc audioSsrc : UInt32) (log : List Effect) : List UInt8 :=
  log.flatMap (Effect.losses videoSsrc audioSsrc)

/-- The server reads exactly the loss out of a report. -/
theorem handleRtcp_receiverReport (videoSsrc audioSsrc : UInt32) (fractionLost cumLost highestExtSeq : Int) :
    RtpServer.handleRtcp videoSsrc audioSsrc (receiverReport videoSsrc fractionLost cumLost highestExtSeq) =
      [.fractionLost (UInt8.ofNat (fractionLost % 256).toNat)] := by
  have words : word16 0 7 = 7 := rfl
  have version : (129 : UInt8) &&& 192 = 128 := by decide
  have format : (129 : UInt8) &&& 31 = 1 := by decide
  simp [RtpServer.handleRtcp, RtpServer.reportBlocks, receiverReport, ofWord32, words, version, format]

theorem losses_nack (videoSsrc audioSsrc : UInt32) (pid blp : UInt16) (address : InetAddress) (port : Int) :
    (Effect.sent (nack videoSsrc pid blp) address port).losses videoSsrc audioSsrc = [] := by
  rw [Effect.losses, handleRtcp_nack, RtpServer.retransmitEntry, List.filterMap_eq_nil_iff]
  intro event member
  rcases List.mem_cons.mp member with rfl | later
  · rfl
  · obtain ⟨i, _, asks⟩ := List.mem_filterMap.mp later
    split at asks <;> cases asks
    rfl

theorem losses_pli (videoSsrc audioSsrc : UInt32) (address : InetAddress) (port : Int) :
    (Effect.sent (pli videoSsrc) address port).losses videoSsrc audioSsrc = [] := by
  have words : word16 0 2 = 2 := rfl
  have version : (129 : UInt8) &&& 192 = 128 := by decide
  have format : (129 : UInt8) &&& 31 = 1 := by decide
  simp [Effect.losses, RtpServer.handleRtcp, pli, ofWord32, words, version, format, RtpServer.RtcpEvent.loss]

/-! ## What leaves the statistics alone -/

theorem arrivedNumbers_append (first second : List Effect) :
    arrivedNumbers (first ++ second) = arrivedNumbers first ++ arrivedNumbers second := by
  rw [arrivedNumbers, ledger_append, List.filterMap_append]
  rfl

section Grows

variable {config : Config} {before after : List Effect}

/-- Routine entries note no arrival. -/
theorem Grows.arrivedNumbers_eq (grows : Grows config before after) :
    arrivedNumbers after = arrivedNumbers before := by
  obtain ⟨more, grown, routine⟩ := grows
  have none : arrivedNumbers more = [] := by
    rw [arrivedNumbers, ledger, List.filterMap_filterMap, List.filterMap_eq_nil_iff]
    intro effect member
    cases routine effect member <;> rfl
  rw [grown, arrivedNumbers_append, none, List.append_nil]

/-- Routine entries tell the server of no loss. -/
theorem Grows.lossesRead_eq (grows : Grows config before after) (audioSsrc : UInt32) :
    lossesRead config.videoSsrc audioSsrc after = lossesRead config.videoSsrc audioSsrc before := by
  obtain ⟨more, grown, routine⟩ := grows
  have none : more.flatMap (Effect.losses config.videoSsrc audioSsrc) = [] := by
    rw [List.flatMap_eq_nil_iff]
    intro effect member
    cases routine effect member with
    | pli address port => exact losses_pli _ _ _ _
    | nack pid blp address port => exact losses_nack _ _ _ _ _ _
    | _ => rfl
  rw [grown, lossesRead, List.flatMap_append, none, List.append_nil]
  rfl

end Grows

/-! ## One pass -/

/-- The statistics are those of the arrivals, of which all but the last ones have
been reported. -/
structure Reported (config : Config) (receiver : RtpReceiver) (intervals : List (List Int × Bool))
    (open_ : List Int) : Prop where
  arrived : (intervals.map Prod.fst).flatten ++ open_ = arrivedNumbers receiver.log
  highest : receiver.highestExtSeq = highest (arrivedNumbers receiver.log)
  first : receiver.statFirstExtSeq = (arrivedNumbers receiver.log).headD (-1)
  valid : ∀ first ∈ (arrivedNumbers receiver.log).head?, 0 ≤ first
  received : receiver.statReceived = (arrivedNumbers receiver.log).length
  expectedPrior : receiver.statExpectedPrior = expected (intervals.map Prod.fst).flatten
  receivedPrior : receiver.statReceivedPrior = (intervals.map Prod.fst).flatten.length
  read : ∀ audioSsrc, lossesRead config.videoSsrc audioSsrc receiver.log = readings [] intervals

theorem reported_start (config : Config) : Reported config (start config) [] [] where
  arrived := rfl
  highest := rfl
  first := rfl
  valid := fun _ member => nomatch member
  received := rfl
  expectedPrior := rfl
  receivedPrior := rfl
  read := fun _ => rfl

section Pass

variable {config : Config} {env : Environment} {receiver after : RtpReceiver} {intervals : List (List Int × Bool)}
  {open_ : List Int}

theorem Routine.reported (routine : Routine config receiver after)
    (reported : Reported config receiver intervals open_) : Reported config after intervals open_ where
  arrived := by rw [routine.log.arrivedNumbers_eq, reported.arrived]
  highest := by rw [routine.highestExtSeq, routine.log.arrivedNumbers_eq, reported.highest]
  first := by rw [routine.statFirstExtSeq, routine.log.arrivedNumbers_eq, reported.first]
  valid := by rw [routine.log.arrivedNumbers_eq]; exact reported.valid
  received := by rw [routine.statReceived, routine.log.arrivedNumbers_eq, reported.received]
  expectedPrior := routine.statExpectedPrior.trans reported.expectedPrior
  receivedPrior := routine.statReceivedPrior.trans reported.receivedPrior
  read audioSsrc := (routine.log.lossesRead_eq audioSsrc).trans (reported.read audioSsrc)

theorem Reported.arrive (reported : Reported config receiver intervals open_) (seq : Nat) :
    Reported config ((receiver.record (.arrived (extendSeq receiver.highestExtSeq seq))).noteArrival env config
      (extendSeq receiver.highestExtSeq seq)) intervals
      (open_ ++ [extendSeq receiver.highestExtSeq seq]) := by
  obtain ⟨ext, extended⟩ : ∃ ext, extendSeq receiver.highestExtSeq seq = ext := ⟨_, rfl⟩
  rw [extended]
  have counted := noteArrival_counted (receiver.record (.arrived ext)) env config ext
  have noted : arrivedNumbers ((receiver.record (.arrived ext)).noteArrival env config ext).log =
      arrivedNumbers receiver.log ++ [ext] := by
    rw [counted.log.arrivedNumbers_eq]
    exact arrivedNumbers_append receiver.log [.arrived ext]
  have highestNow : max receiver.highestExtSeq ext = RtpReceiver.highest (arrivedNumbers receiver.log ++ [ext]) := by
    rw [highest_append, reported.highest]
  have head : (if receiver.highestExtSeq < ext ∧ receiver.statFirstExtSeq < 0 then ext
      else receiver.statFirstExtSeq) = (arrivedNumbers receiver.log ++ [ext]).headD (-1) ∧
        ∀ first ∈ (arrivedNumbers receiver.log ++ [ext]).head?, 0 ≤ first := by
    have highestBefore := reported.highest
    have firstBefore := reported.first
    have validBefore := reported.valid
    cases numbers : arrivedNumbers receiver.log with
    | nil =>
        rw [numbers] at highestBefore firstBefore
        have negative : receiver.highestExtSeq = -1 := highestBefore
        have unset : receiver.statFirstExtSeq = -1 := firstBefore
        have isSeq : ext = seq := by
          rw [← extended, extendSeq, if_pos (by omega)]
        constructor
        · rw [if_pos (by omega)]
          rfl
        · intro first isFirst
          cases isFirst
          omega
    | cons first others =>
        rw [numbers] at firstBefore validBefore
        have set : receiver.statFirstExtSeq = first := firstBefore
        have valid : 0 ≤ first := validBefore first rfl
        constructor
        · rw [if_neg (by omega)]
          exact set
        · intro other isFirst
          cases isFirst
          exact valid
  constructor
  · rw [noted, ← reported.arrived, List.append_assoc]
  · rw [noted, ← highestNow]
    exact counted.highestExtSeq
  · rw [noted, ← head.1]
    exact counted.statFirstExtSeq
  · rw [noted]
    exact head.2
  · rw [noted, List.length_append]
    exact counted.statReceived.trans (congrArg (· + 1) reported.received)
  · exact counted.statExpectedPrior.trans reported.expectedPrior
  · exact counted.statReceivedPrior.trans reported.receivedPrior
  · intro audioSsrc
    rw [counted.log.lossesRead_eq, ← reported.read audioSsrc]
    exact (List.flatMap_append).trans (List.append_nil _)

/-- What the report says is the loss of the group that has arrived since. -/
theorem Reported.octet (reported : Reported config receiver intervals open_)
    (some : arrivedNumbers receiver.log ≠ []) :
    let before := (intervals.map Prod.fst).flatten
    let expectedNow := receiver.highestExtSeq - receiver.statFirstExtSeq + 1
    let interval := expectedNow - receiver.statExpectedPrior
    let missing := interval - (receiver.statReceived - receiver.statReceivedPrior)
    expectedNow = expected (before ++ open_) ∧
      UInt8.ofNat ((if interval > 0 ∧ missing > 0 then min 255 ((missing * 256).tdiv interval) else 0) % 256).toNat =
        lossOctet before open_ := by
  intro before expectedNow interval missing
  have now : expectedNow = expected (before ++ open_) := by
    change receiver.highestExtSeq - receiver.statFirstExtSeq + 1 = _
    rw [reported.highest, reported.first, show before ++ open_ = _ from reported.arrived]
    cases numbers : arrivedNumbers receiver.log with
    | nil => exact absurd numbers some
    | cons first others => rfl
  have isInterval : interval = expected (before ++ open_) - expected before := by
    rw [← now, ← reported.expectedPrior]
  have isLost : missing = lost before open_ := by
    have total := congrArg List.length reported.arrived
    have received := reported.received
    have prior := reported.receivedPrior
    rw [List.length_append] at total
    change (before.length + open_.length = _) at total
    change _ = (before.length : Int) at prior
    rw [lost, ← isInterval]
    change interval - (receiver.statReceived - receiver.statReceivedPrior) = _
    omega
  refine ⟨now, ?_⟩
  rw [lossOctet, ← isInterval, ← isLost]
  split
  · rename_i positive
    have nonneg : 0 ≤ missing * 256 / interval := Int.ediv_nonneg (by omega) (by omega)
    rw [Int.tdiv_eq_ediv_of_nonneg (by omega), Int.emod_eq_of_lt (by omega) (by omega)]
  · rfl

theorem transmit_eq (receiver : RtpReceiver) (env : Environment) (datagram : List UInt8) (address : InetAddress)
    (port : Int) : receiver.transmit env datagram address port = { receiver with
      sends := receiver.sends + 1
      log := receiver.log ++ if env.sendSucceeds receiver.sends then [.sent datagram address port] else [] } := by
  rw [transmit]
  split
  · rfl
  · rw [List.append_nil]

theorem sends_transmit (receiver : RtpReceiver) (env : Environment) (datagram : List UInt8) (address : InetAddress)
    (port : Int) : (receiver.transmit env datagram address port).sends - 1 = receiver.sends := by
  rw [transmit_eq]
  rfl

/-- Sending a report, or failing to, ends the interval. -/
theorem Reported.close (reported : Reported config receiver intervals open_) (env : Environment)
    {stored : RtpReceiver} {datagram : List UInt8} {address : InetAddress} {port : Int}
    (isReport : ∀ audioSsrc, (Effect.sent datagram address port).losses config.videoSsrc audioSsrc =
      [lossOctet (intervals.map Prod.fst).flatten open_])
    (noArrival : arrivedNumbers [Effect.sent datagram address port] = [])
    (highestExtSeq : stored.highestExtSeq = receiver.highestExtSeq)
    (statFirstExtSeq : stored.statFirstExtSeq = receiver.statFirstExtSeq)
    (statReceived : stored.statReceived = receiver.statReceived)
    (expectedPrior : stored.statExpectedPrior = expected ((intervals.map Prod.fst).flatten ++ open_))
    (receivedPrior : stored.statReceivedPrior = receiver.statReceived) (log : stored.log = receiver.log) :
    Reported config (stored.transmit env datagram address port)
      (intervals ++ [(open_, env.sendSucceeds stored.sends)]) [] := by
  have groups : ((intervals ++ [(open_, env.sendSucceeds stored.sends)]).map Prod.fst).flatten =
      arrivedNumbers receiver.log := by
    rw [List.map_append, List.flatten_append, ← reported.arrived]
    exact congrArg (_ ++ ·) (List.append_nil _)
  have arrived : arrivedNumbers (stored.log ++
      if env.sendSucceeds stored.sends then [Effect.sent datagram address port] else []) =
        arrivedNumbers receiver.log := by
    rw [arrivedNumbers_append, log]
    split
    · rw [noArrival, List.append_nil]
    · exact List.append_nil _
  have read (audioSsrc : UInt32) : lossesRead config.videoSsrc audioSsrc (stored.log ++
      if env.sendSucceeds stored.sends then [Effect.sent datagram address port] else []) =
        lossesRead config.videoSsrc audioSsrc receiver.log ++
          if env.sendSucceeds stored.sends then [lossOctet (intervals.map Prod.fst).flatten open_] else [] := by
    rw [lossesRead, List.flatMap_append, log]
    split
    · rw [List.flatMap_singleton, isReport]
      rfl
    · rfl
  rw [transmit_eq]
  constructor
  · exact groups.symm ▸ (List.append_nil _).trans arrived.symm
  · exact (highestExtSeq.trans reported.highest).trans (congrArg RtpReceiver.highest arrived.symm)
  · exact (statFirstExtSeq.trans reported.first).trans (congrArg (List.headD · (-1)) arrived.symm)
  · dsimp only
    rw [arrived]
    exact reported.valid
  · exact (statReceived.trans reported.received).trans
      (congrArg (fun numbers => (List.length numbers : Int)) arrived.symm)
  · rw [groups, ← reported.arrived]
    exact expectedPrior
  · rw [groups]
    exact receivedPrior.trans reported.received
  · intro audioSsrc
    rw [read, readings_append, reported.read, List.nil_append, readings, readings, List.append_nil]

/-- A report ends the interval, and no report leaves it open. -/
theorem Reported.report (reported : Reported config receiver intervals open_) (env : Environment) :
    let after := receiver.maybeSendReceiverReport env config
    if reports receiver after then
      Reported config after (intervals ++ [(open_, env.sendSucceeds (after.sends - 1))]) []
    else Reported config after intervals open_ := by
  have noted : Routine config { receiver with lastRrMs := receiver.clock env }
      { receiver.tick with lastRrMs := receiver.clock env } := .of_same rfl rfl rfl rfl rfl rfl rfl
  have waited : Routine config receiver receiver.tick := .of_same rfl rfl rfl rfl rfl rfl rfl
  have dated : Reported config { receiver with lastRrMs := receiver.clock env } intervals open_ :=
    ⟨reported.arrived, reported.highest, reported.first, reported.valid, reported.received,
      reported.expectedPrior, reported.receivedPrior, reported.read⟩
  simp only [maybeSendReceiverReport]
  split
  · rw [if_neg (by simp [reports, tick])]
    exact waited.reported reported
  split
  · rename_i nowhere
    rw [if_neg (by simp [reports, tick, show receiver.remoteAddress = none from nowhere])]
    exact noted.reported dated
  split
  · rename_i negative
    rw [if_neg (by simp [reports, show receiver.tick.remotePort < 0 from negative])]
    exact noted.reported dated
  split
  · rename_i unmeasured
    rw [if_neg]
    · exact noted.reported dated
    · simp only [reports, Bool.and_eq_true, decide_eq_true_iff]
      intro measured
      have first : receiver.tick.statFirstExtSeq < 0 ∨ receiver.tick.highestExtSeq < 0 := unmeasured
      omega
  · rename_i due _ address somewhere port measured
    have some : arrivedNumbers receiver.log ≠ [] := by
      intro none
      have unset := reported.first
      rw [none] at unset
      have negative : receiver.statFirstExtSeq = -1 := unset
      exact measured (Or.inl (show receiver.statFirstExtSeq < 0 by omega))
    obtain ⟨now, octet⟩ := reported.octet some
    rw [if_pos]
    · rw [sends_transmit]
      refine reported.close env ?_ rfl rfl rfl rfl now rfl rfl
      intro audioSsrc
      rw [Effect.losses, handleRtcp_receiverReport, ← octet]
      rfl
    · rw [transmit_eq]
      have first : ¬ (receiver.statFirstExtSeq < 0 ∨ receiver.highestExtSeq < 0) := measured
      have isPort : ¬ receiver.remotePort < 0 := port
      have isDue : ¬ receiver.clock env - receiver.lastRrMs < 1000 := due
      have known : receiver.remoteAddress = Option.some address := somewhere
      change (decide (receiver.lastRrMs ≠ receiver.clock env) && receiver.remoteAddress.isSome &&
        (decide (0 ≤ receiver.remotePort) && decide (0 ≤ receiver.statFirstExtSeq) &&
          decide (0 ≤ receiver.highestExtSeq))) = true
      rw [known]
      simp only [Option.isSome_some, Bool.and_true, Bool.and_eq_true, decide_eq_true_iff]
      omega

/-- The statistics move on with a group of arrivals, and there is no report. -/
structure Unreported (config : Config) (group : List Int) (before after : RtpReceiver) : Prop where
  lastRrMs : after.lastRrMs = before.lastRrMs
  reported : ∀ intervals open_, Reported config before intervals open_ →
    Reported config after intervals (open_ ++ group)

variable {middle : RtpReceiver} {group : List Int}

theorem Routine.unreported (routine : Routine config receiver after) : Unreported config [] receiver after where
  lastRrMs := routine.lastRrMs
  reported intervals open_ reported := by
    rw [List.append_nil]
    exact routine.reported reported

theorem Unreported.trans {later : List Int} (first : Unreported config group receiver middle)
    (second : Unreported config later middle after) : Unreported config (group ++ later) receiver after where
  lastRrMs := second.lastRrMs.trans first.lastRrMs
  reported intervals open_ reported := by
    rw [← List.append_assoc]
    exact second.reported intervals _ (first.reported intervals open_ reported)

theorem Unreported.arrivals (unreported : Unreported config group receiver after)
    (reported : Reported config receiver intervals open_) :
    (arrivedNumbers after.log).drop (arrivedNumbers receiver.log).length = group := by
  rw [← (unreported.reported intervals open_ reported).arrived, ← reported.arrived, ← List.append_assoc]
  exact List.drop_left

/-- A pass without a report. -/
theorem Unreported.divide (unreported : Unreported config group receiver after)
    (reported : Reported config receiver intervals open_) :
    Reported config after (RtpReceiver.divide env (intervals, open_) receiver after).1
      (RtpReceiver.divide env (intervals, open_) receiver after).2 := by
  have none : reports receiver after = false := by
    simp [reports, unreported.lastRrMs]
  simp only [RtpReceiver.divide, none, Bool.false_eq_true, if_false, unreported.arrivals reported]
  exact unreported.reported intervals open_ reported

/-- A pass that ends with a report, if one is due. -/
theorem Unreported.report (unreported : Unreported config group receiver middle)
    (reported : Reported config receiver intervals open_) :
    Reported config (middle.maybeSendReceiverReport env config)
      (RtpReceiver.divide env (intervals, open_) receiver (middle.maybeSendReceiverReport env config)).1
      (RtpReceiver.divide env (intervals, open_) receiver (middle.maybeSendReceiverReport env config)).2 := by
  have told := (unreported.reported intervals open_ reported).report env
  have same : reports receiver (middle.maybeSendReceiverReport env config) =
      reports middle (middle.maybeSendReceiverReport env config) := by
    rw [reports, reports, unreported.lastRrMs]
  have arrivals : arrivedNumbers (middle.maybeSendReceiverReport env config).log = arrivedNumbers middle.log := by
    rw [← (unreported.reported intervals open_ reported).arrived]
    dsimp only at told
    split at told
    · rw [← told.arrived, List.map_append, List.flatten_append]
      simp
    · exact told.arrived.symm
  simp only [RtpReceiver.divide, same, arrivals, unreported.arrivals reported]
  dsimp only at told
  split at told
  · rename_i isReport
    simp only [isReport, if_true]
    exact told
  · rename_i noReport
    simp only [noReport]
    exact told

end Pass

/-- Audio does not count. -/
theorem receiveAudio_unreported {config : Config} {receiver after : RtpReceiver} {header : Header} {buf : List UInt8}
    {n : Nat} (heard : receiver.receiveAudio config header buf n = .ok after) :
    Unreported config [] receiver after := by
  rw [receiveAudio] at heard
  obtain ⟨ptsUsec, _, played⟩ := bind_ok heard
  split at played
  · cases played
    have arrived : arrivedNumbers (receiver.log ++ [Effect.opus
        (slice buf header.payloadOff (n - header.payloadOff)) ptsUsec]) = arrivedNumbers receiver.log := by
      rw [arrivedNumbers_append]
      exact List.append_nil _
    refine ⟨rfl, fun intervals open_ reported => ?_⟩
    rw [List.append_nil]
    constructor
    · exact reported.arrived.trans arrived.symm
    · exact reported.highest.trans (congrArg RtpReceiver.highest arrived.symm)
    · exact reported.first.trans (congrArg (List.headD · (-1)) arrived.symm)
    · change ∀ first ∈ (arrivedNumbers (receiver.log ++ [_])).head?, _
      rw [arrived]
      exact reported.valid
    · exact reported.received.trans (congrArg (fun numbers => (List.length numbers : Int)) arrived.symm)
    · exact reported.expectedPrior
    · exact reported.receivedPrior
    · intro audioSsrc
      rw [← reported.read audioSsrc]
      exact (List.flatMap_append).trans (List.append_nil _)
  · cases played

/-- The new statistics count the packet that has just arrived. -/
theorem arrive_unreported (receiver : RtpReceiver) (env : Environment) (config : Config) (seq : Nat) :
    Unreported config [extendSeq receiver.highestExtSeq seq] receiver
      ((receiver.record (.arrived (extendSeq receiver.highestExtSeq seq))).noteArrival env config
        (extendSeq receiver.highestExtSeq seq)) where
  lastRrMs := (noteArrival_counted _ env config _).lastRrMs
  reported _ _ reported := reported.arrive seq

/-- What has been received is noted, and a report follows unless it is ignored. -/
theorem receive_unreported {config : Config} {env : Environment} {receiver after : RtpReceiver}
    {data stale : List UInt8} {address : InetAddress} {port : UInt16}
    (received : receiver.receive env config data stale address port = .ok after) :
    ∃ group middle, Unreported config group receiver middle ∧
      (after = middle ∨ after = middle.maybeSendReceiverReport env config) := by
  have learned := (learnRemote_routine receiver env config address port).unreported
  cases carried : videoOf config data with
  | some arrival =>
      obtain ⟨header, _, rfl, same⟩ := receive_video receiver env config data stale address port carried
      rw [same] at received
      obtain ⟨middle, taken, finished⟩ := bind_ok received
      cases finished
      rw [receiveVideo] at taken
      exact ⟨_, middle, (learned.trans (arrive_unreported _ env config header.seq)).trans
        (acceptVideo_handsOn taken).routine.unreported, Or.inr rfl⟩
  | none =>
      rcases receive_other_cases receiver env config data stale address port carried with
        ignored | silent | told | ⟨header, buf, n, taken⟩
      · cases ignored.symm.trans received
        exact ⟨_, receiver, (Routine.refl config receiver).unreported, Or.inl rfl⟩
      · cases silent.symm.trans received
        exact ⟨_, _, learned, Or.inl rfl⟩
      · cases told.symm.trans received
        exact ⟨_, _, learned, Or.inr rfl⟩
      · rw [taken] at received
        obtain ⟨middle, heard, finished⟩ := bind_ok received
        cases finished
        exact ⟨_, middle, learned.trans (receiveAudio_unreported heard), Or.inr rfl⟩

theorem step_unreported {config : Config} {env : Environment} {receiver after : RtpReceiver} {input : Input}
    (stepped : step env config receiver input = .ok after) :
    ∃ group middle, Unreported config group receiver middle ∧
      (after = middle ∨ after = middle.maybeSendReceiverReport env config) := by
  cases input with
  | keyframeRequest =>
      cases stepped
      exact ⟨_, _, (requestKeyframe_handsOn receiver env config).routine.unreported, Or.inl rfl⟩
  | iteration received =>
      rw [step, iterate] at stepped
      obtain ⟨middle, expired, handled⟩ := bind_ok stepped
      have still := (expireEntries_handsOn receiver.jitter expired).routine.unreported
      cases received with
      | timeout =>
          cases handled
          exact ⟨_, middle, still, Or.inr rfl⟩
      | failed =>
          cases handled
          exact ⟨_, after, still, Or.inl rfl⟩
      | packet data stale address port =>
          obtain ⟨group, late, unreported, isAfter⟩ := receive_unreported handled
          exact ⟨_, late, still.trans unreported, isAfter⟩

/-- A pass divides the arrivals as its report says. -/
theorem step_reported {config : Config} {env : Environment} {receiver after : RtpReceiver} {input : Input}
    {divided : List (List Int × Bool) × List Int} (reported : Reported config receiver divided.1 divided.2)
    (stepped : step env config receiver input = .ok after) :
    Reported config after (divide env divided receiver after).1 (divide env divided receiver after).2 := by
  obtain ⟨group, middle, unreported, rfl | rfl⟩ := step_unreported stepped
  · exact unreported.divide reported
  · exact unreported.report reported

theorem run_reported {config : Config} {env : Environment} (inputs : List Input) {receiver after : RtpReceiver}
    {divided : List (List Int × Bool) × List Int} (reported : Reported config receiver divided.1 divided.2)
    (ran : run env config receiver inputs = .ok after) :
    Reported config after (intervals env config inputs receiver divided).1
      (intervals env config inputs receiver divided).2 := by
  induction inputs generalizing receiver divided with
  | nil =>
      cases ran
      exact reported
  | cons input rest inductionHypothesis =>
      obtain ⟨middle, stepped, later⟩ := run_cons_ok ran
      rw [intervals, stepped]
      exact inductionHypothesis (step_reported reported stepped) later

end RtpReceiver

namespace Session

open RtpReceiver

/-- Whatever arrives, whatever the clock says and whichever sends fail, the passes that
report divide the arrivals of the run, and the server reads one loss for each report
that was sent, namely that of the arrivals since the report before it.  If the packets
of an interval arrive once each and none late, what is read is the share of its packets
that are missing. -/
theorem reports_partition (env : Environment) (config : Config) (audioSsrc : UInt32) {inputs : List Input}
    {receiver : RtpReceiver} (ran : run env config (start config) inputs = .ok receiver) :
    let divided := intervals env config inputs (start config) ([], [])
    (divided.1.map Prod.fst).flatten ++ divided.2 = arrivedNumbers receiver.log ∧
      lossesRead config.videoSsrc audioSsrc receiver.log = readings [] divided.1 ∧
      ∀ early group later, divided.1 = early ++ (group, true) :: later → group ≠ [] → group.Nodup →
        (∀ number ∈ group, base (early.map Prod.fst).flatten group < number) →
          lossesRead config.videoSsrc audioSsrc receiver.log = readings [] early ++
            UInt8.ofNat (min 255
              (((Finset.Ioc (base (early.map Prod.fst).flatten group)
                (highest ((early.map Prod.fst).flatten ++ group))) \ group.toFinset).card * 256 /
                  (highest ((early.map Prod.fst).flatten ++ group) -
                    base (early.map Prod.fst).flatten group).toNat)) ::
              readings ((early.map Prod.fst).flatten ++ group) later := by
  intro divided
  have reported : Reported config receiver divided.1 divided.2 := run_reported inputs (reported_start config) ran
  have read := reported.read audioSsrc
  refine ⟨reported.arrived, read, ?_⟩
  intro early group later split some once inTime
  rw [read, split, readings_append, List.nil_append, readings, if_pos rfl,
    lossOctet_eq_missing (List.append_ne_nil_of_right_ne_nil _ some) inTime once]
  rfl

/-- A clock that advances by 500 milliseconds with every reading. -/
def reportEnvironment : Environment where
  elapsedRealtime count := 500 * count
  sendSucceeds _ := true

/-- The second of three packets arrives last, behind the first report, which tells of the
loss of one packet in three. -/
theorem reports_partition_sample :
    ∃ after, run reportEnvironment sampleConfig (start sampleConfig) (sampleInputs [0, 2, 1]) = .ok after ∧
      arrivedNumbers after.log = [65535, 65537, 65536] ∧ lossesRead 7 8 after.log = [85, 0] := by
  obtain ⟨after, ran⟩ := run_ok reportEnvironment sampleConfig (by decide) (sampleInputs [0, 2, 1])
    (start sampleConfig) (sound_start sampleConfig) (Or.inl ⟨rfl, by decide⟩)
  have divided : intervals reportEnvironment sampleConfig (sampleInputs [0, 2, 1]) (start sampleConfig) ([], []) =
      ([([65535, 65537], true), ([65536], true)], []) := by decide +kernel
  obtain ⟨arrived, read, _⟩ := reports_partition reportEnvironment sampleConfig 8 ran
  rw [divided] at arrived read
  exact ⟨after, ran, arrived.symm, read.trans (by decide)⟩

end Session
end MetaShare
