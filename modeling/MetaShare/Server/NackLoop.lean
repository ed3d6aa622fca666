import MetaShare.Server.Wire
import MetaShare.Capture.BitrateAdaptation
import Mathlib.Algebra.BigOperators.Group.List.Basic
import Mathlib.Algebra.Order.Field.Basic
import Mathlib.Data.Rat.Cast.Order
import Mathlib.Tactic.Linarith

namespace MetaShare

open Rtp RtpServer Transitions

/-!
# The control loop

Once in a second the thread that reads RTCP turns what happened since into one
number, the pressure, and reports it to the adaptation of the bitrate: the loss
of the last receiver report, the share of packets that were asked for again, and
whether the queue was shed.  The other threads go on counting meanwhile.
-/

namespace RtpServer

def Event.isFresh : Event → Bool
  | .fresh _ => true
  | _ => false

/-- The packets that the sender has put on the wire for the first time. -/
def videoPkts (server : RtpServer) : Nat := server.log.countP Event.isFresh

/-- How often the action sheds the queue. -/
def Action.drops (config : Config) (server : RtpServer) : Action → Nat
  | .broadcastVideo _ now data ptsUsec keyframe =>
      let made := (packetize config.h265 server.videoPacker data ptsUsec).1
      if server.peerStreaming && !(server.awaitingKeyframe && !keyframe) && !made.isEmpty &&
        server.overflows now made.length then 1 else 0
  | .sendPacket paced now taken _ =>
      match server.sender with
      | .sending flight =>
          if !(!server.peerStreaming || flight.frame.generation != server.sendGeneration) &&
            !(paced && decide (now < flight.frame.deadline) && taken) then 1 else 0
      | _ => 0
  | _ => 0

end RtpServer

/-- The share of packets that were asked for, in single precision.  Products with
powers of two are exact, and rounding is monotone. -/
structure FloatQuotient where
  float : Nat → Nat → Rat
  le_float : ∀ power requested sent, 0 < sent → sent ≤ 2 ^ power * requested → 1 / 2 ^ power ≤ float requested sent
  float_le : ∀ power requested sent, 0 < sent → 2 ^ power * requested ≤ sent → float requested sent ≤ 1 / 2 ^ power

namespace NackLoop

/-- Where the thread stands: behind the clock reading that ends a second it reads
the counters one after the other. -/
inductive Position where
  | receiving
  | counting (now : Time)
  | reporting (now : Time) (pkts : Nat)
  deriving DecidableEq

/-- What was counted between two reports, and the adaptation before and after it
was told. -/
structure Window where
  now : Time
  told : Time
  requested : Nat
  sent : Nat
  drops : Nat
  lastLoss : UInt8
  lastRr : Time
  before : Pipeline
  after : Pipeline
  deriving DecidableEq

end NackLoop

/-- The server, what its threads count, and what the loop keeps.  The loss is in
256ths. -/
structure NackLoop where
  server : RtpServer
  position : NackLoop.Position
  clock : Time
  sendDrops : Nat
  lastLoss : UInt8
  lastRr : Time
  videoNackRequests : Nat
  lastSr : Time
  prevPkts : Nat
  prevDrops : Nat
  prevNacks : Nat
  pipeline : Pipeline
  windows : List NackLoop.Window

namespace NackLoop

def kReportPeriod : Time := 10 ^ 9
def kFreshReport : Time := 2 * 10 ^ 9

/-- The value of the literal `0.1f`. -/
def shedPressure : Rat := 13421773 / 134217728

def start (config : Config) (maxKbps : Int) (configured now : Time) : NackLoop where
  server := RtpServer.start config
  position := .receiving
  clock := now
  sendDrops := 0
  lastLoss := 0
  lastRr := 0
  videoNackRequests := 0
  lastSr := now
  prevPkts := 0
  prevDrops := 0
  prevNacks := 0
  pipeline := .configured maxKbps configured
  windows := []

namespace Window

/-- Whether `on_loss_report` is called. -/
def reported (window : Window) : Bool :=
  decide (window.now - window.lastRr < kFreshReport) || decide (0 < window.requested) || decide (0 < window.drops)

def pressure (quotient : FloatQuotient) (window : Window) : Rat :=
  let repairFraction := min 1 (quotient.float window.requested (max 1 window.sent))
  let pressure := max ((window.lastLoss.toNat : Rat) / 256) repairFraction
  if 0 < window.drops then max pressure shedPressure else pressure

end Window

variable (config : Config) (rounding : Pipeline.Rounding) (quotient : FloatQuotient) (maxKbps : Int)

/-- The pressure is reported, if there is reason to. -/
def Window.report (window : Window) : Window := { window with
  after :=
    if window.reported then
      (window.before.onLossReport rounding maxKbps ⟨window.told, window.pressure quotient⟩).1
    else window.before }

/-- The window that ends with a report, before its pressure is reported. -/
def window (loop : NackLoop) (now : Time) (pkts : Nat) (told : Time) : Window where
  now := now
  told := told
  requested := loop.videoNackRequests - loop.prevNacks
  sent := pkts - loop.prevPkts
  drops := loop.sendDrops - loop.prevDrops
  lastLoss := loop.lastLoss
  lastRr := loop.lastRr
  before := loop.pipeline
  after := loop.pipeline

/-- The window is reported, and the counts begin anew. -/
def close (loop : NackLoop) (now : Time) (pkts : Nat) (told : Time) : NackLoop :=
  let window := (loop.window now pkts told).report rounding quotient maxKbps
  { loop with
    position := .receiving
    clock := told
    prevNacks := loop.videoNackRequests
    prevPkts := pkts
    prevDrops := loop.sendDrops
    pipeline := window.after
    windows := loop.windows ++ [window] }

inductive Action where
  | server (action : RtpServer.Action)
  | second (now : Time)
  | count
  | report (told : Time)
  deriving DecidableEq

/-- The thread reads feedback only where it receives, and its clock never goes back. -/
def enabled (loop : NackLoop) : RtpServer.Action → Bool
  | .receiveRtcp _ _ => loop.position = .receiving
  | .handleEvent now => decide (loop.position = .receiving) && decide (loop.clock ≤ now)
  | _ => true

/-- What the thread notes for itself of the feedback. -/
def note (loop : NackLoop) : RtpServer.Action → NackLoop
  | .handleEvent now =>
      match loop.server.rtcp with
      | .retransmit true _ :: _ => { loop with clock := now, videoNackRequests := loop.videoNackRequests + 1 }
      | .fractionLost octet :: _ => { loop with clock := now, lastLoss := octet, lastRr := now }
      | _ => { loop with clock := now }
  | _ => loop

def step (loop : NackLoop) : Action → Option NackLoop
  | .server action =>
      if loop.enabled action then
        (RtpServer.step config loop.server action).map (fun server => { loop.note action with
          server := server
          sendDrops := loop.sendDrops + action.drops config loop.server })
      else none
  | .second now =>
      if loop.position = .receiving ∧ loop.server.rtcp = [] ∧ loop.clock ≤ now then
        some (
          if kReportPeriod < now - loop.lastSr then
            { loop with
              clock := now
              lastSr := now
              position := if loop.server.peerStreaming then .counting now else .receiving }
          else { loop with clock := now })
      else none
  | .count =>
      match loop.position with
      | .counting now => some { loop with position := .reporting now loop.server.videoPkts }
      | _ => none
  | .report told =>
      match loop.position with
      | .reporting now pkts =>
          if loop.clock ≤ told then some (loop.close rounding quotient maxKbps now pkts told) else none
      | _ => none

/-! ## Counting -/

section Counting

variable {config : Config} {server next : RtpServer}

theorem videoPkts_le (belongs : server.Belongs) {action : RtpServer.Action}
    (stepped : RtpServer.step config server action = some next) : server.videoPkts ≤ next.videoPkts := by
  obtain ⟨events, grown, _⟩ := sends_of_step belongs stepped
  rw [videoPkts, videoPkts, grown, List.countP_append]
  exact Nat.le_add_right _ _

theorem le_setStreamRate {kbps : Int} {generation : Nat} (least : generation ≤ server.sendGeneration) :
    generation ≤ (server.setStreamRate config kbps).sendGeneration := by
  rw [RtpServer.setStreamRate]
  split <;> exact least

theorem drops_broadcastVideo (config : Config) (started now : Time) (data : List UInt8) (ptsUsec : Int64)
    (keyframe : Bool) :
    (server.broadcastVideo config started now data ptsUsec keyframe).sendGeneration = server.sendGeneration +
      (RtpServer.Action.broadcastVideo started now data ptsUsec keyframe).drops config server := by
  have enqueued : ∀ (queue : RtpServer) (unit : VideoUnit) (number : Nat),
      (queue.enqueue unit number).sendGeneration = queue.sendGeneration := by
    intro queue unit number
    rw [enqueue]
    split <;> rfl
  have packed : ∀ packer count, { server with videoPacker := packer }.overflows now count =
      server.overflows now count :=
    fun _ _ => rfl
  rw [broadcastVideo, RtpServer.Action.drops]
  simp only
  split
  · rename_i stopped
    rw [Bool.not_eq_true'] at stopped
    rw [if_neg (by simp [stopped])]
    rfl
  rename_i streaming
  rw [Bool.not_eq_true', Bool.not_eq_false] at streaming
  split
  · rename_i closed
    rw [if_neg (by simp [closed])]
    rfl
  rename_i passes
  split
  · rename_i empty
    rw [if_neg (by simp [empty])]
    rfl
  rename_i filled
  rw [enqueued, packed]
  split
  · rename_i overflows
    rw [if_pos (by simp [streaming, passes, filled, overflows])]
    rfl
  · rename_i room
    rw [if_neg (by simp [room])]
    rfl

theorem drops_sendPacket {flight : Flight} {packet : MediaPacket} (paced : Bool) (now : Time) (taken : Bool)
    (recorded : Time) (position : server.sender = .sending flight) :
    (server.sendPacket flight packet paced now taken recorded).sendGeneration =
      server.sendGeneration + (RtpServer.Action.sendPacket paced now taken recorded).drops config server := by
  rw [sendPacket, RtpServer.Action.drops, position]
  simp only
  cases outdated : !server.peerStreaming || flight.frame.generation != server.sendGeneration
  swap
  · rfl
  cases inTime : paced && decide (now < flight.frame.deadline) && taken <;> rfl

/-- The queue is shed as often as it is counted, apart from resets. -/
theorem sendGeneration_of_step {action : RtpServer.Action}
    (stepped : RtpServer.step config server action = some next) :
    server.sendGeneration + action.drops config server ≤ next.sendGeneration := by
  cases stepped_of_step stepped with
  | accept => exact Nat.le_refl _
  | resetVideoQueue reset =>
      rw [afterReset] at reset
      split at reset <;> cases reset <;> exact Nat.le_succ _
  | message message =>
      cases kind : message.type <;> simp only [RtpServer.onMessage, kind]
      case ready =>
        rw [RtpServer.onReady]
        split
        · exact Nat.le_refl _
        simp only
        split
        · exact Nat.le_refl _
        · change server.sendGeneration ≤ (RtpServer.setStreamRate _ config _).sendGeneration
          exact le_setStreamRate (Nat.le_refl _)
      case bye =>
        change server.sendGeneration ≤ (RtpServer.setStreamRate _ config _).sendGeneration
        exact le_setStreamRate (Nat.le_refl _)
      all_goals exact Nat.le_refl _
  | hangUp =>
      change server.sendGeneration ≤ (RtpServer.setStreamRate _ config _).sendGeneration
      exact le_setStreamRate (Nat.le_refl _)
  | setPacingBitrate =>
      rw [RtpServer.setPacingBitrate]
      split
      · exact Nat.le_refl _
      · change server.sendGeneration ≤ (RtpServer.setStreamRate _ config _).sendGeneration
        exact le_setStreamRate (Nat.le_refl _)
  | broadcastVideo => exact Nat.le_of_eq (drops_broadcastVideo config _ _ _ _ _).symm
  | broadcastAudio data ptsUsec sent recorded =>
      refine Nat.le_of_eq (broadcastAudio_keeps (fun current => server.sendGeneration = current.sendGeneration) server
        data ptsUsec sent recorded ?_ ?_)
      · exact fun _ => rfl
      · exact fun _ _ _ same => same
  | takeRepair =>
      rw [RtpServer.takeRepair]
      repeat' split
      all_goals exact Nat.le_refl _
  | @sendRepair flight done repair paced now sent =>
      rcases server.sendRepair_cases flight done repair paced now sent with passed | ⟨_, _, _, left⟩
      · rw [passed]
        exact Nat.le_refl _
      · rw [left]
        exact Nat.le_refl _
  | popFrame =>
      rw [RtpServer.popFrame]
      split <;> exact Nat.le_refl _
  | sendPacket paced now taken recorded position =>
      exact Nat.le_of_eq (drops_sendPacket paced now taken recorded position).symm
  | receiveRtcp =>
      rw [RtpServer.receiveRtcp]
      split <;> exact Nat.le_refl _
  | @handleEvent event rest now =>
      cases event with
      | retransmit video seq =>
          rcases RtpServer.retransmit_cases { server with rtcp := rest } video seq now with
            same | ⟨_, _, _, _, _, _, queued⟩
          · rw [RtpServer.handleEvent, same]
            exact Nat.le_refl _
          · rw [RtpServer.handleEvent, queued]
            exact Nat.le_refl _
      | _ => exact Nat.le_refl _
  | _ => exact Nat.le_refl _

end Counting

section Steps

variable {config : Config} {rounding : Pipeline.Rounding} {quotient : FloatQuotient} {maxKbps : Int}
  {loop next : NackLoop}

/-- What the thread notes of the feedback, its clock goes on and its counters grow. -/
theorem note_cases {action : RtpServer.Action} (enabled : loop.enabled action = true) :
    ∃ clock lastLoss lastRr requests, loop.clock ≤ clock ∧ loop.videoNackRequests ≤ requests ∧
      loop.note action = { loop with
        clock := clock, lastLoss := lastLoss, lastRr := lastRr, videoNackRequests := requests } := by
  have still : ∃ clock lastLoss lastRr requests, loop.clock ≤ clock ∧ loop.videoNackRequests ≤ requests ∧
      loop = { loop with
        clock := clock, lastLoss := lastLoss, lastRr := lastRr, videoNackRequests := requests } :=
    ⟨_, _, _, _, le_refl _, Nat.le_refl _, rfl⟩
  cases action with
  | handleEvent now =>
      have later : loop.clock ≤ now := of_decide_eq_true (Bool.and_eq_true_iff.mp enabled).2
      rw [note]
      split
      · exact ⟨_, _, _, _, later, Nat.le_succ _, rfl⟩
      · exact ⟨_, _, _, _, later, Nat.le_refl _, rfl⟩
      · exact ⟨_, _, _, _, later, Nat.le_refl _, rfl⟩
  | _ => exact still

/-- While a second is reported, the thread notes nothing. -/
theorem note_of_ne {action : RtpServer.Action} (enabled : loop.enabled action = true)
    (busy : loop.position ≠ .receiving) : loop.note action = loop := by
  cases action with
  | handleEvent now => exact absurd (of_decide_eq_true (Bool.and_eq_true_iff.mp enabled).1) busy
  | _ => rfl

/-- The windows divide what is counted. -/
structure Counted (loop : NackLoop) : Prop where
  belongs : loop.server.Belongs
  shed : loop.sendDrops ≤ loop.server.sendGeneration
  requested : (loop.windows.map Window.requested).sum = loop.prevNacks
  requests : loop.prevNacks ≤ loop.videoNackRequests
  dropped : (loop.windows.map Window.drops).sum = loop.prevDrops
  drops : loop.prevDrops ≤ loop.sendDrops
  sent : (loop.windows.map Window.sent).sum = loop.prevPkts
  packets : loop.prevPkts ≤ loop.server.videoPkts
  reporting : ∀ now pkts, loop.position = .reporting now pkts →
    loop.prevPkts ≤ pkts ∧ pkts ≤ loop.server.videoPkts

theorem Counted.server (counted : loop.Counted) {action : RtpServer.Action} {server : RtpServer}
    (enabled : loop.enabled action = true) (stepped : RtpServer.step config loop.server action = some server) :
    Counted { loop.note action with
      server := server, sendDrops := loop.sendDrops + action.drops config loop.server } := by
  have grown := videoPkts_le counted.belongs stepped
  have generation := sendGeneration_of_step stepped
  have shed := counted.shed
  have drops := counted.drops
  obtain ⟨clock, lastLoss, lastRr, requests, _, more, isNote⟩ := note_cases enabled
  rw [isNote]
  refine ⟨counted.belongs.step stepped, ?_, counted.requested, counted.requests.trans more, counted.dropped, ?_,
    counted.sent, counted.packets.trans grown, ?_⟩
  · change loop.sendDrops + action.drops config loop.server ≤ server.sendGeneration
    omega
  · exact drops.trans (Nat.le_add_right _ _)
  · intro now pkts position
    obtain ⟨least, most⟩ := counted.reporting now pkts position
    exact ⟨least, most.trans grown⟩

theorem Counted.close (counted : loop.Counted) {now : Time} {pkts : Nat} (told : Time)
    (position : loop.position = .reporting now pkts) :
    (loop.close rounding quotient maxKbps now pkts told).Counted := by
  obtain ⟨least, most⟩ := counted.reporting now pkts position
  refine ⟨counted.belongs, counted.shed, ?_, Nat.le_refl _, ?_, Nat.le_refl _, ?_, most, ?_⟩
  · rw [NackLoop.close, List.map_append, List.sum_append, counted.requested]
    exact Nat.add_sub_of_le counted.requests
  · rw [NackLoop.close, List.map_append, List.sum_append, counted.dropped]
    exact Nat.add_sub_of_le counted.drops
  · rw [NackLoop.close, List.map_append, List.sum_append, counted.sent]
    exact Nat.add_sub_of_le least
  · intro now pkts impossible
    cases impossible

theorem Counted.step (counted : loop.Counted) {action : Action}
    (stepped : NackLoop.step config rounding quotient maxKbps loop action = some next) : next.Counted := by
  cases action with
  | server action =>
      obtain ⟨enabled, moved⟩ := Option.ite_none_right_eq_some.mp stepped
      obtain ⟨server, taken, rfl⟩ := Option.map_eq_some_iff.mp moved
      exact counted.server enabled taken
  | second now =>
      obtain ⟨⟨position, _, _⟩, rfl⟩ := eq_of_guarded stepped
      have quiet : ∀ position, (∀ now pkts, position ≠ .reporting now pkts) → ∀ lastSr,
          Counted { loop with clock := now, lastSr := lastSr, position := position } := by
        intro position silent lastSr
        exact ⟨counted.belongs, counted.shed, counted.requested, counted.requests, counted.dropped, counted.drops,
          counted.sent, counted.packets, fun now pkts is => absurd is (silent now pkts)⟩
      split
      · apply quiet
        split <;> exact fun _ _ => Position.noConfusion
      · have same := quiet .receiving (fun _ _ => Position.noConfusion) loop.lastSr
        rw [← position] at same
        exact same
  | count =>
      rw [NackLoop.step] at stepped
      split at stepped <;> cases stepped
      refine ⟨counted.belongs, counted.shed, counted.requested, counted.requests, counted.dropped, counted.drops,
        counted.sent, counted.packets, ?_⟩
      intro now pkts is
      cases is
      exact ⟨counted.packets, Nat.le_refl _⟩
  | report told =>
      rw [NackLoop.step] at stepped
      split at stepped
      · obtain ⟨_, rfl⟩ := eq_of_guarded stepped
        exact counted.close told ‹_›
      · cases stepped

end Steps

/-! ## Pressure -/

namespace Window

variable (window : Window)

/-- The queue was shed, a thirty-second of the packets was asked for again, or six
256ths were lost: the pressure is above the threshold. -/
def Congested : Prop :=
  0 < window.drops ∨ (0 < window.requested ∧ window.sent ≤ 2 ^ 5 * window.requested) ∨
    (window.reported = true ∧ 6 ≤ window.lastLoss.toNat)

/-- The same with a 128th of the packets, and two 256ths. -/
def Strained : Prop :=
  0 < window.drops ∨ (0 < window.requested ∧ window.sent ≤ 2 ^ 7 * window.requested) ∨
    (window.reported = true ∧ 2 ≤ window.lastLoss.toNat)

/-- The same with a 64th of the packets: otherwise the pressure is not above the
threshold. -/
def Provoked : Prop :=
  0 < window.drops ∨ (0 < window.requested ∧ window.sent < 2 ^ 6 * window.requested) ∨ 6 ≤ window.lastLoss.toNat

instance : Decidable window.Congested := inferInstanceAs (Decidable (_ ∨ _))
instance : Decidable window.Strained := inferInstanceAs (Decidable (_ ∨ _))
instance : Decidable window.Provoked := inferInstanceAs (Decidable (_ ∨ _))

def Reduces : Prop := window.after.abrKbps < window.before.abrKbps

def Raises : Prop := window.before.abrKbps < window.after.abrKbps

/-- The bitrate is cut, down to the floor at most. -/
def Cuts (rounding : Pipeline.Rounding) : Prop :=
  window.after.abrKbps = max Pipeline.kAbrMinKbps (rounding.cut window.before.abrKbps)

variable {window} {quotient : FloatQuotient}

theorem le_pressure {share : Rat}
    (share_le : share ≤ max ((window.lastLoss.toNat : Rat) / 256)
      (min 1 (quotient.float window.requested (max 1 window.sent)))) : share ≤ window.pressure quotient := by
  rw [pressure]
  split
  · exact share_le.trans (le_max_left _ _)
  · exact share_le

theorem shedPressure_le (quotient : FloatQuotient) (drops : 0 < window.drops) :
    shedPressure ≤ window.pressure quotient := by
  rw [pressure]
  simp only [if_pos drops]
  exact le_max_right _ _

theorem lastLoss_le (quotient : FloatQuotient) {lost : Nat} (least : lost ≤ window.lastLoss.toNat) :
    (lost : Rat) / 256 ≤ window.pressure quotient := by
  have cast : (lost : Rat) ≤ window.lastLoss.toNat := Nat.cast_le.mpr least
  apply le_pressure
  apply le_max_of_le_left
  linarith

theorem requested_le (quotient : FloatQuotient) {power : Nat} (asked : 0 < window.requested)
    (share : window.sent ≤ 2 ^ power * window.requested) :
    1 / 2 ^ power ≤ window.pressure quotient := by
  have positive : 1 ≤ 2 ^ power * window.requested := Nat.mul_pos (Nat.two_pow_pos power) asked
  have least := quotient.le_float power window.requested (max 1 window.sent) (Nat.le_max_left _ _)
    (max_le positive share)
  apply le_pressure
  apply le_max_of_le_right
  apply le_min _ least
  exact div_le_one_of_le₀ (one_le_pow₀ one_le_two) (by positivity)

/-- Every second of congestion is told, as more than the threshold. -/
theorem Congested.pressure (quotient : FloatQuotient) (congested : window.Congested) :
    window.reported = true ∧ Pipeline.lossy < window.pressure quotient := by
  rw [reported]
  rcases congested with drops | ⟨asked, share⟩ | ⟨told, lost⟩
  · have most := shedPressure_le quotient drops
    refine ⟨by simp [drops], lt_of_lt_of_le ?_ most⟩
    norm_num [Pipeline.lossy, shedPressure]
  · have most := requested_le quotient asked share
    refine ⟨by simp [asked], lt_of_lt_of_le ?_ most⟩
    norm_num [Pipeline.lossy]
  · have most := lastLoss_le quotient lost
    refine ⟨told, lt_of_lt_of_le ?_ most⟩
    norm_num [Pipeline.lossy]

theorem Strained.pressure (quotient : FloatQuotient) (strained : window.Strained) :
    window.reported = true ∧ Pipeline.clean ≤ window.pressure quotient := by
  rw [reported]
  rcases strained with drops | ⟨asked, share⟩ | ⟨told, lost⟩
  · have most := shedPressure_le quotient drops
    refine ⟨by simp [drops], le_trans ?_ most⟩
    norm_num [Pipeline.clean, shedPressure]
  · have most := requested_le quotient asked share
    refine ⟨by simp [asked], le_trans ?_ most⟩
    norm_num [Pipeline.clean]
  · have most := lastLoss_le quotient lost
    refine ⟨told, le_trans ?_ most⟩
    norm_num [Pipeline.clean]

/-- Nothing else makes the pressure exceed the threshold. -/
theorem provoked_of_lossy (lossy : Pipeline.lossy < window.pressure quotient) : window.Provoked := by
  by_contra calm
  obtain ⟨kept, others⟩ := not_or.mp calm
  obtain ⟨share, lost⟩ := not_or.mp others
  have few : 2 ^ 6 * window.requested ≤ max 1 window.sent := by
    rcases Nat.eq_zero_or_pos window.requested with none | asked
    · rw [none]
      exact Nat.zero_le _
    · exact (not_lt.mp (fun less => share ⟨asked, less⟩)).trans (Nat.le_max_right _ _)
  have repair := quotient.float_le 6 window.requested (max 1 window.sent) (Nat.le_max_left _ _) few
  have loss : window.lastLoss.toNat ≤ 5 := Nat.le_of_lt_succ (not_le.mp lost)
  have cast : (window.lastLoss.toNat : Rat) ≤ 5 := by exact_mod_cast loss
  rw [Window.pressure] at lossy
  simp only [if_neg kept] at lossy
  rcases lt_max_iff.mp lossy with high | high
  · rw [Pipeline.lossy] at high
    linarith
  · have above := lt_of_lt_of_le high (min_le_right _ _)
    have exceeded := lt_of_lt_of_le above repair
    norm_num [Pipeline.lossy] at exceeded

end Window

/-! ## Adaptation -/

namespace Window

/-- What becomes of a window that has come to its end. -/
inductive Tells (rounding : Pipeline.Rounding) (quotient : FloatQuotient) (maxKbps : Int) (window : Window) :
  Prop where
  | silent (quiet : window.reported = false) (same : window.after = window.before)
  | told (reported : window.reported = true)
      (next : window.after =
        (window.before.onLossReport rounding maxKbps ⟨window.told, window.pressure quotient⟩).1)

/-- What the bitrate does in a window. -/
structure Sound (maxKbps : Int) (window : Window) : Prop where
  floor : Pipeline.kAbrMinKbps ≤ window.after.abrKbps
  ceiling : window.after.abrKbps ≤ maxKbps
  silent : window.reported = false → window.after = window.before
  cautious : window.Congested → window.after.abrKbps ≤ window.before.abrKbps
  provoked : window.Reduces → window.Provoked
  gentle : window.Raises → ¬window.Strained

variable {rounding : Pipeline.Rounding} {quotient : FloatQuotient} {maxKbps : Int} {window : Window} {clock : Time}

theorem tells_report (window : Window) :
    Tells rounding quotient maxKbps (window.report rounding quotient maxKbps) := by
  cases quiet : window.reported with
  | false =>
      refine .silent quiet ?_
      rw [report, quiet]
      rfl
  | true =>
      refine .told quiet ?_
      rw [report, quiet]
      rfl

/-- A window is silent, or its pressure is reported. -/
theorem Tells.cases (tells : window.Tells rounding quotient maxKbps) :
    (window.reported = false ∧ window.after = window.before) ∨ (window.reported = true ∧
      Pipeline.Does rounding maxKbps window.before ⟨window.told, window.pressure quotient⟩ window.after) := by
  cases tells with
  | silent quiet same => exact .inl ⟨quiet, same⟩
  | told reported next =>
      rw [next]
      exact .inr ⟨reported, Pipeline.does_onLossReport rounding maxKbps _ _⟩

theorem Tells.within (tells : window.Tells rounding quotient maxKbps) (room : Pipeline.kAbrMinKbps ≤ maxKbps)
    (within : window.before.Within maxKbps clock) (later : clock ≤ window.told) :
    window.after.Within maxKbps window.told := by
  rcases tells.cases with ⟨_, same⟩ | ⟨_, does⟩
  · rw [same]
    exact ⟨within.floor, within.ceiling, within.past.trans later⟩
  · exact within.step room later does

/-- The times of the last cut and of the last strain go on. -/
theorem Tells.onward (tells : window.Tells rounding quotient maxKbps)
    (past : window.before.abrCleanSince ≤ window.told) :
    window.before.abrLastDown ≤ window.after.abrLastDown ∧
      window.before.abrCleanSince ≤ window.after.abrCleanSince := by
  rcases tells.cases with ⟨_, same⟩ | ⟨_, does⟩
  · rw [same]
    exact ⟨le_refl _, le_refl _⟩
  · exact ⟨does.lastDown, (does.cleanSince past).1⟩

theorem Tells.reduces (tells : window.Tells rounding quotient maxKbps)
    (floor : Pipeline.kAbrMinKbps ≤ window.before.abrKbps) (reduces : window.Reduces) :
    Pipeline.kAbrDownCooldown ≤ window.told - window.before.abrLastDown ∧ window.after.abrLastDown = window.told := by
  rcases tells.cases with ⟨_, same⟩ | ⟨_, does⟩
  · rw [Reduces, same] at reduces
    exact absurd reduces (lt_irrefl _)
  · exact does.reduces floor reduces

theorem Tells.raises (tells : window.Tells rounding quotient maxKbps)
    (floor : Pipeline.kAbrMinKbps ≤ window.before.abrKbps) (raises : window.Raises) :
    Pipeline.kAbrGrowAfterClean ≤ window.told - window.before.abrCleanSince ∧
      window.after.abrCleanSince = window.told := by
  rcases tells.cases with ⟨_, same⟩ | ⟨_, does⟩
  · rw [Raises, same] at raises
    exact absurd raises (lt_irrefl _)
  · exact does.raises floor raises

theorem Tells.strained (tells : window.Tells rounding quotient maxKbps) (strained : window.Strained) :
    window.after.abrCleanSince = window.told := by
  obtain ⟨must, above⟩ := strained.pressure quotient
  rcases tells.cases with ⟨quiet, _⟩ | ⟨_, does⟩
  · exact absurd (must.symm.trans quiet) Bool.noConfusion
  · exact does.unclean above

/-- The time of the last cut is that of a cut. -/
theorem Tells.lastDown (tells : window.Tells rounding quotient maxKbps) :
    window.after.abrLastDown = window.before.abrLastDown ∨
      (window.Cuts rounding ∧ window.after.abrLastDown = window.told) := by
  rcases tells.cases with ⟨_, same⟩ | ⟨_, does⟩
  · exact .inl (congrArg _ same)
  · rw [Cuts]
    generalize window.after = after at does ⊢
    cases does with
    | cut => exact .inr ⟨rfl, rfl⟩
    | _ => exact .inl rfl

/-- Congestion is answered by a cut, as soon as the last one is long enough ago. -/
theorem Tells.congested (tells : window.Tells rounding quotient maxKbps) (congested : window.Congested) :
    window.told - window.after.abrLastDown < Pipeline.kAbrDownCooldown := by
  obtain ⟨must, above⟩ := congested.pressure quotient
  cases tells with
  | silent quiet => exact absurd (must.symm.trans quiet) Bool.noConfusion
  | told reported next =>
      rw [next]
      exact @Pipeline.cool_of_lossy rounding maxKbps window.before ⟨window.told, window.pressure quotient⟩ above

theorem Tells.sound (tells : window.Tells rounding quotient maxKbps) (room : Pipeline.kAbrMinKbps ≤ maxKbps)
    (within : window.before.Within maxKbps clock) (later : clock ≤ window.told) : window.Sound maxKbps := by
  have stays := tells.within room within later
  rcases tells.cases with ⟨quiet, same⟩ | ⟨reported, does⟩
  · have still : window.after.abrKbps = window.before.abrKbps := congrArg _ same
    refine ⟨stays.floor, stays.ceiling, fun _ => same, fun _ => le_of_eq still, ?_, ?_⟩
    · exact fun reduces => absurd still (ne_of_lt reduces)
    · exact fun raises => absurd still.symm (ne_of_lt raises)
  · refine ⟨stays.floor, stays.ceiling, ?_, ?_, ?_, ?_⟩
    · exact fun quiet => absurd (reported.symm.trans quiet) Bool.noConfusion
    · exact fun congested => does.cautious (congested.pressure quotient).2 within.floor
    · exact fun reduces => provoked_of_lossy (does.lossy_of_reduces within.floor reduces)
    · intro raises strained
      exact absurd (does.quiet_of_raises within.floor raises) (not_lt.mpr (strained.pressure quotient).2)

end Window

/-- Each window begins with the adaptation that the one before it has left. -/
def Chained : Pipeline → List Window → Pipeline → Prop
  | first, [], last => first = last
  | first, window :: rest, last => window.before = first ∧ Chained window.after rest last

theorem Chained.concat {first last : Pipeline} {windows : List Window} {window : Window}
    (chained : Chained first windows last) (before : window.before = last) :
    Chained first (windows ++ [window]) window.after := by
  induction windows generalizing first with
  | nil =>
      cases chained
      exact ⟨before, rfl⟩
  | cons head rest inductionHypothesis => exact ⟨chained.1, inductionHypothesis chained.2⟩

/-- The bitrate answers congestion by cuts, which are not too close, and is raised
only when there was no strain for long. -/
structure Adapts (rounding : Pipeline.Rounding) (maxKbps configured : Int) (windows : List Window) : Prop where
  sound : ∀ window ∈ windows, window.Sound maxKbps
  apart : windows.Pairwise fun earlier later =>
    earlier.told ≤ later.now ∧ kReportPeriod < later.now - earlier.now
  responsive : ∀ window ∈ windows, window.Congested →
    window.told - configured < Pipeline.kAbrDownCooldown ∨
      ∃ cut ∈ windows, cut.Cuts rounding ∧ cut.told ≤ window.told ∧
        window.told - cut.told < Pipeline.kAbrDownCooldown
  spaced : windows.Pairwise fun earlier later =>
    earlier.Reduces → later.Reduces → Pipeline.kAbrDownCooldown ≤ later.told - earlier.told
  patient : windows.Pairwise fun earlier later =>
    earlier.Raises ∨ earlier.Strained → later.Raises →
      Pipeline.kAbrGrowAfterClean ≤ later.told - earlier.told

/-- What a window leaves behind for those after it. -/
structure Window.Settled (loop : NackLoop) (window : Window) : Prop where
  past : window.now ≤ loop.lastSr
  told : window.told ≤ loop.clock
  reduced : window.Reduces → window.told ≤ loop.pipeline.abrLastDown
  restless : window.Raises ∨ window.Strained → window.told ≤ loop.pipeline.abrCleanSince

/-- The clock reading of a second that has not been reported. -/
def Position.ends : Position → Option Time
  | .receiving => none
  | .counting now => some now
  | .reporting now _ => some now

/-- What the loop keeps of the adaptation. -/
structure Steady (rounding : Pipeline.Rounding) (maxKbps configured : Int) (loop : NackLoop) : Prop where
  clocked : loop.lastSr ≤ loop.clock
  pending : ∀ now, loop.position.ends = some now → now = loop.lastSr ∧ now = loop.clock ∧
    ∀ window ∈ loop.windows, window.told ≤ now ∧ kReportPeriod < now - window.now
  within : loop.pipeline.Within maxKbps loop.clock
  settled : ∀ window ∈ loop.windows, window.Settled loop
  lastDown : loop.pipeline.abrLastDown = configured ∨
    ∃ cut ∈ loop.windows, cut.Cuts rounding ∧ cut.told = loop.pipeline.abrLastDown
  chained : Chained (.configured maxKbps configured) loop.windows loop.pipeline
  adapts : Adapts rounding maxKbps configured loop.windows

section Runs

variable {config : Config} {rounding : Pipeline.Rounding} {quotient : FloatQuotient} {maxKbps configured : Int}
  {loop next : NackLoop}

/-- Nothing of the adaptation changes while the clock goes on. -/
theorem Steady.onward (steady : loop.Steady rounding maxKbps configured)
    (windows : next.windows = loop.windows) (pipeline : next.pipeline = loop.pipeline)
    (past : loop.lastSr ≤ next.lastSr) (clocked : next.lastSr ≤ next.clock) (later : loop.clock ≤ next.clock)
    (pending : ∀ now, next.position.ends = some now → now = next.lastSr ∧ now = next.clock ∧
      ∀ window ∈ loop.windows, window.told ≤ now ∧ kReportPeriod < now - window.now) :
    next.Steady rounding maxKbps configured := by
  have within := steady.within
  refine ⟨clocked, ?_, ?_, ?_, ?_, ?_, ?_⟩
  · rw [windows]
    exact pending
  · rw [pipeline]
    exact ⟨within.floor, within.ceiling, within.past.trans later⟩
  · intro window member
    rw [windows] at member
    have settled := steady.settled window member
    refine ⟨settled.past.trans past, settled.told.trans later, ?_, ?_⟩
    · rw [pipeline]
      exact settled.reduced
    · rw [pipeline]
      exact settled.restless
  · rw [windows, pipeline]
    exact steady.lastDown
  · rw [windows, pipeline]
    exact steady.chained
  · rw [windows]
    exact steady.adapts

theorem Steady.concat {window : Window}
    (steady : loop.Steady rounding maxKbps configured) (sound : window.Sound maxKbps)
    (tells : window.Tells rounding quotient maxKbps) (before : window.before = loop.pipeline)
    (later : loop.clock ≤ window.told)
    (ends : ∀ earlier ∈ loop.windows, earlier.told ≤ window.now ∧ kReportPeriod < window.now - earlier.now) :
    Adapts rounding maxKbps configured (loop.windows ++ [window]) := by
  have adapts := steady.adapts
  have floor : Pipeline.kAbrMinKbps ≤ window.before.abrKbps := before ▸ steady.within.floor
  have last : ∀ {relation : Window → Window → Prop}, loop.windows.Pairwise relation →
      (∀ earlier ∈ loop.windows, relation earlier window) → (loop.windows ++ [window]).Pairwise relation := by
    intro relation old new
    refine List.pairwise_append.mpr ⟨old, List.pairwise_singleton _ _, ?_⟩
    intro earlier member only is
    rw [List.mem_singleton.mp is]
    exact new earlier member
  refine ⟨?_, last adapts.apart ends, ?_, last adapts.spaced ?_, last adapts.patient ?_⟩
  · exact List.forall_mem_append.mpr ⟨adapts.sound, List.forall_mem_singleton.mpr sound⟩
  · refine List.forall_mem_append.mpr ⟨?_, ?_⟩
    · intro earlier member congested
      rcases adapts.responsive earlier member congested with early | ⟨cut, among, cuts, first, soon⟩
      · exact .inl early
      · exact .inr ⟨cut, List.mem_append_left _ among, cuts, first, soon⟩
    · refine List.forall_mem_singleton.mpr ?_
      intro congested
      have cool := tells.congested congested
      rcases tells.lastDown with same | ⟨cuts, now⟩
      · rw [same, before] at cool
        rcases steady.lastDown with first | ⟨cut, among, cuts, at_⟩
        · exact .inl (first ▸ cool)
        · have told := (steady.settled cut among).told
          exact .inr ⟨cut, List.mem_append_left _ among, cuts, told.trans later, at_ ▸ cool⟩
      · rw [now] at cool
        exact .inr ⟨window, List.mem_append_right _ List.mem_cons_self, cuts, le_refl _, cool⟩
  · intro earlier member reduced reduces
    have waited := (tells.reduces floor reduces).1
    rw [before] at waited
    exact waited.trans (Int.sub_le_sub_left ((steady.settled earlier member).reduced reduced) _)
  · intro earlier member restless raises
    have waited := (tells.raises floor raises).1
    rw [before] at waited
    exact waited.trans (Int.sub_le_sub_left ((steady.settled earlier member).restless restless) _)

theorem Steady.close (steady : loop.Steady rounding maxKbps configured)
    (room : Pipeline.kAbrMinKbps ≤ maxKbps) {now told : Time} {pkts : Nat}
    (position : loop.position = .reporting now pkts) (later : loop.clock ≤ told) :
    (loop.close rounding quotient maxKbps now pkts told).Steady rounding maxKbps configured := by
  obtain ⟨isLast, isClock, ends⟩ := steady.pending now (congrArg Position.ends position)
  have tells : Window.Tells rounding quotient maxKbps
      ((loop.window now pkts told).report rounding quotient maxKbps) :=
    Window.tells_report _
  have onward := tells.onward (steady.within.past.trans later)
  have floor := steady.within.floor
  refine ⟨steady.clocked.trans later, ?_, tells.within room steady.within later, ?_, ?_, ?_, ?_⟩
  · exact fun _ impossible => absurd impossible (Option.not_mem_none _)
  · refine List.forall_mem_append.mpr ⟨?_, List.forall_mem_singleton.mpr ?_⟩
    · intro earlier member
      have settled := steady.settled earlier member
      refine ⟨settled.past, settled.told.trans later, ?_, ?_⟩
      · exact fun reduces => (settled.reduced reduces).trans onward.1
      · exact fun restless => (settled.restless restless).trans onward.2
    · refine ⟨le_of_eq isLast, le_refl _, ?_, ?_⟩
      · exact fun reduces => (tells.reduces floor reduces).2.symm.le
      · rintro (raises | strained)
        · exact (tells.raises floor raises).2.symm.le
        · exact (tells.strained strained).symm.le
  · rcases tells.lastDown with same | ⟨cuts, now⟩
    · rcases steady.lastDown with first | ⟨cut, among, cuts, last⟩
      · exact .inl (same.trans first)
      · exact .inr ⟨cut, List.mem_append_left _ among, cuts, last.trans same.symm⟩
    · exact .inr ⟨_, List.mem_append_right _ List.mem_cons_self, cuts, now.symm⟩
  · exact steady.chained.concat rfl
  · exact steady.concat (tells.sound room steady.within later) tells rfl later ends

theorem Steady.step (steady : loop.Steady rounding maxKbps configured) (room : Pipeline.kAbrMinKbps ≤ maxKbps)
    {action : Action} (stepped : NackLoop.step config rounding quotient maxKbps loop action = some next) :
    next.Steady rounding maxKbps configured := by
  cases action with
  | server action =>
      obtain ⟨enabled, moved⟩ := Option.ite_none_right_eq_some.mp stepped
      obtain ⟨server, taken, rfl⟩ := Option.map_eq_some_iff.mp moved
      obtain ⟨clock, lastLoss, lastRr, requests, later, _, isNote⟩ := note_cases enabled
      by_cases receiving : loop.position = .receiving
      · rw [isNote]
        refine steady.onward rfl rfl (le_refl _) (steady.clocked.trans later) later ?_
        intro now impossible
        rw [receiving] at impossible
        exact absurd impossible (Option.not_mem_none _)
      · rw [note_of_ne enabled receiving]
        exact steady.onward rfl rfl (le_refl _) steady.clocked (le_refl _) steady.pending
  | second now =>
      obtain ⟨⟨position, _, later⟩, rfl⟩ := eq_of_guarded stepped
      have silent : ∀ {now' : Time}, Position.receiving.ends ≠ some now' := fun impossible =>
        Option.not_mem_none _ impossible
      split
      · rename_i period
        refine steady.onward rfl rfl (steady.clocked.trans later) (le_refl _) later ?_
        intro ends is
        split at is
        · cases is
          refine ⟨rfl, rfl, ?_⟩
          intro window member
          have settled := steady.settled window member
          exact ⟨settled.told.trans later, period.trans_le (Int.sub_le_sub_left settled.past _)⟩
        · exact absurd is silent
      · refine steady.onward rfl rfl (le_refl _) (steady.clocked.trans later) later ?_
        intro ends is
        rw [position] at is
        exact absurd is silent
  | count =>
      rw [NackLoop.step] at stepped
      split at stepped <;> cases stepped
      rename_i now position
      refine steady.onward rfl rfl (le_refl _) steady.clocked (le_refl _) ?_
      intro other is
      cases is
      exact steady.pending now (congrArg Position.ends position)
  | report told =>
      rw [NackLoop.step] at stepped
      split at stepped
      · obtain ⟨later, rfl⟩ := eq_of_guarded stepped
        exact steady.close room ‹_› later
      · cases stepped

end Runs

/-- Three in sixteen are lost. -/
def sampleReport : List UInt8 := [0x81, 201, 0, 7, 0, 0, 0, 1, 0, 0, 0, 7, 48] ++ List.replicate 19 0

def sampleLoss : List Action :=
  sampleReady.map Action.server ++
    [.server (.receiveRtcp sampleReport ⟨AF_INET, 0xC0A80001, 5004⟩), .server (.handleEvent 1900000000),
      .second 2000000000, .count, .report 2000001000]

end NackLoop
end MetaShare
