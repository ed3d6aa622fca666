import Mathlib.Algebra.Group.Action.Defs
import Mathlib.Algebra.Order.Archimedean.Basic
import MetaShare.Rtp.AnnexB
import MetaShare.Server.Backlog

namespace MetaShare

open Rtp Transitions RtpServer

/-!
# Every packet in time

No frame that waits is late, so a frame whose deadline has come has passed,
unless the queue grew too long and was shed.  And the sender always comes to the
end of its queue.
-/

namespace PacedServer

variable {config : Config} {kbps : Int} {state next : PacedServer}

/-! ## What becomes of a frame -/

/-- `consume` has let the packet of the frame pass. -/
def Passed (answers : List Answer) (frame : VideoFrame) (index : Nat) : Prop :=
  ∃ answer ∈ answers, answer.flight = ⟨frame, index⟩

/-- As long as the queue is not shed, the frame is queued, in hand, or its packets
have passed. -/
structure Followed (frame : VideoFrame) (state : PacedServer) : Prop where
  since : frame.generation ≤ state.server.sendGeneration
  place : frame.generation = state.server.sendGeneration →
    frame ∈ state.server.sendQ ∨
    (∃ next, state.server.sender.flight = some ⟨frame, next⟩ ∧
      ∀ index < next + state.waiting.passed, Passed state.answers frame index) ∨
    ∀ index < frame.packets.length, Passed state.answers frame index

theorem Passed.grow {answers more : List Answer} {frame : VideoFrame} {index : Nat}
    (passed : Passed answers frame index) : Passed (answers ++ more) frame index := by
  obtain ⟨answer, member, same⟩ := passed
  exact ⟨answer, List.mem_append_left _ member, same⟩

theorem followed_of_queued (sound : state.Sound kbps) {frame : VideoFrame} (queued : frame ∈ state.server.sendQ) :
    Followed frame state where
  since := le_of_eq (sound.placed.current frame queued)
  place := fun _ => Or.inl queued

/-- The next packet of the frame is in hand, or the frame is done with. -/
theorem place_continueWith {flight : Flight} {frame : VideoFrame} {answers : List Answer}
    (isFrame : flight.frame = frame) (passed : ∀ index < flight.next, Passed answers frame index) :
    (∃ next, (continueWith flight).flight = some ⟨frame, next⟩ ∧ ∀ index < next + 0, Passed answers frame index) ∨
      ∀ index < frame.packets.length, Passed answers frame index := by
  rw [continueWith]
  split
  · left
    refine ⟨flight.next, ?_, passed⟩
    rw [← isFrame]
    rfl
  · rename_i done
    right
    intro index inside
    rw [isFrame] at done
    exact passed index (by omega)

theorem Followed.turn {frame : VideoFrame} (followed : Followed frame state) (sound : state.Sound kbps)
    (turned : state.turn config = some next) : Followed frame next := by
  cases sound.turns turned with
  | move sender outside same position =>
      refine ⟨followed.since, fun isCurrent => ?_⟩
      rcases followed.place isCurrent with queued | ⟨index, held, passed⟩ | done
      · exact Or.inl queued
      · rw [outside] at passed
        exact Or.inr (Or.inl ⟨index, same.trans held, passed⟩)
      · exact Or.inr (Or.inr done)
  | pop first rest queue free outside queuedPackets =>
      refine ⟨followed.since, fun isCurrent => ?_⟩
      rcases followed.place isCurrent with queued | ⟨index, held, passed⟩ | done
      · rw [queue] at queued
        rcases List.mem_cons.mp queued with isFirst | later
        · right
          refine place_continueWith isFirst.symm (fun index impossible => ?_)
          exact absurd impossible (Nat.not_lt_zero _)
        · exact Or.inl later
      · cases free.symm.trans held
      · exact Or.inr (Or.inr done)
  | consume flight packet position found unanswered =>
      have consumed := sound.consumed packet position
      generalize state.consume flight packet = next at consumed
      cases consumed with
      | granted enough =>
          refine ⟨followed.since, fun isCurrent => ?_⟩
          rcases followed.place isCurrent with queued | ⟨index, held, passed⟩ | done
          · exact Or.inl queued
          · right
            left
            rw [unanswered] at passed
            refine ⟨index, held, fun other inside => ?_⟩
            rcases Nat.lt_or_eq_of_le (Nat.lt_succ_iff.mp inside) with before | isLast
            · exact (passed other before).grow
            · rw [position] at held
              cases held
              rw [isLast]
              exact ⟨_, List.mem_append_right _ List.mem_cons_self, rfl⟩
          · exact Or.inr (Or.inr (fun index inside => (done index inside).grow))
      | asleep wakeAt tooFew isWake =>
          refine ⟨followed.since, fun isCurrent => ?_⟩
          rcases followed.place isCurrent with queued | ⟨index, held, passed⟩ | done
          · exact Or.inl queued
          · rw [unanswered] at passed
            exact Or.inr (Or.inl ⟨index, held, passed⟩)
          · exact Or.inr (Or.inr done)
  | cancel flight position outdated =>
      refine ⟨followed.since, fun isCurrent => ?_⟩
      rcases followed.place isCurrent with queued | ⟨index, held, passed⟩ | done
      · exact Or.inl queued
      · rw [position] at held
        cases held
        exact absurd isCurrent outdated
      · exact Or.inr (Or.inr done)
  | send flight position paced returned retx event =>
      refine ⟨followed.since, fun isCurrent => ?_⟩
      rcases followed.place isCurrent with queued | ⟨index, held, passed⟩ | done
      · exact Or.inl queued
      · right
        rw [position] at held
        cases held
        rw [returned] at passed
        exact place_continueWith rfl passed
      · exact Or.inr (Or.inr done)

theorem Followed.step {frame : VideoFrame} (followed : Followed frame state) (sound : state.Sound kbps)
    {action : Action} (stepped : state.step config action = some next) : Followed frame next := by
  cases action with
  | push data ptsUsec keyframe =>
      cases stepped
      obtain ⟨kept, entered, entering⟩ :=
        entering_broadcastVideo config state.server (reading state.clock) data ptsUsec keyframe
      have since := followed.since
      rcases entering.kept with ⟨isKept, generation⟩ | ⟨_, generation, _⟩
      · refine ⟨since.trans (le_of_eq generation.symm), fun isCurrent => ?_⟩
        rcases followed.place (isCurrent.trans generation) with queued | ⟨index, held, passed⟩ | done
        · left
          change frame ∈ (state.server.broadcastVideo config _ _ data ptsUsec keyframe).sendQ
          rw [entering.queue, isKept]
          exact List.mem_append_left _ queued
        · refine Or.inr (Or.inl ⟨index, ?_, passed⟩)
          exact (congrArg Sender.flight entering.sender).trans held
        · exact Or.inr (Or.inr done)
      · have newer : state.server.sendGeneration + 1 =
            (state.push config data ptsUsec keyframe).server.sendGeneration := generation.symm
        refine ⟨by omega, fun isCurrent => ?_⟩
        omega
  | captureRequest =>
      obtain ⟨server, requested, rfl⟩ := Option.map_eq_some_iff.mp stepped
      cases stepped_of_step requested
      exact ⟨followed.since, followed.place⟩
  | turn => exact followed.turn sound stepped
  | elapse duration =>
      obtain ⟨_, rfl⟩ := eq_of_guarded stepped
      exact ⟨followed.since, followed.place⟩

/-! ## What is shed -/

/-- A call of `broadcast_video` with more packets than the queue may hold. -/
def ShedsForRoom (config : Config) (state : PacedServer) (action : Action) : Prop :=
  ∃ data ptsUsec keyframe, action = .push data ptsUsec keyframe ∧
    kMaxQueuedPackets < state.server.queuedPackets + (made config state.server data ptsUsec keyframe).length

theorem generation_turn (sound : state.Sound kbps) (turned : state.turn config = some next) :
    next.server.sendGeneration = state.server.sendGeneration := by
  cases sound.turns turned with
  | consume flight packet position found unanswered =>
      have consumed := sound.consumed packet position
      generalize state.consume flight packet = next at consumed
      cases consumed <;> rfl
  | _ => rfl

/-- The queue is never shed because of a frame that is late. -/
theorem Sound.sheds_for_room (sound : state.Sound kbps) {action : Action}
    (stepped : state.step config action = some next)
    (shed : next.server.sendGeneration ≠ state.server.sendGeneration) : ShedsForRoom config state action := by
  cases action with
  | push data ptsUsec keyframe =>
      cases stepped
      obtain ⟨kept, entered, entering⟩ :=
        entering_broadcastVideo config state.server (reading state.clock) data ptsUsec keyframe
      rcases entering.kept with ⟨_, generation⟩ | ⟨_, _, overflows⟩
      · exact absurd generation shed
      · refine ⟨data, ptsUsec, keyframe, rfl, ?_⟩
        rw [RtpServer.overflows, Bool.or_eq_true, decide_eq_true_eq] at overflows
        rcases overflows with expired | full
        · obtain ⟨front, isFront, late⟩ := (Option.any_eq_true _ _).mp expired
          have inTime := reading_lt_iff.mpr (sound.queue_in_time (List.mem_of_mem_head? isFront))
          exact absurd (of_decide_eq_true late) (not_le.mpr inTime)
        · exact full
  | captureRequest =>
      obtain ⟨server, requested, rfl⟩ := Option.map_eq_some_iff.mp stepped
      cases stepped_of_step requested
      exact absurd rfl shed
  | turn => exact absurd (generation_turn sound stepped) shed
  | elapse duration =>
      obtain ⟨_, rfl⟩ := eq_of_guarded stepped
      exact absurd rfl shed

/-! ## The sender alone -/

/-- The sender goes on and time passes, but nothing is pushed. -/
def Action.Alone : Action → Prop
  | .turn => True
  | .elapse _ => True
  | _ => False

/-- The state is reached by the sender alone. -/
def Reaches (config : Config) (state next : PacedServer) : Prop :=
  ∃ actions : List Action, (∀ action ∈ actions, action.Alone) ∧ run (step config) state actions = some next

theorem Reaches.refl (state : PacedServer) : Reaches config state state :=
  ⟨[], List.forall_mem_nil _, rfl⟩

theorem Reaches.trans {middle : PacedServer} (early : Reaches config state middle)
    (late : Reaches config middle next) :
    Reaches config state next := by
  obtain ⟨before, alone, ran⟩ := early
  obtain ⟨after, alone', ran'⟩ := late
  refine ⟨before ++ after, ?_, run_append_iff.mpr ⟨middle, ran, ran'⟩⟩
  intro action member
  exact (List.mem_append.mp member).elim (alone action) (alone' action)

theorem reaches_of_step {action : Action} (alone : action.Alone) (stepped : state.step config action = some next) :
    Reaches config state next := by
  refine ⟨[action], ?_, run_cons_iff.mpr ⟨next, stepped, rfl⟩⟩
  intro other member
  rw [List.mem_singleton.mp member]
  exact alone

theorem reaches_of_turn (turned : state.turn config = some next) : Reaches config state next := by
  have alone : Action.turn.Alone := trivial
  exact reaches_of_step alone turned

/-- The promise of the encoder is about pushes only, so it goes on. -/
theorem Sound.reaches (sound : state.Sound kbps) (conforms : Conforms kbps state.pushes)
    (reaches : Reaches config state next) : next.Sound kbps ∧ next.pushes = state.pushes := by
  obtain ⟨actions, alone, ran⟩ := reaches
  induction actions generalizing state with
  | nil =>
      cases ran
      exact ⟨sound, rfl⟩
  | cons action rest inductionHypothesis =>
      obtain ⟨middle, stepped, later⟩ := run_cons_iff.mp ran
      have own := alone action List.mem_cons_self
      have same : middle.pushes = state.pushes := by
        cases action with
        | turn => exact pushes_turn stepped
        | elapse duration =>
            obtain ⟨_, rfl⟩ := eq_of_guarded stepped
            rfl
        | push data ptsUsec keyframe => exact own.elim
        | captureRequest => exact own.elim
      rw [← same] at conforms ⊢
      exact inductionHypothesis (sound.step stepped conforms) conforms
        (fun other member => alone other (List.mem_cons_of_mem _ member)) later

/-- The sender is about to go through the loop of `consume`. -/
def Ready (state : PacedServer) : Prop :=
  state.waiting = .outside ∨ state.waiting = .asleep state.clock

theorem Ready.turn (ready : state.Ready) {flight : Flight} {packet : MediaPacket}
    (sending : state.server.sender = .sending flight) (found : flight.frame.packets[flight.next]? = some packet) :
    state.turn config = some (state.consume flight packet) := by
  rw [PacedServer.turn, sending]
  dsimp only
  rw [found]
  rcases ready with outside | awake
  · rw [outside]
  · rw [awake]
    exact if_pos (le_refl _)

/-- When a sleep is over, the tokens are there or have grown by a slice's worth. -/
theorem level_awake {bucket : Pacer.Bucket} {now wakeAt len : Rat} (paced : 0 < bucket.rateBytesPerSec)
    (small : len ≤ bucket.burstBytes) (looked : bucket.lastRefill = now)
    (isWake : wakeAt = now + min ((len - bucket.tokens) / bucket.rateBytesPerSec) (1 / 500)) :
    len ≤ (bucket.refill wakeAt).tokens ∨
      (bucket.refill wakeAt).tokens = bucket.tokens + bucket.rateBytesPerSec / 500 := by
  have few : bucket.tokens + (wakeAt - bucket.lastRefill) * bucket.rateBytesPerSec ≤ bucket.burstBytes := by
    rw [looked]
    exact (few_tokens paced isWake).trans small
  have level : (bucket.refill wakeAt).tokens =
      bucket.tokens + (wakeAt - bucket.lastRefill) * bucket.rateBytesPerSec := min_eq_right few
  rw [level, looked, isWake, add_sub_cancel_left]
  rcases min_choice ((len - bucket.tokens) / bucket.rateBytesPerSec) (1 / 500) with whole | slice
  · left
    rw [whole, div_mul_cancel₀ _ (ne_of_gt paced)]
    linarith
  · right
    rw [slice]
    ring

/-- A pass through the loop and the sleep behind it. -/
theorem Sound.pass (sound : state.Sound kbps) (config : Config) (conforms : Conforms kbps state.pushes)
    (ready : state.Ready)
    {flight : Flight} {packet : MediaPacket} (sending : state.server.sender = .sending flight)
    (found : flight.frame.packets[flight.next]? = some packet) :
    (∃ granted, Reaches config state granted ∧ granted.waiting = .returned true ∧ granted.server = state.server) ∨
    (state.bucket.refill state.clock).tokens < packet.bytes.length ∧
      ∃ awake, Reaches config state awake ∧ awake.Ready ∧ awake.server = state.server ∧
        awake.bucket.rateBytesPerSec = state.bucket.rateBytesPerSec ∧
        ((packet.bytes.length : Rat) ≤ (awake.bucket.refill awake.clock).tokens ∨
          (awake.bucket.refill awake.clock).tokens =
            (state.bucket.refill state.clock).tokens + state.bucket.rateBytesPerSec / 500) := by
  have turned : state.turn config = some (state.consume flight packet) := ready.turn sending found
  have reached := (sound.reaches conforms (reaches_of_turn turned)).1
  have consumed := sound.consumed packet sending
  generalize state.consume flight packet = next at consumed turned reached
  cases consumed with
  | granted enough => exact Or.inl ⟨_, reaches_of_turn turned, rfl, rfl⟩
  | asleep wakeAt tooFew isWake =>
      have later : state.clock ≤ wakeAt := (reached.asleep wakeAt rfl).1
      have small : (packet.bytes.length : Rat) ≤ 32768 := by
        have inHand : flight.frame ∈ state.server.frames := by
          rw [frames, sending]
          exact List.mem_cons_self
        exact_mod_cast sound.placed.small _ inHand packet (List.mem_of_getElem? found)
      let asleep : PacedServer := { state with bucket := state.bucket.refill state.clock, waiting := .asleep wakeAt }
      have slept : asleep.step config (.elapse (wakeAt - state.clock)) = some { asleep with clock := wakeAt } := by
        have sum : state.clock + (wakeAt - state.clock) = wakeAt := by ring
        have rests : asleep.restsUntil (asleep.clock + (wakeAt - state.clock)) = true := by
          change decide (state.clock + (wakeAt - state.clock) ≤ wakeAt) = true
          rw [sum, decide_eq_true (le_refl _)]
        rw [PacedServer.step, if_pos ⟨sub_nonneg.mpr later, rests⟩]
        change some { asleep with clock := state.clock + (wakeAt - state.clock) } =
          some { asleep with clock := wakeAt }
        rw [sum]
      have alone : (Action.elapse (wakeAt - state.clock)).Alone := trivial
      have awake : Reaches config state { asleep with clock := wakeAt } :=
        (reaches_of_turn turned).trans (reaches_of_step alone slept)
      exact Or.inr ⟨tooFew, _, awake, Or.inr rfl, rfl, rfl,
        level_awake reached.positive (small.trans sound.burst) rfl isWake⟩

/-- After so many slices the packet in hand is granted. -/
theorem Sound.granted_within (sound : state.Sound kbps) (config : Config)
    (conforms : Conforms kbps state.pushes) (ready : state.Ready)
    {flight : Flight} {packet : MediaPacket} (sending : state.server.sender = .sending flight)
    (found : flight.frame.packets[flight.next]? = some packet) (slices : Nat)
    (within : (packet.bytes.length : Rat) - (state.bucket.refill state.clock).tokens ≤
      slices * (state.bucket.rateBytesPerSec / 500)) :
    ∃ granted, Reaches config state granted ∧ granted.waiting = .returned true ∧ granted.server = state.server := by
  induction slices generalizing state with
  | zero =>
      rcases sound.pass config conforms ready sending found with granted | ⟨tooFew, _⟩
      · exact granted
      · rw [Nat.cast_zero, zero_mul] at within
        exact absurd tooFew (not_lt.mpr (sub_nonpos.mp within))
  | succ slices inductionHypothesis =>
      rcases sound.pass config conforms ready sending found with
        granted | ⟨_, awake, reaches, ready, same, rate, grown⟩
      · exact granted
      · obtain ⟨soundAwake, pushes⟩ := sound.reaches conforms reaches
        have slice : 0 ≤ state.bucket.rateBytesPerSec / 500 := div_nonneg (le_of_lt sound.positive) (by norm_num)
        have rest : (packet.bytes.length : Rat) - (awake.bucket.refill awake.clock).tokens ≤
            slices * (awake.bucket.rateBytesPerSec / 500) := by
          rw [rate]
          rcases grown with enough | more
          · exact (sub_nonpos.mpr enough).trans (mul_nonneg (Nat.cast_nonneg _) slice)
          · rw [Nat.cast_succ] at within
            rw [more]
            linarith
        obtain ⟨granted, later, returned, isSame⟩ := inductionHypothesis soundAwake (pushes ▸ conforms) ready
          (same ▸ sending) rest
        exact ⟨granted, reaches.trans later, returned, isSame.trans same⟩

/-- The packet in hand is granted, wherever the sender stands in `consume`. -/
theorem Sound.granted (sound : state.Sound kbps) (config : Config) (conforms : Conforms kbps state.pushes)
    {flight : Flight} (sending : state.server.sender = .sending flight) :
    ∃ granted, Reaches config state granted ∧ granted.waiting = .returned true ∧ granted.server = state.server := by
  have inside := sound.placed.position
  rw [sending] at inside
  have found : flight.frame.packets[flight.next]? = some flight.frame.packets[flight.next] :=
    List.getElem?_eq_getElem inside
  have fromReady : ∀ {ready : PacedServer}, ready.Sound kbps → Conforms kbps ready.pushes → ready.Ready →
      ready.server = state.server →
      ∃ granted, Reaches config ready granted ∧ granted.waiting = .returned true ∧ granted.server = state.server := by
    intro ready soundReady conforms isReady same
    have slice : 0 < ready.bucket.rateBytesPerSec / 500 := div_pos soundReady.positive (by norm_num)
    obtain ⟨slices, enough⟩ := exists_nat_ge ((((flight.frame.packets[flight.next].bytes.length : Nat) : Rat) -
      (ready.bucket.refill ready.clock).tokens) / (ready.bucket.rateBytesPerSec / 500))
    obtain ⟨granted, reaches, returned, isSame⟩ := soundReady.granted_within config conforms isReady
      (same ▸ sending) found slices ((div_le_iff₀ slice).mp enough)
    exact ⟨granted, reaches, returned, isSame.trans same⟩
  cases isWaiting : state.waiting with
  | outside => exact fromReady sound conforms (Or.inl isWaiting) rfl
  | asleep wakeAt =>
      have forward := (sound.asleep wakeAt isWaiting).1
      have slept : state.step config (.elapse (wakeAt - state.clock)) = some { state with clock := wakeAt } := by
        have sum : state.clock + (wakeAt - state.clock) = wakeAt := by ring
        have rests : state.restsUntil (state.clock + (wakeAt - state.clock)) = true := by
          rw [restsUntil, isWaiting, sum]
          exact decide_eq_true (le_refl _)
        rw [PacedServer.step, if_pos ⟨sub_nonneg.mpr forward, rests⟩, sum]
      have alone : (Action.elapse (wakeAt - state.clock)).Alone := trivial
      have reaches := reaches_of_step alone slept
      obtain ⟨soundAwake, pushes⟩ := sound.reaches conforms reaches
      obtain ⟨granted, later, returned, same⟩ := fromReady soundAwake conforms (Or.inr isWaiting) rfl
      exact ⟨granted, reaches.trans later, returned, same⟩
  | returned paced =>
      refine ⟨state, .refl state, ?_, rfl⟩
      rw [isWaiting, sound.answered paced isWaiting]

/-- The packet in hand is granted and sent, unless its frame was cancelled. -/
theorem Sound.packet_done (sound : state.Sound kbps) (config : Config) (conforms : Conforms kbps state.pushes)
    {flight : Flight} (sending : state.server.sender = .sending flight) :
    ∃ sent, Reaches config state sent ∧ sent.server.sendQ = state.server.sendQ ∧
      (sent.server.sender = .waiting ∨
        sent.server.sender = continueWith { flight with next := flight.next + 1 }) := by
  obtain ⟨granted, reaches, returned, same⟩ := sound.granted config conforms sending
  have soundGranted := (sound.reaches conforms reaches).1
  have isSending : granted.server.sender = .sending flight := same ▸ sending
  have inside := soundGranted.placed.position
  rw [isSending] at inside
  have found : flight.frame.packets[flight.next]? = some flight.frame.packets[flight.next] :=
    List.getElem?_eq_getElem inside
  have enabled : (granted.turn config).isSome = true := by
    rw [PacedServer.turn, isSending]
    dsimp only
    rw [found, returned]
    dsimp only
    rw [PacedServer.act, RtpServer.step, isSending]
    dsimp only
    rw [found]
    rfl
  obtain ⟨sent, turned⟩ := Option.isSome_iff_exists.mp enabled
  refine ⟨sent, reaches.trans (reaches_of_turn turned), ?_⟩
  rw [← same]
  cases soundGranted.turns turned with
  | move sender outside same position => cases outside.symm.trans returned
  | pop first rest queue free outside queuedPackets => cases outside.symm.trans returned
  | consume flight packet position found unanswered =>
      rw [returned] at unanswered
      cases unanswered
  | cancel flight position outdated => exact ⟨rfl, Or.inl rfl⟩
  | send other position paced returned retx event =>
      cases position.symm.trans isSending
      exact ⟨rfl, Or.inr rfl⟩

/-- Behind `send_repairs`. -/
theorem Sound.behind_repairs (sound : state.Sound kbps) (config : Config) {flight : Option Flight} {done : Nat}
    (repairing : state.server.sender = .repairing flight done) :
    ∃ behind, Reaches config state behind ∧ behind.server.sendQ = state.server.sendQ ∧
      behind.server.sender = repaired flight := by
  have turned : state.turn config =
      some { state with server := { state.server with sender := repaired flight }, waiting := .outside } := by
    rw [PacedServer.turn, repairing]
    dsimp only
    rw [PacedServer.act, RtpServer.step, repairing]
    dsimp only
    rw [takeRepair_eq sound.placed.noRepairs]
    rfl
  exact ⟨_, reaches_of_turn turned, rfl, rfl⟩

/-- The sender comes to the end of a frame. -/
theorem Sound.frame_done (sound : state.Sound kbps) (config : Config) (conforms : Conforms kbps state.pushes)
    {flight : Flight} (left : Nat) (atMost : flight.frame.packets.length ≤ flight.next + left)
    (goingOn : state.server.sender = continueWith flight) :
    ∃ done, Reaches config state done ∧ done.server.sendQ = state.server.sendQ ∧ done.server.sender = .waiting := by
  induction left generalizing state flight with
  | zero => exact ⟨state, .refl state, rfl, goingOn.trans (if_neg (not_lt.mpr atMost))⟩
  | succ left inductionHypothesis =>
      by_cases more : flight.next < flight.frame.packets.length
      · obtain ⟨behind, reaches, queue, isSending⟩ :=
          sound.behind_repairs config (goingOn.trans (if_pos more))
        obtain ⟨soundBehind, pushes⟩ := sound.reaches conforms reaches
        obtain ⟨sent, later, queueSent, position⟩ :=
          soundBehind.packet_done config (pushes ▸ conforms) isSending
        obtain ⟨soundSent, pushesSent⟩ := sound.reaches conforms (reaches.trans later)
        rcases position with waiting | goesOn
        · exact ⟨sent, reaches.trans later, queueSent.trans queue, waiting⟩
        · obtain ⟨done, rest, queueDone, waiting⟩ := inductionHypothesis soundSent (pushesSent ▸ conforms)
            (by dsimp only; omega) goesOn
          exact ⟨done, (reaches.trans later).trans rest, queueDone.trans (queueSent.trans queue), waiting⟩
      · exact ⟨state, .refl state, rfl, goingOn.trans (if_neg more)⟩

/-- The sender alone comes to the end of the queue. -/
def Settles (config : Config) (state : PacedServer) : Prop :=
  ∃ done, Reaches config state done ∧ done.server.sendQ = [] ∧ done.server.sender = .waiting

theorem Reaches.settles (reaches : Reaches config state next) (settles : Settles config next) :
    Settles config state := by
  obtain ⟨done, later, atRest⟩ := settles
  exact ⟨done, reaches.trans later, atRest⟩

/-- The sender takes the next frame. -/
theorem reaches_popFrame (config : Config) (popping : state.server.sender = .popping) :
    Reaches config state { state with server := state.server.popFrame, waiting := .outside } := by
  have turned : state.turn config = some { state with server := state.server.popFrame, waiting := .outside } := by
    rw [PacedServer.turn, popping]
    dsimp only
    rw [PacedServer.act, RtpServer.step, popping]
    rfl
  exact reaches_of_turn turned

theorem popFrame_cons {server : RtpServer} {first : VideoFrame} {rest : List VideoFrame}
    (queue : server.sendQ = first :: rest) :
    server.popFrame.sendQ = rest ∧ server.popFrame.sender = continueWith ⟨first, 0⟩ := by
  rw [RtpServer.popFrame]
  split
  · rename_i empty
    cases queue.symm.trans empty
  · rename_i other others same
    cases queue.symm.trans same
    exact ⟨rfl, rfl⟩

theorem Sound.settles_waiting (sound : state.Sound kbps) (config : Config) (conforms : Conforms kbps state.pushes)
    {queue : List VideoFrame} (isQueue : state.server.sendQ = queue) (waiting : state.server.sender = .waiting) :
    Settles config state := by
  induction queue generalizing state with
  | nil => exact ⟨state, .refl state, isQueue, waiting⟩
  | cons first rest inductionHypothesis =>
      have woken : state.turn config =
          some { state with server := { state.server with sender := .repairing none 0 }, waiting := .outside } := by
        rw [PacedServer.turn, waiting]
        dsimp only
        rw [PacedServer.act, RtpServer.step, waiting]
        dsimp only
        rw [isQueue]
        rfl
      obtain ⟨soundWoken, pushesWoken⟩ := sound.reaches conforms (reaches_of_turn woken)
      obtain ⟨behind, reaches, queueBehind, popping⟩ := soundWoken.behind_repairs config rfl
      have popped := ((reaches_of_turn woken).trans reaches).trans (reaches_popFrame config popping)
      obtain ⟨soundPopped, pushesPopped⟩ := sound.reaches conforms popped
      obtain ⟨queuePopped, goingOn⟩ := popFrame_cons (queueBehind.trans isQueue)
      obtain ⟨sent, sends, queueSent, idle⟩ := soundPopped.frame_done config (pushesPopped ▸ conforms)
        first.packets.length (by dsimp only; omega) goingOn
      obtain ⟨soundSent, pushesSent⟩ := sound.reaches conforms (popped.trans sends)
      exact (popped.trans sends).settles
        (inductionHypothesis soundSent (pushesSent ▸ conforms) (queueSent.trans queuePopped) idle)

theorem Sound.settles_continueWith (sound : state.Sound kbps) (config : Config)
    (conforms : Conforms kbps state.pushes) {flight : Flight} (goingOn : state.server.sender = continueWith flight) :
    Settles config state := by
  obtain ⟨done, reaches, _, waiting⟩ :=
    sound.frame_done config conforms flight.frame.packets.length (by omega) goingOn
  obtain ⟨soundDone, pushes⟩ := sound.reaches conforms reaches
  exact reaches.settles (soundDone.settles_waiting config (pushes ▸ conforms) rfl waiting)

theorem Sound.settles_sending (sound : state.Sound kbps) (config : Config) (conforms : Conforms kbps state.pushes)
    {flight : Flight} (sending : state.server.sender = .sending flight) : Settles config state := by
  obtain ⟨sent, reaches, _, position⟩ := sound.packet_done config conforms sending
  obtain ⟨soundSent, pushes⟩ := sound.reaches conforms reaches
  rcases position with waiting | goingOn
  · exact reaches.settles (soundSent.settles_waiting config (pushes ▸ conforms) rfl waiting)
  · exact reaches.settles (soundSent.settles_continueWith config (pushes ▸ conforms) goingOn)

theorem Sound.settles_popping (sound : state.Sound kbps) (config : Config) (conforms : Conforms kbps state.pushes)
    (popping : state.server.sender = .popping) : Settles config state := by
  have popped := reaches_popFrame config popping
  obtain ⟨soundPopped, _⟩ := sound.reaches conforms popped
  cases queue : state.server.sendQ with
  | nil =>
      have same : state.server.popFrame.sender = .waiting := by
        rw [RtpServer.popFrame]
        split
        · rfl
        · rename_i filled
          cases queue.symm.trans filled
      exact popped.settles (soundPopped.settles_waiting config conforms rfl same)
  | cons first rest =>
      exact popped.settles (soundPopped.settles_continueWith config conforms (popFrame_cons queue).2)

/-- Wherever the sender stands, it comes to the end of the queue. -/
theorem Sound.settles (sound : state.Sound kbps) (config : Config) (conforms : Conforms kbps state.pushes) :
    Settles config state := by
  have position := sound.placed.position
  cases sender : state.server.sender with
  | waiting => exact sound.settles_waiting config conforms rfl sender
  | repairing flight done =>
      obtain ⟨behind, reaches, _, isBehind⟩ := sound.behind_repairs config sender
      obtain ⟨soundBehind, pushes⟩ := sound.reaches conforms reaches
      cases flight with
      | none => exact reaches.settles (soundBehind.settles_popping config (pushes ▸ conforms) isBehind)
      | some flight => exact reaches.settles (soundBehind.settles_sending config (pushes ▸ conforms) isBehind)
  | holding flight done repair =>
      rw [sender] at position
      exact position.elim
  | popping => exact sound.settles_popping config conforms sender
  | sending flight => exact sound.settles_sending config conforms sender
  | requesting =>
      rw [sender] at position
      exact position.elim

/-! ## No packet is late -/

/-- At the encoder's rate every packet that is queued is granted before the
deadline of its access unit, unless the queue is shed because it is too long;
for lateness it never is.  And time never stands still for the sender. -/
theorem sent_in_time {server : RtpServer} (opening : Opening server) {index : Int}
    {tokens lastRefill clock : Rat} (positive : 0 < kbps) (nonneg : 0 ≤ tokens)
    (capped : tokens ≤ (begin server index kbps tokens lastRefill clock).bucket.burstBytes)
    (refilled : lastRefill ≤ clock) {early late : List Action} {middle finish : PacedServer}
    (reached : run (step config) (begin server index kbps tokens lastRefill clock) early = some middle)
    (later : run (step config) middle late = some finish) (conforms : Conforms kbps finish.pushes) :
    (∀ answer ∈ finish.answers, answer.granted = true ∧ answer.time < seconds answer.flight.frame.deadline) ∧
    (∀ frame ∈ middle.server.sendQ, finish.server.sendGeneration = middle.server.sendGeneration →
      seconds frame.deadline ≤ finish.clock →
      ∀ index < frame.packets.length, ∃ answer ∈ finish.answers, answer.flight = ⟨frame, index⟩) ∧
    (∀ action next, step config finish action = some next →
      next.server.sendGeneration ≠ finish.server.sendGeneration → ShedsForRoom config finish action) ∧
    Settles config finish := by
  have begun : (begin server index kbps tokens lastRefill clock).Sound kbps :=
    sound_begin opening positive nonneg capped refilled
  have soundMiddle : middle.Sound kbps :=
    run_conforming (fun _ _ _ sound stepped conforms => sound.step stepped conforms) begun reached
      (conforms.of_run later)
  have sound : finish.Sound kbps :=
    run_conforming (fun _ _ _ sound stepped conforms => sound.step stepped conforms) soundMiddle later conforms
  refine ⟨sound.prompt, ?_, fun action next => sound.sheds_for_room, sound.settles config conforms⟩
  intro frame queued unshed expired
  have preserved : ∀ (state : PacedServer) (action : Action) (next : PacedServer),
      state.Sound kbps ∧ Followed frame state → state.step config action = some next →
        Conforms kbps next.pushes → next.Sound kbps ∧ Followed frame next := by
    intro state action next both stepped conforms
    exact ⟨both.1.step stepped conforms, both.2.step both.1 stepped⟩
  have followed := run_conforming preserved ⟨soundMiddle, followed_of_queued soundMiddle queued⟩ later conforms
  have isCurrent := (soundMiddle.placed.current frame queued).trans unshed.symm
  rcases followed.2.place isCurrent with waits | ⟨next, held, _⟩ | done
  · exact absurd (sound.queue_in_time waits) (not_lt.mpr expired)
  · exact absurd (sound.flight_in_time held) (not_lt.mpr expired)
  · exact done

/-! ## A small stream -/

def sampleConfig : Config := { RtpServer.sampleConfig with pacer := true }

/-- The server when the first client is ready. -/
def sampleServer : RtpServer := (RtpServer.run sampleConfig sampleReady).get (by decide +kernel)

theorem opening_sampleServer : Opening sampleServer where
  streaming := by decide +kernel
  waiting := by decide +kernel
  sendQ := by decide +kernel
  repairQ := by decide +kernel
  queuedPackets := by decide +kernel

/-- A slice of an IDR picture. -/
def sampleSlice : List UInt8 := 0x26 :: 0x01 :: List.replicate 100 7

def sampleStart : PacedServer := begin sampleServer 0 1000 0 0 0

/-- The access unit waits for tokens and is sent. -/
def sampleMiddle : PacedServer :=
  (run (step sampleConfig) sampleStart [.push (canonicalAnnexB [sampleSlice]) 0 true]).get (by decide +kernel)

def sampleLate : List Action :=
  [.turn, .turn, .turn, .turn, .turn, .elapse (114 / 156250), .turn, .turn, .elapse 1]

def sampleFinish : PacedServer := (run (step sampleConfig) sampleMiddle sampleLate).get (by decide +kernel)

/-- A single small access unit keeps the promise. -/
theorem conforms_single {push : Push} (small : 8 * (push.size : Rat) ≤ 1000 * kbps / 10)
    (overhead : 10 * push.rtpBytes ≤ 11 * push.size) : Conforms kbps [push] where
  bound := by
    intro first last window
    have size : (encodedBytes [push] first last : Rat) ≤ push.size := by
      rw [encodedBytes, List.map_singleton, List.sum_singleton]
      split
      · exact le_refl _
      · exact Nat.cast_nonneg _
    have rate : 0 ≤ (kbps : Rat) := by
      have nonneg : (0 : Rat) ≤ push.size := Nat.cast_nonneg _
      linarith
    have inflow : 0 ≤ 1000 * (kbps : Rat) * (last - first) :=
      mul_nonneg (mul_nonneg (by norm_num) rate) (sub_nonneg.mpr window)
    linarith
  overhead := by
    intro other member
    rw [List.mem_singleton.mp member]
    exact overhead

theorem sent_in_time_sample : ∃ frame ∈ sampleMiddle.server.sendQ,
    ∃ answer ∈ sampleFinish.answers, answer.flight = ⟨frame, 0⟩ := by
  have reached : run (step sampleConfig) sampleStart [.push (canonicalAnnexB [sampleSlice]) 0 true] =
      some sampleMiddle := Option.eq_some_of_isSome (by decide +kernel)
  have later : run (step sampleConfig) sampleMiddle sampleLate = some sampleFinish :=
    Option.eq_some_of_isSome (by decide +kernel)
  have pushes : sampleFinish.pushes =
      [⟨0, 106, made sampleConfig sampleServer (canonicalAnnexB [sampleSlice]) 0 true⟩] := by
    decide +kernel
  have conforms : Conforms 1000 sampleFinish.pushes := by
    rw [pushes]
    exact conforms_single (by norm_num) (by decide +kernel)
  obtain ⟨frame, queue⟩ : ∃ frame, sampleMiddle.server.sendQ = [frame] :=
    List.length_eq_one_iff.mp (by decide +kernel)
  have member : frame ∈ sampleMiddle.server.sendQ := by
    rw [queue]
    exact List.mem_cons_self
  have timely := (sent_in_time opening_sampleServer (by decide) (by decide +kernel) (by decide +kernel)
    (by decide +kernel) reached later conforms).2.1 frame member (by decide +kernel)
  have facts : ∀ frame ∈ sampleMiddle.server.sendQ,
      seconds frame.deadline ≤ sampleFinish.clock ∧ 0 < frame.packets.length := by decide +kernel
  exact ⟨frame, member, timely (facts frame member).1 0 (facts frame member).2⟩

/-! ## An access unit of too many packets -/

/-- Every packet of every call of `broadcast_video` that is a tenth of a second
old has been granted. -/
def EveryPacketGranted (state : PacedServer) : Prop :=
  ∀ push ∈ state.pushes, push.time + 1 / 10 ≤ state.clock → ∀ packet ∈ push.packets,
    ∃ answer ∈ state.answers, answer.granted = true ∧
      (answer.flight.frame.packets[answer.flight.next]?).map MediaPacket.bytes = some packet

/-- An access unit that has more packets than the queue may hold sheds it and is
turned away. -/
theorem refused_of_long {server : RtpServer} {now : Time} {data : List UInt8} {ptsUsec : Int64} {keyframe : Bool}
    (long : kMaxQueuedPackets < (made config server data ptsUsec keyframe).length) :
    (server.broadcastVideo config now now data ptsUsec keyframe).sendQ = [] ∧
      (server.broadcastVideo config now now data ptsUsec keyframe).repairQ = [] ∧
      (server.broadcastVideo config now now data ptsUsec keyframe).sender = server.sender := by
  rw [made] at long
  split at long
  · cases long
  rename_i passes
  rw [Bool.or_eq_true, not_or, Bool.not_eq_true, Bool.not_eq_true] at passes
  have filled : (packetize config.h265 server.videoPacker data ptsUsec).1.isEmpty = false := by
    rw [List.isEmpty_eq_false_iff]
    intro empty
    rw [empty] at long
    cases long
  have full : ∀ packer : PacketizerBase, { server with videoPacker := packer }.overflows now
      (packetize config.h265 server.videoPacker data ptsUsec).1.length = true := by
    intro packer
    rw [overflows, Bool.or_eq_true, decide_eq_true_eq]
    exact Or.inr (lt_of_lt_of_le long (Nat.le_add_left _ _))
  rw [broadcastVideo, passes.1, passes.2]
  dsimp only
  rw [if_neg Bool.false_ne_true, if_neg Bool.false_ne_true, filled, if_neg Bool.false_ne_true, full, if_pos rfl,
    enqueue, decide_eq_true long, Bool.or_true, if_pos rfl]
  exact ⟨rfl, rfl, rfl⟩

/-- An access unit of small slices. -/
def slices (count : Nat) : List UInt8 := annexB (List.replicate count (true, sampleSlice))

theorem length_slices (count : Nat) : (slices count).length = count * 106 := by
  induction count with
  | zero => rfl
  | succ count inductionHypothesis =>
      rw [slices, List.replicate_succ, annexB, List.flatMap_cons, List.length_append, ← annexB, ← slices,
        inductionHypothesis, Nat.succ_mul, Nat.add_comm]
      rfl

theorem lengths_framePieces (layout : NalLayout) (ts : UInt32) (marked : Bool) (base : PacketizerBase)
    (pieces : List Piece) : (layout.framePieces ts marked base pieces).map List.length =
      pieces.map (fun piece => 12 + (piece.payload layout).length) := by
  induction pieces generalizing base with
  | nil => rfl
  | cons piece rest inductionHypothesis =>
      rw [NalLayout.framePieces, List.map_cons, List.map_cons, inductionHypothesis, List.length_append,
        writeHeader_length]
      rfl

/-- Each slice makes one packet. -/
theorem lengths_slices (base : PacketizerBase) (ptsUsec : Int64) (count : Nat) :
    (packetize true base (slices count) ptsUsec).1.map List.length = List.replicate count 114 := by
  have wellFormed : WellFormedNal sampleSlice := by
    refine ⟨by decide, fun startCode => ?_, by decide⟩
    have zero : (0 : UInt8) ∈ sampleSlice := startCode.subset List.mem_cons_self
    exact absurd zero (by decide)
  have nals : forEachNal (slices count) = List.replicate count sampleSlice := by
    rw [slices, forEachNal_annexB _ (fun unit member => (List.eq_of_mem_replicate member) ▸ wellFormed),
      List.map_replicate]
  have pieces : h265Layout.unitPieces (List.replicate count sampleSlice) =
      List.replicate count (.whole sampleSlice) := by
    rw [NalLayout.unitPieces, List.flatMap_replicate, NalLayout.nalPieces, if_pos (by decide)]
    exact List.flatten_replicate_singleton
  rw [packetize, if_pos rfl, H265RtpPacketizer.packetize, NalLayout.packetize_eq, lengths_framePieces, nals, pieces,
    List.map_replicate]
  rfl

theorem lengths_made (count : Nat) :
    (made sampleConfig sampleServer (slices count) 0 true).map List.length = List.replicate count 114 := by
  have streaming : sampleServer.peerStreaming = true := opening_sampleServer.streaming
  have codec : sampleConfig.h265 = true := rfl
  rw [made, streaming, Bool.not_true, Bool.and_false, Bool.or_false, if_neg Bool.false_ne_true, codec]
  exact lengths_slices _ _ _

/-- At a high rate such an access unit keeps the promise. -/
theorem conforms_slices {count : Nat} (bound : 8 * ((count * 106 : Nat) : Rat) ≤ 1000 * kbps / 10) :
    Conforms kbps [⟨0, (slices count).length, made sampleConfig sampleServer (slices count) 0 true⟩] := by
  refine conforms_single ?_ ?_
  · rw [length_slices]
    exact bound
  · rw [Push.rtpBytes, lengths_made, List.sum_replicate, length_slices, smul_eq_mul]
    dsimp only
    omega

/-- An access unit of more slices than the queue may hold is the only push, and
none of its packets is ever granted. -/
theorem never_granted {count : Nat} (long : kMaxQueuedPackets < count) (index kbps : Int) :
    ∃ finish, run (step sampleConfig) (begin sampleServer index kbps 0 0 0)
        [.push (slices count) 0 true, .elapse 1] = some finish ∧
      finish.pushes = [⟨0, (slices count).length, made sampleConfig sampleServer (slices count) 0 true⟩] ∧
      ¬ EveryPacketGranted finish := by
  let pushed := (begin sampleServer index kbps 0 0 0).push sampleConfig (slices count) 0 true
  let next := sampleServer.broadcastVideo sampleConfig (reading 0) (reading 0) (slices count) 0 true
  have many : kMaxQueuedPackets < (made sampleConfig sampleServer (slices count) 0 true).length := by
    rw [← List.length_map (f := List.length), lengths_made, List.length_replicate]
    exact long
  have refused : next.sendQ = [] ∧ next.repairQ = [] ∧ next.sender = sampleServer.sender := refused_of_long many
  have rests : pushed.restsUntil (pushed.clock + 1) = true := by
    change (decide (next.sender = .waiting) && next.sendQ.isEmpty && next.repairQ.isEmpty) = true
    rw [refused.1, refused.2.1, refused.2.2, opening_sampleServer.waiting]
    rfl
  refine ⟨{ pushed with clock := pushed.clock + 1 }, ?_, rfl, ?_⟩
  · refine run_cons_iff.mpr ⟨pushed, rfl, run_cons_iff.mpr ⟨_, ?_, rfl⟩⟩
    rw [PacedServer.step, if_pos ⟨by norm_num, rests⟩]
  · intro granted
    obtain ⟨packet, member⟩ := List.exists_mem_of_length_pos (lt_of_le_of_lt (Nat.zero_le _) many)
    have old : (0 : Rat) + 1 / 10 ≤ 0 + 1 := by norm_num
    obtain ⟨answer, impossible, _⟩ := granted _ List.mem_cons_self old packet member
    cases impossible

/-- A keyframe of more slices than the queue may hold, at a rate at which it is
well within the promise of the encoder. -/
theorem packets_not_always_granted : ∃ finish, run (step sampleConfig) (begin sampleServer 0 40000 0 0 0)
      [.push (slices 4097) 0 true, .elapse 1] = some finish ∧
    Conforms 40000 finish.pushes ∧ ¬ EveryPacketGranted finish := by
  have long : kMaxQueuedPackets < 4097 := by decide
  obtain ⟨finish, ran, pushes, missing⟩ := never_granted long 0 40000
  refine ⟨finish, ran, ?_, missing⟩
  rw [pushes]
  exact conforms_slices (by norm_num)

end PacedServer
end MetaShare
