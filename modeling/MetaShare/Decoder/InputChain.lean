import MetaShare.Decoder.VideoDecoder
import MetaShare.Foundation.DependencyChain

namespace MetaShare

open Transitions DependencyChain

/-!
# The decoder's input chain

The queue of the decoder, with the frame that is being submitted and those
submitted before, is a queue that keeps a dependency chain.  Frames that are
refused during a recovery while the gate is open do not close it at once.  They
only count as seen when the queue is cleared, which a recovery does, unless it
is given up.
-/

namespace VideoDecoder

def Frame.shape (frame : Frame) : Shape := ⟨1, frame.keyframe⟩

def part (number : Nat) : Part := ⟨number, 0⟩

/-- The frame that has left the queue and is not submitted yet. -/
def inHand (decoder : VideoDecoder) : List Nat :=
  match decoder.place with
  | .submitting pending => [pending.number]
  | .losing pending => [pending.number]
  | _ => []

/-- The frames that the gate has seen. -/
def seen (decoder : VideoDecoder) : List Frame :=
  if decoder.inputChainReady then decoder.fed.take decoder.queuedUpTo else decoder.fed

def line (decoder : VideoDecoder) : Line where
  units := decoder.seen.map Frame.shape
  sent := (decoder.submitted ++ decoder.inHand).map part
  pending := decoder.pendingInputs.map (fun pending => part pending.number)
  closed := !decoder.inputChainReady

/-! ## The bounds of the queue -/

/-- The counter agrees with the queue, and the queue is short. -/
structure Bounded (decoder : VideoDecoder) : Prop where
  bytes : decoder.pendingBytes = ((decoder.pendingInputs.map (fun pending => pending.length)).sum : Nat)
  frames : decoder.pendingInputs.length ≤ MAX_PENDING_FRAMES
  small : decoder.pendingBytes ≤ MAX_PENDING_BYTES

variable {decoder next : VideoDecoder}

theorem bounded_opened : opened.Bounded where
  bytes := rfl
  frames := Nat.zero_le _
  small := by decide

theorem Bounded.same (bounded : decoder.Bounded) (queue : next.pendingInputs = decoder.pendingInputs)
    (bytes : next.pendingBytes = decoder.pendingBytes) : next.Bounded where
  bytes := by rw [bytes, queue, bounded.bytes]
  frames := queue ▸ bounded.frames
  small := bytes ▸ bounded.small

theorem Bounded.empty (queue : next.pendingInputs = []) (bytes : next.pendingBytes = 0) : next.Bounded where
  bytes := by rw [bytes, queue]; rfl
  frames := by rw [queue]; exact Nat.zero_le _
  small := by rw [bytes]; decide

theorem Bounded.nonneg (bounded : decoder.Bounded) : 0 ≤ decoder.pendingBytes := by
  rw [bounded.bytes]
  exact Int.natCast_nonneg _

/-- A sum that is an int does not wrap around. -/
theorem Bounded.sum_eq (bounded : decoder.Bounded) {frame : Frame}
    (noOverflow : decoder.pendingBytes + frame.length < 2 ^ 31) :
    (decoder.pendingBytes + frame.length).bmod (2 ^ 32) = decoder.pendingBytes + frame.length := by
  have positive := bounded.nonneg
  apply Int.bmod_eq_of_le <;> omega

/-- Unless the sum overflows, a frame that is too long for the queue empties it. -/
theorem crowded_of_long (bounded : decoder.Bounded) {frame : Frame} (now : Int)
    (noOverflow : decoder.pendingBytes + frame.length < 2 ^ 31) (long : MAX_PENDING_BYTES < frame.length) :
    decoder.crowded frame now = true := by
  have positive := bounded.nonneg
  have exceeds : (MAX_PENDING_BYTES : Int) < (decoder.pendingBytes + frame.length).bmod (2 ^ 32) := by
    rw [bounded.sum_eq noOverflow]
    omega
  unfold crowded
  rw [decide_eq_true exceeds, Bool.or_true, Bool.true_or]

/-- There is room in a queue that is not crowded. -/
theorem room_of_not_crowded (bounded : decoder.Bounded) {frame : Frame} {now : Int}
    (roomy : decoder.crowded frame now = false) (fits : frame.length ≤ MAX_PENDING_BYTES) :
    decoder.pendingInputs.length < MAX_PENDING_FRAMES ∧
      decoder.pendingBytes + frame.length ≤ MAX_PENDING_BYTES := by
  have noOverflow : decoder.pendingBytes + frame.length < 2 ^ 31 := by
    have small := bounded.small
    unfold MAX_PENDING_BYTES at *
    omega
  rw [crowded, bounded.sum_eq noOverflow] at roomy
  simp only [Bool.or_eq_false_iff, decide_eq_false_iff_not, Nat.not_le, Int.not_lt] at roomy
  exact roomy.1

/-- A frame is refused because it is too long or because the gate is closed to
it, or it is queued and opens the gate. -/
theorem push_cases (decoder : VideoDecoder) (frame : Frame) (queuedMs : Int) :
    ((MAX_PENDING_BYTES < frame.length ∨ (decoder.inputChainReady = false ∧ frame.keyframe = false)) ∧
        decoder.push frame queuedMs = { decoder with feeding := none, fed := decoder.fed ++ [frame] }) ∨
      (frame.length ≤ MAX_PENDING_BYTES ∧ (decoder.inputChainReady = false → frame.keyframe = true) ∧
        decoder.push frame queuedMs = { decoder with
          feeding := none
          fed := decoder.fed ++ [frame]
          queuedUpTo := decoder.fed.length + 1
          inputChainReady := true
          pendingInputs := decoder.pendingInputs ++ [⟨decoder.fed.length, frame.length, frame.keyframe, queuedMs⟩]
          pendingBytes := decoder.pendingBytes + frame.length
          drainPosted := true }) := by
  by_cases long : MAX_PENDING_BYTES < frame.length
  · exact Or.inl ⟨Or.inl long, if_pos long⟩
  · by_cases refused : decoder.inputChainReady = false ∧ frame.keyframe = false
    · refine Or.inl ⟨Or.inr refused, ?_⟩
      rw [push, if_neg long, if_pos]
      simp [refused]
    · refine Or.inr ⟨Nat.not_lt.mp long, ?_, ?_⟩
      · intro shut
        simpa [shut] using refused
      · rw [push, if_neg long, if_neg]
        · rw [List.length_append]
          rfl
        · simpa using refused

theorem Bounded.push (bounded : decoder.Bounded) (frame : Frame) (queuedMs : Int)
    (room : frame.length ≤ MAX_PENDING_BYTES → decoder.pendingInputs.length < MAX_PENDING_FRAMES ∧
      decoder.pendingBytes + frame.length ≤ MAX_PENDING_BYTES) : (decoder.push frame queuedMs).Bounded := by
  rcases push_cases decoder frame queuedMs with ⟨_, refused⟩ | ⟨fits, _, queued⟩
  · rw [refused]
    exact bounded.same rfl rfl
  · rw [queued]
    constructor
    · simp only [List.map_append, List.sum_append, List.map_singleton, List.sum_singleton]
      rw [bounded.bytes]
      omega
    · rw [List.length_append]
      exact (room fits).1
    · exact (room fits).2

/-- There is nothing to drain, or the first frame has expired, or there is no
input buffer yet, or the frame is taken. -/
theorem take_cases (decoder : VideoDecoder) (now : Int) :
    (decoder.pendingInputs = [] ∧ decoder.take now = { decoder with drainPosted := false, place := .idle }) ∨
      (∃ pending rest, decoder.pendingInputs = pending :: rest ∧ decoder.take now =
        dropPendingInputs { decoder with drainPosted := false, place := .idle }) ∨
      (∃ pending rest, decoder.pendingInputs = pending :: rest ∧ decoder.freeInputs = [] ∧
        decoder.take now = { decoder with drainPosted := true, place := .idle }) ∨
      ∃ pending rest freeInputs, decoder.pendingInputs = pending :: rest ∧ decoder.take now = { decoder with
        drainPosted := false
        pendingInputs := rest
        pendingBytes := decoder.pendingBytes - pending.length
        freeInputs := freeInputs
        place := .submitting pending } := by
  rw [VideoDecoder.take]
  cases queue : decoder.pendingInputs with
  | nil =>
      refine Or.inl ⟨rfl, ?_⟩
      simp only
  | cons pending rest =>
      by_cases expired : INPUT_BUDGET_MS - (now - pending.queuedMs) ≤ 0
      · refine Or.inr (Or.inl ⟨pending, rest, rfl, ?_⟩)
        simp only [if_pos expired]
      · cases free : decoder.freeInputs with
        | nil =>
            refine Or.inr (Or.inr (Or.inl ⟨pending, rest, rfl, rfl, ?_⟩))
            simp only [if_neg expired]
        | cons index freeInputs =>
            refine Or.inr (Or.inr (Or.inr ⟨pending, rest, freeInputs, rfl, ?_⟩))
            simp only [if_neg expired]

theorem Bounded.take (bounded : decoder.Bounded) (now : Int) : (decoder.take now).Bounded := by
  rcases take_cases decoder now with ⟨_, same⟩ | ⟨_, _, _, same⟩ | ⟨_, _, _, _, same⟩ |
    ⟨pending, rest, _, queue, same⟩
  · exact same ▸ bounded.same rfl rfl
  · exact same ▸ .empty rfl rfl
  · exact same ▸ bounded.same rfl rfl
  · have bytes := bounded.bytes
    have frames := bounded.frames
    have small := bounded.small
    rw [queue] at bytes frames
    rw [List.map_cons, List.sum_cons] at bytes
    rw [same]
    constructor
    · simp only
      omega
    · exact Nat.le_of_succ_le frames
    · simp only
      omega

/-! ## Steps that leave the queue alone -/

/-- The step changes neither the queue nor the gate nor what is in hand, and it
does not end a recovery. -/
structure Quiet (decoder next : VideoDecoder) : Prop where
  queue : next.pendingInputs = decoder.pendingInputs
  bytes : next.pendingBytes = decoder.pendingBytes
  ready : next.inputChainReady = decoder.inputChainReady
  fed : next.fed = decoder.fed
  upTo : next.queuedUpTo = decoder.queuedUpTo
  submitted : next.submitted = decoder.submitted
  hand : next.inHand = decoder.inHand
  feeding : next.feeding = decoder.feeding
  recovering : decoder.recovering = true → next.recovering = true
  resetting : next.place = .resetting → decoder.place = .resetting

theorem inHand_of_idle (idle : decoder.place = .idle) : decoder.inHand = [] := by
  rw [inHand, idle]

theorem Quiet.refl (decoder : VideoDecoder) : Quiet decoder decoder :=
  ⟨rfl, rfl, rfl, rfl, rfl, rfl, rfl, rfl, id, id⟩

theorem quiet_onInputBufferAvailable (idle : decoder.place = .idle) (index : Int) :
    Quiet decoder (decoder.onInputBufferAvailable index) := by
  unfold onInputBufferAvailable
  split
  · exact .refl decoder
  · exact ⟨rfl, rfl, rfl, rfl, rfl, rfl, (inHand_of_idle idle).symm, rfl, id, Place.noConfusion⟩

theorem quiet_drain (idle : decoder.place = .idle) :
    Quiet decoder { decoder with drainPosted := false, place := .draining } :=
  ⟨rfl, rfl, rfl, rfl, rfl, rfl, (inHand_of_idle idle).symm, rfl, id, Place.noConfusion⟩

theorem quiet_check (draining : decoder.place = .draining) :
    Quiet decoder { decoder with place := if decoder.recovering then .idle else .taking } := by
  have hand : decoder.inHand = [] := by rw [inHand, draining]
  split
  · exact ⟨rfl, rfl, rfl, rfl, rfl, rfl, hand.symm, rfl, id, Place.noConfusion⟩
  · exact ⟨rfl, rfl, rfl, rfl, rfl, rfl, hand.symm, rfl, id, Place.noConfusion⟩

/-- A frame that is not accepted stays in hand until it is dropped. -/
theorem quiet_submit {pending : PendingFrame} (submitting : decoder.place = .submitting pending) :
    Quiet decoder { decoder with place := .losing pending } := by
  have hand : decoder.inHand = [pending.number] := by rw [inHand, submitting]
  exact ⟨rfl, rfl, rfl, rfl, rfl, rfl, hand.symm, rfl, id, Place.noConfusion⟩

theorem quiet_postRecover (erring : decoder.place = .erring) : Quiet decoder decoder.postRecover := by
  have hand : decoder.inHand = [] := by rw [inHand, erring]
  unfold postRecover
  split
  · exact ⟨rfl, rfl, rfl, rfl, rfl, rfl, hand.symm, rfl, id, Place.noConfusion⟩
  · exact ⟨rfl, rfl, rfl, rfl, rfl, rfl, hand.symm, rfl, fun _ => rfl, Place.noConfusion⟩

theorem quiet_setSurface (idle : decoder.place = .idle) (swapped : Bool) :
    Quiet decoder (decoder.setSurface swapped) := by
  have hand := inHand_of_idle idle
  unfold setSurface
  split
  · exact ⟨rfl, rfl, rfl, rfl, rfl, rfl, hand.symm, rfl, id, Place.noConfusion⟩
  · split
    · exact ⟨rfl, rfl, rfl, rfl, rfl, rfl, rfl, rfl, id, id⟩
    · exact ⟨rfl, rfl, rfl, rfl, rfl, rfl, hand.symm, rfl, fun _ => rfl, Place.noConfusion⟩

theorem quiet_runRecover (idle : decoder.place = .idle) :
    Quiet decoder { decoder with recoversPosted := decoder.recoversPosted - 1, place := .recovering } :=
  ⟨rfl, rfl, rfl, rfl, rfl, rfl, (inHand_of_idle idle).symm, rfl, id, Place.noConfusion⟩

theorem quiet_request : Quiet decoder { decoder with requestsPosted := decoder.requestsPosted - 1 } :=
  ⟨rfl, rfl, rfl, rfl, rfl, rfl, rfl, rfl, id, id⟩

/-- A recovery that cannot begin is retried, or it ends. -/
theorem recover_cases (recovers : decoder.place = .recovering) (surfaceValid : Bool) :
    Quiet decoder (decoder.recover surfaceValid) ∨
      (surfaceValid = false ∧ RECOVER_MAX_RETRIES ≤ decoder.recoverRetries ∧ decoder.recover surfaceValid =
        { decoder with recoverRetries := 0, recovering := false, place := .idle }) := by
  have hand : decoder.inHand = [] := by rw [inHand, recovers]
  unfold recover
  cases surfaceValid with
  | true => exact Or.inl ⟨rfl, rfl, rfl, rfl, rfl, rfl, hand.symm, rfl, id, Place.noConfusion⟩
  | false =>
      by_cases retries : decoder.recoverRetries + 1 ≤ RECOVER_MAX_RETRIES
      · rw [if_neg Bool.false_ne_true, if_pos retries]
        exact Or.inl ⟨rfl, rfl, rfl, rfl, rfl, rfl, hand.symm, rfl, id, Place.noConfusion⟩
      · rw [if_neg Bool.false_ne_true, if_neg retries]
        exact Or.inr ⟨rfl, Nat.not_lt.mp retries, rfl⟩

/-! ## What a step does -/

/-- What a step does to the queue, the gate and the frames in hand. -/
inductive Does (decoder : VideoDecoder) : Action → VideoDecoder → Prop where
  | quiet {action : Action} {next : VideoDecoder} (quiet : Quiet decoder next) : Does decoder action next
  | refuse (frame : Frame) (free : decoder.feeding = none) (recovers : decoder.recovering = true) :
      Does decoder (.feed frame) { decoder with fed := decoder.fed ++ [frame] }
  | pass (frame : Frame) (free : decoder.feeding = none) (runs : decoder.recovering = false) :
      Does decoder (.feed frame) { decoder with feeding := some frame }
  | enqueue (frame : Frame) (now queuedMs : Int) (feeding : decoder.feeding = some frame) :
      Does decoder (.enqueue now queuedMs)
        ((if decoder.crowded frame now then decoder.dropPendingInputs else decoder).push frame queuedMs)
  | take (now : Int) (taking : decoder.place = .taking) : Does decoder (.take now) (decoder.take now)
  | submit (pending : PendingFrame) (submitting : decoder.place = .submitting pending) :
      Does decoder (.submit .accepted) (decoder.submit pending .accepted)
  | lose (pending : PendingFrame) (losing : decoder.place = .losing pending) :
      Does decoder .lose { decoder.dropPendingInputs with place := .draining }
  | error (idle : decoder.place = .idle) : Does decoder .error decoder.onError
  | giveUp (recovers : decoder.place = .recovering) (retries : RECOVER_MAX_RETRIES ≤ decoder.recoverRetries) :
      Does decoder (.recover false) { decoder with recoverRetries := 0, recovering := false, place := .idle }
  | clear (clearing : decoder.place = .clearing) : Does decoder .clear decoder.clear
  | restart (started : Bool) (resetting : decoder.place = .resetting) :
      Does decoder (.restart started) (decoder.restart started)
  | finish (restarted : decoder.place = .restarted) :
      Does decoder .finish { decoder with recovering := false, place := .idle }

theorem does_of_step {action : Action} (stepped : step decoder action = some next) : Does decoder action next := by
  cases action with
  | feed frame =>
      simp only [step, feed] at stepped
      split at stepped
      case h_1 => cases stepped
      case h_2 free =>
        split at stepped
        case isTrue recovers =>
          cases stepped
          exact .refuse frame free recovers
        case isFalse runs =>
          cases stepped
          exact .pass frame free (Bool.eq_false_iff.mpr runs)
  | enqueue now queuedMs =>
      simp only [step, enqueue] at stepped
      split at stepped
      case h_1 => cases stepped
      case h_2 frame feeding =>
        cases stepped
        exact .enqueue frame now queuedMs feeding
  | inputAvailable index =>
      obtain ⟨idle, rfl⟩ := eq_of_guarded stepped
      exact .quiet (quiet_onInputBufferAvailable idle index)
  | drain =>
      obtain ⟨⟨idle, _⟩, rfl⟩ := eq_of_guarded stepped
      exact .quiet (quiet_drain idle)
  | check =>
      obtain ⟨draining, rfl⟩ := eq_of_guarded stepped
      exact .quiet (quiet_check draining)
  | take now =>
      obtain ⟨taking, rfl⟩ := eq_of_guarded stepped
      exact .take now taking
  | submit submission =>
      simp only [step] at stepped
      split at stepped
      case h_1 pending submitting =>
        cases stepped
        cases submission with
        | accepted => exact .submit pending submitting
        | unsuitable => exact .quiet (quiet_submit submitting)
        | raised => exact .quiet (quiet_submit submitting)
      case h_2 => cases stepped
  | lose =>
      simp only [step] at stepped
      split at stepped
      case h_1 pending losing =>
        cases stepped
        exact .lose pending losing
      case h_2 => cases stepped
  | error =>
      obtain ⟨idle, rfl⟩ := eq_of_guarded stepped
      exact .error idle
  | postRecover =>
      obtain ⟨erring, rfl⟩ := eq_of_guarded stepped
      exact .quiet (quiet_postRecover erring)
  | setSurface swapped =>
      obtain ⟨idle, rfl⟩ := eq_of_guarded stepped
      exact .quiet (quiet_setSurface idle swapped)
  | runRecover =>
      obtain ⟨⟨idle, _⟩, rfl⟩ := eq_of_guarded stepped
      exact .quiet (quiet_runRecover idle)
  | recover surfaceValid =>
      obtain ⟨recovers, rfl⟩ := eq_of_guarded stepped
      rcases recover_cases recovers surfaceValid with quiet | ⟨rfl, retries, same⟩
      · exact .quiet quiet
      · rw [same]
        exact .giveUp recovers retries
  | clear =>
      obtain ⟨clearing, rfl⟩ := eq_of_guarded stepped
      exact .clear clearing
  | restart started =>
      obtain ⟨resetting, rfl⟩ := eq_of_guarded stepped
      exact .restart started resetting
  | finish =>
      obtain ⟨restarted, rfl⟩ := eq_of_guarded stepped
      exact .finish restarted
  | request =>
      obtain ⟨_, rfl⟩ := eq_of_guarded stepped
      exact .quiet quiet_request

theorem Bounded.quiet (bounded : decoder.Bounded) (quiet : Quiet decoder next) : next.Bounded :=
  bounded.same quiet.queue quiet.bytes

theorem Bounded.enqueue (bounded : decoder.Bounded) (frame : Frame) (now queuedMs : Int) :
    ((if decoder.crowded frame now then decoder.dropPendingInputs else decoder).push frame queuedMs).Bounded := by
  cases crowded : decoder.crowded frame now with
  | true =>
      rw [if_pos rfl]
      refine Bounded.push (.empty rfl rfl) frame queuedMs (fun fits => ⟨Nat.succ_pos 3, ?_⟩)
      exact (Int.zero_add _).symm ▸ Int.ofNat_le.mpr fits
  | false => exact bounded.push frame queuedMs (room_of_not_crowded bounded crowded)

theorem bounded_step (decoder : VideoDecoder) (action : Action) (next : VideoDecoder) (bounded : decoder.Bounded)
    (stepped : step decoder action = some next) : next.Bounded := by
  cases does_of_step stepped with
  | quiet quiet => exact bounded.quiet quiet
  | refuse frame => exact bounded.same rfl rfl
  | pass frame => exact bounded.same rfl rfl
  | enqueue frame now queuedMs => exact bounded.enqueue frame now queuedMs
  | take now => exact bounded.take now
  | submit pending => exact bounded.same rfl rfl
  | lose pending => exact .empty rfl rfl
  | error => exact .empty rfl rfl
  | giveUp => exact bounded.same rfl rfl
  | clear => exact .empty rfl rfl
  | restart started => exact bounded.same rfl rfl
  | finish => exact bounded.same rfl rfl

/-! ## The gate -/

/-- The gate has seen every frame, except during a recovery, and a codec that is
being reset goes on with a keyframe. -/
structure Gated (decoder : VideoDecoder) : Prop where
  chain : decoder.line.WellFormed
  counted : decoder.queuedUpTo ≤ decoder.fed.length
  caughtUp : decoder.recovering = false ∨ decoder.feeding ≠ none → decoder.inputChainReady = true →
    decoder.queuedUpTo = decoder.fed.length
  fresh : decoder.place = .resetting → decoder.inputChainReady = true →
    ∃ first ∈ decoder.line.pending.head?, first.index = 0 ∧ Independent decoder.line.units first.unit

theorem gated_opened : opened.Gated where
  chain := wellFormed_empty
  counted := Nat.le_refl 0
  caughtUp := fun _ impossible => Bool.noConfusion impossible
  fresh := fun impossible => Place.noConfusion impossible

/-- All frames: those that the gate has seen, and those it has not. -/
theorem fed_eq (decoder : VideoDecoder) : ∃ unseen, decoder.fed = decoder.seen ++ unseen := by
  unfold seen
  split
  · exact ⟨decoder.fed.drop decoder.queuedUpTo, (List.take_append_drop _ _).symm⟩
  · exact ⟨[], (List.append_nil _).symm⟩

theorem seen_of_caughtUp (caughtUp : decoder.inputChainReady = true → decoder.queuedUpTo = decoder.fed.length) :
    decoder.seen = decoder.fed := by
  unfold seen
  split
  case isTrue ready => rw [caughtUp ready, List.take_length]
  case isFalse => rfl

/-- The queue is emptied.  The gate closes, and sees what it has not seen. -/
theorem chain_cleared (chain : decoder.line.WellFormed) {before after : List Part}
    (split : decoder.line.sent = before ++ after) :
    Line.WellFormed ⟨decoder.fed.map Frame.shape, before, [], true⟩ := by
  obtain ⟨unseen, all⟩ := fed_eq decoder
  have shut := (chain.retract split).refuseAll (unseen.map Frame.shape) rfl
  rw [all, List.map_append]
  exact shut

theorem Gated.of_shut (chain : next.line.WellFormed) (counted : next.queuedUpTo ≤ next.fed.length)
    (shut : next.inputChainReady = false) : next.Gated where
  chain := chain
  counted := counted
  caughtUp := fun _ ready => absurd (shut.symm.trans ready) Bool.false_ne_true
  fresh := fun _ ready => absurd (shut.symm.trans ready) Bool.false_ne_true

theorem Quiet.line_eq (quiet : Quiet decoder next) : next.line = decoder.line := by
  unfold line seen
  rw [quiet.ready, quiet.fed, quiet.upTo, quiet.submitted, quiet.hand, quiet.queue]

theorem Gated.quiet (gated : decoder.Gated) (quiet : Quiet decoder next) : next.Gated where
  chain := quiet.line_eq ▸ gated.chain
  counted := by
    rw [quiet.upTo, quiet.fed]
    exact gated.counted
  caughtUp := by
    intro either ready
    rw [quiet.upTo, quiet.fed]
    refine gated.caughtUp ?_ (quiet.ready ▸ ready)
    rcases either with runs | feeds
    · left
      apply Bool.eq_false_iff.mpr
      intro recovers
      exact absurd (runs.symm.trans (quiet.recovering recovers)) Bool.false_ne_true
    · exact Or.inr (quiet.feeding ▸ feeds)
  fresh := by
    intro resetting ready
    rw [quiet.line_eq]
    exact gated.fresh (quiet.resetting resetting) (quiet.ready ▸ ready)

theorem Gated.clearPendingInputs (gated : decoder.Gated) : decoder.clearPendingInputs.Gated :=
  .of_shut (chain_cleared gated.chain (List.append_nil _).symm) gated.counted rfl

/-- While the gate is open, a frame that is refused is not seen. -/
theorem line_refused_open (ready : decoder.inputChainReady = true) (counted : decoder.queuedUpTo ≤ decoder.fed.length)
    (feeding : Option Frame) (frame : Frame) :
    line { decoder with feeding := feeding, fed := decoder.fed ++ [frame] } = decoder.line := by
  unfold line seen
  rw [if_pos ready, if_pos ready, List.take_append_of_le_length counted]
  rfl

/-- While the gate is closed, it sees the frames that are refused. -/
theorem line_refused_shut (shut : decoder.inputChainReady = false) (feeding : Option Frame) (frame : Frame) :
    line { decoder with feeding := feeding, fed := decoder.fed ++ [frame] } =
      { decoder.line with units := decoder.line.units ++ [frame.shape] } := by
  unfold line seen
  simp only [shut, Bool.false_eq_true, if_false, List.map_append, List.map_singleton]
  rfl

theorem closed_line (shut : decoder.inputChainReady = false) : decoder.line.closed = true := by
  rw [line, shut]
  rfl

theorem Gated.refuse (gated : decoder.Gated) (frame : Frame) (free : decoder.feeding = none)
    (recovers : decoder.recovering = true) : Gated { decoder with fed := decoder.fed ++ [frame] } where
  chain := by
    by_cases ready : decoder.inputChainReady = true
    · exact (line_refused_open ready gated.counted decoder.feeding frame).symm ▸ gated.chain
    · have shut := Bool.eq_false_iff.mpr ready
      exact (line_refused_shut shut decoder.feeding frame).symm ▸ gated.chain.refuse frame.shape (closed_line shut)
  counted := by
    rw [List.length_append]
    exact Nat.le_succ_of_le gated.counted
  caughtUp := by
    rintro (runs | feeds)
    · exact absurd (recovers.symm.trans runs) Bool.noConfusion
    · exact absurd free feeds
  fresh := by
    intro resetting ready
    have isOpen : decoder.inputChainReady = true := ready
    rw [line_refused_open isOpen gated.counted decoder.feeding frame]
    exact gated.fresh resetting isOpen

theorem Gated.pass (gated : decoder.Gated) (frame : Frame) (runs : decoder.recovering = false) :
    Gated { decoder with feeding := some frame } where
  chain := gated.chain
  counted := gated.counted
  caughtUp := fun _ => gated.caughtUp (Or.inl runs)
  fresh := gated.fresh

/-- The gate has seen all frames before this one, and lets it in. -/
theorem line_queued (all : decoder.seen = decoder.fed) (frame : Frame) (queuedMs : Int) (bytes : Int)
    (drainPosted : Bool) :
    line { decoder with
      feeding := none
      fed := decoder.fed ++ [frame]
      queuedUpTo := decoder.fed.length + 1
      inputChainReady := true
      pendingInputs := decoder.pendingInputs ++ [⟨decoder.fed.length, frame.length, frame.keyframe, queuedMs⟩]
      pendingBytes := bytes
      drainPosted := drainPosted } =
    { decoder.line with
      units := decoder.line.units ++ [frame.shape]
      pending := decoder.line.pending ++ partsOf decoder.line.units.length frame.shape.size
      closed := false } := by
  have units : decoder.line.units = decoder.fed.map Frame.shape := congrArg (List.map Frame.shape) all
  have whole : ((decoder.fed ++ [frame]).take (decoder.fed.length + 1)).map Frame.shape =
      decoder.line.units ++ [frame.shape] := by
    rw [List.take_of_length_le (by rw [List.length_append]; rfl), List.map_append, units]
    rfl
  have queue : (decoder.pendingInputs ++ [(⟨decoder.fed.length, frame.length, frame.keyframe, queuedMs⟩ :
        PendingFrame)]).map (fun pending => part pending.number) =
      decoder.line.pending ++ partsOf decoder.line.units.length frame.shape.size := by
    rw [units, List.length_map, List.map_append]
    rfl
  exact congrArg₂ (fun units pending => Line.mk units decoder.line.sent pending false) whole queue

theorem Gated.push (gated : decoder.Gated) (frame : Frame) (queuedMs : Int)
    (caughtUp : decoder.inputChainReady = true → decoder.queuedUpTo = decoder.fed.length)
    (fits : decoder.inputChainReady = true → frame.length ≤ MAX_PENDING_BYTES) :
    (decoder.push frame queuedMs).Gated := by
  rcases push_cases decoder frame queuedMs with ⟨refused, same⟩ | ⟨_, passes, same⟩
  · have shut : decoder.inputChainReady = false := by
      rcases refused with long | ⟨shut, _⟩
      · apply Bool.eq_false_iff.mpr
        intro ready
        exact absurd (fits ready) (Nat.not_le.mpr long)
      · exact shut
    rw [same]
    refine .of_shut ?_ ?_ shut
    · exact (line_refused_shut shut none frame).symm ▸ gated.chain.refuse frame.shape (closed_line shut)
    · rw [List.length_append]
      exact Nat.le_succ_of_le gated.counted
  · have passes' : decoder.line.closed = true → frame.shape.independent = true := by
      intro closed
      exact passes (by simpa [line] using closed)
    have isLine := line_queued (seen_of_caughtUp caughtUp) frame queuedMs (decoder.pendingBytes + frame.length) true
    have longer : (decoder.fed ++ [frame]).length = decoder.fed.length + 1 := List.length_append
    rw [same]
    constructor
    case chain => exact isLine.symm ▸ gated.chain.enter frame.shape Nat.one_pos passes'
    case counted => exact longer.ge
    case caughtUp => exact fun _ _ => longer.symm
    case fresh =>
      intro resetting _
      rw [isLine]
      by_cases ready : decoder.inputChainReady = true
      · obtain ⟨first, isFirst, zero, independent⟩ := gated.fresh resetting ready
        refine ⟨first, ?_, zero, independent.grow [frame.shape]⟩
        exact Option.mem_def.mpr (by rw [List.head?_append, Option.mem_def.mp isFirst]; rfl)
      · have shut := Bool.eq_false_iff.mpr ready
        have nothing := gated.chain.gate (closed_line shut)
        refine ⟨⟨decoder.line.units.length, 0⟩, ?_, rfl, frame.shape, ?_, passes shut⟩
        · rw [nothing]
          exact rfl
        · exact List.getElem?_concat_length

theorem Gated.dropPendingInputs (gated : decoder.Gated) : decoder.dropPendingInputs.Gated :=
  .of_shut gated.clearPendingInputs.chain gated.counted rfl

theorem Gated.enqueue (gated : decoder.Gated) (bounded : decoder.Bounded) {frame : Frame}
    (feeding : decoder.feeding = some frame) (noOverflow : decoder.pendingBytes + frame.length < 2 ^ 31)
    (now queuedMs : Int) :
    ((if decoder.crowded frame now then decoder.dropPendingInputs else decoder).push frame queuedMs).Gated := by
  cases crowded : decoder.crowded frame now with
  | true =>
      rw [if_pos rfl]
      exact gated.dropPendingInputs.push frame queuedMs (fun ready => Bool.noConfusion ready)
        (fun ready => Bool.noConfusion ready)
  | false =>
      rw [if_neg Bool.false_ne_true]
      refine gated.push frame queuedMs (gated.caughtUp (Or.inr ?_)) ?_
      · rw [feeding]
        exact Option.some_ne_none frame
      · intro _
        by_contra long
        rw [crowded_of_long bounded now noOverflow (Nat.not_le.mp long)] at crowded
        exact Bool.noConfusion crowded

theorem Gated.take (gated : decoder.Gated) (now : Int) (taking : decoder.place = .taking) :
    (decoder.take now).Gated := by
  have hand : decoder.inHand = [] := by rw [inHand, taking]
  have stopped : Quiet decoder { decoder with drainPosted := false, place := .idle } :=
    ⟨rfl, rfl, rfl, rfl, rfl, rfl, hand.symm, rfl, id, Place.noConfusion⟩
  have waits : Quiet decoder { decoder with drainPosted := true, place := .idle } :=
    ⟨rfl, rfl, rfl, rfl, rfl, rfl, hand.symm, rfl, id, Place.noConfusion⟩
  rcases take_cases decoder now with ⟨_, same⟩ | ⟨_, _, _, same⟩ | ⟨_, _, _, _, same⟩ |
    ⟨pending, rest, _, queue, same⟩
  · exact same ▸ gated.quiet stopped
  · exact same ▸ (gated.quiet stopped).dropPendingInputs
  · exact same ▸ gated.quiet waits
  · have first : decoder.line.pending = part pending.number :: rest.map (fun pending => part pending.number) := by
      rw [line, queue]
      rfl
    have sent := gated.chain.send first
    have isSent : decoder.line.sent ++ [part pending.number] = (decoder.submitted ++ [pending.number]).map part := by
      rw [line, hand, List.append_nil, List.map_append]
      rfl
    rw [isSent] at sent
    rw [same]
    exact ⟨sent, gated.counted, gated.caughtUp, fun impossible => Place.noConfusion impossible⟩

theorem Gated.submit (gated : decoder.Gated) {pending : PendingFrame}
    (submitting : decoder.place = .submitting pending) : (decoder.submit pending .accepted).Gated := by
  have hand : decoder.inHand = [pending.number] := by rw [inHand, submitting]
  have same : (decoder.submit pending .accepted).line = decoder.line := by
    unfold line
    rw [hand]
    exact congrArg (fun sent => Line.mk _ (List.map part sent) _ _) (List.append_nil _)
  exact ⟨same ▸ gated.chain, gated.counted, gated.caughtUp, fun impossible => Place.noConfusion impossible⟩

theorem Gated.lose (gated : decoder.Gated) {pending : PendingFrame} (losing : decoder.place = .losing pending) :
    Gated { decoder.dropPendingInputs with place := .draining } := by
  have hand : decoder.inHand = [pending.number] := by rw [inHand, losing]
  have split : decoder.line.sent = (decoder.submitted ++ []).map part ++ [part pending.number] := by
    rw [line, hand, List.map_append, List.append_nil]
    rfl
  exact .of_shut (chain_cleared gated.chain split) gated.counted rfl

theorem sent_of_none (hand : decoder.inHand = []) :
    decoder.line.sent = (decoder.submitted ++ []).map part ++ [] := by
  rw [line, hand]
  exact (List.append_nil _).symm

theorem Gated.onError (gated : decoder.Gated) (idle : decoder.place = .idle) : decoder.onError.Gated := by
  have split := sent_of_none (inHand_of_idle idle)
  exact .of_shut (chain_cleared gated.chain split) gated.counted rfl

theorem Gated.clear (gated : decoder.Gated) (clearing : decoder.place = .clearing) : decoder.clear.Gated := by
  have hand : decoder.inHand = [] := by rw [inHand, clearing]
  have split := sent_of_none hand
  exact .of_shut (chain_cleared gated.chain split) gated.counted rfl

theorem Gated.restart (gated : decoder.Gated) (resetting : decoder.place = .resetting) (started : Bool) :
    (decoder.restart started).Gated := by
  have hand : decoder.inHand = [] := by rw [inHand, resetting]
  refine ⟨?_, gated.counted, gated.caughtUp, fun impossible => Place.noConfusion impossible⟩
  cases started with
  | true =>
      refine gated.chain.restart (fun isOpen => gated.fresh resetting ?_)
      simpa [line] using isOpen
  | false =>
      have same : (decoder.restart false).line = decoder.line := by
        unfold line
        rw [hand]
        rfl
      exact same ▸ gated.chain

/-- A recovery ends with the gate closed, or with the gate open and no frame
refused since the last one was queued.  The bytes of the queue and those of a frame
together are an int. -/
def Rearmed (decoder : VideoDecoder) : Action → Prop
  | .enqueue _ _ => ∀ frame ∈ decoder.feeding, decoder.pendingBytes + frame.length < 2 ^ 31
  | .recover surfaceValid => surfaceValid = false → RECOVER_MAX_RETRIES ≤ decoder.recoverRetries →
      decoder.inputChainReady = true → decoder.queuedUpTo = decoder.fed.length
  | .finish => decoder.inputChainReady = true → decoder.queuedUpTo = decoder.fed.length
  | _ => True

instance (decoder : VideoDecoder) (action : Action) : Decidable (Rearmed decoder action) := by
  unfold Rearmed
  cases action <;> infer_instance

/-- The recovery is over. -/
theorem Gated.ended (gated : decoder.Gated) (hand : decoder.inHand = []) (retries : Nat)
    (rearmed : decoder.inputChainReady = true → decoder.queuedUpTo = decoder.fed.length) :
    Gated { decoder with recoverRetries := retries, recovering := false, place := .idle } := by
  have same : line { decoder with recoverRetries := retries, recovering := false, place := .idle } =
      decoder.line := by
    unfold line
    rw [hand]
    rfl
  exact ⟨same ▸ gated.chain, gated.counted, fun _ => rearmed, fun impossible => Place.noConfusion impossible⟩

theorem gated_step (decoder : VideoDecoder) (action : Action) (next : VideoDecoder)
    (holds : decoder.Gated ∧ decoder.Bounded) (rearmed : Rearmed decoder action)
    (stepped : step decoder action = some next) : next.Gated ∧ next.Bounded := by
  obtain ⟨gated, bounded⟩ := holds
  refine ⟨?_, bounded_step decoder action next bounded stepped⟩
  cases does_of_step stepped with
  | quiet quiet => exact gated.quiet quiet
  | refuse frame free recovers => exact gated.refuse frame free recovers
  | pass frame free runs => exact gated.pass frame runs
  | enqueue frame now queuedMs feeding => exact gated.enqueue bounded feeding (rearmed frame feeding) now queuedMs
  | take now taking => exact gated.take now taking
  | submit pending submitting => exact gated.submit submitting
  | lose pending losing => exact gated.lose losing
  | error idle => exact gated.onError idle
  | giveUp recovers retries => exact gated.ended (by rw [inHand, recovers]) 0 (rearmed rfl retries)
  | clear clearing => exact gated.clear clearing
  | restart started resetting => exact gated.restart resetting started
  | finish restarted => exact gated.ended (by rw [inHand, restarted]) decoder.recoverRetries rearmed

/-! ## What is submitted -/

def IsKeyframe (fed : List Frame) (number : Nat) : Prop :=
  ∃ frame, fed[number]? = some frame ∧ frame.keyframe = true

/-- The frames submitted begin with a keyframe, and behind a frame that was
passed to `feed` and not submitted they go on with one. -/
structure Chained (fed : List Frame) (submitted : List Nat) : Prop where
  opens : ∀ first ∈ submitted.head?, IsKeyframe fed first
  follows : submitted.IsChain (fun earlier later =>
    earlier < later ∧ ((∃ lost, earlier < lost ∧ lost < later) → IsKeyframe fed later))

theorem isKeyframe_of_independent {number : Nat} (independent : Independent decoder.line.units number) :
    IsKeyframe decoder.fed number := by
  obtain ⟨found, isShape, holds⟩ := independent
  obtain ⟨unseen, all⟩ := fed_eq decoder
  rw [line, List.getElem?_map] at isShape
  obtain ⟨frame, isFrame, rfl⟩ := Option.map_eq_some_iff.mp isShape
  refine ⟨frame, ?_, holds⟩
  rw [all, List.getElem?_append_left (List.getElem?_eq_some_iff.mp isFrame).1]
  exact isFrame

theorem Gated.chained (gated : decoder.Gated) : Chained decoder.fed decoder.submitted := by
  have sent := gated.chain.sent
  have split : decoder.line.sent = decoder.submitted.map part ++ decoder.inHand.map part := List.map_append
  rw [split] at sent
  have early := sent.early
  constructor
  case opens =>
    intro first isFirst
    refine isKeyframe_of_independent (early.opens (part first) ?_).2
    rw [List.head?_map, Option.mem_def.mp isFirst]
    rfl
  case follows =>
    refine ((List.isChain_map part).mp early.chain).imp ?_
    rintro earlier later (⟨_, impossible⟩ | ⟨before, _, independent | ⟨next, _⟩⟩)
    · cases impossible
    · exact ⟨before, fun _ => isKeyframe_of_independent independent⟩
    · refine ⟨before, ?_⟩
      rintro ⟨lost, above, below⟩
      have isNext : later = earlier + 1 := next
      omega

/-- The queue is always within its bounds.  If every recovery ends with the gate
closed, or open with no frame refused since the last one was queued, then the
frames submitted keep their dependencies. -/
theorem input_queue {actions : List Action} (ran : run step opened actions = some decoder)
    (rearmed : Throughout step opened Rearmed actions) :
    decoder.pendingBytes = ((decoder.pendingInputs.map (fun pending => pending.length)).sum : Nat) ∧
      decoder.pendingInputs.length ≤ MAX_PENDING_FRAMES ∧ decoder.pendingBytes ≤ MAX_PENDING_BYTES ∧
      Chained decoder.fed decoder.submitted := by
  obtain ⟨gated, bounded⟩ :=
    run_invariant_throughout gated_step ⟨gated_opened, bounded_opened⟩ rearmed ran
  exact ⟨bounded.bytes, bounded.frames, bounded.small, gated.chained⟩

/-- A keyframe is submitted, and the codec fails.  A frame is refused while it recovers and
another one behind it, since both depend on what is lost, and then a keyframe comes. -/
def recovered : List Action :=
  [.feed ⟨1000, true⟩, .enqueue 0 0, .inputAvailable 0, .check, .take 0, .submit .accepted, .check, .take 0, .error,
    .postRecover, .feed ⟨500, false⟩, .runRecover, .recover true, .clear, .restart true, .finish, .feed ⟨500, false⟩,
    .enqueue 50 50, .feed ⟨1000, true⟩, .enqueue 66 66, .inputAvailable 0, .check, .take 66, .submit .accepted]

theorem input_queue_sample : ∃ decoder, run step opened recovered = some decoder ∧ decoder.submitted = [3] ∧
    decoder.pendingBytes = ((decoder.pendingInputs.map (fun pending => pending.length)).sum : Nat) ∧
      decoder.pendingInputs.length ≤ MAX_PENDING_FRAMES ∧ decoder.pendingBytes ≤ MAX_PENDING_BYTES ∧
      Chained decoder.fed decoder.submitted := by
  have ends : (run step opened recovered).map (fun decoder => decoder.submitted) = some [3] := by decide +kernel
  obtain ⟨decoder, ran, isSubmitted⟩ := Option.map_eq_some_iff.mp ends
  exact ⟨decoder, ran, isSubmitted, input_queue ran (by decide +kernel)⟩

/-! ## A recovery that is given up -/

/-- A keyframe is submitted.  The output surface cannot be swapped, and is gone
for all retries.  Meanwhile a frame is refused.  When the recovery is given up,
the next frame finds the gate open. -/
def givenUp : List Action :=
  [.feed ⟨1000, true⟩, .enqueue 0 0, .inputAvailable 0, .check, .take 0, .submit .accepted, .check, .take 0,
      .setSurface false, .recover false, .feed ⟨500, false⟩] ++
    (List.replicate 50 [.runRecover, .recover false]).flatten ++
    [.feed ⟨500, false⟩, .enqueue 10000 10000, .inputAvailable 1, .check, .take 10000, .submit .accepted]

theorem input_queue_not_always : ¬ ∀ actions decoder, run step opened actions = some decoder →
    decoder.pendingBytes = ((decoder.pendingInputs.map (fun pending => pending.length)).sum : Nat) ∧
      decoder.pendingInputs.length ≤ MAX_PENDING_FRAMES ∧ decoder.pendingBytes ≤ MAX_PENDING_BYTES ∧
      Chained decoder.fed decoder.submitted := by
  intro always
  have ends : (run step opened givenUp).map (fun decoder => (decoder.fed, decoder.submitted)) =
      some ([⟨1000, true⟩, ⟨500, false⟩, ⟨500, false⟩], [0, 2]) := by decide +kernel
  obtain ⟨decoder, ran, isEnd⟩ := Option.map_eq_some_iff.mp ends
  obtain ⟨isFed, isSubmitted⟩ := Prod.mk.inj isEnd
  have chained := (always givenUp decoder ran).2.2.2
  rw [isFed, isSubmitted] at chained
  have both := List.isChain_pair.mp chained.follows
  obtain ⟨frame, found, keyframe⟩ := both.2 ⟨1, by decide, by decide⟩
  cases found
  cases keyframe

end VideoDecoder
end MetaShare
