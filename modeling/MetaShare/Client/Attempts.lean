import Mathlib.Data.List.Basic
import Mathlib.Data.List.Infix
import Mathlib.Tactic.Common

namespace MetaShare
namespace StreamSession

/-!
# Connection attempts

The session thread connects again and again.  An attempt initialises the
decoders, starts the receiver, and tells the streamer where to send.  From then
on it reads the signaling stream, and whichever way that ends, it stops the
receiver and releases the decoders.  What the calls of an attempt do is given in
advance, so that every outcome is covered.
-/

/-- The things an attempt must give back. -/
inductive Kind where
  | video
  | audio
  | receiver
  deriving DecidableEq

/-- A decoder or a receiver, by the attempt that made it. -/
structure Resource where
  kind : Kind
  attempt : Nat
  deriving DecidableEq

/-- A decoder's init or a receiver's start was called, or its release or stop. -/
inductive Event where
  | started (resource : Resource)
  | ended (resource : Resource)
  deriving DecidableEq

def Event.resource : Event → Resource
  | .started resource => resource
  | .ended resource => resource

/-- What a video decoder holds. -/
structure VideoHandles where
  callbackThread : Bool
  codec : Bool
  deriving DecidableEq

/-- What an audio decoder holds. -/
structure AudioHandles where
  codec : Bool
  cbThread : Bool
  track : Bool
  deriving DecidableEq

/-- What a receiver holds. -/
structure ReceiverHandles where
  socket : Bool
  thread : Bool
  deriving DecidableEq

/-- The number of the attempt and what its objects hold, the fields of the
session, and all that has happened. -/
structure World where
  attempt : Nat
  video : VideoHandles
  audio : AudioHandles
  receiver : ReceiverHandles
  published : Bool
  inputOpen : Bool
  log : List Event

def World.new : World := ⟨0, ⟨false, false⟩, ⟨false, false, false⟩, ⟨false, false⟩, false, false, []⟩

/-- Thrown by a call, or because of what the streamer sent. -/
inductive Failure where
  | raised
  | io (message : String)
  deriving DecidableEq

/-- Code that changes the world and may throw.  What it did until then remains. -/
abbrev Code := ExceptT Failure (StateM World)

/-- One wait for a line: it returns a line or the end of the stream, it times
out and the ping is sent or not, or it fails. -/
inductive Read where
  | line (text : String)
  | ended
  | timeout (pinged : Bool)
  | failed
  deriving DecidableEq

/-- What the calls of one attempt do: whether they return, and what. -/
structure Outcome where
  /-- Whether HELLO offers audio, if connecting and reading it succeeds. -/
  hello : Option Bool
  surfaceValid : Bool
  videoCodecCreated : Bool
  videoCodecStarted : Bool
  audioCodecCreated : Bool
  audioCodecStarted : Bool
  trackPlays : Bool
  socketCreated : Bool
  socketBound : Bool
  readySent : Bool
  /-- The line behind READY, unless waiting for it fails. -/
  startLine : Option (Option String)
  timeoutSet : Bool
  /-- The waits until the session ends or is stopped. -/
  reads : List Read
  deriving DecidableEq

def call (returns : Bool) : Code Unit := if returns then pure () else throw .raised

def record (started : Bool) (kind : Kind) : Code Unit :=
  modify (fun world => { world with
    log := world.log ++ [if started then .started ⟨kind, world.attempt⟩ else .ended ⟨kind, world.attempt⟩] })

/-! ## The decoders and the receiver -/

namespace VideoDecoder

def init (outcome : Outcome) : Code Unit := do
  record true .video
  modify (fun world => { world with video := { world.video with callbackThread := true } })
  call outcome.videoCodecCreated
  modify (fun world => { world with video := { world.video with codec := true } })
  call outcome.videoCodecStarted

def release : Code Unit := do
  record false .video
  modify (fun world => { world with video := ⟨false, false⟩ })

end VideoDecoder

namespace AudioDecoder

def init (outcome : Outcome) : Code Unit := do
  record true .audio
  call outcome.audioCodecCreated
  modify (fun world => { world with audio := { world.audio with codec := true, cbThread := true } })
  call outcome.audioCodecStarted
  modify (fun world => { world with audio := { world.audio with track := true } })
  call outcome.trackPlays

def release : Code Unit := do
  record false .audio
  modify (fun world => { world with audio := ⟨false, false, false⟩ })

end AudioDecoder

namespace Receiver

def start (outcome : Outcome) : Code Unit := do
  record true .receiver
  call outcome.socketCreated
  modify (fun world => { world with receiver := { world.receiver with socket := true } })
  call outcome.socketBound
  modify (fun world => { world with receiver := { world.receiver with thread := true } })

def stop : Code Unit := do
  record false .receiver
  modify (fun world => { world with receiver := ⟨false, false⟩ })

end Receiver

/-! ## An attempt -/

/-- The read loop.  It ends on BYE, at the end of the stream, with an exception,
or when the session has been stopped. -/
def readLoop : List Read → Code Unit
  | [] => pure ()
  | .line text :: reads => if text = "BYE" then pure () else readLoop reads
  | .ended :: _ => pure ()
  | .timeout pinged :: reads => do
      call pinged
      readLoop reads
  | .failed :: _ => throw .raised

def awaitStart (startLine : Option (Option String)) : Code Unit :=
  match startLine with
  | none => throw .raised
  | some line =>
      if line = some "START" then pure ()
      else throw (.io ("expected START, got: " ++ line.getD "null"))

/-- Audio is disabled if its decoder cannot be initialised. -/
def initAudio (outcome : Outcome) : Code Bool :=
  tryCatch
    (do
      AudioDecoder.init outcome
      return true)
    (fun _ => return false)

/-- Without a valid surface there is no video in the session. -/
def initVideo (outcome : Outcome) : Code Unit :=
  if outcome.surfaceValid then VideoDecoder.init outcome else pure ()

/-- Step 2 sets up the decoders, and says whether there is an audio decoder. -/
def setUpDecoders (outcome : Outcome) (haveAudio : Bool) : Code Bool := do
  modify (fun world => { world with
    video := ⟨false, false⟩, audio := ⟨false, false, false⟩, receiver := ⟨false, false⟩, published := true })
  initVideo outcome
  if haveAudio then initAudio outcome else return false

/-- Steps 3 and 4 bring up the receiver, send READY, wait for START, and open
the input. -/
def bringUpReceiver (outcome : Outcome) : Code Unit := do
  Receiver.start outcome
  call outcome.readySent
  awaitStart outcome.startLine
  modify (fun world => { world with inputOpen := true })
  call outcome.timeoutSet

def cleanUp (audio : Bool) : Code Unit := do
  modify (fun world => { world with inputOpen := false })
  Receiver.stop
  modify (fun world => { world with published := false })
  VideoDecoder.release
  if audio then AudioDecoder.release

/-- Step 5 blocks until the session ends, and cleans up in any case. -/
def blockUntilBye (outcome : Outcome) (audio : Bool) : Code Unit :=
  tryFinally (readLoop outcome.reads) (cleanUp audio)

def negotiateAndRender (outcome : Outcome) : Code Unit := do
  match outcome.hello with
  | none => throw .raised
  | some haveAudio =>
      let audio ← setUpDecoders outcome haveAudio
      bringUpReceiver outcome
      blockUntilBye outcome audio

/-- One attempt.  The session thread goes on whatever was thrown. -/
def World.after (world : World) (outcome : Outcome) : World :=
  { ((negotiateAndRender outcome).run.run world).2 with attempt := world.attempt + 1 }

/-- The iterations of the session thread.  There is no attempt without an offer. -/
def runLoop : List (Option Outcome) → World → World
  | [], world => world
  | none :: iterations, world => runLoop iterations world
  | some outcome :: iterations, world => runLoop iterations (world.after outcome)

/-! ## What an attempt must give back -/

/-- Started and not ended yet. -/
def Live (log : List Event) (resource : Resource) : Prop :=
  .started resource ∈ log ∧ .ended resource ∉ log

instance (log : List Event) (resource : Resource) : Decidable (Live log resource) :=
  inferInstanceAs (Decidable (_ ∧ _))

/-- Nothing is live between two attempts, and at any time there is at most one
of each kind. -/
structure Tidy (iterations : List (Option Outcome)) : Prop where
  between : ∀ early late, iterations = early ++ late → ∀ resource, ¬ Live (runLoop early .new).log resource
  single : ∀ log, log <+: (runLoop iterations .new).log → ∀ one other, Live log one → Live log other →
    one.kind = other.kind → one = other

namespace Outcome

/-- The video decoder is initialised, unless there is no surface for it. -/
def VideoInitialised (outcome : Outcome) : Prop :=
  outcome.surfaceValid = true → outcome.videoCodecCreated = true ∧ outcome.videoCodecStarted = true

def AudioInitialised (outcome : Outcome) : Prop :=
  outcome.audioCodecCreated = true ∧ outcome.audioCodecStarted = true ∧ outcome.trackPlays = true

/-- No call fails between the start of the receiver and the read loop. -/
def Connected (outcome : Outcome) : Prop :=
  outcome.socketCreated = true ∧ outcome.socketBound = true ∧ outcome.readySent = true ∧
    outcome.startLine = some (some "START") ∧ outcome.timeoutSet = true

/-- The attempt fails before it makes a decoder, or no call fails from then on
until it is in the read loop. -/
def Unbroken (outcome : Outcome) : Prop :=
  ∀ haveAudio ∈ outcome.hello,
    outcome.VideoInitialised ∧ (haveAudio = true → outcome.AudioInitialised) ∧ outcome.Connected

end Outcome

/-! ## What the code does -/

/-- The code ends with the result, and has added the events. -/
structure Runs {Result : Type} (code : Code Result) (world : World) (result : Except Failure Result)
    (events : List Event) : Prop where
  ends : (code.run.run world).1 = result
  log : (code.run.run world).2.log = world.log ++ events
  attempt : (code.run.run world).2.attempt = world.attempt

section Runs

variable {Result Next : Type} {code : Code Result} {next : Result → Code Next} {world : World}
  {value : Result} {result : Except Failure Next} {failure : Failure} {early late : List Event}

theorem run_bind_of_ok (ends : (code.run.run world).1 = .ok value) :
    (code >>= next).run.run world = (next value).run.run (code.run.run world).2 := by
  rw [ExceptT.run_bind, StateT.run_bind]
  generalize code.run.run world = ended at ends ⊢
  obtain ⟨ended, after⟩ := ended
  cases ends
  rfl

theorem run_bind_of_error (ends : (code.run.run world).1 = .error failure) :
    (code >>= next).run.run world = (.error failure, (code.run.run world).2) := by
  rw [ExceptT.run_bind, StateT.run_bind]
  generalize code.run.run world = ended at ends ⊢
  obtain ⟨ended, after⟩ := ended
  cases ends
  rfl

theorem Runs.bind (first : Runs code world (.ok value) early)
    (second : Runs (next value) (code.run.run world).2 result late) :
    Runs (code >>= next) world result (early ++ late) := by
  constructor
  · rw [run_bind_of_ok first.ends, second.ends]
  · rw [run_bind_of_ok first.ends, second.log, first.log, List.append_assoc]
  · rw [run_bind_of_ok first.ends, second.attempt, first.attempt]

theorem Runs.bind_error (first : Runs code world (.error failure) early) :
    Runs (code >>= next) world (.error failure) early := by
  constructor
  · rw [run_bind_of_error first.ends]
  · rw [run_bind_of_error first.ends, first.log]
  · rw [run_bind_of_error first.ends, first.attempt]

/-- A failure is caught and replaced by a value. -/
theorem Runs.recovers {ended : Except Failure Result} {events : List Event} (runs : Runs code world ended events)
    (instead : Result) :
    Runs (tryCatch code (fun _ => return instead)) world (.ok (ended.toOption.getD instead)) events := by
  obtain ⟨ends, log, attempt⟩ := runs
  have caught : (tryCatch code (fun _ => return instead) : Code Result).run.run world =
      (.ok (ended.toOption.getD instead), (code.run.run world).2) := by
    rw [ExceptT.run_tryCatch, StateT.run_bind]
    generalize code.run.run world = ran at ends ⊢
    obtain ⟨result, after⟩ := ran
    cases ends
    cases result <;> rfl
  constructor
  · rw [caught]
  · rw [caught, log]
  · rw [caught, attempt]

end Runs

theorem runs_pure {Result : Type} (value : Result) (world : World) : Runs (pure value) world (.ok value) [] where
  ends := rfl
  log := (List.append_nil _).symm
  attempt := rfl

theorem runs_modify (change : World → World) (world : World) (log : (change world).log = world.log)
    (attempt : (change world).attempt = world.attempt) : Runs (modify change) world (.ok ()) [] where
  ends := rfl
  log := by
    rw [List.append_nil]
    exact log
  attempt := attempt

theorem runs_call (returns : Bool) (world : World) :
    Runs (call returns) world (if returns then .ok () else .error .raised) [] := by
  cases returns <;> exact ⟨rfl, (List.append_nil _).symm, rfl⟩

theorem runs_videoDecoder_init (outcome : Outcome) (world : World) :
    Runs (VideoDecoder.init outcome) world
      (if outcome.videoCodecCreated && outcome.videoCodecStarted then .ok () else .error .raised)
      [.started ⟨.video, world.attempt⟩] := by
  cases created : outcome.videoCodecCreated <;> cases started : outcome.videoCodecStarted <;>
    simp only [VideoDecoder.init, created, started] <;> exact ⟨rfl, rfl, rfl⟩

theorem runs_audioDecoder_init (outcome : Outcome) (world : World) :
    Runs (AudioDecoder.init outcome) world
      (if outcome.audioCodecCreated && outcome.audioCodecStarted && outcome.trackPlays then .ok ()
        else .error .raised)
      [.started ⟨.audio, world.attempt⟩] := by
  cases created : outcome.audioCodecCreated <;> cases started : outcome.audioCodecStarted <;>
    cases plays : outcome.trackPlays <;>
    simp only [AudioDecoder.init, created, started, plays] <;> exact ⟨rfl, rfl, rfl⟩

theorem runs_initAudio (outcome : Outcome) (world : World) :
    Runs (initAudio outcome) world
      (.ok (outcome.audioCodecCreated && outcome.audioCodecStarted && outcome.trackPlays))
      [.started ⟨.audio, world.attempt⟩] := by
  have init := runs_audioDecoder_init outcome world
  cases plays : outcome.audioCodecCreated && outcome.audioCodecStarted && outcome.trackPlays with
  | true =>
      rw [plays] at init
      have made : Runs (do AudioDecoder.init outcome; return true) world (.ok true)
          [.started ⟨.audio, world.attempt⟩] :=
        init.bind (runs_pure true _)
      exact made.recovers false
  | false =>
      rw [plays] at init
      have failed : Runs (do AudioDecoder.init outcome; return true) world (.error .raised)
          [.started ⟨.audio, world.attempt⟩] := init.bind_error
      exact failed.recovers false

/-- The code adds the events, and returns exactly under the condition. -/
def Returns (code : Code Unit) (world : World) (events : List Event) (condition : Prop) : Prop :=
  ∃ result, Runs code world result events ∧ (result = .ok () ↔ condition)

theorem Returns.andThen {code second : Code Unit} {world : World} {events : List Event} {one other : Prop}
    (first : Returns code world events one) (quiet : ∀ middle, Returns second middle [] other) :
    Returns (code >>= fun _ => second) world events (one ∧ other) := by
  obtain ⟨result, runs, returns⟩ := first
  cases result with
  | ok value =>
      obtain ⟨later, runsLater, returnsLater⟩ := quiet (code.run.run world).2
      have both : Runs (code >>= fun _ => second) world later (events ++ []) := runs.bind runsLater
      rw [List.append_nil] at both
      refine ⟨later, both, returnsLater.trans ?_⟩
      exact (and_iff_right (returns.mp rfl)).symm
  | error failure =>
      refine ⟨.error failure, runs.bind_error, ?_⟩
      constructor
      · intro impossible
        cases impossible
      · intro holds
        cases returns.mpr holds.1

theorem Runs.returns {code : Code Unit} {world : World} {holds : Bool} {failure : Failure} {events : List Event}
    (runs : Runs code world (if holds then .ok () else .error failure) events) :
    Returns code world events (holds = true) := by
  refine ⟨_, runs, ?_⟩
  cases holds <;> simp

theorem returns_call (returns : Bool) (world : World) : Returns (call returns) world [] (returns = true) :=
  (runs_call returns world).returns

theorem returns_awaitStart (startLine : Option (Option String)) (world : World) :
    Returns (awaitStart startLine) world [] (startLine = some (some "START")) := by
  have quiet (result : Except Failure Unit) (code : Code Unit) (ran : code.run.run world = (result, world)) :
      Runs code world result [] := by
    constructor
    · rw [ran]
    · rw [ran, List.append_nil]
    · rw [ran]
  cases startLine with
  | none =>
      refine ⟨.error .raised, quiet _ _ rfl, ?_⟩
      simp
  | some line =>
      by_cases isStart : line = some "START"
      · refine ⟨.ok (), quiet _ _ ?_, ?_⟩
        · rw [awaitStart, if_pos isStart]
          rfl
        · simp [isStart]
      · refine ⟨.error (.io ("expected START, got: " ++ line.getD "null")), quiet _ _ ?_, ?_⟩
        · rw [awaitStart, if_neg isStart]
          rfl
        · simp [isStart]

theorem runs_receiver_start (outcome : Outcome) (world : World) :
    Runs (Receiver.start outcome) world
      (if outcome.socketCreated && outcome.socketBound then .ok () else .error .raised)
      [.started ⟨.receiver, world.attempt⟩] := by
  cases created : outcome.socketCreated <;> cases bound : outcome.socketBound <;>
    simp only [Receiver.start, created, bound] <;> exact ⟨rfl, rfl, rfl⟩

theorem runs_initVideo (outcome : Outcome) (world : World) :
    Runs (initVideo outcome) world
      (if !outcome.surfaceValid || (outcome.videoCodecCreated && outcome.videoCodecStarted) then .ok ()
        else .error .raised)
      (if outcome.surfaceValid then [.started ⟨.video, world.attempt⟩] else []) := by
  unfold initVideo
  cases outcome.surfaceValid with
  | false => exact ⟨rfl, (List.append_nil _).symm, rfl⟩
  | true => exact runs_videoDecoder_init outcome world

theorem videoInitialised_iff (outcome : Outcome) :
    (!outcome.surfaceValid || (outcome.videoCodecCreated && outcome.videoCodecStarted)) = true ↔
      outcome.VideoInitialised := by
  unfold Outcome.VideoInitialised
  cases outcome.surfaceValid <;> simp

/-- Steps 3 and 4 start one receiver. -/
theorem returns_bringUpReceiver (outcome : Outcome) (world : World) :
    Returns (bringUpReceiver outcome) world [.started ⟨.receiver, world.attempt⟩] outcome.Connected := by
  have opened (middle : World) : Returns (modify fun world => { world with inputOpen := true }) middle [] True :=
    ⟨.ok (), runs_modify _ middle rfl rfl, by simp⟩
  have rest (middle : World) := (opened middle).andThen (returns_call outcome.timeoutSet)
  have awaits (middle : World) := (returns_awaitStart outcome.startLine middle).andThen rest
  have sends (middle : World) := (returns_call outcome.readySent middle).andThen awaits
  have all := (runs_receiver_start outcome world).returns.andThen sends
  simp only [Bool.and_eq_true, true_and, and_assoc] at all
  exact all

/-- The read loop itself changes nothing. -/
theorem run_readLoop (reads : List Read) (world : World) :
    ∃ result, (readLoop reads).run.run world = (result, world) := by
  induction reads with
  | nil => exact ⟨_, rfl⟩
  | cons first reads inductionHypothesis =>
      cases first with
      | line text =>
          rw [readLoop]
          split
          · exact ⟨_, rfl⟩
          · exact inductionHypothesis
      | ended => exact ⟨_, rfl⟩
      | timeout pinged =>
          cases pinged with
          | true =>
              obtain ⟨result, ran⟩ := inductionHypothesis
              refine ⟨result, ?_⟩
              rw [readLoop, run_bind_of_ok rfl]
              exact ran
          | false => exact ⟨_, rfl⟩
      | failed => exact ⟨_, rfl⟩

/-- What is done in any case is done in the world that the protected code leaves. -/
theorem run_tryFinally (body cleanup : Code Unit) (world middle : World) (result : Except Failure Unit)
    (ran : body.run.run world = (result, middle)) (cleaned : (cleanup.run.run middle).1 = .ok ()) :
    (tryFinally body cleanup).run.run world = (result, (cleanup.run.run middle).2) := by
  have body_eq : body world = (result, middle) := ran
  obtain ⟨after, cleanup_eq⟩ : ∃ after, cleanup middle = (.ok (), after) :=
    ⟨(cleanup middle).2, Prod.ext cleaned rfl⟩
  have same : (cleanup.run.run middle).2 = after := congrArg Prod.snd cleanup_eq
  rw [same]
  cases result <;>
    simp [tryFinally, tryFinally', ExceptT.run, ExceptT.mk, StateT.run, body_eq, cleanup_eq,
      Functor.map, ExceptT.map, bind, StateT.bind, pure] <;> rfl

/-- What the clean-up records. -/
def cleanedUp (attempt : Nat) (audio : Bool) : List Event :=
  [.ended ⟨.receiver, attempt⟩, .ended ⟨.video, attempt⟩] ++ if audio then [.ended ⟨.audio, attempt⟩] else []

theorem runs_cleanUp (audio : Bool) (world : World) :
    Runs (cleanUp audio) world (.ok ()) (cleanedUp world.attempt audio) := by
  cases audio with
  | false => exact ⟨rfl, List.append_assoc _ _ _, rfl⟩
  | true =>
      refine ⟨rfl, ?_, rfl⟩
      exact (congrArg (· ++ _) (List.append_assoc _ _ _)).trans (List.append_assoc _ _ _)

theorem runs_blockUntilBye (outcome : Outcome) (audio : Bool) (world : World) :
    ∃ result, Runs (blockUntilBye outcome audio) world result (cleanedUp world.attempt audio) := by
  obtain ⟨result, ran⟩ := run_readLoop outcome.reads world
  have cleaned := runs_cleanUp audio world
  have both := run_tryFinally _ _ world world result ran cleaned.ends
  refine ⟨result, ⟨?_, ?_, ?_⟩⟩
  · rw [blockUntilBye, both]
  · rw [blockUntilBye, both]
    exact cleaned.log
  · rw [blockUntilBye, both]
    exact cleaned.attempt

/-- What step 2 records. -/
def setUp (outcome : Outcome) (haveAudio : Bool) (attempt : Nat) : List Event :=
  (if outcome.surfaceValid then [.started ⟨.video, attempt⟩] else []) ++
    if haveAudio then [.started ⟨.audio, attempt⟩] else []

/-- Step 2 starts the decoders.  Only the video decoder may make it fail. -/
theorem runs_setUpDecoders (outcome : Outcome) (haveAudio : Bool) (world : World) :
    (outcome.VideoInitialised ∧ ∃ audio, Runs (setUpDecoders outcome haveAudio) world (.ok audio)
        (setUp outcome haveAudio world.attempt) ∧ (audio = true ↔ haveAudio = true ∧ outcome.AudioInitialised)) ∨
      (¬ outcome.VideoInitialised ∧ ∃ failure, Runs (setUpDecoders outcome haveAudio) world (.error failure)
        [.started ⟨.video, world.attempt⟩]) := by
  let created (world : World) : World := { world with
    video := ⟨false, false⟩, audio := ⟨false, false, false⟩, receiver := ⟨false, false⟩, published := true }
  have creates : Runs (modify created) world (.ok ()) [] := runs_modify created world rfl rfl
  by_cases initialised : outcome.VideoInitialised
  · refine Or.inl ⟨initialised, haveAudio &&
      (outcome.audioCodecCreated && outcome.audioCodecStarted && outcome.trackPlays), ?_, ?_⟩
    · refine creates.bind ?_
      have video := runs_initVideo outcome (created world)
      rw [if_pos ((videoInitialised_iff outcome).mpr initialised)] at video
      refine video.bind ?_
      cases haveAudio with
      | false => exact ⟨rfl, (List.append_nil _).symm, rfl⟩
      | true =>
          have audio := runs_initAudio outcome ((initVideo outcome).run.run (created world)).2
          rw [video.attempt] at audio
          exact audio
    · unfold Outcome.AudioInitialised
      cases haveAudio <;> simp [and_assoc]
  · have valid : outcome.surfaceValid = true := by
      by_contra invalid
      exact initialised (fun valid => absurd valid invalid)
    refine Or.inr ⟨initialised, .raised, creates.bind ?_⟩
    have video := runs_initVideo outcome (created world)
    rw [if_neg (fun holds => initialised ((videoInitialised_iff outcome).mp holds)), if_pos valid] at video
    exact video.bind_error

/-! ## An attempt as a whole -/

/-- An attempt records events of its own resources only, and it gives back what
it has started exactly if it is unbroken. -/
theorem runs_negotiateAndRender (outcome : Outcome) (world : World) :
    ∃ result events, Runs (negotiateAndRender outcome) world result events ∧
      (∀ event ∈ events, event.resource.attempt = world.attempt) ∧
      ((∀ resource, .started resource ∈ events → .ended resource ∈ events) ↔ outcome.Unbroken) := by
  unfold negotiateAndRender Outcome.Unbroken
  cases outcome.hello with
  | none =>
      refine ⟨_, [], ⟨rfl, (List.append_nil _).symm, rfl⟩, ?_, ?_⟩
      · simp
      · simp
  | some haveAudio =>
      rcases runs_setUpDecoders outcome haveAudio world with
        ⟨video, audio, setsUp, audioIff⟩ | ⟨noVideo, failure, fails⟩
      · obtain ⟨result, brings, connectedIff⟩ :=
          returns_bringUpReceiver outcome ((setUpDecoders outcome haveAudio).run.run world).2
        rw [setsUp.attempt] at brings
        cases result with
        | error failure =>
            have broken : ¬ outcome.Connected := by
              intro connected
              cases connectedIff.mpr connected
            refine ⟨_, _, setsUp.bind brings.bind_error, ?_, ?_⟩
            · unfold setUp
              cases haveAudio <;> cases outcome.surfaceValid <;> simp [Event.resource]
            · constructor
              · intro givenBack
                have given := givenBack ⟨.receiver, world.attempt⟩ (List.mem_append_right _ List.mem_cons_self)
                unfold setUp at given
                cases haveAudio <;> cases valid : outcome.surfaceValid <;> simp [valid] at given
              · intro unbroken
                exact absurd (unbroken haveAudio rfl).2.2 broken
        | ok value =>
            obtain ⟨last, blocks⟩ := runs_blockUntilBye outcome audio
              ((bringUpReceiver outcome).run.run ((setUpDecoders outcome haveAudio).run.run world).2).2
            rw [brings.attempt, setsUp.attempt] at blocks
            refine ⟨_, _, setsUp.bind (brings.bind blocks), ?_, ?_⟩
            · unfold setUp cleanedUp
              cases haveAudio <;> cases outcome.surfaceValid <;> cases audio <;> simp [Event.resource]
            · have connected := connectedIff.mp rfl
              unfold setUp cleanedUp
              cases haveAudio <;> cases outcome.surfaceValid <;> cases audio <;> simp_all
      · refine ⟨_, _, fails.bind_error, ?_, ?_⟩
        · simp [Event.resource]
        · simp [noVideo]

theorem after_spec (world : World) (outcome : Outcome) :
    ∃ events, (world.after outcome).log = world.log ++ events ∧
      (∀ event ∈ events, event.resource.attempt = world.attempt) ∧
      ((∀ resource, .started resource ∈ events → .ended resource ∈ events) ↔ outcome.Unbroken) := by
  obtain ⟨_, events, runs, numbered, unbrokenIff⟩ := runs_negotiateAndRender outcome world
  exact ⟨events, runs.log, numbered, unbrokenIff⟩

/-! ## All attempts -/

theorem runLoop_append (early late : List (Option Outcome)) (world : World) :
    runLoop (early ++ late) world = runLoop late (runLoop early world) := by
  induction early generalizing world with
  | nil => rfl
  | cons iteration early inductionHypothesis =>
      cases iteration with
      | none => exact inductionHypothesis world
      | some outcome => exact inductionHypothesis (world.after outcome)

/-- All that has happened concerns earlier attempts. -/
def World.Past (world : World) : Prop := ∀ event ∈ world.log, event.resource.attempt < world.attempt

theorem World.Past.after {world : World} (past : world.Past) (outcome : Outcome) : (world.after outcome).Past := by
  obtain ⟨events, log, numbered, _⟩ := after_spec world outcome
  intro event member
  rw [log] at member
  rcases List.mem_append.mp member with old | new
  · exact Nat.lt_succ_of_lt (past event old)
  · exact Nat.lt_succ_of_le (numbered event new).le

theorem past_runLoop (iterations : List (Option Outcome)) (world : World) (past : world.Past) :
    (runLoop iterations world).Past := by
  induction iterations generalizing world with
  | nil => exact past
  | cons iteration iterations inductionHypothesis =>
      cases iteration with
      | none => exact inductionHypothesis world past
      | some outcome => exact inductionHypothesis (world.after outcome) (past.after outcome)

theorem past_new : World.new.Past := by
  intro event impossible
  cases impossible

/-- An unbroken attempt leaves nothing live. -/
theorem not_live_after {world : World} (nothing : ∀ resource, ¬ Live world.log resource) {outcome : Outcome}
    (unbroken : outcome.Unbroken) : ∀ resource, ¬ Live (world.after outcome).log resource := by
  obtain ⟨events, log, _, unbrokenIff⟩ := after_spec world outcome
  rintro resource ⟨started, live⟩
  rw [log] at started live
  rcases List.mem_append.mp started with old | new
  · exact nothing resource ⟨old, fun ended => live (List.mem_append_left _ ended)⟩
  · exact live (List.mem_append_right _ (unbrokenIff.mpr unbroken resource new))

theorem not_live_runLoop {iterations : List (Option Outcome)}
    (unbroken : ∀ iteration ∈ iterations, ∀ outcome ∈ iteration, outcome.Unbroken) {world : World}
    (nothing : ∀ resource, ¬ Live world.log resource) :
    ∀ resource, ¬ Live (runLoop iterations world).log resource := by
  induction iterations generalizing world with
  | nil => exact nothing
  | cons iteration iterations inductionHypothesis =>
      have later := fun other member => unbroken other (List.mem_cons_of_mem iteration member)
      cases iteration with
      | none => exact inductionHypothesis later nothing
      | some outcome =>
          exact inductionHypothesis later
            (not_live_after nothing (unbroken (some outcome) List.mem_cons_self outcome rfl))

theorem not_live_new (resource : Resource) : ¬ Live World.new.log resource := by
  rintro ⟨impossible, _⟩
  cases impossible

/-- During an attempt only what it has started itself is live. -/
theorem single_during {world : World} (nothing : ∀ resource, ¬ Live world.log resource) {events during : List Event}
    (numbered : ∀ event ∈ events, event.resource.attempt = world.attempt) (begins : during <+: events)
    {one other : Resource} (live : Live (world.log ++ during) one) (otherLive : Live (world.log ++ during) other)
    (sameKind : one.kind = other.kind) : one = other := by
  have own (resource : Resource) (live : Live (world.log ++ during) resource) : resource.attempt = world.attempt := by
    rcases List.mem_append.mp live.1 with old | new
    · exact absurd ⟨old, fun ended => live.2 (List.mem_append_left _ ended)⟩ (nothing resource)
    · exact numbered _ (begins.subset new)
  have sameAttempt : one.attempt = other.attempt := (own one live).trans (own other otherLive).symm
  cases one
  cases other
  cases sameKind
  cases sameAttempt
  rfl

theorem single_of_unbroken (iterations : List (Option Outcome))
    (unbroken : ∀ iteration ∈ iterations, ∀ outcome ∈ iteration, outcome.Unbroken) (log : List Event)
    (begins : log <+: (runLoop iterations .new).log) (one other : Resource) (live : Live log one)
    (otherLive : Live log other) (sameKind : one.kind = other.kind) : one = other := by
  induction iterations using List.reverseRecOn with
  | nil =>
      rw [List.prefix_nil.mp begins] at live
      cases live.1
  | append_singleton iterations iteration inductionHypothesis =>
      have earlier := fun old member => unbroken old (List.mem_append_left [iteration] member)
      rw [runLoop_append] at begins
      cases iteration with
      | none => exact inductionHypothesis earlier begins
      | some outcome =>
          obtain ⟨events, isLog, numbered, _⟩ := after_spec (runLoop iterations .new) outcome
          have begins : log <+: (runLoop iterations .new).log ++ events := isLog ▸ begins
          rcases List.prefix_or_prefix_of_prefix begins (List.prefix_append _ _) with before | ⟨during, rfl⟩
          · exact inductionHypothesis earlier before
          · exact single_during (not_live_runLoop earlier not_live_new) numbered
              ((List.prefix_append_right_inj _).mp begins) live otherLive sameKind

/-- The attempts give everything back exactly if each is unbroken. -/
theorem tidy_iff (iterations : List (Option Outcome)) :
    Tidy iterations ↔ ∀ iteration ∈ iterations, ∀ outcome ∈ iteration, outcome.Unbroken := by
  constructor
  · intro tidy iteration member outcome isOutcome
    obtain ⟨early, late, split⟩ := List.append_of_mem member
    cases isOutcome
    obtain ⟨events, log, numbered, unbrokenIff⟩ := after_spec (runLoop early .new) outcome
    refine unbrokenIff.mp (fun resource started => ?_)
    have between := tidy.between (early ++ [some outcome]) late (by rw [split, List.append_assoc]; rfl) resource
    have now : (runLoop (early ++ [some outcome]) .new).log = (runLoop early .new).log ++ events := by
      rw [runLoop_append]
      exact log
    rw [now] at between
    by_contra notEnded
    refine between ⟨List.mem_append_right _ started, fun ended => ?_⟩
    rcases List.mem_append.mp ended with old | new
    · have before := past_runLoop early .new past_new _ old
      exact absurd (numbered _ started) before.ne
    · exact notEnded new
  · intro unbroken
    refine ⟨?_, single_of_unbroken iterations unbroken⟩
    rintro early late rfl
    exact not_live_runLoop (fun old member => unbroken old (List.mem_append_left late member)) not_live_new

/-! ## A silent handshake -/

/-- The decoders and the receiver are up, READY is sent, and the wait for START
times out. -/
def silentHandshake : Outcome where
  hello := some true
  surfaceValid := true
  videoCodecCreated := true
  videoCodecStarted := true
  audioCodecCreated := true
  audioCodecStarted := true
  trackPlays := true
  socketCreated := true
  socketBound := true
  readySent := true
  startLine := none
  timeoutSet := true
  reads := []

/-- The next attempt opens all of them a second time. -/
theorem tidy_not_always : ¬ ∀ iterations, Tidy iterations := by
  intro always
  have between := (always [some silentHandshake]).between [some silentHandshake] [] rfl ⟨.video, 0⟩
  exact between (by decide)

end StreamSession
end MetaShare
