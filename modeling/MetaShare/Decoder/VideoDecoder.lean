import MetaShare.Foundation.Transitions
import Mathlib.Algebra.Order.Ring.Int

namespace MetaShare

/-!
# The video decoder

The receiver's thread feeds access units into a short queue, and the codec
thread submits them as the codec offers input buffers.  The queue is shared
under a lock, but a frame that is being submitted is in neither, and the flag
that keeps frames out during a recovery is read without the lock.  An action is
one critical section of one thread, or a call of the codec, whose outcome is
part of the action.  Readings of the clock are part of the actions too.
-/

namespace VideoDecoder

def INPUT_BUDGET_MS : Int := 40
def MAX_PENDING_FRAMES : Nat := 4
def MAX_PENDING_BYTES : Nat := 4 * 1024 * 1024
def WEDGE_RESET_AFTER_KEYFRAME_DROPS : Nat := 2
def RECOVER_MAX_RETRIES : Nat := 50

/-- What the decoder looks at of an access unit that it is fed. -/
structure Frame where
  length : Nat
  keyframe : Bool
  deriving DecidableEq

/-- A frame in the queue, with its number among all frames. -/
structure PendingFrame where
  number : Nat
  length : Nat
  keyframe : Bool
  queuedMs : Int
  deriving DecidableEq

/-- Where the codec thread is.  Each place but the first lies between two of its
critical sections. -/
inductive Place where
  | idle
  | draining
  | taking
  | submitting (pending : PendingFrame)
  | losing (pending : PendingFrame)
  | erring
  | recovering
  | clearing
  | resetting
  | restarted
  deriving DecidableEq

/-- What becomes of an attempt to submit a frame: there may be no input buffer
of that size, or an exception. -/
inductive Submission where
  | accepted
  | unsuitable
  | raised
  deriving DecidableEq

end VideoDecoder

/-- The fields of the decoder, the tasks that have been posted to the codec
thread, the frame that the receiver's thread is about to queue, and the place of
the codec thread.  Three fields only serve to state properties: all frames that
were passed to `feed` and whose fate in it is settled, how many there were when
one was last queued, and the numbers of those submitted since the codec was last
started. -/
structure VideoDecoder where
  pendingInputs : List VideoDecoder.PendingFrame
  pendingBytes : Int
  inputChainReady : Bool
  freeInputs : List Int
  recovering : Bool
  keyframeDropStreak : Nat
  recoverRetries : Nat
  drainPosted : Bool
  recoversPosted : Nat
  requestsPosted : Nat
  feeding : Option VideoDecoder.Frame
  place : VideoDecoder.Place
  fed : List VideoDecoder.Frame
  queuedUpTo : Nat
  submitted : List Nat
  deriving DecidableEq

namespace VideoDecoder

/-- The codec has just been started for the first time. -/
def opened : VideoDecoder where
  pendingInputs := []
  pendingBytes := 0
  inputChainReady := false
  freeInputs := []
  recovering := false
  keyframeDropStreak := 0
  recoverRetries := 0
  drainPosted := false
  recoversPosted := 0
  requestsPosted := 0
  feeding := none
  place := .idle
  fed := []
  queuedUpTo := 0
  submitted := []

def clearPendingInputs (decoder : VideoDecoder) : VideoDecoder :=
  { decoder with pendingInputs := [], pendingBytes := 0, inputChainReady := false }

/-- Behind two keyframes that could not be queued the codec is taken to be
wedged. -/
def dropPendingInputs (decoder : VideoDecoder) : VideoDecoder :=
  let lostKeyframe := decoder.pendingInputs.any (fun pending => pending.keyframe)
  let streak := if lostKeyframe then decoder.keyframeDropStreak + 1 else decoder.keyframeDropStreak
  let wedged := lostKeyframe && decide (WEDGE_RESET_AFTER_KEYFRAME_DROPS ≤ streak) && !decoder.recovering
  { decoder.clearPendingInputs with
    keyframeDropStreak := streak
    recovering := decoder.recovering || wedged
    recoversPosted := if wedged then decoder.recoversPosted + 1 else decoder.recoversPosted
    requestsPosted := decoder.requestsPosted + 1 }

/-! ## The receiver's thread -/

/-- The guard of `feed` is read outside the lock. -/
def feed (decoder : VideoDecoder) (frame : Frame) : Option VideoDecoder :=
  match decoder.feeding with
  | some _ => none
  | none =>
      if decoder.recovering then some { decoder with fed := decoder.fed ++ [frame] }
      else some { decoder with feeding := some frame }

/-- The queue must be emptied before the frame can be queued.  The sum is one of
`int` values. -/
def crowded (decoder : VideoDecoder) (frame : Frame) (now : Int) : Bool :=
  decide (MAX_PENDING_FRAMES ≤ decoder.pendingInputs.length) ||
    decide ((MAX_PENDING_BYTES : Int) < (decoder.pendingBytes + frame.length).bmod (2 ^ 32)) ||
    decoder.pendingInputs.head?.any (fun oldest => decide (INPUT_BUDGET_MS ≤ now - oldest.queuedMs))

/-- The frame passes the gate, or it is refused. -/
def push (decoder : VideoDecoder) (frame : Frame) (queuedMs : Int) : VideoDecoder :=
  let fed := decoder.fed ++ [frame]
  if MAX_PENDING_BYTES < frame.length then { decoder with feeding := none, fed := fed }
  else if !decoder.inputChainReady && !frame.keyframe then { decoder with feeding := none, fed := fed }
  else
    { decoder with
      feeding := none
      fed := fed
      queuedUpTo := fed.length
      inputChainReady := true
      pendingInputs := decoder.pendingInputs ++ [⟨decoder.fed.length, frame.length, frame.keyframe, queuedMs⟩]
      pendingBytes := decoder.pendingBytes + frame.length
      drainPosted := true }

/-- The part of `feed` under the lock. -/
def enqueue (decoder : VideoDecoder) (now queuedMs : Int) : Option VideoDecoder :=
  match decoder.feeding with
  | none => none
  | some frame =>
      some ((if decoder.crowded frame now then decoder.dropPendingInputs else decoder).push frame queuedMs)

/-! ## Draining the queue -/

/-- The codec offers an input buffer. -/
def onInputBufferAvailable (decoder : VideoDecoder) (index : Int) : VideoDecoder :=
  if decoder.recovering then decoder
  else { decoder with freeInputs := decoder.freeInputs ++ [index], place := .draining }

/-- The part of `drainPendingInputs` under the lock. -/
def take (decoder : VideoDecoder) (now : Int) : VideoDecoder :=
  let decoder := { decoder with drainPosted := false, place := .idle }
  match decoder.pendingInputs with
  | [] => decoder
  | pending :: rest =>
      if INPUT_BUDGET_MS - (now - pending.queuedMs) ≤ 0 then decoder.dropPendingInputs
      else
        match decoder.freeInputs with
        | [] => { decoder with drainPosted := true }
        | _ :: freeInputs =>
            { decoder with
              pendingInputs := rest
              pendingBytes := decoder.pendingBytes - pending.length
              freeInputs := freeInputs
              place := .submitting pending }

def submit (decoder : VideoDecoder) (pending : PendingFrame) : Submission → VideoDecoder
  | .accepted =>
      { decoder with
        submitted := decoder.submitted ++ [pending.number]
        keyframeDropStreak := 0
        place := .draining }
  | .unsuitable => { decoder with place := .losing pending }
  | .raised => { decoder with place := .losing pending }

/-! ## Recovery -/

/-- The first part of `onError`, under the lock. -/
def onError (decoder : VideoDecoder) : VideoDecoder := { decoder.clearPendingInputs with place := .erring }

/-- The second part of `onError`. -/
def postRecover (decoder : VideoDecoder) : VideoDecoder :=
  if decoder.recovering then { decoder with place := .idle }
  else
    { decoder with recovering := true, recoversPosted := decoder.recoversPosted + 1, place := .idle }

/-- The task of `setSurface`, with a valid surface, up to where it recovers. -/
def setSurface (decoder : VideoDecoder) (swapped : Bool) : VideoDecoder :=
  if decoder.recovering then { decoder with place := .recovering }
  else if swapped then { decoder with recoverRetries := 0 }
  else { decoder with recovering := true, place := .recovering }

/-- The first part of `recover`.  Without a valid surface it is retried later, or
given up. -/
def recover (decoder : VideoDecoder) (surfaceValid : Bool) : VideoDecoder :=
  if surfaceValid then { decoder with freeInputs := [], place := .clearing }
  else if decoder.recoverRetries + 1 ≤ RECOVER_MAX_RETRIES then
    { decoder with
      recoverRetries := decoder.recoverRetries + 1
      recoversPosted := decoder.recoversPosted + 1
      place := .idle }
  else { decoder with recoverRetries := 0, recovering := false, place := .idle }

/-- The part of `recover` under the lock, and the fields it resets. -/
def clear (decoder : VideoDecoder) : VideoDecoder :=
  { decoder.clearPendingInputs with keyframeDropStreak := 0, recoverRetries := 0, place := .resetting }

/-- The codec is reset, configured and started, unless that raises an exception. -/
def restart (decoder : VideoDecoder) (started : Bool) : VideoDecoder :=
  { decoder with submitted := if started then [] else decoder.submitted, place := .restarted }

/-! ## Actions -/

inductive Action where
  | feed (frame : Frame)
  | enqueue (now queuedMs : Int)
  | inputAvailable (index : Int)
  | drain
  | check
  | take (now : Int)
  | submit (submission : Submission)
  | lose
  | error
  | postRecover
  | setSurface (swapped : Bool)
  | runRecover
  | recover (surfaceValid : Bool)
  | clear
  | restart (started : Bool)
  | finish
  | request

def step (decoder : VideoDecoder) : Action → Option VideoDecoder
  | .feed frame => decoder.feed frame
  | .enqueue now queuedMs => decoder.enqueue now queuedMs
  | .inputAvailable index => if decoder.place = .idle then some (decoder.onInputBufferAvailable index) else none
  | .drain =>
      if decoder.place = .idle ∧ decoder.drainPosted = true then
        some { decoder with drainPosted := false, place := .draining }
      else none
  | .check =>
      if decoder.place = .draining then
        some { decoder with place := if decoder.recovering then .idle else .taking }
      else none
  | .take now => if decoder.place = .taking then some (decoder.take now) else none
  | .submit submission =>
      match decoder.place with
      | .submitting pending => some (decoder.submit pending submission)
      | _ => none
  | .lose =>
      match decoder.place with
      | .losing _ => some { decoder.dropPendingInputs with place := .draining }
      | _ => none
  | .error => if decoder.place = .idle then some decoder.onError else none
  | .postRecover => if decoder.place = .erring then some decoder.postRecover else none
  | .setSurface swapped => if decoder.place = .idle then some (decoder.setSurface swapped) else none
  | .runRecover =>
      if decoder.place = .idle ∧ 0 < decoder.recoversPosted then
        some { decoder with recoversPosted := decoder.recoversPosted - 1, place := .recovering }
      else none
  | .recover surfaceValid => if decoder.place = .recovering then some (decoder.recover surfaceValid) else none
  | .clear => if decoder.place = .clearing then some decoder.clear else none
  | .restart started => if decoder.place = .resetting then some (decoder.restart started) else none
  | .finish =>
      if decoder.place = .restarted then some { decoder with recovering := false, place := .idle } else none
  | .request =>
      if decoder.place = .idle ∧ 0 < decoder.requestsPosted then
        some { decoder with requestsPosted := decoder.requestsPosted - 1 }
      else none

end VideoDecoder
end MetaShare
