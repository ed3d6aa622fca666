import MetaShare.Foundation.Ownership
import MetaShare.Foundation.Transitions
import MetaShare.Capture.Encoder

namespace MetaShare

open Ownership Transitions

/-!
# What the encoder holds of the codec library

The encoder tries one codec after the other until one can be opened.  It holds the
codec, the device and the pool of a hardware encoder, and the scratch buffers, and it
opens a codec again for another bitrate.  The answers of the library are given, and
they may be bad at every call.
-/

namespace EncoderResources

inductive Kind where
  | codecContext
  | device
  | frames
  | frame
  | packet
  | scaler
  deriving DecidableEq

/-- A codec that the encoder may try to open. -/
inductive Candidate where
  | hevcVaapi
  | hevcNvenc
  | h264Vaapi
  | h264Nvenc
  | libx264
  deriving DecidableEq

namespace Candidate

def name : Candidate → String
  | hevcVaapi => "hevc_vaapi"
  | hevcNvenc => "hevc_nvenc"
  | h264Vaapi => "h264_vaapi"
  | h264Nvenc => "h264_nvenc"
  | libx264 => "libx264"

def h265 : Candidate → Bool
  | hevcVaapi => true
  | hevcNvenc => true
  | _ => false

/-- The candidate needs a device. -/
def vaapi : Candidate → Bool
  | hevcVaapi => true
  | h264Vaapi => true
  | _ => false

def hardware : Candidate → Bool
  | libx264 => false
  | _ => true

/-- NV12, or YUV420P in software. -/
def convFmtFor : Candidate → Int
  | libx264 => 0
  | _ => 23

/-- The latency settings, in the order in which they are made. -/
def options : Candidate → List (String × String)
  | libx264 => [("preset", "ultrafast"), ("tune", "zerolatency"), ("forced-idr", "1")]
  | hevcNvenc => nvenc
  | h264Nvenc => nvenc
  | hevcVaapi => [("rc_mode", "CBR"), ("async_depth", "1")]
  | h264Vaapi => [("rc_mode", "CBR"), ("async_depth", "1")]
where
  nvenc : List (String × String) :=
    [("preset", "p1"), ("tune", "ull"), ("rc", "cbr"), ("forced-idr", "1"), ("delay", "0"), ("zerolatency", "1"),
      ("rc-lookahead", "0")]

end Candidate

structure EncoderConfig where
  width : Int
  height : Int
  fpsNum : Int
  fpsDen : Int
  bitrateKbps : Int
  keyintSeconds : Int
  preferHardware : Bool
  preferH265 : Bool

/-- The software codec is always the last. -/
def buildCandidates (cfg : EncoderConfig) : List Candidate :=
  (if cfg.preferH265 && cfg.preferHardware then [.hevcVaapi, .hevcNvenc] else []) ++
    (if cfg.preferHardware then [.h264Vaapi, .h264Nvenc] else []) ++ [.libx264]

/-- What is set in a codec besides its size and its rate. -/
structure Settings where
  timeBase : Int × Int
  framerate : Int × Int
  gopSize : Int
  maxBFrames : Int
  globalHeader : Bool
  surfaces : Bool
  convFmt : Int
  options : List (String × String)
  deriving DecidableEq

structure AVCodecContext where
  handle : Handle Kind
  rates : Encoder.AVCodecContext
  settings : Settings
  hwDeviceCtx : Option (Handle Kind)
  hwFramesCtx : Option (Handle Kind)

/-- What is freed with a codec: its references are its own. -/
def AVCodecContext.handles (ctx : AVCodecContext) : List (Handle Kind) :=
  ctx.hwDeviceCtx.toList ++ (ctx.hwFramesCtx.toList ++ [ctx.handle])

/-- What has been set up for a candidate. -/
structure Attempt where
  ctx : AVCodecContext
  hw : Option (Handle Kind)
  hwFrames : Option (Handle Kind)

def Attempt.handles (attempt : Attempt) : List (Handle Kind) :=
  attempt.hwFrames.toList ++ (attempt.hw.toList ++ attempt.ctx.handles)

/-- What the library answers while a candidate is tried. -/
structure Trial where
  found : Bool
  allocated : Bool
  device : Except String Unit
  deviceRef : Bool
  framesAllocated : Bool
  framesInitialised : Except String Unit
  framesRef : Bool
  option : String → Option String
  opened : Except String Unit

/-- What the library answers while the encoder is opened. -/
structure Library where
  trial : Candidate → Trial
  conv : Bool
  pkt : Bool
  buffer : Bool

/-! ## A candidate -/

def freeContext (ctx : AVCodecContext) : Code Kind Unit := do
  freeIf ctx.hwDeviceCtx
  freeIf ctx.hwFramesCtx
  free ctx.handle

/-- What remains of an attempt that failed is freed. -/
def Attempt.discard (attempt : Attempt) : Code Kind Unit := do
  freeIf attempt.hwFrames
  freeIf attempt.hw
  freeContext attempt.ctx

def settingsFor (cfg : EncoderConfig) (candidate : Candidate) : Settings where
  timeBase := (1, 1000000)
  framerate := (cfg.fpsNum, cfg.fpsDen)
  gopSize := (cfg.keyintSeconds * cfg.fpsNum).tdiv (if cfg.fpsDen = 0 then 1 else cfg.fpsDen)
  maxBFrames := 0
  globalHeader := false
  surfaces := candidate.vaapi
  convFmt := candidate.convFmtFor
  options := candidate.options

def created (cfg : EncoderConfig) (candidate : Candidate) (handle : Handle Kind) : AVCodecContext where
  handle := handle
  rates := Encoder.setRate ⟨cfg.width, cfg.height, 0, 0, 0⟩ cfg.bitrateKbps
  settings := settingsFor cfg candidate
  hwDeviceCtx := none
  hwFramesCtx := none

/-- The device and the pool of surfaces. -/
def setUpDevice (trial : Trial) (ctx : AVCodecContext) : Code Kind (Attempt × Except String Unit) :=
  match trial.device with
  | .error err => pure (⟨ctx, none, none⟩, .error ("hwdevice_ctx_create: " ++ err))
  | .ok () => do
      let hw ← alloc .device
      let device ← allocIf .device trial.deviceRef
      if trial.framesAllocated then do
        let hwFrames ← alloc .frames
        match trial.framesInitialised with
        | .error err => do
            free hwFrames
            pure (⟨{ ctx with hwDeviceCtx := device }, some hw, none⟩, .error ("av_hwframe_ctx_init: " ++ err))
        | .ok () => do
            let frames ← allocIf .frames trial.framesRef
            pure (⟨{ ctx with hwDeviceCtx := device, hwFramesCtx := frames }, some hw, some hwFrames⟩, .ok ())
      else pure (⟨{ ctx with hwDeviceCtx := device }, some hw, none⟩, .error "av_hwframe_ctx_alloc failed")

/-- The first option that is rejected is an error, and so is a codec that does not open. -/
def requirements (candidate : Candidate) (trial : Trial) : Except String Unit :=
  match candidate.options.findSome? (fun option =>
      (trial.option option.1).map (fun err => "option " ++ option.1 ++ ": " ++ err)) with
  | some err => .error err
  | none => trial.opened.mapError (fun err => "avcodec_open2: " ++ err)

inductive Verdict where
  | skipped
  | refused (err : String)
  | opened (attempt : Attempt)

def Verdict.handles : Verdict → List (Handle Kind)
  | opened attempt => attempt.handles
  | _ => []

def Attempt.conclude (attempt : Attempt) (outcome : Except String Unit) : Code Kind Verdict :=
  match outcome with
  | .error err => do
      attempt.discard
      pure (.refused err)
  | .ok () => pure (.opened attempt)

/-- Only some candidates need a device. -/
def setUp (cfg : EncoderConfig) (candidate : Candidate) (trial : Trial) (handle : Handle Kind) :
    Code Kind (Attempt × Except String Unit) :=
  if candidate.vaapi then setUpDevice trial (created cfg candidate handle)
  else pure (⟨created cfg candidate handle, none, none⟩, .ok ())

def tryCandidate (cfg : EncoderConfig) (candidate : Candidate) (trial : Trial) : Code Kind Verdict :=
  if trial.found && trial.allocated then do
    let handle ← alloc .codecContext
    let (attempt, hardware) ← setUp cfg candidate trial handle
    attempt.conclude (hardware.bind (fun _ => requirements candidate trial))
  else pure .skipped

/-! ## Opening and closing -/

/-- The pointers of an open encoder, and what is modelled of it elsewhere. -/
structure OpenEncoder where
  cfg : EncoderConfig
  candidate : Candidate
  attempt : Attempt
  sws : Option (Handle Kind)
  conv : Handle Kind
  pkt : Handle Kind
  encoder : Encoder

def closeAll (sws conv pkt : Option (Handle Kind)) (attempt : Attempt) : Code Kind Unit := do
  freeIf sws
  freeIf conv
  freeIf pkt
  freeContext attempt.ctx
  freeIf attempt.hwFrames
  freeIf attempt.hw

def OpenEncoder.close (encoder : OpenEncoder) : Code Kind Unit :=
  closeAll encoder.sws (some encoder.conv) (some encoder.pkt) encoder.attempt

def commit (cfg : EncoderConfig) (library : Library) (candidate : Candidate) (attempt : Attempt) (err : String) :
    Code Kind (String × Option OpenEncoder) := do
  let conv ← allocIf .frame library.conv
  let pkt ← allocIf .packet library.pkt
  match conv, pkt with
  | some conv, some pkt =>
      if library.buffer then
        pure (err, some
          { cfg := cfg
            candidate := candidate
            attempt := attempt
            sws := none
            conv := conv
            pkt := pkt
            encoder := Encoder.opened ⟨cfg.width, cfg.height, cfg.bitrateKbps⟩ candidate.name
              attempt.hwFrames.isSome candidate.convFmtFor })
      else do
        closeAll none (some conv) (some pkt) attempt
        pure ("conv frame alloc failed", none)
  | conv, pkt => do
      closeAll none conv pkt attempt
      pure ("scratch frame/packet alloc failed", none)

/-- The loop of `open`, with the errors so far. -/
def openFrom (cfg : EncoderConfig) (library : Library) :
    List Candidate → String → Code Kind (String × Option OpenEncoder)
  | [], err => pure
      ("no encoder could be opened; tried: " ++ err ++ "(build ffmpeg with libx264 at minimum)", none)
  | candidate :: rest, err => do
      match ← tryCandidate cfg candidate (library.trial candidate) with
      | .skipped => openFrom cfg library rest err
      | .refused refusal => openFrom cfg library rest (err ++ "'" ++ candidate.name ++ "': " ++ refusal ++ "; ")
      | .opened attempt => commit cfg library candidate attempt err

def openEncoder (cfg : EncoderConfig) (library : Library) (err : String) :
    Code Kind (String × Option OpenEncoder) :=
  openFrom cfg library (buildCandidates cfg) err

/-! ## Another bitrate -/

/-- What the library answers when a codec is opened again. -/
structure Reopening where
  allocated : Bool
  deviceRef : Bool
  framesRef : Bool
  copied : Except String Unit
  opened : Except String Unit

/-- A reference to what is held, if anything is. -/
def reference (kind : Kind) (pointer : Option (Handle Kind)) (available : Bool) :
    Code Kind (Option (Handle Kind)) :=
  match pointer with
  | none => pure none
  | some handle => do
      use handle
      allocIf kind available

namespace OpenEncoder

variable (encoder : OpenEncoder)

def handles : List (Handle Kind) :=
  encoder.sws.toList ++ (encoder.conv :: encoder.pkt :: encoder.attempt.handles)

def withContext (ctx : AVCodecContext) : OpenEncoder :=
  { encoder with attempt := { encoder.attempt with ctx := ctx } }

/-- The software codec is changed in place.  Any other is replaced by one with the same
settings, if that can be opened. -/
def reconfigureBitrate (kbps : Int) (answers : Reopening) : Code Kind (OpenEncoder × Except String Unit) :=
  let ctx := encoder.attempt.ctx
  let rates := Encoder.setRate ctx.rates kbps
  if encoder.candidate = .libx264 then do
    use ctx.handle
    pure (encoder.withContext { ctx with rates := rates }, .ok ())
  else if answers.allocated then do
    let handle ← alloc .codecContext
    use ctx.handle
    let device ← reference .device encoder.attempt.hw answers.deviceRef
    let frames ← reference .frames encoder.attempt.hwFrames answers.framesRef
    let next : AVCodecContext := ⟨handle, rates, ctx.settings, device, frames⟩
    match answers.copied.bind (fun _ => answers.opened) with
    | .error err => do
        freeContext next
        pure (encoder, .error ("reopen selected encoder: " ++ err))
    | .ok () => do
        freeContext ctx
        pure (encoder.withContext next, .ok ())
  else pure (encoder, .error "codec context allocation failed")

/-- A rate that was asked for is applied at the next frame. -/
def applyBitrate (answers : Reopening) : Code Kind (OpenEncoder × Bool) :=
  let wantKbps := encoder.encoder.pendingBitrateKbps
  if 0 < wantKbps ∧ wantKbps ≠ encoder.encoder.cfg.bitrateKbps then do
    let (changed, outcome) ← encoder.reconfigureBitrate wantKbps answers
    pure (changed, outcome.toBool)
  else pure (encoder, false)

end OpenEncoder

/-! ## A frame -/

/-- How far the upload of a frame to the hardware gets. -/
inductive Upload where
  | unallocated
  | unfilled (err : String)
  | untransferred (err : String)
  | uploaded

def Upload.allocated : Upload → Bool
  | unallocated => false
  | _ => true

def Upload.outcome : Upload → Except String Unit
  | unallocated => .error "hw frame alloc failed"
  | unfilled err => .error ("av_hwframe_get_buffer: " ++ err)
  | untransferred err => .error ("av_hwframe_transfer_data: " ++ err)
  | uploaded => .ok ()

/-- What becomes of the reference to the pool in a frame when a surface is taken for the
frame: it stays, or the library puts one of its own over it, if that can be had. -/
inductive Filling where
  | kept
  | overwritten (available : Bool)

def Filling.overwrites : Filling → Bool
  | kept => false
  | overwritten _ => true

/-- The arguments of `encode`, and what the library answers. -/
structure Call where
  frame : Encoder.AVFrame
  ptsUsec : Int
  reopening : Reopening
  context : Bool
  writable : Bool
  upload : Upload
  surfaceRef : Bool
  filling : Filling
  taken : Except String Unit
  packets : List Encoder.Packet
  drained : Except String Unit

def Call.answers (call : Call) (reopened : Bool) : Encoder.Answers :=
  ⟨reopened, call.context, call.writable, call.upload.outcome, call.taken, call.packets, call.drained⟩

namespace OpenEncoder

variable (encoder : OpenEncoder)

/-- The scaling context is only created anew for another format. -/
def renewContext (frame : Encoder.AVFrame) (context : Bool) : Code Kind (Option (Handle Kind)) :=
  if encoder.sws = none ∨ encoder.encoder.swsSrcFmt ≠ frame.format then do
    freeIf encoder.sws
    allocIf .scaler context
  else pure encoder.sws

/-- The scaling context behind a conversion, and whether there is a frame to go on with. -/
def convert (frame : Encoder.AVFrame) (context writable : Bool) : Code Kind (Option (Handle Kind) × Bool) :=
  if encoder.encoder.needsConvert frame then do
    match ← encoder.renewContext frame context with
    | none => pure (none, false)
    | some scaler => do
        use encoder.conv
        runIf writable (use scaler)
        pure (some scaler, writable)
  else pure (encoder.sws, true)

def drain : Code Kind Unit := do
  use encoder.attempt.ctx.handle
  use encoder.pkt

/-- A surface of the pool is taken.  The result is the reference that the frame has then,
and the one that nobody has any more. -/
def getBuffer (hwFrames : Handle Kind) (frames : Option (Handle Kind)) :
    Filling → Code Kind (Option (Handle Kind) × Option (Handle Kind))
  | .kept => do
      use hwFrames
      pure (frames, none)
  | .overwritten available => do
      use hwFrames
      let own ← allocIf .frames available
      pure (own, frames)

/-- A frame on a surface is freed once the codec has it, or cannot have it.  The result is
the reference that was lost. -/
def submitSurface (hwFrames : Handle Kind) (call : Call) : Code Kind (Option (Handle Kind)) := do
  let hwUp ← alloc .frame
  use hwFrames
  let reference ← allocIf .frames call.surfaceRef
  let (frames, lost) ← getBuffer hwFrames reference call.filling
  runIf call.upload.outcome.toBool (use encoder.attempt.ctx.handle)
  freeIf frames
  free hwUp
  runIf (call.upload.outcome.toBool && call.taken.toBool) encoder.drain
  pure lost

def submit (call : Call) : Code Kind (Option (Handle Kind)) :=
  match encoder.attempt.hwFrames with
  | none => do
      use encoder.attempt.ctx.handle
      runIf call.taken.toBool encoder.drain
      pure none
  | some hwFrames =>
      if call.upload.allocated then encoder.submitSurface hwFrames call else pure none

/-- Without a frame nothing is submitted. -/
def submitIf (ready : Bool) (call : Call) : Code Kind (Option (Handle Kind)) :=
  if ready then encoder.submit call else pure none

/-- Behind the encoder comes the reference that the call has lost. -/
def encode (call : Call) :
    Code Kind (OpenEncoder × Option (Handle Kind) × List Encoder.Packet × Except String Unit) := do
  let (changed, reopened) ← encoder.applyBitrate call.reopening
  let (sws, ready) ← changed.convert call.frame call.context call.writable
  let lost ← changed.submitIf ready call
  let (next, result) := changed.encoder.encode call.frame call.ptsUsec (call.answers reopened)
  pure ({ changed with sws := sws, encoder := next }, lost, result)

end OpenEncoder

/-! ## Runs -/

inductive Action where
  | openEncoder (cfg : EncoderConfig) (library : Library) (err : String)
  | setBitrate (kbps : Int)
  | forceKeyframe
  | encode (call : Call)
  | close

end EncoderResources

/-- The live objects, the encoder while it is open, and the references that were lost. -/
structure EncoderResources where
  memory : Memory EncoderResources.Kind
  encoder : Option EncoderResources.OpenEncoder
  leaked : List (Handle EncoderResources.Kind)

namespace EncoderResources

def start : EncoderResources := ⟨.empty, none, []⟩

/-- An encoder is only opened when it is closed, and only used when it is open. -/
def enabled (resources : EncoderResources) : Action → Bool
  | .openEncoder _ _ _ => resources.encoder.isNone
  | .close => true
  | _ => resources.encoder.isSome

/-- What another thread asks for. -/
def ask (encoder : OpenEncoder) (action : Encoder.Action) : Option OpenEncoder :=
  (encoder.encoder.step action).map (fun next => { encoder with encoder := next })

def step (resources : EncoderResources) (action : Action) : Option EncoderResources :=
  match action, resources.encoder with
  | .openEncoder cfg library err, none =>
      (openEncoder cfg library err resources.memory).map (fun result =>
        { resources with memory := result.2, encoder := result.1.2 })
  | .setBitrate kbps, some encoder =>
      (ask encoder (.setBitrate kbps)).map (fun next => { resources with encoder := some next })
  | .forceKeyframe, some encoder =>
      (ask encoder .forceKeyframe).map (fun next => { resources with encoder := some next })
  | .encode call, some encoder =>
      (encoder.encode call resources.memory).map (fun result =>
        ⟨result.2, some result.1.1, result.1.2.1.toList ++ resources.leaked⟩)
  | .close, some encoder =>
      (encoder.close resources.memory).map (fun result => { resources with memory := result.2, encoder := none })
  | .close, none => some resources
  | _, _ => none

end EncoderResources
end MetaShare
