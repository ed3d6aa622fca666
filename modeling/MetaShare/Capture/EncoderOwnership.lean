import MetaShare.Capture.EncoderResources

namespace MetaShare

open Ownership Transitions

/-!
# The encoder owns what it holds

Each function is given the handles that it may use and free, and hands back those that
are left.  Over runs it follows that nothing is leaked and nothing is freed twice.
-/

namespace EncoderResources

/-! ## A candidate -/

section Specifications

variable {rest : List (Handle Kind)}

theorem spec_freeContext (ctx : AVCodecContext) :
    Spec (ctx.handles ++ rest) (freeContext ctx) (fun _ owned => owned = rest) := by
  rw [AVCodecContext.handles, List.append_assoc, List.append_assoc]
  refine (spec_freeIf ctx.hwDeviceCtx).bind ?_
  rintro _ _ rfl
  refine (spec_freeIf ctx.hwFramesCtx).bind ?_
  rintro _ _ rfl
  exact spec_free ctx.handle

theorem spec_discard (attempt : Attempt) :
    Spec (attempt.handles ++ rest) attempt.discard (fun _ owned => owned = rest) := by
  rw [Attempt.handles, List.append_assoc, List.append_assoc]
  refine (spec_freeIf attempt.hwFrames).bind ?_
  rintro _ _ rfl
  refine (spec_freeIf attempt.hw).bind ?_
  rintro _ _ rfl
  exact spec_freeContext attempt.ctx

theorem spec_closeAll (sws conv pkt : Option (Handle Kind)) (attempt : Attempt) :
    Spec (sws.toList ++ (conv.toList ++ (pkt.toList ++ (attempt.handles ++ rest)))) (closeAll sws conv pkt attempt)
      (fun _ owned => owned = rest) := by
  refine (spec_freeIf sws).bind ?_
  rintro _ _ rfl
  refine (spec_freeIf conv).bind ?_
  rintro _ _ rfl
  refine (spec_freeIf pkt).bind ?_
  rintro _ _ rfl
  have contextFirst : (attempt.handles ++ rest).Perm
      (attempt.ctx.handles ++ (attempt.hwFrames.toList ++ (attempt.hw.toList ++ rest))) := by
    apply List.perm_iff_count.mpr
    intro handle
    simp only [Attempt.handles, List.count_append]
    omega
  refine ((spec_freeContext attempt.ctx).reorder contextFirst).bind ?_
  rintro _ _ rfl
  refine (spec_freeIf attempt.hwFrames).bind ?_
  rintro _ _ rfl
  exact spec_freeIf attempt.hw

/-- The handles of an attempt in the order in which they are allocated. -/
theorem Attempt.perm_handles (attempt : Attempt) :
    (attempt.ctx.hwFramesCtx.toList ++ (attempt.hwFrames.toList ++ (attempt.ctx.hwDeviceCtx.toList ++
      (attempt.hw.toList ++ attempt.ctx.handle :: rest)))).Perm (attempt.handles ++ rest) := by
  apply List.perm_iff_count.mpr
  intro handle
  simp only [handles, AVCodecContext.handles, List.count_append, List.count_cons, List.count_nil]
  omega

/-- How setting up the device ends. -/
def Trial.deviceOutcome (trial : Trial) : Except String Unit :=
  match trial.device with
  | .error err => .error ("hwdevice_ctx_create: " ++ err)
  | .ok () =>
      if trial.framesAllocated then trial.framesInitialised.mapError (fun err => "av_hwframe_ctx_init: " ++ err)
      else .error "av_hwframe_ctx_alloc failed"

theorem spec_setUpDevice (cfg : EncoderConfig) (candidate : Candidate) (handle : Handle Kind) (trial : Trial) :
    Spec (handle :: rest) (setUpDevice trial (created cfg candidate handle)) (fun result owned =>
      owned.Perm (result.1.handles ++ rest) ∧ result.2 = trial.deviceOutcome ∧
        result.1.ctx.rates = (created cfg candidate handle).rates ∧
        result.1.ctx.settings = settingsFor cfg candidate) := by
  rw [setUpDevice, Trial.deviceOutcome]
  cases trial.device with
  | error err => exact spec_pure ⟨.refl _, rfl, rfl, rfl⟩
  | ok _ =>
      refine (spec_alloc Kind.device).bind ?_
      rintro hw _ ⟨_, rfl⟩
      refine (spec_allocIf Kind.device trial.deviceRef).bind ?_
      rintro device _ ⟨_, rfl⟩
      let withDevice : AVCodecContext := { created cfg candidate handle with hwDeviceCtx := device }
      cases trial.framesAllocated with
      | false => exact spec_pure ⟨Attempt.perm_handles ⟨withDevice, some hw, none⟩, rfl, rfl, rfl⟩
      | true =>
          refine (spec_alloc Kind.frames).bind ?_
          rintro hwFrames _ ⟨_, rfl⟩
          cases trial.framesInitialised with
          | error err =>
              refine (spec_free hwFrames).bind ?_
              rintro _ _ rfl
              exact spec_pure ⟨Attempt.perm_handles ⟨withDevice, some hw, none⟩, rfl, rfl, rfl⟩
          | ok _ =>
              refine (spec_allocIf Kind.frames trial.framesRef).bind ?_
              rintro frames _ ⟨_, rfl⟩
              exact spec_pure ⟨Attempt.perm_handles ⟨{ withDevice with hwFramesCtx := frames }, some hw,
                some hwFrames⟩, rfl, rfl, rfl⟩

/-- How a candidate ends, if it is there. -/
def Trial.outcome (trial : Trial) (candidate : Candidate) : Option (Except String Unit) :=
  if trial.found && trial.allocated then
    some ((if candidate.vaapi then trial.deviceOutcome else .ok ()).bind (fun _ => requirements candidate trial))
  else none

def Verdict.Answers (verdict : Verdict) (cfg : EncoderConfig) (candidate : Candidate) (trial : Trial) : Prop :=
  match verdict with
  | .skipped => trial.outcome candidate = none
  | .refused err => trial.outcome candidate = some (.error err)
  | .opened attempt => trial.outcome candidate = some (.ok ()) ∧
      attempt.ctx.rates = Encoder.setRate ⟨cfg.width, cfg.height, 0, 0, 0⟩ cfg.bitrateKbps ∧
      attempt.ctx.settings = settingsFor cfg candidate

theorem spec_conclude (attempt : Attempt) (outcome : Except String Unit) :
    Spec (attempt.handles ++ rest) (attempt.conclude outcome) (fun verdict owned =>
      owned = verdict.handles ++ rest ∧
        verdict = match outcome with | .error err => .refused err | .ok () => .opened attempt) := by
  cases outcome with
  | error err =>
      refine (spec_discard attempt).bind ?_
      rintro _ _ rfl
      exact spec_pure ⟨rfl, rfl⟩
  | ok _ => exact spec_pure ⟨rfl, rfl⟩

theorem spec_tryCandidate (cfg : EncoderConfig) (candidate : Candidate) (trial : Trial) :
    Spec rest (tryCandidate cfg candidate trial) (fun verdict owned =>
      owned.Perm (verdict.handles ++ rest) ∧ verdict.Answers cfg candidate trial) := by
  rw [tryCandidate]
  split
  case isFalse absent => exact spec_pure ⟨.refl _, if_neg absent⟩
  case isTrue present =>
    refine (spec_alloc Kind.codecContext).bind ?_
    rintro handle _ ⟨_, rfl⟩
    have hardware : Spec (handle :: rest) (setUp cfg candidate trial handle) (fun result owned =>
        owned.Perm (result.1.handles ++ rest) ∧
          result.2 = (if candidate.vaapi then trial.deviceOutcome else .ok ()) ∧
          result.1.ctx.rates = (created cfg candidate handle).rates ∧
          result.1.ctx.settings = settingsFor cfg candidate) := by
      rw [setUp]
      split
      · exact spec_setUpDevice cfg candidate handle trial
      · exact spec_pure ⟨.refl _, rfl, rfl, rfl⟩
    refine hardware.bind ?_
    rintro ⟨attempt, outcome⟩ owned ⟨same, rfl, rates, settings⟩
    refine ((spec_conclude attempt _).reorder same).weaken ?_
    rintro verdict owned ⟨rfl, isVerdict⟩
    refine ⟨_, .refl _, .refl _, ?_⟩
    have isOutcome : trial.outcome candidate = some ((if candidate.vaapi then trial.deviceOutcome else .ok ()).bind
        (fun _ => requirements candidate trial)) := if_pos present
    generalize (if candidate.vaapi then trial.deviceOutcome else .ok ()).bind
      (fun _ => requirements candidate trial) = outcome at isOutcome isVerdict
    cases outcome with
    | error err =>
        rw [isVerdict]
        exact isOutcome
    | ok _ =>
        rw [isVerdict]
        exact ⟨isOutcome, rates, settings⟩

/-! ## Which candidate is chosen -/

def Library.opens (library : Library) (candidate : Candidate) : Bool :=
  match (library.trial candidate).outcome candidate with
  | some (.ok ()) => true
  | _ => false

/-- What is said of a candidate that was tried in vain. -/
def Library.complaint (library : Library) (candidate : Candidate) : String :=
  match (library.trial candidate).outcome candidate with
  | some (.error err) => "'" ++ candidate.name ++ "': " ++ err ++ "; "
  | _ => ""

def Library.complaints (library : Library) (candidates : List Candidate) : String :=
  (candidates.map library.complaint).foldr (· ++ ·) ""

/-- The pointers of an encoder and what is modelled of it elsewhere agree, and its codec
has the settings of the candidate that was opened first. -/
structure OpenEncoder.Agrees (encoder : OpenEncoder) : Prop where
  rates : encoder.encoder.ctx = encoder.attempt.ctx.rates
  settings : encoder.attempt.ctx.settings = settingsFor encoder.cfg encoder.candidate
  sws : encoder.encoder.sws.isSome = encoder.sws.isSome
  hwFrames : encoder.encoder.hwFrames = encoder.attempt.hwFrames.isSome
  name : encoder.encoder.chosenName = encoder.candidate.name

/-- An encoder for which the candidate has just been opened. -/
structure OpenEncoder.Fresh (encoder : OpenEncoder) (config : EncoderConfig) (chosen : Candidate) : Prop where
  cfg : encoder.cfg = config
  candidate : encoder.candidate = chosen
  opened : encoder.encoder = Encoder.opened ⟨config.width, config.height, config.bitrateKbps⟩ chosen.name
    encoder.attempt.hwFrames.isSome chosen.convFmtFor
  agrees : encoder.Agrees

/-- The first candidate that can be opened is, unless there is no scratch buffer.  Without
one, the error names every candidate that was there. -/
def Library.Says (library : Library) (cfg : EncoderConfig) (candidates : List Candidate) (err : String)
    (result : String × Option OpenEncoder) : Prop :=
  match candidates.find? library.opens with
  | none => result =
      ("no encoder could be opened; tried: " ++ err ++ library.complaints candidates ++
        "(build ffmpeg with libx264 at minimum)", none)
  | some candidate =>
      if library.conv && library.pkt then
        if library.buffer then
          result.1 = err ++ library.complaints (candidates.takeWhile (fun other => !library.opens other)) ∧
            ∃ encoder, result.2 = some encoder ∧ encoder.Fresh cfg candidate
        else result = ("conv frame alloc failed", none)
      else result = ("scratch frame/packet alloc failed", none)

def handlesOf (encoder : Option OpenEncoder) : List (Handle Kind) := (encoder.map OpenEncoder.handles).getD []

theorem spec_commit (cfg : EncoderConfig) (library : Library) (candidate : Candidate) (attempt : Attempt)
    (err : String) (rates : attempt.ctx.rates = Encoder.setRate ⟨cfg.width, cfg.height, 0, 0, 0⟩ cfg.bitrateKbps)
    (settings : attempt.ctx.settings = settingsFor cfg candidate) :
    Spec (attempt.handles ++ rest) (commit cfg library candidate attempt err) (fun result owned =>
      owned.Perm (handlesOf result.2 ++ rest) ∧
        if library.conv && library.pkt then
          if library.buffer then
            result.1 = err ∧ ∃ encoder, result.2 = some encoder ∧ encoder.Fresh cfg candidate
          else result = ("conv frame alloc failed", none)
        else result = ("scratch frame/packet alloc failed", none)) := by
  have order : ∀ conv pkt : Option (Handle Kind), (pkt.toList ++ (conv.toList ++ (attempt.handles ++ rest))).Perm
      ((none : Option (Handle Kind)).toList ++ (conv.toList ++ (pkt.toList ++ (attempt.handles ++ rest)))) := by
    intro conv pkt
    apply List.perm_iff_count.mpr
    intro handle
    simp only [List.count_append, Option.toList_none, List.count_nil]
    omega
  rw [commit]
  refine (spec_allocIf Kind.frame library.conv).bind ?_
  rintro conv _ ⟨isConv, rfl⟩
  refine (spec_allocIf Kind.packet library.pkt).bind ?_
  rintro pkt _ ⟨isPkt, rfl⟩
  rw [← isConv, ← isPkt]
  have closes := (spec_closeAll none conv pkt attempt).reorder (order conv pkt)
  cases conv with
  | none =>
      refine closes.bind ?_
      rintro _ _ rfl
      exact spec_pure ⟨.refl _, rfl⟩
  | some conv =>
      cases pkt with
      | none =>
          refine closes.bind ?_
          rintro _ _ rfl
          exact spec_pure ⟨.refl _, rfl⟩
      | some pkt =>
          dsimp only
          split
          · refine spec_pure ⟨?_, rfl, _, rfl, rfl, rfl, rfl, ?_⟩
            · apply List.perm_iff_count.mpr
              intro handle
              simp [handlesOf, OpenEncoder.handles, List.count_cons]
              omega
            · exact ⟨rates.symm, settings, rfl, rfl, rfl⟩
          · refine closes.bind ?_
            rintro _ _ rfl
            exact spec_pure ⟨.refl _, rfl⟩

theorem spec_openFrom (cfg : EncoderConfig) (library : Library) (candidates : List Candidate) (err : String) :
    Spec rest (openFrom cfg library candidates err) (fun result owned =>
      owned.Perm (handlesOf result.2 ++ rest) ∧ library.Says cfg candidates err result) := by
  induction candidates generalizing err with
  | nil =>
      refine spec_pure ⟨.refl _, ?_⟩
      simp [Library.Says, Library.complaints]
  | cons candidate others inductionHypothesis =>
      rw [openFrom]
      refine (spec_tryCandidate cfg candidate (library.trial candidate)).bind ?_
      rintro verdict owned ⟨same, answers⟩
      cases verdict with
      | skipped =>
          have closed : library.opens candidate = false := by
            rw [Library.opens, show (library.trial candidate).outcome candidate = none from answers]
          have silent : library.complaint candidate = "" := by
            rw [Library.complaint, show (library.trial candidate).outcome candidate = none from answers]
          refine ((inductionHypothesis err).reorder same).weaken ?_
          rintro result owned ⟨perm, found⟩
          refine ⟨owned, .refl _, perm, ?_⟩
          simpa [Library.Says, Library.complaints, closed, silent] using found
      | refused refusal =>
          have closed : library.opens candidate = false := by
            rw [Library.opens, show (library.trial candidate).outcome candidate = some (.error refusal) from answers]
          have complains : library.complaint candidate = "'" ++ candidate.name ++ "': " ++ refusal ++ "; " := by
            rw [Library.complaint, show (library.trial candidate).outcome candidate =
              some (.error refusal) from answers]
          refine ((inductionHypothesis _).reorder same).weaken ?_
          rintro result owned ⟨perm, found⟩
          refine ⟨owned, .refl _, perm, ?_⟩
          simpa [Library.Says, Library.complaints, closed, complains, String.append_assoc] using found
      | opened attempt =>
          have opens : library.opens candidate = true := by
            rw [Library.opens, answers.1]
          refine ((spec_commit cfg library candidate attempt err answers.2.1 answers.2.2).reorder same).weaken ?_
          rintro result owned ⟨perm, found⟩
          refine ⟨owned, .refl _, perm, ?_⟩
          simpa [Library.Says, Library.complaints, opens] using found

/-! ## Calls of an open encoder -/

variable {held : List (Handle Kind)}

theorem spec_reference (kind : Kind) (pointer : Option (Handle Kind)) (available : Bool)
    (live : ∀ handle ∈ pointer, handle ∈ held) :
    Spec held (reference kind pointer available) (fun copy owned => owned = copy.toList ++ held) := by
  cases pointer with
  | none => exact spec_pure rfl
  | some handle =>
      refine (spec_use (live handle rfl)).bind ?_
      rintro _ _ rfl
      refine (spec_allocIf kind available).weaken ?_
      rintro copy owned ⟨_, rfl⟩
      exact ⟨_, .refl _, rfl⟩

namespace OpenEncoder

variable (encoder : OpenEncoder)

theorem conv_mem : encoder.conv ∈ encoder.handles := by
  simp [handles]

theorem pkt_mem : encoder.pkt ∈ encoder.handles := by
  simp [handles]

theorem ctx_mem : encoder.attempt.ctx.handle ∈ encoder.handles := by
  simp [handles, Attempt.handles, AVCodecContext.handles]

variable {encoder} in
theorem hw_mem {handle : Handle Kind} (isHw : handle ∈ encoder.attempt.hw) : handle ∈ encoder.handles := by
  simp_all [handles, Attempt.handles]

variable {encoder} in
theorem hwFrames_mem {handle : Handle Kind} (isPool : handle ∈ encoder.attempt.hwFrames) :
    handle ∈ encoder.handles := by
  simp_all [handles, Attempt.handles]

variable {encoder} in
theorem sws_mem {handle : Handle Kind} (isContext : handle ∈ encoder.sws) : handle ∈ encoder.handles := by
  simp_all [handles]

/-- The codec has the same settings and a rate that may be new. -/
def Reconfigured (next : OpenEncoder) (rates : Encoder.AVCodecContext) : Prop :=
  ∃ ctx, next = encoder.withContext ctx ∧ ctx.settings = encoder.attempt.ctx.settings ∧ ctx.rates = rates

theorem reconfigured_refl : encoder.Reconfigured encoder encoder.attempt.ctx.rates :=
  ⟨encoder.attempt.ctx, rfl, rfl, rfl⟩

theorem spec_reconfigureBitrate (kbps : Int) (answers : Reopening) :
    Spec (encoder.handles ++ rest) (encoder.reconfigureBitrate kbps answers) (fun result owned =>
      owned.Perm (result.1.handles ++ rest) ∧ (encoder.candidate = .libx264 → result.2.toBool = true) ∧
        encoder.Reconfigured result.1
          (if result.2.toBool then Encoder.setRate encoder.attempt.ctx.rates kbps
            else encoder.attempt.ctx.rates)) := by
  have context : encoder.attempt.ctx.handle ∈ encoder.handles ++ rest := List.mem_append_left _ encoder.ctx_mem
  rw [reconfigureBitrate]
  split
  case isTrue =>
    refine (spec_use context).bind ?_
    rintro _ _ rfl
    exact spec_pure ⟨.refl _, fun _ => rfl, _, rfl, rfl, rfl⟩
  case isFalse other =>
    split
    case isFalse => exact spec_pure ⟨.refl _, fun same => absurd same other, encoder.reconfigured_refl⟩
    case isTrue =>
      refine (spec_alloc Kind.codecContext).bind ?_
      rintro handle _ ⟨_, rfl⟩
      refine (spec_use (List.mem_cons_of_mem _ context)).bind ?_
      rintro _ _ rfl
      refine (spec_reference .device encoder.attempt.hw answers.deviceRef ?_).bind ?_
      · exact fun hw isHw => List.mem_cons_of_mem _ (List.mem_append_left _ (hw_mem isHw))
      rintro device _ rfl
      refine (spec_reference .frames encoder.attempt.hwFrames answers.framesRef ?_).bind ?_
      · intro hwFrames isPool
        exact List.mem_append_right _ (List.mem_cons_of_mem _ (List.mem_append_left _ (hwFrames_mem isPool)))
      rintro frames _ rfl
      cases answers.copied.bind (fun _ => answers.opened) with
      | error err =>
          have order : (frames.toList ++ (device.toList ++ handle :: (encoder.handles ++ rest))).Perm
              ((AVCodecContext.mk handle (Encoder.setRate encoder.attempt.ctx.rates kbps)
                encoder.attempt.ctx.settings device frames).handles ++ (encoder.handles ++ rest)) := by
            apply List.perm_iff_count.mpr
            intro other
            simp [AVCodecContext.handles, List.count_cons]
            omega
          refine ((spec_freeContext _).reorder order).bind ?_
          rintro _ _ rfl
          exact spec_pure ⟨.refl _, fun same => absurd same other, encoder.reconfigured_refl⟩
      | ok _ =>
          have order : (frames.toList ++ (device.toList ++ handle :: (encoder.handles ++ rest))).Perm
              (encoder.attempt.ctx.handles ++ ((encoder.withContext ⟨handle,
                Encoder.setRate encoder.attempt.ctx.rates kbps, encoder.attempt.ctx.settings, device,
                frames⟩).handles ++ rest)) := by
            apply List.perm_iff_count.mpr
            intro other
            simp [handles, withContext, Attempt.handles, AVCodecContext.handles, List.count_cons]
            omega
          refine ((spec_freeContext _).reorder order).bind ?_
          rintro _ _ rfl
          exact spec_pure ⟨.refl _, fun _ => rfl, _, rfl, rfl, rfl⟩

theorem name_eq_libx264 {candidate : Candidate} : candidate.name = "libx264" ↔ candidate = .libx264 := by
  cases candidate <;> decide

theorem spec_applyBitrate (agrees : encoder.Agrees) (answers : Reopening) :
    Spec (encoder.handles ++ rest) (encoder.applyBitrate answers) (fun result owned =>
      owned.Perm (result.1.handles ++ rest) ∧
        encoder.Reconfigured result.1 (encoder.encoder.applyBitrate result.2).ctx) := by
  have same := encoder.reconfigured_refl
  rw [← agrees.rates] at same
  rw [applyBitrate]
  split
  case isFalse unchanged =>
    refine spec_pure ⟨.refl _, ?_⟩
    rw [Encoder.applyBitrate, if_neg unchanged]
    exact same
  case isTrue wanted =>
    refine (encoder.spec_reconfigureBitrate _ answers).bind ?_
    rintro ⟨changed, outcome⟩ owned ⟨perm, software, reconfigured⟩
    refine spec_pure ⟨perm, ?_⟩
    rw [Encoder.applyBitrate, if_pos wanted, Encoder.reconfigureBitrate]
    rw [← agrees.rates] at reconfigured
    split
    case isTrue named =>
      rw [if_pos (software (name_eq_libx264.mp (agrees.name ▸ named)))] at reconfigured
      exact reconfigured
    case isFalse =>
      cases reopened : outcome.toBool
      · simpa [reopened] using reconfigured
      · simpa [reopened] using reconfigured

/-- Whether there is a scaling context behind a conversion. -/
def keepsContext (frame : Encoder.AVFrame) (context : Bool) : Bool :=
  if encoder.encoder.needsConvert frame then
    if encoder.sws = none ∨ encoder.encoder.swsSrcFmt ≠ frame.format then context else true
  else encoder.sws.isSome

theorem spec_renewContext (frame : Encoder.AVFrame) (context : Bool) :
    Spec (encoder.handles ++ rest) (encoder.renewContext frame context) (fun sws owned =>
      owned.Perm (({ encoder with sws := sws } : OpenEncoder).handles ++ rest) ∧
        sws.isSome = if encoder.sws = none ∨ encoder.encoder.swsSrcFmt ≠ frame.format then context else true) := by
  rw [renewContext]
  split
  case isTrue =>
    rw [handles, List.append_assoc]
    refine (spec_freeIf encoder.sws).bind ?_
    rintro _ _ rfl
    refine (spec_allocIf Kind.scaler context).weaken ?_
    rintro sws _ ⟨isSome, rfl⟩
    refine ⟨_, .refl _, ?_, isSome⟩
    rw [handles, List.append_assoc]
  case isFalse kept =>
    refine spec_pure ⟨.refl _, ?_⟩
    exact Option.isSome_iff_ne_none.mpr (fun none => kept (.inl none))

/-- A frame is passed on as it is, or it could be converted. -/
def passesOn (frame : Encoder.AVFrame) (context writable : Bool) : Bool :=
  !encoder.encoder.needsConvert frame || (encoder.keepsContext frame context && writable)

theorem spec_convert (frame : Encoder.AVFrame) (context writable : Bool) :
    Spec (encoder.handles ++ rest) (encoder.convert frame context writable) (fun result owned =>
      owned.Perm (({ encoder with sws := result.1 } : OpenEncoder).handles ++ rest) ∧
        result.1.isSome = encoder.keepsContext frame context ∧
        result.2 = encoder.passesOn frame context writable) := by
  rw [convert, passesOn, keepsContext]
  cases converts : encoder.encoder.needsConvert frame with
  | false => exact spec_pure ⟨.refl _, rfl, rfl⟩
  | true =>
      simp only [↓reduceIte, Bool.not_true, Bool.false_or]
      refine (encoder.spec_renewContext frame context).bind ?_
      rintro sws owned ⟨perm, isSome⟩
      rw [← isSome]
      cases sws with
      | none => exact spec_pure ⟨perm, rfl, rfl⟩
      | some scaler =>
          have inside : ∀ {handle}, handle ∈ ({ encoder with sws := some scaler } : OpenEncoder).handles →
              handle ∈ owned := fun member => perm.mem_iff.mpr (List.mem_append_left _ member)
          refine (spec_use (inside (conv_mem _))).bind ?_
          rintro _ _ rfl
          refine (spec_runIf (fun _ => spec_use (inside (sws_mem rfl)))).bind ?_
          rintro _ _ rfl
          exact spec_pure ⟨perm, rfl, rfl⟩

theorem spec_drain (context : encoder.attempt.ctx.handle ∈ held) (packet : encoder.pkt ∈ held) :
    Spec held encoder.drain (fun _ owned => owned = held) := by
  refine (spec_use context).bind ?_
  rintro _ _ rfl
  exact spec_use packet

theorem spec_getBuffer {hwFrames : Handle Kind} (frames : Option (Handle Kind)) (filling : Filling)
    (pool : hwFrames ∈ held) :
    Spec (frames.toList ++ held) (getBuffer hwFrames frames filling) (fun result owned =>
      owned = result.1.toList ++ (result.2.toList ++ held) ∧
        result.2 = if filling.overwrites then frames else none) := by
  cases filling with
  | kept =>
      refine (spec_use (List.mem_append_right _ pool)).bind ?_
      rintro _ _ rfl
      exact spec_pure ⟨rfl, rfl⟩
  | overwritten available =>
      refine (spec_use (List.mem_append_right _ pool)).bind ?_
      rintro _ _ rfl
      refine (spec_allocIf Kind.frames available).bind ?_
      rintro own _ ⟨_, rfl⟩
      exact spec_pure ⟨rfl, rfl⟩

/-- The reference that a surface has lost. -/
theorem spec_submitSurface {hwFrames : Handle Kind} (call : Call) (context : encoder.attempt.ctx.handle ∈ held)
    (packet : encoder.pkt ∈ held) (pool : hwFrames ∈ held) :
    Spec held (encoder.submitSurface hwFrames call) (fun lost owned => owned.Perm (lost.toList ++ held) ∧
      lost.isSome = (call.surfaceRef && call.filling.overwrites)) := by
  refine (spec_alloc Kind.frame).bind ?_
  rintro hwUp _ ⟨_, rfl⟩
  refine (spec_use (List.mem_cons_of_mem _ pool)).bind ?_
  rintro _ _ rfl
  refine (spec_allocIf Kind.frames call.surfaceRef).bind ?_
  rintro reference _ ⟨isSome, rfl⟩
  refine (spec_getBuffer reference call.filling (List.mem_cons_of_mem _ pool)).bind ?_
  rintro ⟨frames, lost⟩ _ ⟨rfl, rfl⟩
  have still : ∀ {handle}, handle ∈ held →
      handle ∈ frames.toList ++ ((if call.filling.overwrites then reference else none).toList ++ hwUp :: held) :=
    fun member => List.mem_append_right _ (List.mem_append_right _ (List.mem_cons_of_mem _ member))
  refine (spec_runIf (fun _ => spec_use (still context))).bind ?_
  rintro _ _ rfl
  refine (spec_freeIf frames).bind ?_
  rintro _ _ rfl
  refine ((spec_free hwUp).reorder List.perm_middle).bind ?_
  rintro _ _ rfl
  have left : ∀ {handle}, handle ∈ held →
      handle ∈ (if call.filling.overwrites then reference else none).toList ++ held :=
    fun member => List.mem_append_right _ member
  refine (spec_runIf (fun _ => encoder.spec_drain (left context) (left packet))).bind ?_
  rintro _ _ rfl
  refine spec_pure ⟨.refl _, ?_⟩
  cases call.filling with
  | kept => exact (Bool.and_false _).symm
  | overwritten available => exact isSome.trans (Bool.and_true _).symm

/-- The library loses a reference of the call, if the frame gets to a surface. -/
def loses (call : Call) : Bool :=
  encoder.attempt.hwFrames.isSome && (call.upload.allocated && (call.surfaceRef && call.filling.overwrites))

theorem spec_submit (call : Call) (context : encoder.attempt.ctx.handle ∈ held) (packet : encoder.pkt ∈ held)
    (pool : ∀ handle ∈ encoder.attempt.hwFrames, handle ∈ held) :
    Spec held (encoder.submit call) (fun lost owned => owned.Perm (lost.toList ++ held) ∧
      lost.isSome = encoder.loses call) := by
  rw [submit, loses]
  cases isPool : encoder.attempt.hwFrames with
  | none =>
      refine (spec_use context).bind ?_
      rintro _ _ rfl
      refine (spec_runIf (fun _ => encoder.spec_drain context packet)).bind ?_
      rintro _ _ rfl
      exact spec_pure ⟨.refl _, rfl⟩
  | some hwFrames =>
      dsimp only
      cases call.upload.allocated with
      | false => exact spec_pure ⟨.refl _, rfl⟩
      | true => exact encoder.spec_submitSurface call context packet (pool hwFrames isPool)

end OpenEncoder

end Specifications

/-! ## The values -/

section Values

variable (encoder : Encoder) (frame : Encoder.AVFrame) (ptsUsec : Int) (answers : Encoder.Answers)

theorem kept_convert : (encoder.convert frame answers).1.ctx = encoder.ctx ∧
    (encoder.convert frame answers).1.hwFrames = encoder.hwFrames ∧
    (encoder.convert frame answers).1.chosenName = encoder.chosenName := by
  have renewed : (encoder.renewContext frame answers.context).ctx = encoder.ctx ∧
      (encoder.renewContext frame answers.context).hwFrames = encoder.hwFrames ∧
      (encoder.renewContext frame answers.context).chosenName = encoder.chosenName := by
    rw [Encoder.renewContext]
    split
    · split <;> exact ⟨rfl, rfl, rfl⟩
    · exact ⟨rfl, rfl, rfl⟩
  rw [Encoder.convert]
  split
  · dsimp only
    split
    · exact renewed
    · split <;> exact renewed
  · exact ⟨rfl, rfl, rfl⟩

theorem kept_submit : (encoder.submit frame ptsUsec answers).1.ctx = encoder.ctx ∧
    (encoder.submit frame ptsUsec answers).1.hwFrames = encoder.hwFrames ∧
    (encoder.submit frame ptsUsec answers).1.chosenName = encoder.chosenName := by
  rw [Encoder.submit]
  split
  · exact ⟨rfl, rfl, rfl⟩
  · dsimp only
    split <;> exact ⟨rfl, rfl, rfl⟩

theorem kept_applyBitrate (reopened : Bool) : (encoder.applyBitrate reopened).hwFrames = encoder.hwFrames ∧
    (encoder.applyBitrate reopened).chosenName = encoder.chosenName := by
  rw [Encoder.applyBitrate]
  split
  · rw [Encoder.reconfigureBitrate]
    dsimp only
    split
    · exact ⟨rfl, rfl⟩
    · split <;> exact ⟨rfl, rfl⟩
  · exact ⟨rfl, rfl⟩

/-- A conversion leaves a scaling context exactly if there was one or it got one. -/
theorem isSome_sws_convert : (encoder.convert frame answers).1.sws.isSome =
    if encoder.needsConvert frame then
      if encoder.sws = none ∨ encoder.swsSrcFmt ≠ frame.format then answers.context else true
    else encoder.sws.isSome := by
  have renewed : (encoder.renewContext frame answers.context).sws.isSome =
      if encoder.sws = none ∨ encoder.swsSrcFmt ≠ frame.format then answers.context else true := by
    rw [Encoder.renewContext]
    split
    · cases answers.context <;> rfl
    · rename_i kept
      exact Option.isSome_iff_ne_none.mpr (fun none => kept (.inl none))
  rw [Encoder.convert]
  split
  · dsimp only
    split
    · exact renewed
    · split <;> exact renewed
  · rfl

/-- What holds behind the conversion and survives the submission holds behind the call. -/
theorem values_encode (property : Encoder → Prop)
    (converted : property ((encoder.applyBitrate answers.reopened).convert frame answers).1)
    (submitted : ∀ encoder frame, property encoder → property (encoder.submit frame ptsUsec answers).1) :
    property (encoder.encode frame ptsUsec answers).1 := by
  rw [Encoder.encode]
  cases isConverted : (encoder.applyBitrate answers.reopened).convert frame answers with
  | mk next outcome =>
      rw [isConverted] at converted
      cases outcome with
      | error _ => exact converted
      | ok frame => exact submitted next frame converted

end Values

namespace OpenEncoder

variable (encoder : OpenEncoder)

/-- The context that a conversion leaves is the one that is modelled. -/
theorem isSome_sws_encode (agrees : encoder.Agrees) (frame : Encoder.AVFrame) (answers : Encoder.Answers)
    (reopened : Bool) : ((encoder.encoder.applyBitrate reopened).convert frame answers).1.sws.isSome =
      encoder.keepsContext frame answers.context := by
  have same := Encoder.sameScaling_applyBitrate encoder.encoder reopened
  have absent : encoder.encoder.sws = none ↔ encoder.sws = none := by
    rw [← Option.isNone_iff_eq_none, ← Option.isNone_iff_eq_none, ← Option.not_isSome, ← Option.not_isSome,
      agrees.sws]
  rw [isSome_sws_convert, keepsContext, same.needsConvert, same.sws, same.swsSrcFmt, agrees.sws]
  simp only [absent]

/-- What has to agree of the values behind a call. -/
structure Keeps (call : Call) (reopened : Bool) (values : Encoder) : Prop where
  rates : values.ctx = (encoder.encoder.applyBitrate reopened).ctx
  hwFrames : values.hwFrames = (encoder.encoder.applyBitrate reopened).hwFrames
  name : values.chosenName = (encoder.encoder.applyBitrate reopened).chosenName
  sws : values.sws.isSome = encoder.keepsContext call.frame call.context

/-- A call keeps the encoder and what is modelled of it elsewhere in agreement, and what
it returns is what is modelled. -/
theorem spec_encode (agrees : encoder.Agrees) (call : Call) :
    Spec (encoder.handles ++ rest) (encoder.encode call) (fun result owned =>
      owned.Perm (result.1.handles ++ (result.2.1.toList ++ rest)) ∧
        result.2.1.isSome = (encoder.passesOn call.frame call.context call.writable && encoder.loses call) ∧
        result.1.Agrees ∧ result.1.cfg = encoder.cfg ∧ result.1.candidate = encoder.candidate ∧ ∃ reopened,
          (result.1.encoder, result.2.2) = encoder.encoder.encode call.frame call.ptsUsec
            (call.answers reopened)) := by
  refine (encoder.spec_applyBitrate agrees call.reopening).bind ?_
  rintro ⟨changed, reopened⟩ owned ⟨perm, ctx, rfl, settings, rates⟩
  refine (((encoder.withContext ctx).spec_convert call.frame call.context call.writable).reorder perm).bind ?_
  rintro ⟨sws, ready⟩ owned ⟨perm, isSome, isReady⟩
  have inside : ∀ {handle}, handle ∈ ({ encoder.withContext ctx with sws := sws } : OpenEncoder).handles →
      handle ∈ owned := fun member => perm.mem_iff.mpr (List.mem_append_left _ member)
  have submits : Spec owned ((encoder.withContext ctx).submitIf ready call) (fun lost after =>
      after.Perm (lost.toList ++ owned) ∧ lost.isSome = (ready && encoder.loses call)) := by
    cases ready with
    | false => exact spec_pure ⟨.refl _, rfl⟩
    | true =>
        exact (encoder.withContext ctx).spec_submit call (inside (ctx_mem _)) (inside (pkt_mem _))
          (fun _ isPool => inside (hwFrames_mem isPool))
  refine submits.bind ?_
  rintro lost after ⟨grown, isLost⟩
  have order : after.Perm (({ encoder.withContext ctx with sws := sws } : OpenEncoder).handles ++
      (lost.toList ++ rest)) := by
    refine grown.trans ((perm.append_left lost.toList).trans ?_)
    apply List.perm_iff_count.mpr
    intro handle
    simp only [List.count_append]
    omega
  refine spec_pure ⟨order, ?_, ?_, rfl, rfl, reopened, rfl⟩
  · exact isLost.trans (congrArg (· && encoder.loses call) isReady)
  -- The submission touches nothing of what has to agree behind the conversion.
  have converted := kept_convert (encoder.encoder.applyBitrate reopened) call.frame (call.answers reopened)
  have context := encoder.isSome_sws_encode agrees call.frame (call.answers reopened) reopened
  have submitted : ∀ values frame, Keeps encoder call reopened values →
      Keeps encoder call reopened (values.submit frame call.ptsUsec (call.answers reopened)).1 := by
    rintro values frame ⟨isRates, isPool, isName, isContext⟩
    obtain ⟨sameRates, samePool, sameName⟩ := kept_submit values frame call.ptsUsec (call.answers reopened)
    have same := Encoder.sameScaling_submit values frame call.ptsUsec (call.answers reopened)
    exact ⟨sameRates.trans isRates, samePool.trans isPool, sameName.trans isName, same.sws ▸ isContext⟩
  obtain ⟨isRates, isPool, isName, isContext⟩ := values_encode encoder.encoder call.frame call.ptsUsec
    (call.answers reopened) (Keeps encoder call reopened)
      ⟨converted.1, converted.2.1, converted.2.2, context⟩ submitted
  obtain ⟨keptPool, keptName⟩ := kept_applyBitrate encoder.encoder reopened
  exact
    { rates := isRates.trans rates.symm
      settings := settings.trans agrees.settings
      sws := isContext.trans isSome.symm
      hwFrames := (isPool.trans keptPool).trans agrees.hwFrames
      name := (isName.trans keptName).trans agrees.name }

end OpenEncoder

/-! ## Runs -/

/-- Exactly what the encoder holds is live, and the references that the library has put
others over, and the encoder is as it is modelled. -/
structure Owned (resources : EncoderResources) : Prop where
  holds : resources.memory.Holds (handlesOf resources.encoder ++ resources.leaked)
  agrees : ∀ encoder ∈ resources.encoder, encoder.Agrees
  chosen : ∀ encoder ∈ resources.encoder, encoder.candidate ∈ buildCandidates encoder.cfg

section Runs

variable {resources next : EncoderResources}

theorem owned_start : start.Owned where
  holds := Memory.holds_empty
  agrees := fun _ impossible => absurd impossible (Option.not_mem_none _)
  chosen := fun _ impossible => absurd impossible (Option.not_mem_none _)

/-- An encoder that is opened is that of a candidate, and agrees with what is modelled. -/
theorem Library.Says.sound {library : Library} {cfg : EncoderConfig} {err : String}
    {result : String × Option OpenEncoder} (found : library.Says cfg (buildCandidates cfg) err result) :
    ∀ encoder ∈ result.2, encoder.Agrees ∧ encoder.candidate ∈ buildCandidates encoder.cfg := by
  rw [Says] at found
  intro encoder isEncoder
  split at found
  · rw [found] at isEncoder
    cases isEncoder
  · rename_i candidate isCandidate
    have member := List.mem_of_find?_eq_some isCandidate
    split at found
    · split at found
      · obtain ⟨_, opened, isOpened, fresh⟩ := found
        cases isEncoder.symm.trans isOpened
        refine ⟨fresh.agrees, ?_⟩
        rwa [fresh.cfg, fresh.candidate]
      · rw [found] at isEncoder
        cases isEncoder
    · rw [found] at isEncoder
      cases isEncoder

theorem Owned.opens (owned : resources.Owned) (closed : resources.encoder = none) (cfg : EncoderConfig)
    (library : Library) (err : String) :
    ∃ result memory, openEncoder cfg library err resources.memory = some (result, memory) ∧
      library.Says cfg (buildCandidates cfg) err result ∧
      memory.Holds (handlesOf result.2 ++ resources.leaked) := by
  have holds := owned.holds
  rw [closed] at holds
  obtain ⟨result, memory, handles, ran, ⟨perm, found⟩, holdsLater⟩ :=
    spec_openFrom cfg library (buildCandidates cfg) err resources.memory holds
  exact ⟨result, memory, ran, found, holdsLater.trans perm⟩

theorem Owned.encodes (owned : resources.Owned) {encoder : OpenEncoder} (isOpen : resources.encoder = some encoder)
    (call : Call) :
    ∃ result memory, encoder.encode call resources.memory = some (result, memory) ∧
      memory.Holds (result.1.handles ++ (result.2.1.toList ++ resources.leaked)) ∧
      result.2.1.isSome = (encoder.passesOn call.frame call.context call.writable && encoder.loses call) ∧
      result.1.Agrees ∧ result.1.cfg = encoder.cfg ∧ result.1.candidate = encoder.candidate ∧ ∃ reopened,
        (result.1.encoder, result.2.2) = encoder.encoder.encode call.frame call.ptsUsec (call.answers reopened) := by
  have holds := owned.holds
  rw [isOpen] at holds
  obtain ⟨result, memory, handles, ran, ⟨perm, encodes⟩, holdsLater⟩ :=
    encoder.spec_encode (owned.agrees encoder isOpen) call resources.memory holds
  exact ⟨result, memory, ran, holdsLater.trans perm, encodes⟩

theorem Owned.closes (owned : resources.Owned) {encoder : OpenEncoder} (isOpen : resources.encoder = some encoder) :
    ∃ memory, encoder.close resources.memory = some ((), memory) ∧ memory.Holds resources.leaked := by
  have holds := owned.holds
  rw [isOpen] at holds
  have order : handlesOf (some encoder) ++ resources.leaked = encoder.sws.toList ++ ((some encoder.conv).toList ++
      ((some encoder.pkt).toList ++ (encoder.attempt.handles ++ resources.leaked))) := by
    simp [handlesOf, OpenEncoder.handles]
  obtain ⟨_, memory, _, ran, rfl, holdsLater⟩ :=
    spec_closeAll encoder.sws (some encoder.conv) (some encoder.pkt) encoder.attempt resources.memory (order ▸ holds)
  exact ⟨memory, ran, holdsLater⟩

/-- A request of another thread changes nothing that is owned. -/
theorem Owned.asked (owned : resources.Owned) {encoder : OpenEncoder} (isOpen : resources.encoder = some encoder)
    {values : Encoder} (ctx : values.ctx = encoder.encoder.ctx) (sws : values.sws = encoder.encoder.sws)
    (hwFrames : values.hwFrames = encoder.encoder.hwFrames) (name : values.chosenName = encoder.encoder.chosenName) :
    Owned { resources with encoder := some { encoder with encoder := values } } := by
  have agrees := owned.agrees encoder isOpen
  have holds := owned.holds
  rw [isOpen] at holds
  refine ⟨holds, ?_, ?_⟩
  · intro next isNext
    cases isNext
    exact
      { rates := ctx.trans agrees.rates
        settings := agrees.settings
        sws := sws ▸ agrees.sws
        hwFrames := hwFrames.trans agrees.hwFrames
        name := name.trans agrees.name }
  · intro next isNext
    cases isNext
    exact owned.chosen encoder isOpen

/-- What is enabled is defined, and afterwards everything is owned. -/
theorem Owned.progress (owned : resources.Owned) {action : Action} (isEnabled : resources.enabled action = true) :
    ∃ next, resources.step action = some next ∧ next.Owned := by
  cases isEncoder : resources.encoder with
  | none =>
      cases action with
      | openEncoder cfg library err =>
          obtain ⟨result, memory, ran, found, holds⟩ := owned.opens isEncoder cfg library err
          refine ⟨{ resources with memory := memory, encoder := result.2 }, ?_, holds, ?_, ?_⟩
          · simp [step, isEncoder, ran]
          · exact fun encoder isOpen => (found.sound encoder isOpen).1
          · exact fun encoder isOpen => (found.sound encoder isOpen).2
      | close => exact ⟨resources, by simp [step, isEncoder], owned⟩
      | setBitrate kbps => simp [enabled, isEncoder] at isEnabled
      | forceKeyframe => simp [enabled, isEncoder] at isEnabled
      | encode call => simp [enabled, isEncoder] at isEnabled
  | some encoder =>
      cases action with
      | openEncoder cfg library err => simp [enabled, isEncoder] at isEnabled
      | close =>
          obtain ⟨memory, ran, holds⟩ := owned.closes isEncoder
          refine ⟨{ resources with memory := memory, encoder := none }, ?_, holds, owned_start.agrees,
            owned_start.chosen⟩
          simp [step, isEncoder, ran]
      | setBitrate kbps =>
          have asked := @Owned.asked resources owned encoder isEncoder
            { encoder.encoder with pendingBitrateKbps := kbps } rfl rfl rfl rfl
          exact ⟨_, by simp [step, isEncoder, ask, Encoder.step], asked⟩
      | forceKeyframe =>
          have asked := @Owned.asked resources owned encoder isEncoder
            { encoder.encoder with forceKeyframe := true } rfl rfl rfl rfl
          exact ⟨_, by simp [step, isEncoder, ask, Encoder.step], asked⟩
      | encode call =>
          obtain ⟨result, memory, ran, holds, _, agrees, cfg, candidate, _⟩ := owned.encodes isEncoder call
          refine ⟨⟨memory, some result.1, result.2.1.toList ++ resources.leaked⟩, ?_, holds, ?_, ?_⟩
          · simp [step, isEncoder, ran]
          · intro next isNext
            cases isNext
            exact agrees
          · intro next isNext
            cases isNext
            rw [cfg, candidate]
            exact owned.chosen encoder isEncoder

end Runs

def sampleConfig : EncoderConfig := ⟨1920, 1080, 60, 1, 8000, 2, true, true⟩

end EncoderResources
end MetaShare
