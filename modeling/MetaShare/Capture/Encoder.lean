import MetaShare.Foundation.Transitions
import Mathlib.Algebra.Order.Ring.Int
import Mathlib.Tactic.Common

namespace MetaShare

open Transitions

/-!
# Encoding captured frames

The encoder is opened for one size and one input format.  A frame that differs
is converted first, with a scaling context that is kept from call to call.
Other threads ask for a bitrate or for a keyframe, which the next call takes up.
What the codec library answers is part of the action.
-/

namespace Encoder

/-- The part of the configuration that is used once the encoder is open. -/
structure EncoderConfig where
  width : Int
  height : Int
  bitrateKbps : Int
  deriving DecidableEq

/-- What the encoder looks at of a frame that it is given. -/
structure AVFrame where
  format : Int
  width : Int
  height : Int
  deriving DecidableEq

/-- The arguments that a scaling context was created from. -/
structure SwsContext where
  srcWidth : Int
  srcHeight : Int
  srcFormat : Int
  dstWidth : Int
  dstHeight : Int
  dstFormat : Int
  deriving DecidableEq

/-- The rate control of the codec. -/
structure AVCodecContext where
  width : Int
  height : Int
  bitRate : Int
  rcMaxRate : Int
  rcBufferSize : Int
  deriving DecidableEq

/-- A frame is scaled with a context. -/
structure Scaling where
  context : SwsContext
  frame : AVFrame
  deriving DecidableEq

/-- A frame is passed to the codec, as it is or converted, and on a surface of
the hardware or not. -/
structure Submission where
  frame : AVFrame
  uploaded : Bool
  pts : Int
  forcedKeyframe : Bool
  deriving DecidableEq

structure Packet where
  data : List UInt8
  pts : Int
  keyframe : Bool
  deriving DecidableEq

/-- What the library answers during one call: whether a codec can be reopened
with another rate, whether there is a scaling context, whether the intermediate
frame is writable, whether a surface can be filled, whether the codec takes the
frame, and what it puts out. -/
structure Answers where
  reopened : Bool
  context : Bool
  writable : Bool
  uploaded : Except String Unit
  taken : Except String Unit
  packets : List Packet
  drained : Except String Unit

end Encoder

/-- The fields of an open encoder.  The last two only serve to state properties. -/
structure Encoder where
  cfg : Encoder.EncoderConfig
  ctx : Encoder.AVCodecContext
  chosenName : String
  hwFrames : Bool
  convFmt : Int
  sws : Option Encoder.SwsContext
  swsSrcFmt : Int
  forceKeyframe : Bool
  pendingBitrateKbps : Int
  scaled : List Encoder.Scaling
  submitted : List Encoder.Submission
  deriving DecidableEq

namespace Encoder

/-- Bursts of the rate control last a tenth of a second. -/
def setRate (ctx : AVCodecContext) (kbps : Int) : AVCodecContext :=
  let bitRate := kbps * 1000
  { ctx with
    bitRate := bitRate
    rcMaxRate := bitRate
    rcBufferSize := max 1 (min (bitRate.tdiv 10) (2 ^ 31 - 1)) }

/-- An encoder for which a codec has just been opened. -/
def opened (cfg : EncoderConfig) (chosenName : String) (hwFrames : Bool) (convFmt : Int) : Encoder where
  cfg := cfg
  ctx := setRate ⟨cfg.width, cfg.height, 0, 0, 0⟩ cfg.bitrateKbps
  chosenName := chosenName
  hwFrames := hwFrames
  convFmt := convFmt
  sws := none
  swsSrcFmt := -1
  forceKeyframe := false
  pendingBitrateKbps := 0
  scaled := []
  submitted := []

/-! ## The bitrate -/

/-- Only the software encoder changes its rate in place.  A codec that has been
reopened starts with a keyframe. -/
def reconfigureBitrate (encoder : Encoder) (kbps : Int) (reopened : Bool) : Encoder :=
  let changed : Encoder :=
    { encoder with ctx := setRate encoder.ctx kbps, cfg := { encoder.cfg with bitrateKbps := kbps } }
  if encoder.chosenName = "libx264" then changed
  else if reopened then { changed with forceKeyframe := true }
  else encoder

def applyBitrate (encoder : Encoder) (reopened : Bool) : Encoder :=
  let wantKbps := encoder.pendingBitrateKbps
  let taken := { encoder with pendingBitrateKbps := 0 }
  if 0 < wantKbps ∧ wantKbps ≠ encoder.cfg.bitrateKbps then taken.reconfigureBitrate wantKbps reopened
  else taken

/-! ## Conversion -/

def needsConvert (encoder : Encoder) (frame : AVFrame) : Bool :=
  frame.format != encoder.convFmt || frame.width != encoder.cfg.width || frame.height != encoder.cfg.height

/-- The context for a conversion of the frame to what the codec takes. -/
def contextFor (encoder : Encoder) (frame : AVFrame) : SwsContext :=
  ⟨frame.width, frame.height, frame.format, encoder.cfg.width, encoder.cfg.height, encoder.convFmt⟩

/-- The context that is kept is only replaced when the format of the frames
changes. -/
def renewContext (encoder : Encoder) (frame : AVFrame) (available : Bool) : Encoder :=
  if encoder.sws = none ∨ encoder.swsSrcFmt ≠ frame.format then
    if available then { encoder with sws := some (encoder.contextFor frame), swsSrcFmt := frame.format }
    else { encoder with sws := none }
  else encoder

/-- The frame that is passed on, or an error. -/
def convert (encoder : Encoder) (frame : AVFrame) (answers : Answers) : Encoder × Except String AVFrame :=
  if encoder.needsConvert frame then
    let renewed := encoder.renewContext frame answers.context
    match renewed.sws with
    | none => (renewed, .error "sws_getContext failed")
    | some context =>
        if answers.writable then
          ({ renewed with scaled := renewed.scaled ++ [⟨context, frame⟩] },
            .ok ⟨encoder.convFmt, encoder.cfg.width, encoder.cfg.height⟩)
        else (renewed, .error "conv frame not writable")
  else (encoder, .ok frame)

/-! ## Encoding -/

/-- The converted frame is passed to the codec, and the packets that it gives are
handed out. -/
def submit (encoder : Encoder) (frame : AVFrame) (ptsUsec : Int) (answers : Answers) :
    Encoder × List Packet × Except String Unit :=
  match (if encoder.hwFrames then answers.uploaded else .ok ()) with
  | .error err => (encoder, [], .error err)
  | .ok () =>
      let submitted := { encoder with
        forceKeyframe := false
        submitted := encoder.submitted ++ [⟨frame, encoder.hwFrames, ptsUsec, encoder.forceKeyframe⟩] }
      match answers.taken with
      | .error err => (submitted, [], .error err)
      | .ok () => (submitted, answers.packets, answers.drained)

def encode (encoder : Encoder) (frame : AVFrame) (ptsUsec : Int) (answers : Answers) :
    Encoder × List Packet × Except String Unit :=
  match (encoder.applyBitrate answers.reopened).convert frame answers with
  | (converted, .error err) => (converted, [], .error err)
  | (converted, .ok frame) => converted.submit frame ptsUsec answers

/-! ## Runs -/

inductive Action where
  | setBitrate (kbps : Int)
  | forceKeyframe
  | encode (frame : AVFrame) (ptsUsec : Int) (answers : Answers)

def step (encoder : Encoder) : Action → Option Encoder
  | .setBitrate kbps => some { encoder with pendingBitrateKbps := kbps }
  | .forceKeyframe => some { encoder with forceKeyframe := true }
  | .encode frame ptsUsec answers => some (encoder.encode frame ptsUsec answers).1

/-! ## The frames that need conversion -/

/-- A frame that needs conversion, with the answers whether there is a context for it,
should one be created, and whether the intermediate frame is writable. -/
structure Conversion where
  frame : AVFrame
  context : Bool
  writable : Bool
  deriving DecidableEq

/-- What a call has to convert. -/
def conversion (encoder : Encoder) : Action → List Conversion
  | .setBitrate _ => []
  | .forceKeyframe => []
  | .encode frame _ answers =>
      if encoder.needsConvert frame then [⟨frame, answers.context, answers.writable⟩] else []

/-- All that has to be converted, in the order of the calls. -/
def conversions (encoder : Encoder) (actions : List Action) : List Conversion :=
  actions.flatMap encoder.conversion

/-- There was no context for any frame of the format since one of another format. -/
def Fresh (before : List Conversion) (format : Int) : Prop :=
  ∀ earlier recent, before = earlier ++ recent → (∀ other ∈ recent, other.frame.format = format) →
    ∀ other ∈ recent, other.context = false

/-- Among successive frames of one format, every frame that is scaled has the size of
the first one for which there was a context. -/
def Steady (conversions : List Conversion) : Prop :=
  ∀ before first middle later after, conversions = before ++ first :: (middle ++ later :: after) →
    first.context = true → Fresh before first.frame.format →
    (∀ other ∈ middle, other.frame.format = first.frame.format) → later.frame.format = first.frame.format →
    later.writable = true → later.frame.width = first.frame.width ∧ later.frame.height = first.frame.height

/-- The context that serves the next frame of the same format was created for the
first frame. -/
def Serves (done : List Conversion) (first : Conversion) : Prop :=
  ∃ before recent, done = before ++ first :: recent ∧ first.context = true ∧ Fresh before first.frame.format ∧
    ∀ other ∈ recent, other.frame.format = first.frame.format

/-- If the frame is scaled with the context of one before, then it has its size. -/
def Continues (done : List Conversion) (later : Conversion) : Prop :=
  ∀ first, Serves done first → later.frame.format = first.frame.format → later.writable = true →
    later.frame.width = first.frame.width ∧ later.frame.height = first.frame.height

section Conversions

variable {done : List Conversion} {first last : Conversion} {format : Int}

theorem fresh_nil (format : Int) : Fresh [] format := by
  intro earlier recent same _ other member
  rw [(List.append_eq_nil_iff.mp same.symm).2] at member
  exact absurd member List.not_mem_nil

theorem fresh_concat_iff : Fresh (done ++ [last]) format ↔
    (last.frame.format = format → last.context = false ∧ Fresh done format) := by
  constructor
  · intro fresh same
    refine ⟨fresh done [last] rfl ?_ last List.mem_cons_self, ?_⟩
    · exact List.forall_mem_singleton.mpr same
    · intro earlier recent split ofFormat other member
      refine fresh earlier (recent ++ [last]) ?_ ?_ other (List.mem_append_left _ member)
      · rw [split, List.append_assoc]
      · exact List.forall_mem_append.mpr ⟨ofFormat, List.forall_mem_singleton.mpr same⟩
  · intro holds earlier recent split ofFormat other member
    rcases List.eq_nil_or_concat recent with rfl | ⟨most, final, rfl⟩
    · exact absurd member List.not_mem_nil
    · rw [List.concat_eq_append] at split ofFormat member
      rw [← List.append_assoc] at split
      obtain ⟨isDone, isLast⟩ := List.append_inj' split rfl
      cases isLast
      obtain ⟨ofMost, ofLast⟩ := List.forall_mem_append.mp ofFormat
      obtain ⟨without, fresh⟩ := holds (ofLast last List.mem_cons_self)
      rcases List.mem_append.mp member with inMost | isFinal
      · exact fresh earlier most isDone ofMost other inMost
      · rw [List.mem_singleton.mp isFinal]
        exact without

theorem serves_nil (first : Conversion) : ¬ Serves [] first := by
  rintro ⟨before, recent, impossible, _⟩
  exact absurd impossible.symm (by simp)

/-- A context goes on serving the frames of its format, or a new one is created. -/
theorem serves_concat_iff : Serves (done ++ [last]) first ↔
    (Serves done first ∧ last.frame.format = first.frame.format) ∨
      (first = last ∧ last.context = true ∧ Fresh done last.frame.format) := by
  constructor
  · rintro ⟨before, recent, split, created, fresh, ofFormat⟩
    rcases List.eq_nil_or_concat recent with rfl | ⟨most, final, rfl⟩
    · obtain ⟨rfl, isLast⟩ := List.append_inj' split rfl
      cases isLast
      exact Or.inr ⟨rfl, created, fresh⟩
    · rw [List.concat_eq_append] at split ofFormat
      rw [← List.cons_append, ← List.append_assoc] at split
      obtain ⟨isDone, isLast⟩ := List.append_inj' split rfl
      cases isLast
      obtain ⟨ofMost, ofLast⟩ := List.forall_mem_append.mp ofFormat
      exact Or.inl ⟨⟨before, most, isDone, created, fresh, ofMost⟩, ofLast last List.mem_cons_self⟩
  · rintro (⟨⟨before, recent, rfl, created, fresh, ofFormat⟩, same⟩ | ⟨rfl, created, fresh⟩)
    · refine ⟨before, recent ++ [last], ?_, created, fresh, ?_⟩
      · rw [List.append_assoc, List.cons_append]
      · exact List.forall_mem_append.mpr ⟨ofFormat, List.forall_mem_singleton.mpr same⟩
    · exact ⟨done, [], rfl, created, fresh, fun _ impossible => absurd impossible List.not_mem_nil⟩

/-- There is a context for a format, or none was created for it. -/
theorem fresh_iff : Fresh done format ↔ ∀ first, Serves done first → first.frame.format ≠ format := by
  induction done using List.reverseRecOn generalizing format with
  | nil => exact iff_of_true (fresh_nil format) (fun first serves => absurd serves (serves_nil first))
  | append_singleton done last inductionHypothesis =>
      rw [fresh_concat_iff]
      constructor
      · rintro holds first serves rfl
        rcases serves_concat_iff.mp serves with ⟨serves, same⟩ | ⟨rfl, created, _⟩
        · exact inductionHypothesis.mp (holds same).2 first serves rfl
        · rw [(holds rfl).1] at created
          exact Bool.noConfusion created
      · rintro none rfl
        have fresh : Fresh done last.frame.format := by
          apply inductionHypothesis.mpr
          intro first serves same
          exact none first (serves_concat_iff.mpr (Or.inl ⟨serves, same.symm⟩)) same
        refine ⟨Bool.eq_false_iff.mpr fun created => ?_, fresh⟩
        exact none last (serves_concat_iff.mpr (Or.inr ⟨rfl, created, fresh⟩)) rfl

theorem steady_nil : Steady [] := by
  intro before first middle later after impossible
  exact absurd impossible.symm (by simp)

theorem steady_concat_iff : Steady (done ++ [last]) ↔ Steady done ∧ Continues done last := by
  constructor
  · intro steady
    constructor
    · intro before first middle later after split
      refine steady before first middle later (after ++ [last]) ?_
      rw [split]
      simp
    · rintro first ⟨before, recent, rfl, created, fresh, ofFormat⟩
      refine steady before first recent last [] ?_ created fresh ofFormat
      rw [List.append_assoc, List.cons_append]
  · rintro ⟨steady, continues⟩ before first middle later after split created fresh ofFormat
    rcases List.eq_nil_or_concat after with rfl | ⟨most, final, rfl⟩
    · rw [← List.cons_append, ← List.append_assoc] at split
      obtain ⟨isDone, isLast⟩ := List.append_inj' split rfl
      cases isLast
      exact continues first ⟨before, middle, isDone, created, fresh, ofFormat⟩
    · rw [List.concat_eq_append, ← List.cons_append, ← List.append_assoc, ← List.cons_append,
        ← List.append_assoc] at split
      refine steady before first middle later most ?_ created fresh ofFormat
      rw [(List.append_inj' split rfl).1, List.append_assoc, List.cons_append]

end Conversions

/-! ## What a call does to the scaling -/

/-- The frame is scaled with a context that was created for it, and for what the
encoder was opened for. -/
def Fits (encoder : Encoder) (scaling : Scaling) : Prop := scaling.context = encoder.contextFor scaling.frame

/-- All that has been scaled fits. -/
def AllFit (encoder : Encoder) : Prop := ∀ scaling ∈ encoder.scaled, encoder.Fits scaling

/-- The context that is kept is the one that serves the next frame. -/
structure Kept (encoder : Encoder) (done : List Conversion) : Prop where
  serving : ∀ first, Serves done first →
    encoder.sws = some (encoder.contextFor first.frame) ∧ encoder.swsSrcFmt = first.frame.format
  created : encoder.sws ≠ none → ∃ first, Serves done first

/-- Nothing that scaling depends on has changed. -/
structure SameScaling (encoder next : Encoder) : Prop where
  sws : next.sws = encoder.sws
  swsSrcFmt : next.swsSrcFmt = encoder.swsSrcFmt
  scaled : next.scaled = encoder.scaled
  contextFor : next.contextFor = encoder.contextFor
  needsConvert : next.needsConvert = encoder.needsConvert

variable {encoder next : Encoder} {frame : AVFrame} {answers : Answers} {done added : List Conversion}

theorem SameScaling.kept (same : encoder.SameScaling next) (kept : encoder.Kept done) : next.Kept done where
  serving := by
    rw [same.sws, same.swsSrcFmt, same.contextFor]
    exact kept.serving
  created := by
    rw [same.sws]
    exact kept.created

theorem SameScaling.allFit_iff (same : encoder.SameScaling next) : next.AllFit ↔ encoder.AllFit := by
  unfold AllFit Fits
  rw [same.scaled, same.contextFor]

theorem SameScaling.trans {middle : Encoder} (first : encoder.SameScaling middle)
    (second : middle.SameScaling next) : encoder.SameScaling next where
  sws := second.sws.trans first.sws
  swsSrcFmt := second.swsSrcFmt.trans first.swsSrcFmt
  scaled := second.scaled.trans first.scaled
  contextFor := second.contextFor.trans first.contextFor
  needsConvert := second.needsConvert.trans first.needsConvert

theorem sameScaling_reconfigureBitrate (encoder : Encoder) (kbps : Int) (reopened : Bool) :
    encoder.SameScaling (encoder.reconfigureBitrate kbps reopened) := by
  unfold reconfigureBitrate
  by_cases software : encoder.chosenName = "libx264"
  · rw [if_pos software]
    exact ⟨rfl, rfl, rfl, rfl, rfl⟩
  · rw [if_neg software]
    cases reopened <;> exact ⟨rfl, rfl, rfl, rfl, rfl⟩

theorem sameScaling_applyBitrate (encoder : Encoder) (reopened : Bool) :
    encoder.SameScaling (encoder.applyBitrate reopened) := by
  have taken : encoder.SameScaling { encoder with pendingBitrateKbps := 0 } := ⟨rfl, rfl, rfl, rfl, rfl⟩
  unfold applyBitrate
  dsimp only
  split
  · exact taken.trans (sameScaling_reconfigureBitrate _ _ _)
  · exact taken

theorem sameScaling_submit (encoder : Encoder) (frame : AVFrame) (ptsUsec : Int) (answers : Answers) :
    encoder.SameScaling (encoder.submit frame ptsUsec answers).1 := by
  unfold submit
  split
  · exact ⟨rfl, rfl, rfl, rfl, rfl⟩
  · dsimp only
    split <;> exact ⟨rfl, rfl, rfl, rfl, rfl⟩

/-- What scaling one more frame means for the frames scaled so far. -/
theorem allFit_append_iff {scaling : Scaling} (scaled : next.scaled = encoder.scaled ++ [scaling])
    (contextFor : next.contextFor = encoder.contextFor) :
    next.AllFit ↔ encoder.AllFit ∧ encoder.Fits scaling := by
  unfold AllFit Fits
  rw [scaled, contextFor, List.forall_mem_append, List.forall_mem_singleton]

/-- A step towards scaling: the invariant holds after it, and all fits if all
fitted and what was converted continues what was before. -/
structure Scales (encoder next : Encoder) (done added : List Conversion) : Prop where
  kept : next.Kept (done ++ added)
  contextFor : next.contextFor = encoder.contextFor
  needsConvert : next.needsConvert = encoder.needsConvert
  allFit : next.AllFit ↔ encoder.AllFit ∧ ∀ conversion ∈ added, Continues done conversion

theorem SameScaling.scales (same : encoder.SameScaling next) (kept : encoder.Kept done) :
    encoder.Scales next done [] where
  kept := (List.append_nil done).symm ▸ same.kept kept
  contextFor := same.contextFor
  needsConvert := same.needsConvert
  allFit := by
    rw [same.allFit_iff]
    exact iff_self_and.mpr fun _ _ impossible => absurd impossible List.not_mem_nil

theorem Scales.trans_same {middle : Encoder} (scales : encoder.Scales middle done added)
    (same : middle.SameScaling next) : encoder.Scales next done added where
  kept := same.kept scales.kept
  contextFor := same.contextFor.trans scales.contextFor
  needsConvert := same.needsConvert.trans scales.needsConvert
  allFit := same.allFit_iff.trans scales.allFit

/-- No context is kept for a fresh format, and the other way round. -/
theorem Kept.renews_iff (kept : encoder.Kept done) :
    (encoder.sws = none ∨ encoder.swsSrcFmt ≠ frame.format) ↔ Fresh done frame.format := by
  rw [fresh_iff]
  constructor
  · rintro renews first serves same
    obtain ⟨isKept, isFormat⟩ := kept.serving first serves
    rcases renews with nothing | different
    · cases nothing.symm.trans isKept
    · exact different (isFormat.trans same)
  · intro none
    by_contra both
    obtain ⟨isKept, isFormat⟩ := not_or.mp both
    obtain ⟨first, serves⟩ := kept.created isKept
    exact none first serves ((kept.serving first serves).2.symm.trans (not_not.mp isFormat))

/-- A frame of a fresh format continues anything. -/
theorem continues_of_fresh {conversion : Conversion} (fresh : Fresh done conversion.frame.format) :
    Continues done conversion :=
  fun first serves same => absurd same.symm (fresh_iff.mp fresh first serves)

/-- A new context serves from now on. -/
theorem Kept.renewed {conversion : Conversion} (fresh : Fresh done conversion.frame.format)
    (available : conversion.context = true) (sws : next.sws = some (next.contextFor conversion.frame))
    (swsSrcFmt : next.swsSrcFmt = conversion.frame.format) : next.Kept (done ++ [conversion]) where
  serving := by
    intro first serves
    rcases serves_concat_iff.mp serves with ⟨before, same⟩ | ⟨rfl, _⟩
    · exact absurd same.symm (fresh_iff.mp fresh first before)
    · exact ⟨sws, swsSrcFmt⟩
  created := fun _ => ⟨conversion, serves_concat_iff.mpr (Or.inr ⟨rfl, available, fresh⟩)⟩

/-- Without a new context none serves. -/
theorem Kept.unavailable {conversion : Conversion} (fresh : Fresh done conversion.frame.format)
    (missing : conversion.context = false) (sws : next.sws = none) : next.Kept (done ++ [conversion]) where
  serving := by
    intro first serves
    rcases serves_concat_iff.mp serves with ⟨before, same⟩ | ⟨rfl, available, _⟩
    · exact absurd same.symm (fresh_iff.mp fresh first before)
    · exact Bool.noConfusion (missing.symm.trans available)
  created := fun kept => absurd sws kept

/-- The context that is kept goes on serving frames of its format. -/
theorem Kept.reused (kept : encoder.Kept done) {conversion first : Conversion} (serves : Serves done first)
    (same : conversion.frame.format = first.frame.format) (sws : next.sws = encoder.sws)
    (swsSrcFmt : next.swsSrcFmt = encoder.swsSrcFmt) (contextFor : next.contextFor = encoder.contextFor) :
    next.Kept (done ++ [conversion]) where
  serving := by
    intro other otherServes
    rw [sws, swsSrcFmt, contextFor]
    rcases serves_concat_iff.mp otherServes with ⟨before, _⟩ | ⟨rfl, _, fresh⟩
    · exact kept.serving other before
    · exact absurd same.symm (fresh_iff.mp fresh first serves)
  created := fun _ => ⟨first, serves_concat_iff.mpr (Or.inl ⟨serves, same⟩)⟩

/-- With the context of a frame of its format, a frame fits if it has the same size. -/
theorem Kept.fits_iff (kept : encoder.Kept done) {conversion first : Conversion} (serves : Serves done first)
    (same : conversion.frame.format = first.frame.format) (writable : conversion.writable = true) :
    encoder.Fits ⟨encoder.contextFor first.frame, conversion.frame⟩ ↔ Continues done conversion := by
  constructor
  · intro fits other otherServes _ _
    have isOther := Option.some.inj ((kept.serving other otherServes).1.symm.trans (kept.serving first serves).1)
    have both : encoder.contextFor other.frame = encoder.contextFor conversion.frame := isOther.trans fits
    exact ⟨(congrArg SwsContext.srcWidth both).symm, (congrArg SwsContext.srcHeight both).symm⟩
  · intro continues
    obtain ⟨width, height⟩ := continues first serves same writable
    rw [Fits, Encoder.contextFor, Encoder.contextFor, width, height, same]

/-- A frame that is scaled fits, unless the context of a frame with another size is
kept for its format. -/
theorem scales_convert (kept : encoder.Kept done) (frame : AVFrame) (answers : Answers) :
    encoder.Scales (encoder.convert frame answers).1 done (encoder.conversion (.encode frame 0 answers)) := by
  rw [conversion]
  unfold convert
  by_cases converts : encoder.needsConvert frame = true
  · rw [if_pos converts, if_pos converts]
    unfold renewContext
    by_cases renews : encoder.sws = none ∨ encoder.swsSrcFmt ≠ frame.format
    · have fresh : Fresh done frame.format := kept.renews_iff.mp renews
      have continues : ∀ conversion ∈ [(⟨frame, answers.context, answers.writable⟩ : Conversion)],
          Continues done conversion := List.forall_mem_singleton.mpr (continues_of_fresh fresh)
      rw [if_pos renews]
      cases available : answers.context with
      | false =>
        rw [available] at continues
        exact ⟨Kept.unavailable fresh rfl rfl, rfl, rfl, iff_self_and.mpr fun _ => continues⟩
      | true =>
        rw [available] at continues
        cases writable : answers.writable with
        | false =>
          rw [writable] at continues
          exact ⟨Kept.renewed fresh rfl rfl rfl, rfl, rfl, iff_self_and.mpr fun _ => continues⟩
        | true =>
          rw [writable] at continues
          refine ⟨Kept.renewed fresh rfl rfl rfl, rfl, rfl, ?_⟩
          have fits : encoder.Fits ⟨encoder.contextFor frame, frame⟩ := rfl
          exact (allFit_append_iff (by rfl) (by rfl)).trans (and_congr Iff.rfl (iff_of_true fits continues))
    · rw [if_neg renews]
      obtain ⟨isKept, isFormat⟩ := not_or.mp renews
      obtain ⟨first, serves⟩ := kept.created isKept
      obtain ⟨isContext, ofFirst⟩ := kept.serving first serves
      have same : frame.format = first.frame.format := (not_not.mp isFormat).symm.trans ofFirst
      cases writable : answers.writable with
      | false =>
        simp only [isContext]
        refine ⟨kept.reused serves same rfl rfl rfl, rfl, rfl, iff_self_and.mpr fun _ => ?_⟩
        exact List.forall_mem_singleton.mpr (fun _ _ _ impossible => Bool.noConfusion impossible)
      | true =>
        simp only [isContext, ↓reduceIte]
        refine ⟨kept.reused serves same isContext.symm rfl rfl, rfl, rfl, ?_⟩
        rw [List.forall_mem_singleton, ← kept.fits_iff serves same rfl]
        exact allFit_append_iff rfl rfl
  · rw [if_neg converts, if_neg converts]
    have unchanged : encoder.SameScaling encoder := ⟨rfl, rfl, rfl, rfl, rfl⟩
    exact unchanged.scales kept

theorem scales_step (kept : encoder.Kept done) {action : Action} (stepped : encoder.step action = some next) :
    encoder.Scales next done (encoder.conversion action) := by
  cases action with
  | setBitrate kbps =>
      cases stepped
      have same : encoder.SameScaling { encoder with pendingBitrateKbps := kbps } := ⟨rfl, rfl, rfl, rfl, rfl⟩
      exact same.scales kept
  | forceKeyframe =>
      cases stepped
      have same : encoder.SameScaling { encoder with forceKeyframe := true } := ⟨rfl, rfl, rfl, rfl, rfl⟩
      exact same.scales kept
  | encode frame ptsUsec answers =>
      cases stepped
      have applied := sameScaling_applyBitrate encoder answers.reopened
      have converted := scales_convert (applied.kept kept) frame answers
      have scales : encoder.Scales ((encoder.applyBitrate answers.reopened).convert frame answers).1 done
          (encoder.conversion (.encode frame ptsUsec answers)) := by
        rw [conversion, ← applied.needsConvert]
        constructor
        · exact converted.kept
        · exact converted.contextFor.trans applied.contextFor
        · exact converted.needsConvert.trans applied.needsConvert
        · exact converted.allFit.trans (and_congr applied.allFit_iff Iff.rfl)
      unfold encode
      split
      · rename_i same
        rw [same] at scales
        exact scales
      · rename_i same
        rw [same] at scales
        exact scales.trans_same (sameScaling_submit _ _ _ _)

/-! ## Every frame is scaled with a context of its own -/

/-- At most one frame is converted by a call. -/
theorem steady_conversion_iff (encoder : Encoder) (action : Action) : Steady (done ++ encoder.conversion action) ↔
    Steady done ∧ ∀ conversion ∈ encoder.conversion action, Continues done conversion := by
  have nothing : Steady (done ++ []) ↔ Steady done ∧ ∀ conversion ∈ [], Continues done conversion := by
    rw [List.append_nil]
    exact iff_self_and.mpr fun _ _ impossible => absurd impossible List.not_mem_nil
  cases action with
  | setBitrate kbps => exact nothing
  | forceKeyframe => exact nothing
  | encode frame ptsUsec answers =>
      rw [conversion]
      split
      · rw [steady_concat_iff, List.forall_mem_singleton]
      · exact nothing

theorem conversions_concat (encoder : Encoder) (actions : List Action) (action : Action) :
    encoder.conversions (actions ++ [action]) = encoder.conversions actions ++ encoder.conversion action := by
  rw [conversions, conversions, List.flatMap_append, List.flatMap_singleton]

/-- Which frames need conversion is settled when the encoder is opened. -/
theorem conversion_congr (needsConvert : next.needsConvert = encoder.needsConvert) (action : Action) :
    next.conversion action = encoder.conversion action := by
  cases action with
  | setBitrate kbps => rfl
  | forceKeyframe => rfl
  | encode frame ptsUsec answers => rw [conversion, conversion, needsConvert]

theorem scales_run {start finish : Encoder} {actions : List Action} (kept : start.Kept [])
    (nothing : start.scaled = []) (ran : run step start actions = some finish) :
    finish.Kept (start.conversions actions) ∧ finish.contextFor = start.contextFor ∧
      finish.needsConvert = start.needsConvert ∧ (finish.AllFit ↔ Steady (start.conversions actions)) := by
  induction actions using List.reverseRecOn generalizing finish with
  | nil =>
      cases ran
      refine ⟨kept, rfl, rfl, iff_of_true (fun scaling member => ?_) steady_nil⟩
      rw [nothing] at member
      exact absurd member List.not_mem_nil
  | append_singleton actions action inductionHypothesis =>
      obtain ⟨middle, before, stepped⟩ := run_concat_iff.mp ran
      obtain ⟨soFar, contextFor, needsConvert, allFit⟩ := inductionHypothesis before
      have scales := scales_step soFar stepped
      rw [conversions_concat, ← conversion_congr needsConvert, steady_conversion_iff, ← allFit]
      exact ⟨scales.kept, scales.contextFor.trans contextFor, scales.needsConvert.trans needsConvert, scales.allFit⟩

/-- All frames of a run are scaled with contexts that were created for them if and
only if among successive frames of one format that need conversion, all that are
scaled have the size of the first one for which there was a context. -/
theorem scaled_fit_iff {cfg : EncoderConfig} {chosenName : String} {hwFrames : Bool} {convFmt : Int}
    {actions : List Action} {encoder : Encoder}
    (ran : run step (opened cfg chosenName hwFrames convFmt) actions = some encoder) :
    (∀ scaling ∈ encoder.scaled, scaling.context = ⟨scaling.frame.width, scaling.frame.height,
      scaling.frame.format, cfg.width, cfg.height, convFmt⟩) ↔
        Steady ((opened cfg chosenName hwFrames convFmt).conversions actions) := by
  have kept : (opened cfg chosenName hwFrames convFmt).Kept [] :=
    ⟨fun first serves => absurd serves (serves_nil first), fun impossible => absurd rfl impossible⟩
  obtain ⟨_, contextFor, _, allFit⟩ := scales_run kept rfl ran
  unfold AllFit Fits at allFit
  rw [contextFor] at allFit
  exact allFit

def answered : Answers := ⟨true, true, true, .ok (), .ok (), [], .ok ()⟩

/-- A size may come back, and change along with the format. -/
def varied : List Action :=
  [.encode ⟨28, 1920, 1080⟩ 0 answered, .encode ⟨28, 1920, 1080⟩ 16667 answered,
    .encode ⟨26, 2560, 1440⟩ 33333 answered, .encode ⟨28, 800, 600⟩ 50000 answered]

theorem scaled_fit_sample : Steady ((opened ⟨1280, 720, 8000⟩ "libx264" false 0).conversions varied) := by
  have ends : (run step (opened ⟨1280, 720, 8000⟩ "libx264" false 0) varied).map (·.scaled) =
      some [⟨⟨1920, 1080, 28, 1280, 720, 0⟩, ⟨28, 1920, 1080⟩⟩, ⟨⟨1920, 1080, 28, 1280, 720, 0⟩, ⟨28, 1920, 1080⟩⟩,
        ⟨⟨2560, 1440, 26, 1280, 720, 0⟩, ⟨26, 2560, 1440⟩⟩, ⟨⟨800, 600, 28, 1280, 720, 0⟩, ⟨28, 800, 600⟩⟩] := by
    decide +kernel
  obtain ⟨encoder, ran, isScaled⟩ := Option.map_eq_some_iff.mp ends
  apply (scaled_fit_iff ran).mp
  rw [isScaled]
  decide

/-- A monitor changes to a smaller resolution, and keeps its pixel format. -/
theorem scaled_not_always_fit : ¬ ∀ cfg chosenName hwFrames convFmt actions encoder,
    run step (opened cfg chosenName hwFrames convFmt) actions = some encoder →
      ∀ scaling ∈ encoder.scaled, scaling.context = ⟨scaling.frame.width, scaling.frame.height,
        scaling.frame.format, cfg.width, cfg.height, convFmt⟩ := by
  intro always
  have ends : (run step (opened ⟨1280, 720, 8000⟩ "libx264" false 0)
      [.encode ⟨28, 1920, 1080⟩ 0 answered, .encode ⟨28, 800, 600⟩ 16667 answered]).map (·.scaled) =
        some [⟨⟨1920, 1080, 28, 1280, 720, 0⟩, ⟨28, 1920, 1080⟩⟩,
          ⟨⟨1920, 1080, 28, 1280, 720, 0⟩, ⟨28, 800, 600⟩⟩] := by decide +kernel
  obtain ⟨encoder, ran, isScaled⟩ := Option.map_eq_some_iff.mp ends
  have fits := always _ _ _ _ _ encoder ran ⟨⟨1920, 1080, 28, 1280, 720, 0⟩, ⟨28, 800, 600⟩⟩
  rw [isScaled] at fits
  exact absurd (fits (by decide)) (by decide)

end Encoder
end MetaShare
