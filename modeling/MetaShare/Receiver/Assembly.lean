import MetaShare.Receiver.Depacketizer

namespace MetaShare
namespace RtpReceiver

open Octets Rtp

/-!
# Assembling the pieces of an access unit

The packetizer and the depacketizer are written independently.  This module
relates them through the pieces of an access unit: the payload of each piece is
recognised as what it is, and its octets are appended to the frame.  As long as
nothing is lost the depacketizer state is determined by the pieces consumed so
far, and at the marker the frame is the canonical Annex B form.
-/

/-- The packetizer layout that a depacketizer expects. -/
def layoutOf (h265 : Bool) : NalLayout := if h265 then h265Layout else h264Layout

/-- The type in the header of a NAL unit. -/
def typeOf (h265 : Bool) (nal : List UInt8) : UInt8 := (layoutOf h265).originalType nal

/-- Units that the depacketizer takes as NAL units of their own. -/
structure Acceptable (h265 : Bool) (nal : List UInt8) : Prop where
  size : 2 ≤ nal.length
  single : VideoDepacketizer.isSingle h265 (typeOf h265 nal) = true

/-- An access unit is a keyframe when it contains an IDR unit. -/
def isKeyframe (h265 : Bool) (nals : List (List UInt8)) : Bool :=
  nals.any (fun nal => VideoDepacketizer.isIdr h265 (typeOf h265 nal))

theorem headerSize_layoutOf (h265 : Bool) :
    (layoutOf h265).headerSize = VideoDepacketizer.header h265 := by
  cases h265 <;> rfl

/-! ## Header bits -/

theorem typeOf_cons (h265 : Bool) (first : UInt8) (rest : List UInt8) :
    typeOf h265 (first :: rest) = VideoDepacketizer.nalType h265 first := by
  cases h265 <;> rfl

/-- The two codecs' rules for what the type bits of an octet can be. -/
theorem type_bits (h265 : Bool) (first : UInt8) (isFirst isLast : Bool) :
    let type := VideoDepacketizer.nalType h265 first
    let fh := (if isFirst then 0x80 else 0x00) ||| (if isLast then 0x40 else 0x00) ||| type
    (fh &&& 0x80 != 0) = isFirst ∧ (fh &&& 0x40 != 0) = isLast ∧
      fh &&& VideoDepacketizer.fuTypeMask h265 = type := by
  revert first
  apply forall_of_bits
  revert h265 isFirst isLast
  decide +kernel

/-- The first octet of a fragment of a unit. -/
def fragmentOctet (h265 : Bool) (first : UInt8) : UInt8 :=
  if h265 then (first &&& 0x81) ||| ((49 : UInt8) <<< (1 : UInt8)) else (first &&& 0xE0) ||| 28

/-- A fragment is recognised as such, and the unit's first octet is rebuilt
from the fragment's. -/
theorem fragment_bits (h265 : Bool) (first : UInt8) :
    VideoDepacketizer.nalType h265 (fragmentOctet h265 first) = VideoDepacketizer.fragType h265 ∧
      VideoDepacketizer.headerOctet h265 (fragmentOctet h265 first)
        (VideoDepacketizer.nalType h265 first) = first := by
  revert first
  apply forall_of_bits
  revert h265
  decide +kernel

/-- Types that stand alone are neither fragments nor aggregates. -/
theorem single_types (h265 : Bool) (first : UInt8)
    (single : VideoDepacketizer.isSingle h265 (VideoDepacketizer.nalType h265 first) = true) :
    VideoDepacketizer.nalType h265 first ≠ VideoDepacketizer.fragType h265 ∧
      VideoDepacketizer.nalType h265 first ≠ VideoDepacketizer.apType h265 := by
  revert first
  apply forall_of_bits
  revert h265
  decide +kernel

namespace VideoDepacketizer

/-! ## The state after some pieces -/

/-- What consuming one piece adds to the state. -/
def addPiece (depack : VideoDepacketizer) : Piece → VideoDepacketizer
  | .whole nal =>
      { depack with
        frame := depack.frame ++ (Piece.whole nal).contribution (layoutOf depack.h265)
        keyframe := depack.keyframe || isIdr depack.h265 (typeOf depack.h265 nal) }
  | .fragment nal isFirst isLast chunk =>
      { depack with
        frame := depack.frame ++ (Piece.fragment nal isFirst isLast chunk).contribution (layoutOf depack.h265)
        keyframe := depack.keyframe || (isFirst && isIdr depack.h265 (typeOf depack.h265 nal))
        fuActive := !isLast
        fuType := if isFirst then typeOf depack.h265 nal else depack.fuType }

/-- The frame under assembly consists of the pieces `done`, with the fragmented
unit `current` still open. -/
structure Assembled (depack : VideoDepacketizer) (done : List Piece)
    (current : Option (List UInt8)) : Prop where
  follows : followAll none done = some current
  frame : depack.frame = (layoutOf depack.h265).contributions done
  active : depack.fuActive = current.isSome
  type : ∀ nal ∈ current, depack.fuType = typeOf depack.h265 nal
  openIdr : ∀ nal ∈ current, isIdr depack.h265 (typeOf depack.h265 nal) = true → depack.keyframe = true
  keyframe : depack.keyframe = isKeyframe depack.h265 (done.map Piece.nal)
  undamaged : depack.damaged = false

theorem Assembled.addPiece {depack : VideoDepacketizer} {done : List Piece}
    {current next : Option (List UInt8)} (assembled : Assembled depack done current) {piece : Piece}
    (follow : piece.follow current = some next) :
    Assembled (depack.addPiece piece) (done ++ [piece]) next := by
  have extended : followAll none (done ++ [piece]) = some next := by
    rw [followAll_append, assembled.follows]
    simpa [followAll] using follow
  have grown : ∀ layout : NalLayout, layout.contributions (done ++ [piece]) =
      layout.contributions done ++ piece.contribution layout := by
    intro layout
    rw [NalLayout.contributions_append]
    simp [NalLayout.contributions]
  cases piece with
  | whole nal =>
      simp only [Piece.follow, Option.ite_none_right_eq_some, Option.some.injEq] at follow
      obtain ⟨closed, rfl⟩ := follow
      refine ⟨extended, ?_, ?_, ?_, ?_, ?_, assembled.undamaged⟩
      · simp only [VideoDepacketizer.addPiece, grown, assembled.frame]
      · simpa [VideoDepacketizer.addPiece, closed] using assembled.active
      · intro _ impossible
        cases impossible
      · intro _ impossible
        cases impossible
      · simp [VideoDepacketizer.addPiece, assembled.keyframe, isKeyframe, Piece.nal]
  | fragment nal isFirst isLast chunk =>
      cases isFirst with
      | true =>
          simp only [Piece.follow, Option.ite_none_right_eq_some, Option.some.injEq] at follow
          obtain ⟨⟨closed, unfinished, filled⟩, rfl⟩ := follow
          refine ⟨extended, ?_, ?_, ?_, ?_, ?_, assembled.undamaged⟩
          · simp only [VideoDepacketizer.addPiece, grown, assembled.frame]
          · simp [VideoDepacketizer.addPiece, unfinished]
          · intro other same
            cases same
            simp [VideoDepacketizer.addPiece]
          · intro other same idr
            cases same
            simpa [VideoDepacketizer.addPiece] using Or.inr idr
          · simp [VideoDepacketizer.addPiece, assembled.keyframe, isKeyframe, Piece.nal]
      | false =>
          simp only [Piece.follow, Option.ite_none_right_eq_some, Option.some.injEq] at follow
          obtain ⟨⟨opened, filled⟩, same⟩ := follow
          have type := assembled.type nal opened
          have openIdr := assembled.openIdr nal opened
          refine ⟨extended, ?_, ?_, ?_, ?_, ?_, assembled.undamaged⟩
          · simp only [VideoDepacketizer.addPiece, grown, assembled.frame]
          · cases isLast <;> simp [VideoDepacketizer.addPiece, ← same]
          · intro other member
            cases isLast
            · cases same.trans member
              exact type
            · cases same.trans member
          · intro other member idr
            cases isLast
            · cases same.trans member
              simpa [VideoDepacketizer.addPiece] using openIdr idr
            · cases same.trans member
          · simp only [VideoDepacketizer.addPiece, isKeyframe, List.map_append, List.map_cons,
              List.map_nil, List.any_append, List.any_cons, List.any_nil, Bool.or_false,
              Bool.false_and, Piece.nal]
            rw [assembled.keyframe] at openIdr ⊢
            cases idr : isIdr depack.h265 (typeOf depack.h265 nal) with
            | false => rw [Bool.or_false]; rfl
            | true => rw [Bool.or_true]; exact openIdr idr

@[simp] theorem addPiece_h265 (depack : VideoDepacketizer) (piece : Piece) :
    (depack.addPiece piece).h265 = depack.h265 := by
  cases piece <;> rfl

@[simp] theorem addPiece_pendingGap (depack : VideoDepacketizer) (piece : Piece) :
    (depack.addPiece piece).pendingGap = depack.pendingGap := by
  cases piece <;> rfl

@[simp] theorem addPiece_framePts (depack : VideoDepacketizer) (piece : Piece) :
    (depack.addPiece piece).framePts = depack.framePts := by
  cases piece <;> rfl

@[simp] theorem addPiece_awaitingKeyframe (depack : VideoDepacketizer) (piece : Piece) :
    (depack.addPiece piece).awaitingKeyframe = depack.awaitingKeyframe := by
  cases piece <;> rfl

/-! ## The payload of a piece is taken for what it is -/

theorem assemble_whole (depack : VideoDepacketizer) (nal : List UInt8)
    (acceptable : Acceptable depack.h265 nal) (closed : depack.fuActive = false)
    (fits : depack.frame.length + nal.length + 4 ≤ MAX_FRAME_BYTES) :
    depack.assemble nal 0 nal.length = .ok (depack.addPiece (.whole nal)) := by
  cases nal with
  | nil => exact absurd acceptable.size (by simp)
  | cons first rest =>
      have size := acceptable.size
      have single := acceptable.single
      rw [typeOf_cons] at single
      have types := single_types depack.h265 first single
      have headed : header depack.h265 ≤ 2 := by cases depack.h265 <;> decide
      rw [assemble, if_neg (by omega), byteAt_of_lt (by omega)]
      simp only [ok_bind, List.getElem_cons_zero, if_neg types.1, if_neg types.2, closed, single,
        Bool.false_eq_true, if_false, if_true]
      rw [addNal, byteAt_of_lt (by omega), bytesAt_of_le (by omega), slice_all]
      simp only [ok_bind, List.getElem_cons_zero, addPiece, Piece.contribution, write, typeOf_cons]
      rfl

/-- The first fragment restores the header of its unit. -/
theorem openFragment_payload (depack : VideoDepacketizer) (nal rest : List UInt8)
    (acceptable : Acceptable depack.h265 nal) :
    ∃ first, byteAt ((layoutOf depack.h265).payloadHeader nal ++ rest) 0 = .ok first ∧
      nalType depack.h265 first = fragType depack.h265 ∧
      depack.openFragment ((layoutOf depack.h265).payloadHeader nal ++ rest) 0 first (typeOf depack.h265 nal) =
        .ok { depack.write (startCode true ++ nal.take (layoutOf depack.h265).headerSize) with
          keyframe := depack.keyframe || isIdr depack.h265 (typeOf depack.h265 nal)
          fuActive := true
          fuType := typeOf depack.h265 nal } := by
  match nal, acceptable.size with
  | first :: second :: body, _ =>
    have bits := fragment_bits depack.h265 first
    refine ⟨fragmentOctet depack.h265 first, ?_, bits.1, ?_⟩
    · cases depack.h265 <;> rfl
    · simp only [openFragment, typeOf_cons, bits.2]
      cases depack.h265 <;> rfl

theorem addFragment_payload (depack : VideoDepacketizer) (octets chunk : List UInt8) (fh first : UInt8)
    (headed : octets.length = header depack.h265) (filled : chunk ≠ []) :
    depack.addFragment (octets ++ fh :: chunk) 0 (octets ++ fh :: chunk).length first =
      if (fh &&& 0x80 != 0 && (depack.fuActive || fh &&& 0x40 != 0)) ||
          (!(fh &&& 0x80 != 0) && (!depack.fuActive || fh &&& fuTypeMask depack.h265 != depack.fuType)) then
        .ok depack.invalidate
      else (if fh &&& 0x80 != 0 then
          depack.openFragment (octets ++ fh :: chunk) 0 first (fh &&& fuTypeMask depack.h265)
          else .ok depack) >>= fun opened =>
        .ok (if fh &&& 0x40 != 0 then { opened.write chunk with fuActive := false } else opened.write chunk) := by
  have size := List.length_pos_of_ne_nil filled
  have whole : (octets ++ fh :: chunk).length = header depack.h265 + (chunk.length + 1) := by
    rw [List.length_append, headed, List.length_cons]
  have typed : byteAt (octets ++ fh :: chunk) (0 + header depack.h265) = .ok fh := by
    rw [Nat.zero_add, ← headed, byteAt, List.getElem?_append_right (Nat.le_refl _), Nat.sub_self]
    rfl
  have rest : bytesAt (octets ++ fh :: chunk) (0 + header depack.h265 + 1)
      ((octets ++ fh :: chunk).length - header depack.h265 - 1) = .ok chunk := by
    have split : octets ++ fh :: chunk = (octets ++ [fh]) ++ chunk := by simp
    have start : 0 + header depack.h265 + 1 = (octets ++ [fh]).length := by simp [headed]
    have count : (octets ++ fh :: chunk).length - header depack.h265 - 1 = chunk.length := by omega
    rw [bytesAt_of_le (by omega), count, start, split, slice_append]
  rw [addFragment, if_neg (by omega), typed]
  simp only [ok_bind, rest]
  rfl

theorem assemble_fragment (depack : VideoDepacketizer) (nal : List UInt8) (isFirst isLast : Bool)
    (chunk : List UInt8) {current next : Option (List UInt8)}
    (acceptable : Acceptable depack.h265 nal)
    (active : depack.fuActive = current.isSome)
    (type : ∀ other ∈ current, depack.fuType = typeOf depack.h265 other)
    (follow : (Piece.fragment nal isFirst isLast chunk).follow current = some next)
    (fits : depack.frame.length +
      ((Piece.fragment nal isFirst isLast chunk).payload (layoutOf depack.h265)).length + 4 ≤ MAX_FRAME_BYTES) :
    depack.assemble ((Piece.fragment nal isFirst isLast chunk).payload (layoutOf depack.h265)) 0
        ((Piece.fragment nal isFirst isLast chunk).payload (layoutOf depack.h265)).length =
      .ok (depack.addPiece (.fragment nal isFirst isLast chunk)) := by
  have headed : ((layoutOf depack.h265).payloadHeader nal).length = header depack.h265 := by
    rw [NalLayout.payloadHeader_length, headerSize_layoutOf]
  have bits : let fh := (layoutOf depack.h265).fuHeader nal isFirst isLast
      (fh &&& 0x80 != 0) = isFirst ∧ (fh &&& 0x40 != 0) = isLast ∧
        fh &&& fuTypeMask depack.h265 = typeOf depack.h265 nal := by
    match nal, acceptable.size with
    | first :: second :: body, _ =>
      have facts := type_bits depack.h265 first isFirst isLast
      rw [← typeOf_cons depack.h265 first (second :: body)] at facts
      exact facts
  obtain ⟨first, head, fragmented, opening⟩ := openFragment_payload depack nal
    ((layoutOf depack.h265).fuHeader nal isFirst isLast :: chunk) acceptable
  have large : header depack.h265 ≤
      ((Piece.fragment nal isFirst isLast chunk).payload (layoutOf depack.h265)).length := by
    rw [Piece.payload, List.length_append, headed]
    omega
  rw [assemble, if_neg (by omega)]
  simp only [Piece.payload, head, ok_bind, if_pos fragmented]
  cases isFirst with
  | true =>
      simp only [Piece.follow, Option.ite_none_right_eq_some, Option.some.injEq] at follow
      obtain ⟨⟨closed, unfinished, filled⟩, _⟩ := follow
      subst closed unfinished
      rw [addFragment_payload depack _ _ _ _ headed filled, bits.1, bits.2.1, bits.2.2, active]
      simp only [Option.isSome_none, Bool.or_self, Bool.and_false, Bool.not_true, Bool.false_and,
        Bool.false_eq_true, if_false, if_true, opening, ok_bind, addPiece, Piece.contribution, write,
        Bool.true_and, Bool.not_false, List.append_assoc]
  | false =>
      simp only [Piece.follow, Option.ite_none_right_eq_some, Option.some.injEq] at follow
      obtain ⟨⟨opened, filled⟩, _⟩ := follow
      have same := type nal opened
      rw [opened] at active
      rw [addFragment_payload depack _ _ _ _ headed filled, bits.1, bits.2.1, bits.2.2, active, ← same]
      cases isLast <;>
        simp [addPiece, Piece.contribution, write, active]

/-- A fragment that continues a unit which is not open ends the access unit. -/
theorem assemble_continuing (depack : VideoDepacketizer) (nal : List UInt8) (isLast : Bool) (chunk : List UInt8)
    (acceptable : Acceptable depack.h265 nal) (closed : depack.fuActive = false) (filled : chunk ≠ []) :
    depack.assemble ((Piece.fragment nal false isLast chunk).payload (layoutOf depack.h265)) 0
        ((Piece.fragment nal false isLast chunk).payload (layoutOf depack.h265)).length = .ok depack.invalidate := by
  have headed : ((layoutOf depack.h265).payloadHeader nal).length = header depack.h265 := by
    rw [NalLayout.payloadHeader_length, headerSize_layoutOf]
  have begins : ((layoutOf depack.h265).fuHeader nal false isLast &&& 0x80 != 0) = false := by
    match nal, acceptable.size with
    | first :: second :: body, _ =>
      have facts := type_bits depack.h265 first false isLast
      rw [← typeOf_cons depack.h265 first (second :: body)] at facts
      exact facts.1
  obtain ⟨first, head, fragmented, _⟩ := openFragment_payload depack nal
    ((layoutOf depack.h265).fuHeader nal false isLast :: chunk) acceptable
  rw [assemble]
  split
  · rfl
  simp only [Piece.payload, head, ok_bind, if_pos fragmented]
  rw [addFragment_payload depack _ _ _ _ headed filled, begins, closed]
  rfl

/-- An undamaged depacketizer adds each piece of an access unit as it comes, as
long as the frame stays within its bound. -/
theorem Assembled.assemble {depack : VideoDepacketizer} {done : List Piece}
    {current next : Option (List UInt8)} (assembled : Assembled depack done current) {piece : Piece}
    (follow : piece.follow current = some next) (acceptable : Acceptable depack.h265 piece.nal) :
    depack.assemble (piece.payload (layoutOf depack.h265)) 0
        (piece.payload (layoutOf depack.h265)).length =
      .ok (if depack.frame.length + (piece.payload (layoutOf depack.h265)).length + 4 ≤ MAX_FRAME_BYTES then
        depack.addPiece piece else depack.invalidate) := by
  by_cases fits : depack.frame.length + (piece.payload (layoutOf depack.h265)).length + 4 ≤ MAX_FRAME_BYTES
  · rw [if_pos fits]
    cases piece with
    | whole nal =>
        simp only [Piece.follow, Option.ite_none_right_eq_some] at follow
        apply assemble_whole depack nal acceptable _ fits
        rw [assembled.active, follow.1]
        rfl
    | fragment nal isFirst isLast chunk =>
        exact assemble_fragment depack nal isFirst isLast chunk acceptable assembled.active assembled.type
          follow fits
  · rw [if_neg fits, VideoDepacketizer.assemble, if_pos (by omega)]
    rfl

/-! ## One payload -/

/-- The state in which a payload of the given time is looked at. -/
def prepare (depack : VideoDepacketizer) (ptsUsec : Int) : VideoDepacketizer :=
  (depack.changeTimestamp ptsUsec).takePendingGap

/-- What the marker does to the state after a payload. -/
def conclude (depack : VideoDepacketizer) (marker : Bool) (ptsUsec : Int) :
    VideoDepacketizer × Option Frame :=
  if marker then depack.finish ptsUsec else (depack, none)

/-- Between two access units nothing is under assembly. -/
structure Idle (depack : VideoDepacketizer) : Prop where
  pendingGap : depack.pendingGap = false
  framePts : depack.framePts = noPts
  frame : depack.frame = []
  fuActive : depack.fuActive = false
  keyframe : depack.keyframe = false
  damaged : depack.damaged = false

theorem idle_create (h265 : Bool) : Idle (create h265) := ⟨rfl, rfl, rfl, rfl, rfl, rfl⟩

theorem consume_eq (depack : VideoDepacketizer) (payload : List UInt8) (marker : Bool) (ptsUsec : Int)
    {next : VideoDepacketizer}
    (step : (if (depack.prepare ptsUsec).damaged then .ok (depack.prepare ptsUsec)
      else (depack.prepare ptsUsec).assemble payload 0 payload.length) = .ok next) :
    depack.consume payload marker ptsUsec = next.conclude marker ptsUsec := by
  have fed : depack.feed payload 0 payload.length marker ptsUsec =
      .ok (next.conclude marker ptsUsec) := by
    rw [feed]
    exact congrArg (fun result => result >>= fun next => .ok (next.conclude marker ptsUsec)) step
  rw [consume, fed]

/-- A damaged access unit stays damaged whatever else arrives of it. -/
theorem consume_of_damaged (depack : VideoDepacketizer) (payload : List UInt8) (marker : Bool)
    (ptsUsec : Int) (damaged : (depack.prepare ptsUsec).damaged = true) :
    depack.consume payload marker ptsUsec = (depack.prepare ptsUsec).conclude marker ptsUsec := by
  apply consume_eq
  rw [if_pos damaged]

/-- The next piece of an intact access unit is added, or the unit is given up
as too large. -/
theorem consume_of_assembled {depack : VideoDepacketizer} {ptsUsec : Int} {done : List Piece}
    {current next : Option (List UInt8)} (assembled : Assembled (depack.prepare ptsUsec) done current)
    {piece : Piece} (follow : piece.follow current = some next)
    (acceptable : Acceptable (depack.prepare ptsUsec).h265 piece.nal) (marker : Bool) :
    depack.consume (piece.payload (layoutOf (depack.prepare ptsUsec).h265)) marker ptsUsec =
      (if (depack.prepare ptsUsec).frame.length +
          (piece.payload (layoutOf (depack.prepare ptsUsec).h265)).length + 4 ≤ MAX_FRAME_BYTES then
        (depack.prepare ptsUsec).addPiece piece else (depack.prepare ptsUsec).invalidate).conclude
          marker ptsUsec := by
  apply consume_eq
  rw [assembled.undamaged, if_neg Bool.false_ne_true]
  exact assembled.assemble follow acceptable

/-! ## Where an access unit begins and ends -/

/-- A new timestamp replaces everything but the memory of a lost frame. -/
theorem changeTimestamp_of_ne {depack : VideoDepacketizer} {ptsUsec : Int}
    (different : depack.framePts ≠ ptsUsec) :
    depack.changeTimestamp ptsUsec =
      { depack with
        frame := []
        fuActive := false
        keyframe := false
        damaged := depack.pendingGap
        awaitingKeyframe := decide (depack.framePts ≠ noPts) || depack.awaitingKeyframe
        framePts := ptsUsec } := by
  rw [changeTimestamp, if_pos different]
  by_cases started : depack.framePts = noPts <;> simp [invalidate, started]

theorem changeTimestamp_of_eq {depack : VideoDepacketizer} {ptsUsec : Int}
    (same : depack.framePts = ptsUsec) : depack.changeTimestamp ptsUsec = depack := by
  rw [changeTimestamp, if_neg (by simpa using same)]

@[simp] theorem changeTimestamp_h265 (depack : VideoDepacketizer) (ptsUsec : Int) :
    (depack.changeTimestamp ptsUsec).h265 = depack.h265 := by
  by_cases same : depack.framePts = ptsUsec
  · rw [changeTimestamp_of_eq same]
  · rw [changeTimestamp_of_ne same]

@[simp] theorem prepare_h265 (depack : VideoDepacketizer) (ptsUsec : Int) :
    (depack.prepare ptsUsec).h265 = depack.h265 := by
  simp [prepare, takePendingGap]

@[simp] theorem prepare_pendingGap (depack : VideoDepacketizer) (ptsUsec : Int) :
    (depack.prepare ptsUsec).pendingGap = false := rfl

@[simp] theorem prepare_framePts (depack : VideoDepacketizer) (ptsUsec : Int) :
    (depack.prepare ptsUsec).framePts = ptsUsec := by
  by_cases same : depack.framePts = ptsUsec
  · rw [prepare, changeTimestamp_of_eq same, takePendingGap, same]
  · rw [prepare, changeTimestamp_of_ne same, takePendingGap]

/-- A gap in front of a payload damages its access unit, old or new. -/
theorem prepare_damaged_of_pendingGap {depack : VideoDepacketizer} (ptsUsec : Int)
    (gap : depack.pendingGap = true) : (depack.prepare ptsUsec).damaged = true := by
  by_cases same : depack.framePts = ptsUsec
  · rw [prepare, changeTimestamp_of_eq same, takePendingGap, gap, Bool.true_or]
  · rw [prepare, changeTimestamp_of_ne same, takePendingGap, gap, Bool.true_or]

/-- Within an access unit the begin of a payload changes nothing. -/
theorem prepare_of_framePts {depack : VideoDepacketizer} {ptsUsec : Int}
    (same : depack.framePts = ptsUsec) (unbroken : depack.pendingGap = false) :
    depack.prepare ptsUsec = depack := by
  rw [prepare, changeTimestamp_of_eq same, takePendingGap]
  cases depack
  cases unbroken
  simp

theorem Idle.prepare_eq {depack : VideoDepacketizer} (idle : Idle depack) (ptsUsec : Int)
    (valid : ptsUsec ≠ noPts) : depack.prepare ptsUsec = { depack with framePts := ptsUsec } := by
  have different : depack.framePts ≠ ptsUsec := by rw [idle.framePts]; exact valid.symm
  rw [prepare, changeTimestamp_of_ne different]
  simp only [idle.framePts, ne_eq, not_true, decide_false, Bool.false_or, takePendingGap,
    idle.pendingGap]
  cases depack
  cases idle.pendingGap
  cases idle.frame
  cases idle.fuActive
  cases idle.keyframe
  cases idle.damaged
  rfl

/-- The first payload of an access unit finds an empty frame. -/
theorem Idle.prepare {depack : VideoDepacketizer} (idle : Idle depack) (ptsUsec : Int)
    (valid : ptsUsec ≠ noPts) : Assembled (depack.prepare ptsUsec) [] none := by
  rw [idle.prepare_eq ptsUsec valid]
  refine ⟨rfl, idle.frame, idle.fuActive, ?_, ?_, idle.keyframe, idle.damaged⟩
  · intro _ impossible
    cases impossible
  · intro _ impossible
    cases impossible

@[simp] theorem finish_h265 (depack : VideoDepacketizer) (ptsUsec : Int) :
    (depack.finish ptsUsec).1.h265 = depack.h265 := by
  cases active : depack.fuActive <;> simp [finish, invalidate, active]

theorem finish_idle (depack : VideoDepacketizer) (ptsUsec : Int) (unbroken : depack.pendingGap = false) :
    Idle (depack.finish ptsUsec).1 := by
  refine ⟨?_, rfl, rfl, rfl, rfl, rfl⟩
  cases active : depack.fuActive <;> simp [finish, invalidate, active, unbroken]

theorem finish_of_damaged (depack : VideoDepacketizer) (ptsUsec : Int) (damaged : depack.damaged = true) :
    (depack.finish ptsUsec).2 = none := by
  cases active : depack.fuActive <;> simp [finish, invalidate, active, damaged]

/-- At the marker a complete access unit is shown, unless the receiver waits
for a keyframe and this is none. -/
theorem Assembled.finish {depack : VideoDepacketizer} {done : List Piece}
    (assembled : Assembled depack done none) (nonempty : depack.frame ≠ []) (ptsUsec : Int) :
    depack.finish ptsUsec =
      ({ depack with
          awaitingKeyframe := depack.awaitingKeyframe && !depack.keyframe
          frame := []
          fuActive := false
          keyframe := false
          damaged := false
          framePts := noPts },
        if depack.awaitingKeyframe = true → depack.keyframe = true then
          some ⟨depack.frame, ptsUsec, depack.keyframe⟩ else none) := by
  have closed : depack.fuActive = false := assembled.active
  have filled : 0 < depack.frame.length := List.length_pos_of_ne_nil nonempty
  simp only [VideoDepacketizer.finish, closed, Bool.false_eq_true, if_false, assembled.undamaged, filled]
  cases depack.awaitingKeyframe <;> cases depack.keyframe <;> simp

/-! ## Whatever the payload -/

/-- A payload neither changes the codec nor announces a gap. -/
structure Retains (before after : VideoDepacketizer) : Prop where
  h265 : after.h265 = before.h265
  pendingGap : after.pendingGap = before.pendingGap

theorem Retains.trans {first second third : VideoDepacketizer} (left : Retains first second)
    (right : Retains second third) : Retains first third :=
  ⟨right.h265.trans left.h265, right.pendingGap.trans left.pendingGap⟩

theorem invalidate_retains (depack : VideoDepacketizer) : Retains depack depack.invalidate := ⟨rfl, rfl⟩

theorem addNal_retains {depack next : VideoDepacketizer} {data : List UInt8} {off len : Nat}
    (added : depack.addNal data off len = .ok next) : Retains depack next := by
  obtain ⟨_, _, rest⟩ := bind_ok added
  obtain ⟨_, _, last⟩ := bind_ok rest
  cases last
  exact ⟨rfl, rfl⟩

theorem addAggregated_retains {depack next : VideoDepacketizer} {data : List UInt8} {i stop : Nat}
    (added : depack.addAggregated data i stop = .ok next) : Retains depack next := by
  induction depack, i using addAggregated.induct stop with
  | case1 depack i inside short =>
      rw [addAggregated, if_pos inside, if_pos short] at added
      cases added
      exact invalidate_retains depack
  | case2 depack i inside long inductionHypothesis =>
      rw [addAggregated, if_pos inside, if_neg long] at added
      obtain ⟨high, _, rest⟩ := bind_ok added
      obtain ⟨low, _, last⟩ := bind_ok rest
      simp only at last
      split at last
      · cases last
        exact invalidate_retains depack
      · rename_i fits
        obtain ⟨middle, unit, later⟩ := bind_ok last
        exact (addNal_retains unit).trans (inductionHypothesis high low fits middle later)
  | case3 depack i finished =>
      rw [addAggregated, if_neg finished] at added
      cases added
      exact ⟨rfl, rfl⟩

theorem openFragment_retains {depack next : VideoDepacketizer} {data : List UInt8} {off : Nat}
    {first original : UInt8} (opened : depack.openFragment data off first original = .ok next) :
    Retains depack next := by
  obtain ⟨_, _, last⟩ := bind_ok opened
  cases last
  exact ⟨rfl, rfl⟩

theorem addFragment_retains {depack next : VideoDepacketizer} {data : List UInt8} {off len : Nat}
    {first : UInt8} (added : depack.addFragment data off len first = .ok next) : Retains depack next := by
  rw [addFragment] at added
  split at added
  · cases added
    exact invalidate_retains depack
  obtain ⟨fh, _, rest⟩ := bind_ok added
  simp only at rest
  split at rest
  · cases rest
    exact invalidate_retains depack
  obtain ⟨opened, start, later⟩ := bind_ok rest
  obtain ⟨chunk, _, last⟩ := bind_ok later
  have retains : Retains depack opened := by
    split at start
    · exact openFragment_retains start
    · cases start
      exact ⟨rfl, rfl⟩
  cases last
  split <;> exact ⟨retains.h265, retains.pendingGap⟩

theorem assemble_retains {depack next : VideoDepacketizer} {data : List UInt8} {off len : Nat}
    (assembled : depack.assemble data off len = .ok next) : Retains depack next := by
  rw [VideoDepacketizer.assemble] at assembled
  split at assembled
  · cases assembled
    exact invalidate_retains depack
  obtain ⟨first, _, rest⟩ := bind_ok assembled
  simp only at rest
  split at rest
  · exact addFragment_retains rest
  split at rest
  · cases rest
    exact invalidate_retains depack
  split at rest
  · exact addAggregated_retains rest
  split at rest
  · exact addNal_retains rest
  · cases rest
    exact invalidate_retains depack

/-- A call takes some step on the payload and ends the access unit at its marker. -/
theorem consume_conclude (depack : VideoDepacketizer) (payload : List UInt8) (marker : Bool) (ptsUsec : Int) :
    ∃ next, Retains (depack.prepare ptsUsec) next ∧
      depack.consume payload marker ptsUsec = next.conclude marker ptsUsec := by
  obtain ⟨next, step, retains⟩ : ∃ next, (if (depack.prepare ptsUsec).damaged then .ok (depack.prepare ptsUsec)
      else (depack.prepare ptsUsec).assemble payload 0 payload.length) = .ok next ∧
        Retains (depack.prepare ptsUsec) next := by
    split
    · exact ⟨_, rfl, rfl, rfl⟩
    · obtain ⟨next, same⟩ := assemble_ok payload (depack.prepare ptsUsec)
      exact ⟨next, same, assemble_retains same⟩
  exact ⟨next, retains, consume_eq depack payload marker ptsUsec step⟩

@[simp] theorem consume_h265 (depack : VideoDepacketizer) (payload : List UInt8) (marker : Bool)
    (ptsUsec : Int) : (depack.consume payload marker ptsUsec).1.h265 = depack.h265 := by
  obtain ⟨next, retains, same⟩ := depack.consume_conclude payload marker ptsUsec
  have kept : next.h265 = depack.h265 := retains.h265.trans (prepare_h265 depack ptsUsec)
  rw [same]
  cases marker with
  | true => exact (finish_h265 next ptsUsec).trans kept
  | false => exact kept

/-- A marker ends the access unit, whatever its payload and whatever was under
assembly. -/
theorem consume_marker (depack : VideoDepacketizer) (payload : List UInt8) (ptsUsec : Int) :
    Idle (depack.consume payload true ptsUsec).1 := by
  obtain ⟨next, retains, same⟩ := depack.consume_conclude payload true ptsUsec
  rw [same]
  exact finish_idle next ptsUsec (retains.pendingGap.trans (prepare_pendingGap depack ptsUsec))

end VideoDepacketizer

/-! ## Places in an access unit -/

/-- A packet's place in its access unit: the pieces before it, its own, and
those behind it. -/
structure Place (h265 : Bool) where
  nals : List (List UInt8)
  done : List Piece
  piece : Piece
  rest : List Piece
  split : (layoutOf h265).unitPieces nals = done ++ piece :: rest
  acceptable : ∀ nal ∈ nals, Acceptable h265 nal

namespace Place

variable {h265 : Bool} (place : Place h265)

/-- The packet's payload. -/
def payload : List UInt8 := place.piece.payload (layoutOf h265)

/-- The last packet of an access unit is marked. -/
def marker : Bool := place.rest.isEmpty

/-- The packet carries a fragment other than the first one of its unit. -/
def Continues : Prop := ∃ nal isLast chunk, place.piece = .fragment nal false isLast chunk

/-- The frame that the access unit stands for. -/
def frame (ptsUsec : Int) : Frame :=
  ⟨canonicalAnnexB place.nals, ptsUsec, isKeyframe h265 place.nals⟩

/-- The piece continues what precedes it, and the last one leaves nothing
open. -/
theorem follow : ∃ current next, followAll none place.done = some current ∧
    place.piece.follow current = some next ∧ (place.rest = [] → next = none) := by
  have whole := (layoutOf h265).followAll_unitPieces place.nals
  rw [place.split, followAll_append, Option.bind_eq_some_iff] at whole
  obtain ⟨current, before, whole⟩ := whole
  rw [followAll, List.foldlM_cons] at whole
  obtain ⟨next, step, after⟩ := Option.bind_eq_some_iff.mp whole
  refine ⟨current, next, before, step, ?_⟩
  intro last
  rw [last] at after
  exact Option.some.inj after

theorem acceptable_piece : Acceptable h265 place.piece.nal := by
  apply place.acceptable
  apply (layoutOf h265).nal_mem_of_mem_unitPieces place.nals
  rw [place.split]
  exact List.mem_append_right _ List.mem_cons_self

theorem contributions_of_last (last : place.rest = []) :
    (layoutOf h265).contributions (place.done ++ [place.piece]) = canonicalAnnexB place.nals := by
  rw [← NalLayout.contributions_unitPieces, place.split, last]

/-- The bound that the receiver checks when it gets this packet. -/
def Fits : Prop :=
  ((layoutOf h265).contributions place.done).length + place.payload.length + 4 ≤
    VideoDepacketizer.MAX_FRAME_BYTES

/-- The bound for each packet follows from the size of the whole frame, with
room for the packet's own headers. -/
theorem fits_of_size (small : (canonicalAnnexB place.nals).length + 7 ≤ VideoDepacketizer.MAX_FRAME_BYTES) :
    place.Fits := by
  rw [Fits]
  have headed := (layoutOf h265).headerSize_le
  have own : place.payload.length + 4 ≤ (place.piece.contribution (layoutOf h265)).length + 7 := by
    rw [payload]
    cases place.piece with
    | whole nal => simp [Piece.payload, Piece.contribution, startCode]
    | fragment nal isFirst isLast chunk =>
        simp only [Piece.payload, Piece.contribution, List.length_append, List.length_cons,
          NalLayout.payloadHeader_length]
        omega
  have whole := congrArg List.length ((layoutOf h265).contributions_unitPieces place.nals)
  rw [place.split, NalLayout.contributions_append, List.length_append] at whole
  simp only [NalLayout.contributions, List.flatMap_cons, List.length_append] at whole ⊢
  omega

theorem canonical_ne_nil : canonicalAnnexB place.nals ≠ [] := by
  cases units : place.nals with
  | nil =>
      have split := place.split
      rw [units] at split
      simp [NalLayout.unitPieces] at split
  | cons nal rest => simp [canonicalAnnexB, startCode]

theorem keyframe_of_last (last : place.rest = []) :
    isKeyframe h265 ((place.done ++ [place.piece]).map Piece.nal) = isKeyframe h265 place.nals := by
  have pieces : place.done ++ [place.piece] = (layoutOf h265).unitPieces place.nals := by
    rw [place.split, last]
  rw [pieces]
  apply Bool.eq_iff_iff.mpr
  simp only [isKeyframe, List.any_eq_true, List.mem_map]
  constructor
  · rintro ⟨_, ⟨piece, member, rfl⟩, idr⟩
    exact ⟨piece.nal, (layoutOf h265).nal_mem_of_mem_unitPieces place.nals piece member, idr⟩
  · rintro ⟨nal, member, idr⟩
    obtain ⟨piece, listed, same⟩ := (layoutOf h265).exists_piece_of_mem place.nals nal member
    exact ⟨nal, ⟨piece, listed, same⟩, idr⟩

end Place

namespace VideoDepacketizer

variable {h265 : Bool}

/-- Inside an access unit of which the pieces `done` have arrived: either they
are assembled or the unit is damaged. -/
structure InUnit (depack : VideoDepacketizer) (ptsUsec : Int) (done : List Piece) : Prop where
  pendingGap : depack.pendingGap = false
  framePts : depack.framePts = ptsUsec
  content : depack.damaged = true ∨ ∃ current, Assembled depack done current

/-- The state in front of a packet whose predecessor has just been consumed. -/
def Expecting (depack : VideoDepacketizer) (ptsUsec : Int) (place : Place h265) : Prop :=
  depack.h265 = h265 ∧ if place.done = [] then Idle depack else InUnit depack ptsUsec place.done

/-- The state behind a packet. -/
def Behind (depack : VideoDepacketizer) (ptsUsec : Int) (place : Place h265) : Prop :=
  depack.h265 = h265 ∧
    if place.rest = [] then Idle depack else InUnit depack ptsUsec (place.done ++ [place.piece])

theorem Expecting.prepare {depack : VideoDepacketizer} {ptsUsec : Int} {place : Place h265}
    (expecting : Expecting depack ptsUsec place) (valid : ptsUsec ≠ noPts) :
    (depack.prepare ptsUsec).damaged = true ∨
      ∃ current, Assembled (depack.prepare ptsUsec) place.done current := by
  have state := expecting.2
  by_cases first : place.done = []
  · rw [if_pos first] at state
    rw [first]
    exact Or.inr ⟨none, state.prepare ptsUsec valid⟩
  · rw [if_neg first] at state
    rw [prepare_of_framePts state.framePts state.pendingGap]
    exact state.content

/-- Only the timestamp is noted before such a packet is looked at. -/
theorem Expecting.prepare_eq {depack : VideoDepacketizer} {ptsUsec : Int} {place : Place h265}
    (expecting : Expecting depack ptsUsec place) (valid : ptsUsec ≠ noPts) :
    depack.prepare ptsUsec = { depack with framePts := ptsUsec } := by
  have state := expecting.2
  by_cases first : place.done = []
  · rw [if_pos first] at state
    exact state.prepare_eq ptsUsec valid
  · rw [if_neg first] at state
    rw [prepare_of_framePts state.framePts state.pendingGap]
    cases depack
    cases state.framePts
    rfl

/-- A damaged unit shows nothing; its marker still ends it. -/
theorem conclude_damaged {depack : VideoDepacketizer} (ptsUsec : Int) (place : Place h265)
    (codec : depack.h265 = h265) (pendingGap : depack.pendingGap = false)
    (framePts : depack.framePts = ptsUsec) (damaged : depack.damaged = true) :
    Behind (depack.conclude place.marker ptsUsec).1 ptsUsec place ∧
      (depack.conclude place.marker ptsUsec).2 = none := by
  rw [Behind, Place.marker, conclude]
  by_cases last : place.rest = []
  · rw [if_pos last, last, List.isEmpty_nil, if_pos rfl]
    refine ⟨⟨?_, finish_idle depack ptsUsec pendingGap⟩, finish_of_damaged depack ptsUsec damaged⟩
    rw [finish_h265, codec]
  · rw [if_neg last, List.isEmpty_eq_false_iff.mpr last, if_neg Bool.false_ne_true]
    exact ⟨⟨codec, pendingGap, framePts, Or.inl damaged⟩, rfl⟩

/-- An intact unit stays intact, and its marker shows it. -/
theorem conclude_assembled {depack : VideoDepacketizer} {ptsUsec : Int} (place : Place h265)
    (codec : depack.h265 = h265) (pendingGap : depack.pendingGap = false)
    (framePts : depack.framePts = ptsUsec) {next : Option (List UInt8)}
    (assembled : Assembled depack (place.done ++ [place.piece]) next)
    (closed : place.rest = [] → next = none) :
    Behind (depack.conclude place.marker ptsUsec).1 ptsUsec place ∧
      (depack.conclude place.marker ptsUsec).1.damaged = false ∧
      (depack.conclude place.marker ptsUsec).1.awaitingKeyframe =
        (depack.awaitingKeyframe && !(place.marker && isKeyframe h265 place.nals)) ∧
      (depack.conclude place.marker ptsUsec).2 =
        if place.marker = true ∧ (depack.awaitingKeyframe = true → isKeyframe h265 place.nals = true) then
          some (place.frame ptsUsec) else none := by
  rw [Behind, Place.marker, conclude]
  by_cases last : place.rest = []
  · have whole := place.contributions_of_last last
    have keyframe := place.keyframe_of_last last
    subst codec
    cases closed last
    rw [← assembled.frame] at whole
    rw [← assembled.keyframe] at keyframe
    have nonempty : depack.frame ≠ [] := by
      rw [whole]
      exact place.canonical_ne_nil
    rw [if_pos last, last, List.isEmpty_nil, if_pos rfl]
    refine ⟨⟨finish_h265 depack ptsUsec, finish_idle depack ptsUsec pendingGap⟩, rfl, ?_, ?_⟩
    · rw [assembled.finish nonempty, keyframe, Bool.true_and]
    · simp only [assembled.finish nonempty, keyframe, true_and]
      rw [Place.frame, whole]
  · rw [if_neg last, List.isEmpty_eq_false_iff.mpr last, if_neg Bool.false_ne_true]
    refine ⟨⟨codec, pendingGap, framePts, Or.inr ⟨next, assembled⟩⟩, assembled.undamaged, ?_, ?_⟩
    · rw [Bool.false_and, Bool.not_false, Bool.and_true]
    · rw [if_neg (fun impossible => Bool.false_ne_true impossible.1)]

/-- The piece behind an intact prefix of its unit. -/
theorem consume_intact {depack : VideoDepacketizer} {ptsUsec : Int} (place : Place h265)
    (codec : depack.h265 = h265) {current : Option (List UInt8)}
    (assembled : Assembled (depack.prepare ptsUsec) place.done current) :
    ∃ next, place.piece.follow current = some next ∧ (place.rest = [] → next = none) ∧
      Assembled ((depack.prepare ptsUsec).addPiece place.piece) (place.done ++ [place.piece]) next ∧
      depack.consume place.payload place.marker ptsUsec =
        (if (depack.prepare ptsUsec).frame.length + place.payload.length + 4 ≤ MAX_FRAME_BYTES then
          (depack.prepare ptsUsec).addPiece place.piece else (depack.prepare ptsUsec).invalidate).conclude
            place.marker ptsUsec := by
  obtain ⟨before, next, follows, follow, closed⟩ := place.follow
  cases Option.some.inj (assembled.follows.symm.trans follows)
  subst codec
  have acceptable : Acceptable (depack.prepare ptsUsec).h265 place.piece.nal := by
    rw [prepare_h265]
    exact place.acceptable_piece
  have step := consume_of_assembled assembled follow acceptable place.marker
  rw [prepare_h265] at step
  exact ⟨next, follow, closed, assembled.addPiece follow, step⟩

/-- In front of a packet whose predecessor has just been consumed, the packet
leads on, and shows nothing but the frame of its own access unit. -/
theorem consume_expecting {depack : VideoDepacketizer} {ptsUsec : Int} {place : Place h265}
    (expecting : Expecting depack ptsUsec place) (valid : ptsUsec ≠ noPts) :
    Behind (depack.consume place.payload place.marker ptsUsec).1 ptsUsec place ∧
      ∀ frame ∈ (depack.consume place.payload place.marker ptsUsec).2,
        place.marker = true ∧ frame = place.frame ptsUsec := by
  have codec := prepare_h265 depack ptsUsec
  have nothing : ∀ shown : Option Frame, shown = none →
      ∀ frame ∈ shown, place.marker = true ∧ frame = place.frame ptsUsec := by
    rintro _ rfl _ impossible
    cases impossible
  rw [expecting.1] at codec
  rcases expecting.prepare valid with damaged | ⟨current, assembled⟩
  · rw [consume_of_damaged _ _ _ _ damaged]
    have result := conclude_damaged ptsUsec place codec rfl (prepare_framePts depack ptsUsec) damaged
    exact ⟨result.1, nothing _ result.2⟩
  · obtain ⟨next, _, closed, added, step⟩ := consume_intact place expecting.1 assembled
    rw [step]
    split
    · have result := conclude_assembled place ((addPiece_h265 _ _).trans codec)
        (addPiece_pendingGap _ _) ((addPiece_framePts _ _).trans (prepare_framePts depack ptsUsec)) added closed
      refine ⟨result.1, ?_⟩
      intro frame shown
      rw [result.2.2.2, Option.mem_def, Option.ite_none_right_eq_some] at shown
      exact ⟨shown.1.1, (Option.some.inj shown.2).symm⟩
    · have codec' : (depack.prepare ptsUsec).invalidate.h265 = h265 := codec
      have result := conclude_damaged ptsUsec place codec' rfl (prepare_framePts depack ptsUsec) rfl
      exact ⟨result.1, nothing _ result.2⟩

/-- Behind a gap a packet shows nothing. -/
theorem consume_behind_gap {depack : VideoDepacketizer} (ptsUsec : Int) (place : Place h265)
    (codec : depack.h265 = h265) (gap : depack.pendingGap = true) :
    Behind (depack.consume place.payload place.marker ptsUsec).1 ptsUsec place ∧
      (depack.consume place.payload place.marker ptsUsec).2 = none := by
  have damaged := prepare_damaged_of_pendingGap ptsUsec gap
  rw [consume_of_damaged _ _ _ _ damaged]
  exact conclude_damaged ptsUsec place ((prepare_h265 depack ptsUsec).trans codec) rfl
    (prepare_framePts depack ptsUsec) damaged

/-- A packet that continues a fragmented unit, where nothing is under assembly,
shows nothing and damages the access unit. -/
theorem consume_continuing {depack : VideoDepacketizer} {ptsUsec : Int} {place : Place h265} (idle : Idle depack)
    (codec : depack.h265 = h265) (valid : ptsUsec ≠ noPts) (continues : place.Continues) :
    Behind (depack.consume place.payload place.marker ptsUsec).1 ptsUsec place ∧
      (depack.consume place.payload place.marker ptsUsec).2 = none ∧
      (place.rest ≠ [] → (depack.consume place.payload place.marker ptsUsec).1.damaged = true) := by
  obtain ⟨nal, isLast, chunk, isPiece⟩ := continues
  have acceptable := place.acceptable_piece
  obtain ⟨current, next, _, follow, _⟩ := place.follow
  rw [isPiece] at acceptable follow
  simp only [Piece.follow, Option.ite_none_right_eq_some] at follow
  have prepared := idle.prepare ptsUsec valid
  have codecPrepared := (prepare_h265 depack ptsUsec).trans codec
  subst codec
  have step : depack.consume place.payload place.marker ptsUsec =
      (depack.prepare ptsUsec).invalidate.conclude place.marker ptsUsec := by
    apply consume_eq
    rw [prepared.undamaged, if_neg Bool.false_ne_true, Place.payload, isPiece, ← codecPrepared]
    refine assemble_continuing _ nal isLast chunk ?_ prepared.active follow.1.2
    rw [codecPrepared]
    exact acceptable
  rw [step]
  have result : Behind ((depack.prepare ptsUsec).invalidate.conclude place.marker ptsUsec).1 ptsUsec place ∧
      ((depack.prepare ptsUsec).invalidate.conclude place.marker ptsUsec).2 = none :=
    conclude_damaged ptsUsec place codecPrepared rfl (prepare_framePts depack ptsUsec) rfl
  refine ⟨result.1, result.2, fun unfinished => ?_⟩
  rw [conclude, Place.marker, List.isEmpty_eq_false_iff.mpr unfinished]
  rfl

/-- A damaged access unit shows nothing at any of its packets, and stays
damaged up to its end. -/
theorem consume_spoilt {depack : VideoDepacketizer} (ptsUsec : Int) (place : Place h265)
    (spoilt : (depack.prepare ptsUsec).damaged = true) :
    (depack.consume place.payload place.marker ptsUsec).2 = none ∧
      (place.rest ≠ [] → (depack.consume place.payload place.marker ptsUsec).1.damaged = true) := by
  rw [consume_of_damaged _ _ _ _ spoilt, conclude]
  constructor
  · cases place.marker with
    | false => rfl
    | true => exact finish_of_damaged _ ptsUsec spoilt
  · intro unfinished
    rw [Place.marker, List.isEmpty_eq_false_iff.mpr unfinished]
    exact spoilt

/-- Without damage, and within the bound on a frame, an access unit is shown
at its marker unless the receiver waits for a keyframe and this is none. -/
theorem consume_undamaged {depack : VideoDepacketizer} {ptsUsec : Int} {place : Place h265}
    (expecting : Expecting depack ptsUsec place) (valid : ptsUsec ≠ noPts)
    (undamaged : depack.damaged = false)
    (fits : place.Fits) :
    Behind (depack.consume place.payload place.marker ptsUsec).1 ptsUsec place ∧
      (depack.consume place.payload place.marker ptsUsec).1.damaged = false ∧
      (depack.consume place.payload place.marker ptsUsec).1.awaitingKeyframe =
        (depack.awaitingKeyframe && !(place.marker && isKeyframe h265 place.nals)) ∧
      (depack.consume place.payload place.marker ptsUsec).2 =
        if place.marker = true ∧ (depack.awaitingKeyframe = true → isKeyframe h265 place.nals = true) then
          some (place.frame ptsUsec) else none := by
  have unchanged := expecting.prepare_eq valid
  have codec := (prepare_h265 depack ptsUsec).trans expecting.1
  rcases expecting.prepare valid with damaged | ⟨current, assembled⟩
  · rw [unchanged] at damaged
    cases damaged.symm.trans undamaged
  obtain ⟨next, _, closed, added, step⟩ := consume_intact place expecting.1 assembled
  have small : (depack.prepare ptsUsec).frame.length + place.payload.length + 4 ≤ MAX_FRAME_BYTES := by
    rw [assembled.frame, codec]
    exact fits
  rw [step, if_pos small]
  have result := conclude_assembled place ((addPiece_h265 _ _).trans codec)
    (addPiece_pendingGap _ _) ((addPiece_framePts _ _).trans (prepare_framePts depack ptsUsec)) added closed
  rw [addPiece_awaitingKeyframe, unchanged] at result
  rw [unchanged]
  exact result

end VideoDepacketizer
end RtpReceiver
end MetaShare
