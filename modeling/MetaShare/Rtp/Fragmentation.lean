import MetaShare.Rtp.AnnexB

namespace MetaShare
namespace Rtp

open Octets

/-!
# What the packets of an access unit carry

A packetizer produces headers and payloads in one pass, with the sequence
number as running state.  Here the two concerns are separated.  A `Piece` is
the part of a NAL unit that one packet carries; the pieces of an access unit
are a pure function of its units, and every piece contributes a definite part
of the canonical Annex B form.  The packets of an access unit are then its
pieces, framed with consecutive sequence numbers, one timestamp, and the marker
on the last of them.
-/

/-- The part of a NAL unit carried by one packet: all of it, or one chunk of
its body. -/
inductive Piece where
  | whole (nal : List UInt8)
  | fragment (nal : List UInt8) (isFirst isLast : Bool) (chunk : List UInt8)
  deriving DecidableEq

namespace Piece

/-- The payload of the packet that carries the piece. -/
def payload (layout : NalLayout) : Piece → List UInt8
  | whole nal => nal
  | fragment nal isFirst isLast chunk =>
      layout.payloadHeader nal ++ layout.fuHeader nal isFirst isLast :: chunk

/-- The octets that the piece adds to the canonical Annex B form. -/
def contribution (layout : NalLayout) : Piece → List UInt8
  | whole nal => startCode true ++ nal
  | fragment nal isFirst _ chunk =>
      (if isFirst then startCode true ++ nal.take layout.headerSize else []) ++ chunk

/-- The NAL unit that the piece is taken from. -/
def nal : Piece → List UInt8
  | whole nal => nal
  | fragment nal _ _ _ => nal

end Piece

namespace NalLayout

/-- The chunks of a large unit from offset `off` of its body on. -/
def fragmentPieces (layout : NalLayout) (nal : List UInt8) (off : Nat) : List Piece :=
  if off < (layout.body nal).length then
    let chunk := min layout.fuPayloadMax ((layout.body nal).length - off)
    .fragment nal (off == 0) (off + chunk == (layout.body nal).length)
        (slice (layout.body nal) off chunk) ::
      layout.fragmentPieces nal (off + chunk)
  else []
termination_by (layout.body nal).length - off
decreasing_by
  have := layout.fuPayloadMax_pos
  omega

/-- The pieces of one NAL unit. -/
def nalPieces (layout : NalLayout) (nal : List UInt8) : List Piece :=
  if nal.length ≤ singleMax then [.whole nal] else layout.fragmentPieces nal 0

/-- The pieces of an access unit. -/
def unitPieces (layout : NalLayout) (nals : List (List UInt8)) : List Piece :=
  nals.flatMap layout.nalPieces

/-- Frame pieces with consecutive sequence numbers.  The last one is marked if
the access unit ends with it. -/
def framePieces (layout : NalLayout) (ts : UInt32) (marked : Bool) :
    PacketizerBase → List Piece → List Packet
  | _, [] => []
  | base, piece :: rest =>
      (writeHeader base.pt (marked && rest.isEmpty) base.seq ts base.ssrc ++ piece.payload layout) ::
        layout.framePieces ts marked base.nextSeq.2 rest

end NalLayout

/-- The packetizer after `count` packets. -/
def PacketizerBase.advance (base : PacketizerBase) (count : Nat) : PacketizerBase :=
  { base with seq := base.seq + UInt16.ofNat count }

namespace PacketizerBase

@[simp] theorem advance_zero (base : PacketizerBase) : base.advance 0 = base := by
  simp [advance]

theorem advance_succ (base : PacketizerBase) (count : Nat) :
    base.advance (count + 1) = base.nextSeq.2.advance count := by
  have same : base.seq + UInt16.ofNat (count + 1) = base.seq + 1 + UInt16.ofNat count := by
    rw [UInt16.add_assoc, UInt16.ofNat_add, UInt16.add_comm (UInt16.ofNat count)]
    rfl
  simp only [advance, nextSeq, same]

theorem advance_advance (base : PacketizerBase) (first second : Nat) :
    (base.advance first).advance second = base.advance (first + second) := by
  simp only [advance, UInt16.add_assoc, UInt16.ofNat_add]

end PacketizerBase

namespace NalLayout

variable (layout : NalLayout)

@[simp] theorem framePieces_length (ts : UInt32) (marked : Bool) (base : PacketizerBase)
    (pieces : List Piece) : (layout.framePieces ts marked base pieces).length = pieces.length := by
  induction pieces generalizing base with
  | nil => rfl
  | cons piece rest inductionHypothesis => simp [framePieces, inductionHypothesis]

theorem framePieces_append (ts : UInt32) (marked : Bool) (base : PacketizerBase)
    (first second : List Piece) :
    layout.framePieces ts marked base (first ++ second) =
      layout.framePieces ts (marked && second.isEmpty) base first ++
        layout.framePieces ts marked (base.advance first.length) second := by
  induction first generalizing base with
  | nil => simp [framePieces]
  | cons piece rest inductionHypothesis =>
      have lastOfBoth : (marked && (rest ++ second).isEmpty) =
          ((marked && second.isEmpty) && rest.isEmpty) := by
        cases rest <;> simp
      simp only [List.cons_append, framePieces, inductionHypothesis, List.length_cons,
        PacketizerBase.advance_succ, lastOfBoth]

/-! ## The packetizer frames the pieces -/

theorem fragmentPieces_of_lt {nal : List UInt8} {off : Nat} (more : off < (layout.body nal).length) :
    layout.fragmentPieces nal off =
      .fragment nal (off == 0)
          (off + min layout.fuPayloadMax ((layout.body nal).length - off) == (layout.body nal).length)
          (slice (layout.body nal) off (min layout.fuPayloadMax ((layout.body nal).length - off))) ::
        layout.fragmentPieces nal
          (off + min layout.fuPayloadMax ((layout.body nal).length - off)) := by
  rw [fragmentPieces, if_pos more]

theorem fragmentPieces_of_ge {nal : List UInt8} {off : Nat} (finished : ¬ off < (layout.body nal).length) :
    layout.fragmentPieces nal off = [] := by
  rw [fragmentPieces, if_neg finished]

theorem fragmentPieces_isEmpty (nal : List UInt8) (off : Nat) (inside : off ≤ (layout.body nal).length) :
    (layout.fragmentPieces nal off).isEmpty = (off == (layout.body nal).length) := by
  by_cases more : off < (layout.body nal).length
  · rw [fragmentPieces_of_lt layout more, List.isEmpty_cons, eq_comm, beq_eq_false_iff_ne]
    omega
  · have same : off = (layout.body nal).length := by omega
    rw [fragmentPieces_of_ge layout more, same, List.isEmpty_nil, beq_self_eq_true]

theorem fragmentsFrom_eq (ts : UInt32) (isLastNal : Bool) (nal : List UInt8)
    (base : PacketizerBase) (off : Nat) :
    layout.fragmentsFrom ts isLastNal nal base off =
      (layout.framePieces ts isLastNal base (layout.fragmentPieces nal off),
        base.advance (layout.fragmentPieces nal off).length) := by
  induction off using fragmentPieces.induct layout nal generalizing base with
  | case1 off more chunk inductionHypothesis =>
      have lastOfUnit := layout.fragmentPieces_isEmpty nal
        (off + min layout.fuPayloadMax ((layout.body nal).length - off)) (by omega)
      have tail := inductionHypothesis base.nextSeq.2
      rw [fragmentsFrom, if_pos more, fragmentPieces_of_lt layout more]
      simp only [framePieces, lastOfUnit, List.length_cons, PacketizerBase.advance_succ]
      exact congrArg (fun result => (_ :: result.1, result.2)) tail
  | case2 off finished =>
      rw [fragmentsFrom, if_neg finished, fragmentPieces_of_ge layout finished]
      simp [framePieces]

theorem packetizeNal_eq (ts : UInt32) (isLastNal : Bool) (nal : List UInt8) (base : PacketizerBase) :
    layout.packetizeNal ts isLastNal nal base =
      (layout.framePieces ts isLastNal base (layout.nalPieces nal),
        base.advance (layout.nalPieces nal).length) := by
  by_cases small : nal.length ≤ singleMax
  · simp only [packetizeNal, nalPieces, if_pos small, framePieces, Piece.payload, List.isEmpty_nil,
      Bool.and_true, List.length_singleton, PacketizerBase.advance_succ,
      PacketizerBase.advance_zero]
    rfl
  · rw [packetizeNal, nalPieces, if_neg small, if_neg small, fragmentsFrom_eq]

theorem nalPieces_ne_nil (nal : List UInt8) : layout.nalPieces nal ≠ [] := by
  by_cases small : nal.length ≤ singleMax
  · simp [nalPieces, small]
  · have := layout.headerSize_le
    have more : 0 < (layout.body nal).length := by
      simp only [body, List.length_drop, singleMax, kMaxPacketSize, kRtpHeaderSize] at *
      omega
    rw [nalPieces, if_neg small, fragmentPieces_of_lt layout more]
    exact List.cons_ne_nil _ _

theorem unitPieces_cons (nal : List UInt8) (rest : List (List UInt8)) :
    layout.unitPieces (nal :: rest) = layout.nalPieces nal ++ layout.unitPieces rest := rfl

theorem unitPieces_isEmpty (nals : List (List UInt8)) :
    (layout.unitPieces nals).isEmpty = nals.isEmpty := by
  cases nals with
  | nil => rfl
  | cons nal rest =>
      rw [unitPieces_cons, List.isEmpty_cons, List.isEmpty_eq_false_iff]
      exact List.append_ne_nil_of_left_ne_nil (layout.nalPieces_ne_nil nal) _

/-- One pass over the units produces the framed pieces of the access unit. -/
theorem packetizeNals_eq (ts : UInt32) (nals : List (List UInt8)) (base : PacketizerBase) :
    layout.packetizeNals ts nals base =
      (layout.framePieces ts true base (layout.unitPieces nals),
        base.advance (layout.unitPieces nals).length) := by
  induction nals generalizing base with
  | nil => simp [packetizeNals, unitPieces, framePieces]
  | cons nal rest inductionHypothesis =>
      rw [packetizeNals, packetizeNal_eq]
      simp only [inductionHypothesis]
      rw [unitPieces_cons, framePieces_append, unitPieces_isEmpty, Bool.true_and,
        List.length_append, PacketizerBase.advance_advance]

/-- The packets of an access unit, in the terms of its NAL units. -/
theorem packetize_eq (base : PacketizerBase) (data : List UInt8) (ptsUsec : Int64) :
    layout.packetize base data ptsUsec =
      (layout.framePieces (base.stamp ptsUsec) true base (layout.unitPieces (forEachNal data)),
        base.advance (layout.unitPieces (forEachNal data)).length) := by
  have empty : ∀ nals : List (List UInt8), nals = [] → layout.unitPieces nals = [] := by
    rintro _ rfl
    rfl
  by_cases none : data.length = 0
  · have noNals : forEachNal data = [] := by
      rw [forEachNal, findStart_of_short _ _ (by omega), nalsFrom, dif_neg (Nat.lt_irrefl _)]
    rw [packetize, if_pos none, empty _ noNals]
    simp [framePieces]
  · rw [packetize, if_neg none]
    by_cases noNals : forEachNal data = []
    · simp only [noNals, List.isEmpty_nil, if_true, empty [] rfl]
      simp [framePieces]
    · simp only [List.isEmpty_eq_false_iff.mpr noNals, Bool.false_eq_true, if_false]
      exact layout.packetizeNals_eq _ _ _

/-! ## The pieces rebuild the canonical form -/

/-- What a list of pieces adds up to. -/
def contributions (pieces : List Piece) : List UInt8 :=
  pieces.flatMap (Piece.contribution layout)

theorem contributions_append (first second : List Piece) :
    layout.contributions (first ++ second) =
      layout.contributions first ++ layout.contributions second :=
  List.flatMap_append

theorem contributions_fragmentPieces (nal : List UInt8) (off : Nat)
    (inside : off < (layout.body nal).length) :
    layout.contributions (layout.fragmentPieces nal off) =
      (if off == 0 then startCode true ++ nal.take layout.headerSize else []) ++
        (layout.body nal).drop off := by
  induction off using fragmentPieces.induct layout nal with
  | case1 off more chunk inductionHypothesis =>
      have positive := layout.fuPayloadMax_pos
      have bound : chunk = min layout.fuPayloadMax ((layout.body nal).length - off) := rfl
      have split : (layout.body nal).drop off =
          slice (layout.body nal) off chunk ++ (layout.body nal).drop (off + chunk) := by
        rw [slice, ← List.drop_drop, List.take_append_drop]
      rw [fragmentPieces_of_lt layout more]
      simp only [contributions, List.flatMap_cons, Piece.contribution, ← bound]
      rw [split, List.append_assoc]
      congr 2
      by_cases finished : off + chunk < (layout.body nal).length
      · have later := inductionHypothesis finished
        rw [if_neg (by simp; omega)] at later
        exact later
      · rw [fragmentPieces_of_ge layout finished, List.drop_eq_nil_of_le (by omega)]
        rfl
  | case2 off finished => exact absurd inside finished

theorem contributions_nalPieces (nal : List UInt8) :
    layout.contributions (layout.nalPieces nal) = startCode true ++ nal := by
  by_cases small : nal.length ≤ singleMax
  · simp [nalPieces, small, contributions, Piece.contribution]
  · have := layout.headerSize_le
    have more : 0 < (layout.body nal).length := by
      simp only [body, List.length_drop, singleMax, kMaxPacketSize, kRtpHeaderSize] at *
      omega
    rw [nalPieces, if_neg small, contributions_fragmentPieces layout nal 0 more]
    simp only [beq_self_eq_true, if_true, List.drop_zero, List.append_assoc, body,
      List.take_append_drop]

/-- All pieces of an access unit together are its canonical Annex B form. -/
theorem contributions_unitPieces (nals : List (List UInt8)) :
    layout.contributions (layout.unitPieces nals) = canonicalAnnexB nals := by
  induction nals with
  | nil => rfl
  | cons nal rest inductionHypothesis =>
      rw [unitPieces_cons, contributions_append, contributions_nalPieces, inductionHypothesis]
      rfl

/-! ## Packet sizes -/

theorem length_le_of_mem_fragmentPieces (nal : List UInt8) (off : Nat) :
    ∀ piece ∈ layout.fragmentPieces nal off, (piece.payload layout).length ≤ singleMax := by
  induction off using fragmentPieces.induct layout nal with
  | case1 off more chunk inductionHypothesis =>
      rw [fragmentPieces_of_lt layout more]
      intro piece member
      rcases List.mem_cons.mp member with same | later
      · have bound : chunk = min layout.fuPayloadMax ((layout.body nal).length - off) := rfl
        have header := layout.headerSize_le
        rw [same, Piece.payload, ← bound, List.length_append, List.length_cons,
          slice_length _ _ _ (by omega), layout.payloadHeader_length]
        simp only [bound, fuPayloadMax, singleMax, kMaxPacketSize, kRtpHeaderSize]
        omega
      · exact inductionHypothesis piece later
  | case2 off finished =>
      rw [fragmentPieces_of_ge layout finished]
      intro piece member
      cases member

theorem length_le_of_mem_unitPieces (nals : List (List UInt8)) :
    ∀ piece ∈ layout.unitPieces nals, (piece.payload layout).length ≤ singleMax := by
  intro piece member
  obtain ⟨nal, _, member⟩ := List.mem_flatMap.mp member
  by_cases small : nal.length ≤ singleMax
  · rw [nalPieces, if_pos small, List.mem_singleton] at member
    rw [member]
    exact small
  · rw [nalPieces, if_neg small] at member
    exact layout.length_le_of_mem_fragmentPieces nal 0 piece member

/-- No packet exceeds the packet size, whatever it carries. -/
theorem length_le_of_mem_framePieces (ts : UInt32) (marked : Bool) (base : PacketizerBase)
    (pieces : List Piece) (fits : ∀ piece ∈ pieces, (piece.payload layout).length ≤ singleMax) :
    ∀ packet ∈ layout.framePieces ts marked base pieces, packet.length ≤ kMaxPacketSize := by
  induction pieces generalizing base with
  | nil =>
      intro packet member
      cases member
  | cons piece rest inductionHypothesis =>
      intro packet member
      rcases List.mem_cons.mp member with same | later
      · have size := fits piece List.mem_cons_self
        simp only [same, List.length_append, writeHeader_length]
        simp only [singleMax, kMaxPacketSize, kRtpHeaderSize] at *
        omega
      · exact inductionHypothesis _ (fun other listed => fits other (List.mem_cons_of_mem _ listed))
          packet later

/-! ## Fragments are opened, continued and closed -/

end NalLayout

/-- Follow the fragmented unit that is open between two packets, if any.  There
is no successor when a piece may not stand here. -/
def Piece.follow (current : Option (List UInt8)) : Piece → Option (Option (List UInt8))
  | .whole _ => if current = none then some none else none
  | .fragment nal true isLast chunk =>
      if current = none ∧ isLast = false ∧ chunk ≠ [] then some (some nal) else none
  | .fragment nal false isLast chunk =>
      if current = some nal ∧ chunk ≠ [] then some (if isLast then none else some nal) else none

/-- Follow a list of pieces. -/
def followAll (current : Option (List UInt8)) (pieces : List Piece) :
    Option (Option (List UInt8)) :=
  pieces.foldlM Piece.follow current

theorem followAll_append (current : Option (List UInt8)) (first second : List Piece) :
    followAll current (first ++ second) =
      (followAll current first).bind (fun next => followAll next second) :=
  List.foldlM_append

namespace NalLayout

variable (layout : NalLayout)

/-- After its first chunk a fragmented unit stays open until its last chunk. -/
theorem followAll_fragmentPieces (nal : List UInt8) (off : Nat) (started : 0 < off)
    (more : off < (layout.body nal).length) :
    followAll (some nal) (layout.fragmentPieces nal off) = some none := by
  induction off using fragmentPieces.induct layout nal with
  | case1 off inside chunk inductionHypothesis =>
      have positive := layout.fuPayloadMax_pos
      have bound : chunk = min layout.fuPayloadMax ((layout.body nal).length - off) := rfl
      have filled : slice (layout.body nal) off chunk ≠ [] := by
        apply List.ne_nil_of_length_pos
        rw [slice_length _ _ _ (by omega)]
        omega
      have notFirst : (off == 0) = false := beq_eq_false_iff_ne.mpr (by omega)
      rw [fragmentPieces_of_lt layout inside, ← bound, notFirst]
      by_cases finished : off + chunk < (layout.body nal).length
      · have open' : (off + chunk == (layout.body nal).length) = false :=
          beq_eq_false_iff_ne.mpr (by omega)
        have later := inductionHypothesis (by omega) finished
        simpa [followAll, Piece.follow, filled, open'] using later
      · have last : (off + chunk == (layout.body nal).length) = true := beq_iff_eq.mpr (by omega)
        rw [fragmentPieces_of_ge layout finished, last]
        simp [followAll, Piece.follow, filled]
  | case2 off finished => exact absurd more finished

theorem followAll_nalPieces (nal : List UInt8) :
    followAll none (layout.nalPieces nal) = some none := by
  by_cases small : nal.length ≤ singleMax
  · simp [nalPieces, small, followAll, Piece.follow]
  · have positive := layout.fuPayloadMax_pos
    have header := layout.headerSize_le
    have headerPositive := layout.headerSize_pos
    -- A unit too large for one packet has a body that needs two fragments.
    have large : layout.fuPayloadMax < (layout.body nal).length := by
      simp only [fuPayloadMax, body, List.length_drop, singleMax, kMaxPacketSize, kRtpHeaderSize] at *
      omega
    have chunk : min layout.fuPayloadMax ((layout.body nal).length - 0) = layout.fuPayloadMax := by
      omega
    have filled : slice (layout.body nal) 0 layout.fuPayloadMax ≠ [] := by
      apply List.ne_nil_of_length_pos
      rw [slice_length _ _ _ (by omega)]
      exact positive
    have notLast : (0 + layout.fuPayloadMax == (layout.body nal).length) = false :=
      beq_eq_false_iff_ne.mpr (by omega)
    have later := layout.followAll_fragmentPieces nal (0 + layout.fuPayloadMax) (by omega) (by omega)
    rw [nalPieces, if_neg small, fragmentPieces_of_lt layout (by omega), chunk, notLast]
    simpa [followAll, Piece.follow, filled] using later

/-- The pieces of an access unit leave no fragmented unit open. -/
theorem followAll_unitPieces (nals : List (List UInt8)) :
    followAll none (layout.unitPieces nals) = some none := by
  induction nals with
  | nil => rfl
  | cons nal rest inductionHypothesis =>
      rw [unitPieces_cons, followAll_append, followAll_nalPieces]
      exact inductionHypothesis

theorem nal_of_mem_fragmentPieces (nal : List UInt8) (off : Nat) :
    ∀ piece ∈ layout.fragmentPieces nal off, piece.nal = nal := by
  induction off using fragmentPieces.induct layout nal with
  | case1 off more chunk inductionHypothesis =>
      rw [fragmentPieces_of_lt layout more]
      intro piece member
      rcases List.mem_cons.mp member with same | later
      · rw [same]
        rfl
      · exact inductionHypothesis piece later
  | case2 off finished =>
      rw [fragmentPieces_of_ge layout finished]
      intro piece member
      cases member

/-- Every piece carries part of one of the units. -/
theorem nal_mem_of_mem_unitPieces (nals : List (List UInt8)) :
    ∀ piece ∈ layout.unitPieces nals, piece.nal ∈ nals := by
  intro piece member
  obtain ⟨nal, listed, member⟩ := List.mem_flatMap.mp member
  by_cases small : nal.length ≤ singleMax
  · rw [nalPieces, if_pos small, List.mem_singleton] at member
    rw [member]
    exact listed
  · rw [nalPieces, if_neg small] at member
    rw [layout.nal_of_mem_fragmentPieces nal 0 piece member]
    exact listed

/-- Every unit is carried by some piece. -/
theorem exists_piece_of_mem (nals : List (List UInt8)) (nal : List UInt8) (member : nal ∈ nals) :
    ∃ piece ∈ layout.unitPieces nals, piece.nal = nal := by
  obtain ⟨piece, listed⟩ := List.exists_mem_of_ne_nil _ (layout.nalPieces_ne_nil nal)
  refine ⟨piece, List.mem_flatMap.mpr ⟨nal, member, listed⟩, ?_⟩
  by_cases small : nal.length ≤ singleMax
  · rw [nalPieces, if_pos small, List.mem_singleton] at listed
    rw [listed]
    rfl
  · rw [nalPieces, if_neg small] at listed
    exact layout.nal_of_mem_fragmentPieces nal 0 piece listed

end NalLayout

/-! ## The packets are numbered consecutively -/

/-- The written sequence number is read back. -/
theorem seqOf_writeHeader (pt : UInt8) (marker : Bool) (seq : UInt16) (ts ssrc : UInt32) (payload : List UInt8) :
    seqOf (writeHeader pt marker seq ts ssrc ++ payload) = seq := by
  have read : seqOf (writeHeader pt marker seq ts ssrc ++ payload) =
      UInt16.ofNat (word16 (seq >>> 8).toUInt8 seq.toUInt8) := rfl
  rw [read, word16_ofWord16, UInt16.ofNat_toNat]

/-- Consecutive sequence numbers, modulo 2^16, from the first one on. -/
def Numbered (first : UInt16) (packets : List Packet) : Prop :=
  ∀ index packet, packets[index]? = some packet → seqOf packet = first + UInt16.ofNat index

theorem numbered_nil (first : UInt16) : Numbered first [] := by
  intro index packet impossible
  cases impossible

theorem numbered_append {first : UInt16} {early late : List Packet} :
    Numbered first (early ++ late) ↔
      Numbered first early ∧ Numbered (first + UInt16.ofNat early.length) late := by
  constructor
  · intro numbered
    refine ⟨fun index packet found => ?_, fun index packet found => ?_⟩
    · apply numbered
      rw [List.getElem?_append_left (List.getElem?_eq_some_iff.mp found).1]
      exact found
    · rw [UInt16.add_assoc, ← UInt16.ofNat_add]
      apply numbered
      rw [List.getElem?_append_right (Nat.le_add_right _ _), Nat.add_sub_cancel_left]
      exact found
  · rintro ⟨numberedEarly, numberedLate⟩ index packet found
    rcases Nat.lt_or_ge index early.length with inside | beyond
    · rw [List.getElem?_append_left inside] at found
      exact numberedEarly index packet found
    · rw [List.getElem?_append_right beyond] at found
      rw [numberedLate _ packet found, UInt16.add_assoc, ← UInt16.ofNat_add, Nat.add_sub_cancel' beyond]

/-- Fewer than 2^16 consecutive packets do not repeat a number. -/
theorem Numbered.new {first : UInt16} {early : List Packet} {packet : Packet}
    (numbered : Numbered first (early ++ [packet])) (few : early.length < 65536) :
    seqOf packet ∉ early.map seqOf := by
  obtain ⟨numberedEarly, numberedLast⟩ := numbered_append.mp numbered
  intro member
  obtain ⟨other, listed, same⟩ := List.mem_map.mp member
  obtain ⟨index, found⟩ := List.mem_iff_getElem?.mp listed
  have inside := (List.getElem?_eq_some_iff.mp found).1
  have last := numberedLast 0 packet rfl
  rw [numberedEarly index other found, last, UInt16.add_assoc, ← UInt16.ofNat_add] at same
  have equal : UInt16.ofNat index = UInt16.ofNat (early.length + 0) := (UInt16.add_right_inj first).mp same
  have values := congrArg UInt16.toNat equal
  rw [UInt16.toNat_ofNat', UInt16.toNat_ofNat'] at values
  omega

theorem framePieces_numbered (layout : NalLayout) (ts : UInt32) (marked : Bool) (base : PacketizerBase)
    (pieces : List Piece) : Numbered base.seq (layout.framePieces ts marked base pieces) := by
  induction pieces generalizing base with
  | nil => exact numbered_nil base.seq
  | cons piece rest inductionHypothesis =>
      rw [NalLayout.framePieces, ← List.singleton_append]
      refine numbered_append.mpr ⟨?_, inductionHypothesis base.nextSeq.2⟩
      intro index packet found
      cases index with
      | zero =>
          rw [← Option.some.inj found, seqOf_writeHeader]
          exact (UInt16.add_zero base.seq).symm
      | succ index => cases found

/-- An access unit takes as many consecutive numbers as it makes packets. -/
theorem packetize_numbered (h265 : Bool) (base : PacketizerBase) (data : List UInt8) (ptsUsec : Int64) :
    Numbered base.seq (packetize h265 base data ptsUsec).1 ∧
      (packetize h265 base data ptsUsec).2.seq =
        base.seq + UInt16.ofNat (packetize h265 base data ptsUsec).1.length := by
  have general : ∀ layout : NalLayout, Numbered base.seq (layout.packetize base data ptsUsec).1 ∧
      (layout.packetize base data ptsUsec).2.seq =
        base.seq + UInt16.ofNat (layout.packetize base data ptsUsec).1.length := by
    intro layout
    rw [layout.packetize_eq, NalLayout.framePieces_length]
    exact ⟨framePieces_numbered layout _ true base _, rfl⟩
  cases h265 with
  | true => exact general h265Layout
  | false => exact general h264Layout

end Rtp
end MetaShare
