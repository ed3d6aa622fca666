import MetaShare.Receiver.Assembly
import MetaShare.Receiver.Playout

namespace MetaShare
namespace RtpReceiver

open Octets Rtp

/-!
# Untrusted payloads

The packets that the depacketizer is fed come unauthenticated from the network.
What a frame may be built from is first stated as a format, which names neither
the state nor the operations of the depacketizer.  The state is then related to
the calls so far, whatever they were.
-/

namespace VideoDepacketizer

/-! ## The format of an access unit -/

/-- The payload of a fragmentation unit. -/
structure Fragment (h265 : Bool) (start stop : Bool) (type : UInt8) (payload : List UInt8) : Prop where
  size : header h265 + 1 < payload.length
  isFragment : nalType h265 (payload.getD 0 0) = fragType h265
  start : (payload.getD (header h265) 0 &&& 0x80 != 0) = start
  stop : (payload.getD (header h265) 0 &&& 0x40 != 0) = stop
  type : payload.getD (header h265) 0 &&& fuTypeMask h265 = type

/-- The header of a unit, from its type and its first fragment. -/
def unitHeader (h265 : Bool) (type : UInt8) (payload : List UInt8) : List UInt8 :=
  headerOctet h265 (payload.getD 0 0) type :: if h265 then [payload.getD 1 0] else []

/-- What a fragment adds to the unit. -/
def chunk (h265 : Bool) (payload : List UInt8) : List UInt8 := payload.drop (header h265 + 1)

/-- A unit of which the first fragments have arrived. -/
inductive Opened (h265 : Bool) (type : UInt8) : List (List UInt8) → List UInt8 → Prop
  | start {payload : List UInt8} (fragment : Fragment h265 true false type payload) :
      Opened h265 type [payload] (unitHeader h265 type payload ++ chunk h265 payload)
  | next {fragments : List (List UInt8)} {nal payload : List UInt8} (opened : Opened h265 type fragments nal)
      (fragment : Fragment h265 false false type payload) :
      Opened h265 type (fragments ++ [payload]) (nal ++ chunk h265 payload)

/-- The units of an aggregation packet, each behind its length. -/
def aggregate (nals : List (List UInt8)) : List UInt8 :=
  nals.flatMap (fun nal => ofWord16 (UInt16.ofNat nal.length) ++ nal)

structure Aggregated (h265 : Bool) (nals : List (List UInt8)) (payload : List UInt8) : Prop where
  isAggregate : nalType h265 (payload.getD 0 0) = apType h265
  content : payload.drop (header h265) = aggregate nals
  sizes : ∀ nal ∈ nals, header h265 ≤ nal.length ∧ nal.length < 65536

/-- Payloads that make up NAL units. -/
inductive Builds (h265 : Bool) : List (List UInt8) → List (List UInt8) → Prop
  | nothing : Builds h265 [] []
  | single {payloads nals : List (List UInt8)} {nal : List UInt8} (builds : Builds h265 payloads nals)
      (size : header h265 ≤ nal.length) (isSingle : isSingle h265 (nalType h265 (nal.getD 0 0)) = true) :
      Builds h265 (payloads ++ [nal]) (nals ++ [nal])
  | aggregated {payloads nals units : List (List UInt8)} {payload : List UInt8} (builds : Builds h265 payloads nals)
      (isAggregated : Aggregated h265 units payload) : Builds h265 (payloads ++ [payload]) (nals ++ units)
  | fragmented {payloads nals fragments : List (List UInt8)} {nal payload : List UInt8} {type : UInt8}
      (builds : Builds h265 payloads nals) (opened : Opened h265 type fragments nal)
      (closed : Fragment h265 false true type payload) :
      Builds h265 (payloads ++ (fragments ++ [payload])) (nals ++ [nal ++ chunk h265 payload])

/-! ## Types of rebuilt units -/

theorem or_and_octet (left right mask : UInt8) :
    (left ||| right) &&& mask = (left &&& mask) ||| (right &&& mask) := by
  apply UInt8.toBitVec_inj.mp
  rw [UInt8.toBitVec_and, UInt8.toBitVec_or, UInt8.toBitVec_or, UInt8.toBitVec_and, UInt8.toBitVec_and]
  ext i inside
  simp only [BitVec.getElem_and, BitVec.getElem_or, Bool.and_or_distrib_right]

/-- A rebuilt unit has the type that its fragments tell. -/
theorem nalType_headerOctet (h265 : Bool) (first fh : UInt8) :
    nalType h265 (headerOctet h265 first (fh &&& fuTypeMask h265)) = fh &&& fuTypeMask h265 := by
  have front : ∀ first : UInt8,
      ((first &&& 0x81) >>> (1 : UInt8)) &&& 63 = 0 ∧ (first &&& 0xE0) &&& 31 = 0 := by
    apply forall_of_bits
    decide +kernel
  have back : ∀ fh : UInt8, (((fh &&& 63) <<< (1 : UInt8)) >>> (1 : UInt8)) &&& 63 = fh &&& 63 ∧
      (fh &&& 31) &&& 31 = fh &&& 31 := by
    apply forall_of_bits
    decide +kernel
  cases h265 with
  | true =>
      change ((first &&& 0x81 ||| (fh &&& 63) <<< (1 : UInt8)) >>> (1 : UInt8)) &&& 63 = fh &&& 63
      rw [UInt8.shiftRight_or, or_and_octet, (front first).1, (back fh).1, UInt8.zero_or]
  | false =>
      change ((first &&& 0xE0) ||| (fh &&& 31)) &&& 31 = fh &&& 31
      rw [or_and_octet, (front first).2, (back fh).2, UInt8.zero_or]

theorem typeOf_eq (h265 : Bool) (nal : List UInt8) : typeOf h265 nal = nalType h265 (nal.getD 0 0) := by
  cases h265 <;> rfl

theorem typeOf_append (h265 : Bool) {nal : List UInt8} (nonempty : nal ≠ []) (more : List UInt8) :
    typeOf h265 (nal ++ more) = typeOf h265 nal := by
  rw [typeOf_eq, typeOf_eq]
  cases nal with
  | nil => exact absurd rfl nonempty
  | cons first rest => rfl

/-- Fragments never change the type that the first one told. -/
theorem Opened.type_eq {h265 : Bool} {type : UInt8} {fragments : List (List UInt8)} {nal : List UInt8}
    (opened : Opened h265 type fragments nal) : nal ≠ [] ∧ typeOf h265 nal = type := by
  induction opened with
  | start fragment =>
      refine ⟨List.cons_ne_nil _ _, ?_⟩
      rw [typeOf_eq, unitHeader, List.cons_append, List.getD_cons_zero, ← fragment.type, nalType_headerOctet]
  | @next fragments nal payload opened fragment inductionHypothesis =>
      obtain ⟨nonempty, sameType⟩ := inductionHypothesis
      refine ⟨List.append_ne_nil_of_left_ne_nil nonempty _, ?_⟩
      rw [typeOf_append h265 nonempty, sameType]

theorem isKeyframe_append (h265 : Bool) (first second : List (List UInt8)) :
    isKeyframe h265 (first ++ second) = (isKeyframe h265 first || isKeyframe h265 second) :=
  List.any_append

/-! ## What a payload does -/

/-- The access unit has been given up. -/
structure Broken (before after : VideoDepacketizer) : Prop where
  h265 : after.h265 = before.h265
  framePts : after.framePts = before.framePts
  pendingGap : after.pendingGap = before.pendingGap
  damaged : after.damaged = true
  awaitingKeyframe : after.awaitingKeyframe = true
  frame : after.frame = []
  fuActive : after.fuActive = false

theorem broken_invalidate (depack : VideoDepacketizer) : Broken depack depack.invalidate :=
  ⟨rfl, rfl, rfl, rfl, rfl, rfl, rfl⟩

/-- Whole units have been added. -/
def extend (depack : VideoDepacketizer) (nals : List (List UInt8)) : VideoDepacketizer :=
  { depack with
    frame := depack.frame ++ canonicalAnnexB nals
    keyframe := depack.keyframe || isKeyframe depack.h265 nals }

theorem canonicalAnnexB_append (first second : List (List UInt8)) :
    canonicalAnnexB (first ++ second) = canonicalAnnexB first ++ canonicalAnnexB second :=
  List.flatMap_append

theorem extend_extend (depack : VideoDepacketizer) (first second : List (List UInt8)) :
    (depack.extend first).extend second = depack.extend (first ++ second) := by
  simp only [extend, canonicalAnnexB_append, isKeyframe_append, List.append_assoc, Bool.or_assoc]

theorem extend_nil (depack : VideoDepacketizer) : depack.extend [] = depack := by
  simp only [extend, isKeyframe, canonicalAnnexB, List.flatMap_nil, List.any_nil, List.append_nil, Bool.or_false]

theorem length_extend_single (depack : VideoDepacketizer) (nal : List UInt8) :
    (depack.extend [nal]).frame.length = depack.frame.length + nal.length + 4 := by
  rw [extend, canonicalAnnexB, List.flatMap_singleton, List.length_append, List.length_append]
  change _ + (4 + _) = _
  omega

section Payload

variable {payload : List UInt8}

theorem addNal_eq (depack : VideoDepacketizer) {off len : Nat} (nonempty : 0 < len)
    (inside : off + len ≤ payload.length) :
    depack.addNal payload off len = .ok (depack.extend [slice payload off len]) := by
  have first : (slice payload off len).getD 0 0 = payload[off] := by
    rw [List.getD_eq_getElem?_getD, getElem?_slice _ _ _ _ nonempty, Nat.add_zero, List.getElem?_eq_getElem]
    rfl
  rw [addNal, byteAt_of_lt (by omega), bytesAt_of_le inside, extend, isKeyframe, List.any_cons, List.any_nil,
    Bool.or_false, typeOf_eq, first, canonicalAnnexB, List.flatMap_singleton]
  rfl

theorem Broken.of_extend {depack next : VideoDepacketizer} {nals : List (List UInt8)}
    (broken : Broken (depack.extend nals) next) : Broken depack next :=
  ⟨broken.h265, broken.framePts, broken.pendingGap, broken.damaged, broken.awaitingKeyframe, broken.frame,
    broken.fuActive⟩

/-- The rest of a payload from a unit on: its length, the unit, and what follows. -/
theorem drop_eq_unit {i : Nat} (room : i + 1 < payload.length) {length : Nat}
    (isLength : word16 payload[i] payload[i + 1] = length) (inside : i + 2 + length ≤ payload.length) :
    payload.drop i = ofWord16 (UInt16.ofNat (slice payload (i + 2) length).length) ++
      slice payload (i + 2) length ++ payload.drop (i + 2 + length) := by
  have rest : slice payload (i + 2) length ++ payload.drop (i + 2 + length) = payload.drop (i + 2) := by
    have behind : payload.drop (i + 2 + length) = (payload.drop (i + 2)).drop length := List.drop_drop.symm
    rw [slice, behind, List.take_append_drop]
  rw [slice_length _ _ _ inside, ← isLength, ofWord16_word16, isLength, List.append_assoc, rest,
    List.drop_eq_getElem_cons (by omega), List.drop_eq_getElem_cons room]
  rfl

/-- The units of an aggregation packet are added, or the access unit is given up. -/
theorem addAggregated_spec (payload : List UInt8) (depack : VideoDepacketizer) (i : Nat)
    (reached : i ≤ payload.length) (bounded : depack.frame.length ≤ MAX_FRAME_BYTES) :
    ∃ next, depack.addAggregated payload i payload.length = .ok next ∧ (Broken depack next ∨
      ∃ nals, payload.drop i = aggregate nals ∧
        (∀ nal ∈ nals, header depack.h265 ≤ nal.length ∧ nal.length < 65536) ∧
        next = depack.extend nals ∧ next.frame.length ≤ MAX_FRAME_BYTES) := by
  induction depack, i using addAggregated.induct payload.length with
  | case1 depack i more short =>
      rw [addAggregated, if_pos more, if_pos short]
      exact ⟨_, rfl, Or.inl (broken_invalidate depack)⟩
  | case2 depack i more room inductionHypothesis =>
      rw [addAggregated, if_pos more, if_neg room, byteAt_of_lt (by omega), byteAt_of_lt (by omega)]
      simp only [ok_bind]
      split
      · exact ⟨_, rfl, Or.inl (broken_invalidate depack)⟩
      · rename_i fits
        have headed := header_pos depack.h265
        have inside : i + 2 + word16 payload[i] payload[i + 1] ≤ payload.length := by omega
        have size := slice_length payload (i + 2) (word16 payload[i] payload[i + 1]) inside
        have small := length_extend_single depack (slice payload (i + 2) (word16 payload[i] payload[i + 1]))
        rw [addNal_eq depack (by omega) inside, ok_bind]
        obtain ⟨next, same, outcome⟩ := inductionHypothesis payload[i] payload[i + 1] fits
          (depack.extend [slice payload (i + 2) (word16 payload[i] payload[i + 1])]) inside (by omega)
        refine ⟨next, same, outcome.imp Broken.of_extend ?_⟩
        rintro ⟨nals, content, sizes, isNext, bound⟩
        refine ⟨slice payload (i + 2) (word16 payload[i] payload[i + 1]) :: nals, ?_, ?_, ?_, bound⟩
        · rw [drop_eq_unit (by omega) rfl inside, content]
          rfl
        · rintro nal (_ | ⟨_, later⟩)
          · rw [size]
            exact ⟨by omega, word16_lt _ _⟩
          · exact sizes nal later
        · rw [isNext, extend_extend]
          rfl
  | case3 depack i finished =>
      rw [addAggregated, if_neg finished]
      refine ⟨_, rfl, Or.inr ⟨[], ?_, fun _ impossible => ?_, (extend_nil depack).symm, bounded⟩⟩
      · exact List.drop_of_length_le (by omega)
      · cases impossible

/-- The unit of a first fragment is begun. -/
def beginUnit (depack : VideoDepacketizer) (type : UInt8) (payload : List UInt8) : VideoDepacketizer :=
  { depack with
    frame := depack.frame ++ (startCode true ++ (unitHeader depack.h265 type payload ++ chunk depack.h265 payload))
    keyframe := depack.keyframe || isIdr depack.h265 type
    fuActive := true
    fuType := type }

/-- The unit under assembly is continued, and possibly ended. -/
def continueUnit (depack : VideoDepacketizer) (stop : Bool) (payload : List UInt8) : VideoDepacketizer :=
  { depack with
    frame := depack.frame ++ chunk depack.h265 payload
    fuActive := depack.fuActive && !stop }

/-- What becomes of an undamaged access unit. -/
inductive Takes (depack : VideoDepacketizer) (payload : List UInt8) : VideoDepacketizer → Prop
  | breaks {next : VideoDepacketizer} (broken : Broken depack next) : Takes depack payload next
  | single (idle : depack.fuActive = false) (size : header depack.h265 ≤ payload.length)
      (isSingle : isSingle depack.h265 (nalType depack.h265 (payload.getD 0 0)) = true) :
      Takes depack payload (depack.extend [payload])
  | aggregated {nals : List (List UInt8)} (idle : depack.fuActive = false)
      (isAggregated : Aggregated depack.h265 nals payload) : Takes depack payload (depack.extend nals)
  | begins {type : UInt8} (idle : depack.fuActive = false)
      (fragment : Fragment depack.h265 true false type payload) : Takes depack payload (depack.beginUnit type payload)
  | continues {stop : Bool} (active : depack.fuActive = true)
      (fragment : Fragment depack.h265 false stop depack.fuType payload) :
      Takes depack payload (depack.continueUnit stop payload)

theorem length_unitHeader (h265 : Bool) (type : UInt8) (payload : List UInt8) :
    (unitHeader h265 type payload).length = header h265 := by
  cases h265 <;> rfl

theorem length_chunk (h265 : Bool) (payload : List UInt8) :
    (chunk h265 payload).length = payload.length - (header h265 + 1) := by
  rw [chunk, List.length_drop]

theorem length_beginUnit (depack : VideoDepacketizer) {type : UInt8}
    (fragment : Fragment depack.h265 true false type payload) :
    (depack.beginUnit type payload).frame.length = depack.frame.length + payload.length + 3 := by
  have size := fragment.size
  rw [beginUnit, List.length_append, List.length_append, List.length_append, length_unitHeader, length_chunk]
  change _ + (4 + _) = _
  omega

theorem length_continueUnit_le (depack : VideoDepacketizer) (stop : Bool) :
    (depack.continueUnit stop payload).frame.length ≤ depack.frame.length + payload.length := by
  rw [continueUnit, List.length_append, length_chunk]
  omega

theorem addFragment_spec (depack : VideoDepacketizer)
    (isFragment : nalType depack.h265 (payload.getD 0 0) = fragType depack.h265) :
    ∃ next, depack.addFragment payload 0 payload.length (payload.getD 0 0) = .ok next ∧
      Takes depack payload next ∧ next.frame.length ≤ depack.frame.length + payload.length + 3 := by
  rw [addFragment]
  split
  · exact ⟨_, rfl, .breaks (broken_invalidate depack), Nat.zero_le _⟩
  rename_i long
  have size : header depack.h265 + 1 < payload.length := by omega
  have fh : byteAt payload (0 + header depack.h265) = .ok (payload.getD (header depack.h265) 0) := by
    rw [Nat.zero_add, byteAt_of_lt (by omega), List.getD_eq_getElem]
  have tail : bytesAt payload (0 + header depack.h265 + 1) (payload.length - header depack.h265 - 1) =
      .ok (chunk depack.h265 payload) := by
    rw [bytesAt_of_le (by omega), Nat.zero_add, slice, chunk, List.take_of_length_le]
    rw [List.length_drop]
    omega
  simp only [fh, tail, ok_bind]
  generalize isStart : (payload.getD (header depack.h265) 0 &&& 0x80 != 0) = start
  generalize isStop : (payload.getD (header depack.h265) 0 &&& 0x40 != 0) = stop
  generalize isType : payload.getD (header depack.h265) 0 &&& fuTypeMask depack.h265 = type
  have fragment : Fragment depack.h265 start stop type payload := ⟨size, isFragment, isStart, isStop, isType⟩
  split
  · exact ⟨_, rfl, .breaks (broken_invalidate depack), Nat.zero_le _⟩
  rename_i accepted
  cases start with
  | true =>
      cases active : depack.fuActive with
      | true => simp [active] at accepted
      | false =>
          cases stop with
          | true => simp at accepted
          | false =>
              have second : (if depack.h265 then (fun octet => [octet]) <$> byteAt payload (0 + 1) else pure []) =
                  (.ok (if depack.h265 then [payload.getD 1 0] else []) : Checked (List UInt8)) := by
                cases depack.h265 with
                | true =>
                    rw [byteAt_of_lt (by omega), ← List.getD_eq_getElem]
                    rfl
                | false => rfl
              refine ⟨depack.beginUnit type payload, ?_, .begins active fragment,
                Nat.le_of_eq (length_beginUnit depack fragment)⟩
              simp only [openFragment, second, ok_bind, if_true]
              have whole : depack.beginUnit type payload =
                  { depack.write (startCode true ++ unitHeader depack.h265 type payload) with
                    keyframe := depack.keyframe || isIdr depack.h265 type
                    fuActive := true
                    fuType := type }.write (chunk depack.h265 payload) := by
                simp only [beginUnit, write, List.append_assoc]
              rw [whole]
              rfl
  | false =>
      cases active : depack.fuActive with
      | false => simp [active] at accepted
      | true =>
          have sameType : type = depack.fuType := by
            by_contra different
            simp [active, different] at accepted
          rw [sameType] at fragment
          refine ⟨depack.continueUnit stop payload, ?_, .continues active fragment,
            (length_continueUnit_le depack stop).trans (Nat.le_add_right _ _)⟩
          rw [if_neg Bool.false_ne_true, continueUnit]
          cases stop with
          | true =>
              rw [Bool.not_true, Bool.and_false]
              rfl
          | false =>
              rw [Bool.not_false, Bool.and_true]
              rfl

/-- Whatever an undamaged access unit is given, it is taken in one of the ways
of the format or given up. -/
theorem assemble_spec (payload : List UInt8) (depack : VideoDepacketizer)
    (bounded : depack.frame.length ≤ MAX_FRAME_BYTES) :
    ∃ next, depack.assemble payload 0 payload.length = .ok next ∧ Takes depack payload next ∧
      next.frame.length ≤ MAX_FRAME_BYTES := by
  rw [VideoDepacketizer.assemble]
  split
  · exact ⟨_, rfl, .breaks (broken_invalidate depack), Nat.zero_le _⟩
  rename_i accepted
  have headed := header_pos depack.h265
  rw [byteAt_getD (by omega)]
  simp only [ok_bind]
  split
  · rename_i isFragment
    obtain ⟨next, same, takes, small⟩ := addFragment_spec depack isFragment
    exact ⟨next, same, takes, by omega⟩
  rename_i notFragment
  split
  · exact ⟨_, rfl, .breaks (broken_invalidate depack), Nat.zero_le _⟩
  rename_i idle
  rw [Bool.not_eq_true] at idle
  split
  · rename_i isAggregate
    rw [Nat.zero_add, Nat.zero_add]
    obtain ⟨next, same, broken | ⟨nals, content, sizes, isNext, small⟩⟩ :=
      addAggregated_spec payload depack (header depack.h265) (by omega) bounded
    · exact ⟨next, same, .breaks broken, by rw [broken.frame]; exact Nat.zero_le _⟩
    · refine ⟨next, same, ?_, small⟩
      rw [isNext]
      exact .aggregated idle ⟨isAggregate, content, sizes⟩
  split
  · rename_i isSingle
    have whole : depack.addNal payload 0 payload.length = .ok (depack.extend [slice payload 0 payload.length]) :=
      addNal_eq depack (by omega) (by omega)
    rw [slice_all] at whole
    refine ⟨_, whole, .single idle (by omega) isSingle, ?_⟩
    rw [length_extend_single]
    omega
  · exact ⟨_, rfl, .breaks (broken_invalidate depack), Nat.zero_le _⟩

end Payload

/-! ## An access unit under assembly -/

/-- How the frame of an undamaged access unit comes from its payloads. -/
inductive Assembling (depack : VideoDepacketizer) (payloads : List (List UInt8)) : Prop
  | whole (nals : List (List UInt8)) (idle : depack.fuActive = false)
      (builds : Builds depack.h265 payloads nals) (frame : depack.frame = canonicalAnnexB nals)
      (keyframe : depack.keyframe = isKeyframe depack.h265 nals)
  | amid (done fragments nals : List (List UInt8)) (nal : List UInt8) (active : depack.fuActive = true)
      (split : payloads = done ++ fragments) (builds : Builds depack.h265 done nals)
      (opened : Opened depack.h265 depack.fuType fragments nal)
      (frame : depack.frame = canonicalAnnexB (nals ++ [nal]))
      (keyframe : depack.keyframe = isKeyframe depack.h265 (nals ++ [nal]))

/-- Nothing about the codec or the access unit changes with its payloads. -/
structure SameUnit (before after : VideoDepacketizer) : Prop where
  h265 : after.h265 = before.h265
  framePts : after.framePts = before.framePts
  pendingGap : after.pendingGap = before.pendingGap

theorem isKeyframe_single (h265 : Bool) (nal : List UInt8) :
    isKeyframe h265 [nal] = isIdr h265 (typeOf h265 nal) := by
  rw [isKeyframe, List.any_cons, List.any_nil, Bool.or_false]

theorem canonicalAnnexB_single_append (nals : List (List UInt8)) (nal more : List UInt8) :
    canonicalAnnexB (nals ++ [nal ++ more]) = canonicalAnnexB (nals ++ [nal]) ++ more := by
  rw [canonicalAnnexB_append, canonicalAnnexB_append, canonicalAnnexB, canonicalAnnexB, canonicalAnnexB,
    List.flatMap_singleton, List.flatMap_singleton, List.append_assoc, List.append_assoc]

/-- A payload extends the access unit in a way that the format allows. -/
theorem Assembling.takes {depack next : VideoDepacketizer} {payloads : List (List UInt8)} {payload : List UInt8}
    (assembling : Assembling depack payloads) (takes : Takes depack payload next) :
    SameUnit depack next ∧ (Broken depack next ∨
      next.damaged = depack.damaged ∧ next.awaitingKeyframe = depack.awaitingKeyframe ∧
        Assembling next (payloads ++ [payload])) := by
  cases takes with
  | breaks broken => exact ⟨⟨broken.h265, broken.framePts, broken.pendingGap⟩, Or.inl broken⟩
  | single idle size isSingle =>
      refine ⟨⟨rfl, rfl, rfl⟩, Or.inr ⟨rfl, rfl, ?_⟩⟩
      cases assembling with
      | amid _ _ _ _ active => cases idle.symm.trans active
      | whole nals _ builds frame keyframe =>
          refine .whole (nals ++ [payload]) idle (.single builds size isSingle) ?_ ?_
          · rw [extend, frame, canonicalAnnexB_append]
          · rw [extend, keyframe, isKeyframe_append]
  | aggregated idle isAggregated =>
      refine ⟨⟨rfl, rfl, rfl⟩, Or.inr ⟨rfl, rfl, ?_⟩⟩
      cases assembling with
      | amid _ _ _ _ active => cases idle.symm.trans active
      | whole nals _ builds frame keyframe =>
          refine .whole (nals ++ _) idle (.aggregated builds isAggregated) ?_ ?_
          · rw [extend, frame, canonicalAnnexB_append]
          · rw [extend, keyframe, isKeyframe_append]
  | @begins type idle fragment =>
      refine ⟨⟨rfl, rfl, rfl⟩, Or.inr ⟨rfl, rfl, ?_⟩⟩
      cases assembling with
      | amid _ _ _ _ active => cases idle.symm.trans active
      | whole nals _ builds frame keyframe =>
          have opened := Opened.start fragment
          refine .amid payloads [payload] nals _ rfl rfl builds opened ?_ ?_
          · rw [beginUnit, frame, canonicalAnnexB_append, canonicalAnnexB, canonicalAnnexB, List.flatMap_singleton]
          · rw [beginUnit, keyframe, isKeyframe_append, isKeyframe_single, opened.type_eq.2]
  | @continues stop active fragment =>
      refine ⟨⟨rfl, rfl, rfl⟩, Or.inr ⟨rfl, rfl, ?_⟩⟩
      cases assembling with
      | whole _ idle => cases idle.symm.trans active
      | amid done fragments nals nal _ split builds opened frame keyframe =>
          have longer : (depack.continueUnit stop payload).frame =
              canonicalAnnexB (nals ++ [nal ++ chunk depack.h265 payload]) := by
            rw [continueUnit, frame, canonicalAnnexB_single_append]
          have sameKey : (depack.continueUnit stop payload).keyframe =
              isKeyframe depack.h265 (nals ++ [nal ++ chunk depack.h265 payload]) := by
            rw [continueUnit, keyframe, isKeyframe_append, isKeyframe_append, isKeyframe_single, isKeyframe_single,
              typeOf_append depack.h265 opened.type_eq.1]
          rw [split, List.append_assoc]
          cases stop with
          | true =>
              refine .whole (nals ++ [nal ++ chunk depack.h265 payload]) ?_ ?_ longer sameKey
              · rw [continueUnit, Bool.not_true, Bool.and_false]
              · exact .fragmented builds opened fragment
          | false =>
              refine .amid done (fragments ++ [payload]) nals _ ?_ rfl builds (.next opened fragment) longer sameKey
              rw [continueUnit, active]
              rfl

/-! ## What the calls so far allow -/

/-- An event for the depacketizer: a packet, or a gap. -/
abbrev Event := Option VideoPacket

def respond (depack : VideoDepacketizer) : Event → VideoDepacketizer × Option Frame
  | none => (depack.onGap, none)
  | some packet => depack.consume packet.payload packet.marker packet.ptsUsec

/-- The state in which the marker of a packet is looked at. -/
def assembled (depack : VideoDepacketizer) (packet : VideoPacket) : VideoDepacketizer :=
  if (depack.prepare packet.ptsUsec).damaged then depack.prepare packet.ptsUsec
  else match (depack.prepare packet.ptsUsec).assemble packet.payload 0 packet.payload.length with
    | .ok next => next
    | .error _ => depack.prepare packet.ptsUsec

theorem respond_some (depack : VideoDepacketizer) (packet : VideoPacket) :
    depack.respond (some packet) = (depack.assembled packet).conclude packet.marker packet.ptsUsec := by
  apply consume_eq
  rw [assembled]
  split
  · rfl
  · obtain ⟨next, same⟩ := assemble_ok packet.payload (depack.prepare packet.ptsUsec)
    rw [same]

/-- After these events a packet with this timestamp begins a new access unit. -/
def Begins (before : List Event) (ptsUsec : Int) : Prop :=
  before = [] ∨ ∃ earlier packet, before = earlier ++ [some packet] ∧
    (packet.marker = true ∨ packet.ptsUsec ≠ ptsUsec)

/-- The packets at the end of a history that belong to one access unit: they
have one timestamp, no gap lies between them, and the first one begins it. -/
structure Spans (history : List Event) (ptsUsec : Int) (span : List VideoPacket) : Prop where
  suffix : ∃ before, history = before ++ span.map some ∧ Begins before ptsUsec
  oneTime : ∀ packet ∈ span, packet.ptsUsec = ptsUsec

/-- What a frame that is shown after a history of events is built from. -/
def BuiltFrom (h265 : Bool) (history : List Event) (frame : Frame) : Prop :=
  ∃ span nals, Spans history frame.ptsUsec span ∧ (∀ packet ∈ span.dropLast, packet.marker = false) ∧
    Builds h265 (span.map VideoPacket.payload) nals ∧ frame.annexB = canonicalAnnexB nals ∧
    frame.keyframe = isKeyframe h265 nals

/-- The last event as the state remembers it. -/
def Remembers (depack : VideoDepacketizer) (history : List Event) : Prop :=
  history = [] ∨ (∃ earlier, history = earlier ++ [none] ∧ depack.pendingGap = true) ∨
    ∃ earlier packet, history = earlier ++ [some packet] ∧
      (packet.marker = true ∨ packet.ptsUsec = depack.framePts)

/-- The state of a depacketizer that was fed a history of events. -/
structure Tracks (depack : VideoDepacketizer) (history : List Event) : Prop where
  bounded : depack.frame.length ≤ MAX_FRAME_BYTES
  gap : depack.pendingGap = true → depack.damaged = true
  remembers : Remembers depack history
  intact : depack.damaged = false → ∃ span, Spans history depack.framePts span ∧
    (∀ packet ∈ span, packet.marker = false) ∧ Assembling depack (span.map VideoPacket.payload)

theorem tracks_create (h265 : Bool) : Tracks (create h265) [] where
  bounded := Nat.zero_le _
  gap := fun impossible => impossible
  remembers := Or.inl rfl
  intact := by
    intro _
    refine ⟨[], ⟨⟨[], rfl, Or.inl rfl⟩, fun _ impossible => ?_⟩, fun _ impossible => ?_,
      .whole [] rfl .nothing rfl rfl⟩
    · cases impossible
    · cases impossible

theorem tracks_onGap (depack : VideoDepacketizer) (history : List Event) :
    Tracks depack.onGap (history ++ [none]) where
  bounded := Nat.zero_le _
  gap := fun _ => rfl
  remembers := Or.inr (Or.inl ⟨history, rfl, rfl⟩)
  intact := fun impossible => by cases impossible

/-- The state that a packet is looked at in. -/
theorem Tracks.prepare {depack : VideoDepacketizer} {history : List Event} (tracks : Tracks depack history)
    (ptsUsec : Int) :
    (depack.prepare ptsUsec).frame.length ≤ MAX_FRAME_BYTES ∧
      ((depack.prepare ptsUsec).damaged = false → ∃ span, Spans history ptsUsec span ∧
        (∀ packet ∈ span, packet.marker = false) ∧
        Assembling (depack.prepare ptsUsec) (span.map VideoPacket.payload)) := by
  by_cases same : depack.framePts = ptsUsec
  · have kept : (depack.prepare ptsUsec).frame = depack.frame := by
      rw [VideoDepacketizer.prepare, changeTimestamp_of_eq same]
      rfl
    refine ⟨by rw [kept]; exact tracks.bounded, fun undamaged => ?_⟩
    have noGap : depack.pendingGap = false := by
      by_contra gap
      rw [Bool.not_eq_false] at gap
      cases (prepare_damaged_of_pendingGap ptsUsec gap).symm.trans undamaged
    rw [prepare_of_framePts same noGap] at undamaged ⊢
    rw [← same]
    exact tracks.intact undamaged
  · have fresh : (depack.prepare ptsUsec).frame = [] := by
      rw [VideoDepacketizer.prepare, changeTimestamp_of_ne same]
      rfl
    refine ⟨by rw [fresh]; exact Nat.zero_le _, fun undamaged => ⟨[], ⟨⟨history, ?_, ?_⟩, fun _ impossible => ?_⟩,
      fun _ impossible => ?_, .whole [] ?_ .nothing fresh ?_⟩⟩
    · rw [List.map_nil, List.append_nil]
    · rcases tracks.remembers with first | ⟨_, _, gap⟩ | ⟨earlier, packet, isLast, ended | sameTime⟩
      · exact Or.inl first
      · cases (prepare_damaged_of_pendingGap ptsUsec gap).symm.trans undamaged
      · exact Or.inr ⟨earlier, packet, isLast, Or.inl ended⟩
      · exact Or.inr ⟨earlier, packet, isLast, Or.inr (sameTime ▸ same)⟩
    · cases impossible
    · cases impossible
    · rw [VideoDepacketizer.prepare, changeTimestamp_of_ne same]
      rfl
    · rw [VideoDepacketizer.prepare, changeTimestamp_of_ne same]
      rfl

theorem Spans.snoc {history : List Event} {ptsUsec : Int} {span : List VideoPacket}
    (spans : Spans history ptsUsec span) {packet : VideoPacket} (sameTime : packet.ptsUsec = ptsUsec) :
    Spans (history ++ [some packet]) ptsUsec (span ++ [packet]) where
  suffix := by
    obtain ⟨before, rfl, begins⟩ := spans.suffix
    refine ⟨before, ?_, begins⟩
    rw [List.map_append, List.append_assoc]
    rfl
  oneTime := by
    intro other member
    rcases List.mem_append.mp member with earlier | last
    · exact spans.oneTime other earlier
    · rw [List.mem_singleton.mp last]
      exact sameTime

/-- What is known when the marker of a packet is looked at. -/
structure Taken (depack next : VideoDepacketizer) (history : List Event) (packet : VideoPacket) : Prop where
  bounded : next.frame.length ≤ MAX_FRAME_BYTES
  same : SameUnit (depack.prepare packet.ptsUsec) next
  awaits : (depack.prepare packet.ptsUsec).awaitingKeyframe = true → next.awaitingKeyframe = true
  breaks : (depack.prepare packet.ptsUsec).damaged = false → next.damaged = true → next.awaitingKeyframe = true
  intact : next.damaged = false → ∃ span, Spans history packet.ptsUsec span ∧
    (∀ packet ∈ span, packet.marker = false) ∧
    Assembling next ((span ++ [packet]).map VideoPacket.payload)

theorem Tracks.taken {depack : VideoDepacketizer} {history : List Event} (tracks : Tracks depack history)
    (packet : VideoPacket) : Taken depack (depack.assembled packet) history packet := by
  obtain ⟨bounded, intact⟩ := tracks.prepare packet.ptsUsec
  cases damaged : (depack.prepare packet.ptsUsec).damaged with
  | true =>
      rw [assembled, if_pos damaged]
      refine ⟨bounded, ⟨rfl, rfl, rfl⟩, id, fun undamaged => ?_, fun undamaged => ?_⟩
      · cases damaged.symm.trans undamaged
      · cases damaged.symm.trans undamaged
  | false =>
      obtain ⟨span, spans, unmarked, assembling⟩ := intact damaged
      obtain ⟨next, same, takes, small⟩ := assemble_spec packet.payload _ bounded
      obtain ⟨sameUnit, outcome⟩ := assembling.takes takes
      rw [assembled, if_neg (by rw [damaged]; exact Bool.false_ne_true), same]
      rcases outcome with broken | ⟨sameDamage, sameWait, extended⟩
      · refine ⟨small, sameUnit, fun _ => broken.awaitingKeyframe, fun _ _ => broken.awaitingKeyframe,
          fun undamaged => ?_⟩
        cases broken.damaged.symm.trans undamaged
      · refine ⟨small, sameUnit, fun waits => sameWait.trans waits, fun _ isDamaged => ?_, fun _ =>
          ⟨span, spans, unmarked, ?_⟩⟩
        · cases (sameDamage.trans damaged).symm.trans isDamaged
        · rw [List.map_append]
          exact extended

/-! ## The marker -/

/-- What a marker shows. -/
structure Shows (depack : VideoDepacketizer) (ptsUsec : Int) (frame : Frame) : Prop where
  idle : depack.fuActive = false
  undamaged : depack.damaged = false
  isFrame : frame = ⟨depack.frame, ptsUsec, depack.keyframe⟩
  awaited : depack.awaitingKeyframe = true → depack.keyframe = true

/-- The condition under which a marker shows a frame. -/
def isShown (depack : VideoDepacketizer) : Bool :=
  !depack.damaged && decide (0 < depack.frame.length) && (!depack.awaitingKeyframe || depack.keyframe)

theorem finish_of_active {depack : VideoDepacketizer} (ptsUsec : Int) (active : depack.fuActive = true) :
    (depack.finish ptsUsec).2 = none ∧ (depack.finish ptsUsec).1.awaitingKeyframe = true := by
  simp only [finish, active, if_true]
  exact ⟨rfl, rfl⟩

theorem finish_of_inactive {depack : VideoDepacketizer} (ptsUsec : Int) (idle : depack.fuActive = false) :
    (depack.finish ptsUsec).2 =
        (if depack.isShown then some ⟨depack.frame, ptsUsec, depack.keyframe⟩ else none) ∧
      (depack.finish ptsUsec).1.awaitingKeyframe = (depack.awaitingKeyframe && !depack.isShown) := by
  simp only [finish, idle, Bool.false_eq_true, if_false]
  exact ⟨rfl, rfl⟩

theorem shows_of_finish {depack : VideoDepacketizer} {ptsUsec : Int} {frame : Frame}
    (shown : (depack.finish ptsUsec).2 = some frame) : Shows depack ptsUsec frame := by
  cases active : depack.fuActive with
  | true => cases (finish_of_active ptsUsec active).1.symm.trans shown
  | false =>
      rw [(finish_of_inactive ptsUsec active).1] at shown
      split at shown
      · rename_i isShown
        rw [VideoDepacketizer.isShown, Bool.and_eq_true, Bool.and_eq_true, Bool.not_eq_true', Bool.or_eq_true,
          Bool.not_eq_true'] at isShown
        refine ⟨active, isShown.1.1, (Option.some.inj shown).symm, fun waits => ?_⟩
        exact isShown.2.resolve_left (fun free => Bool.false_ne_true (free.symm.trans waits))
      · cases shown

/-- A marker that shows nothing leaves the wait for a keyframe, and one inside a
fragmented unit begins it. -/
theorem awaits_of_finish {depack : VideoDepacketizer} {ptsUsec : Int} (nothing : (depack.finish ptsUsec).2 = none)
    (waits : depack.awaitingKeyframe = true ∨ depack.fuActive = true) :
    (depack.finish ptsUsec).1.awaitingKeyframe = true := by
  cases active : depack.fuActive with
  | true => exact (finish_of_active ptsUsec active).2
  | false =>
      have wait : depack.awaitingKeyframe = true := waits.resolve_right (by rw [active]; exact Bool.false_ne_true)
      rw [(finish_of_inactive ptsUsec active).1] at nothing
      rw [(finish_of_inactive ptsUsec active).2, wait, Bool.true_and]
      split at nothing
      · cases nothing
      · rename_i hidden
        rw [Bool.not_eq_true] at hidden
        rw [hidden]
        rfl

/-! ## Every call -/

theorem SameUnit.h265_eq {depack next : VideoDepacketizer} {ptsUsec : Int}
    (same : SameUnit (depack.prepare ptsUsec) next) : next.h265 = depack.h265 :=
  same.h265.trans (prepare_h265 depack ptsUsec)

theorem assembling_idle {depack : VideoDepacketizer} {payloads : List (List UInt8)}
    (assembling : Assembling depack payloads) (idle : depack.fuActive = false) :
    ∃ nals, Builds depack.h265 payloads nals ∧ depack.frame = canonicalAnnexB nals ∧
      depack.keyframe = isKeyframe depack.h265 nals := by
  cases assembling with
  | whole nals _ builds frame keyframe => exact ⟨nals, builds, frame, keyframe⟩
  | amid _ _ _ _ active => cases idle.symm.trans active

/-- After any event the state tracks the history, and what is shown is built
from its end. -/
theorem Tracks.respond {depack : VideoDepacketizer} {history : List Event} (tracks : Tracks depack history)
    (event : Event) :
    Tracks (depack.respond event).1 (history ++ [event]) ∧
      ∀ frame ∈ (depack.respond event).2, BuiltFrom depack.h265 (history ++ [event]) frame := by
  cases event with
  | none =>
      refine ⟨tracks_onGap depack history, fun frame impossible => ?_⟩
      cases impossible
  | some packet =>
      have taken := tracks.taken packet
      have noGap : (depack.assembled packet).pendingGap = false :=
        taken.same.pendingGap.trans (prepare_pendingGap depack packet.ptsUsec)
      have time : (depack.assembled packet).framePts = packet.ptsUsec :=
        taken.same.framePts.trans (prepare_framePts depack packet.ptsUsec)
      have last : Remembers (depack.assembled packet) (history ++ [some packet]) :=
        Or.inr (Or.inr ⟨history, packet, rfl, Or.inr time.symm⟩)
      rw [respond_some, conclude]
      cases marker : packet.marker with
      | false =>
          refine ⟨⟨taken.bounded, fun gap => ?_, last, fun undamaged => ?_⟩, fun frame impossible => ?_⟩
          · cases noGap.symm.trans gap
          · obtain ⟨span, spans, unmarked, assembling⟩ := taken.intact undamaged
            refine ⟨span ++ [packet], time.symm ▸ spans.snoc rfl, fun other member => ?_, assembling⟩
            rcases List.mem_append.mp member with earlier | isLast
            · exact unmarked other earlier
            · rw [List.mem_singleton.mp isLast]
              exact marker
          · cases impossible
      | true =>
          have idle := finish_idle (depack.assembled packet) packet.ptsUsec noGap
          refine ⟨⟨?_, fun gap => ?_, Or.inr (Or.inr ⟨history, packet, rfl, Or.inl marker⟩), fun _ => ?_⟩,
            fun frame shown => ?_⟩
          · rw [if_pos rfl, idle.frame]
            exact Nat.zero_le _
          · rw [if_pos rfl, idle.pendingGap] at gap
            cases gap
          · refine ⟨[], ⟨⟨history ++ [some packet], ?_, Or.inr ⟨history, packet, rfl, Or.inl marker⟩⟩,
              fun _ impossible => ?_⟩, fun _ impossible => ?_,
                .whole [] idle.fuActive .nothing idle.frame idle.keyframe⟩
            · rw [List.map_nil, List.append_nil]
            · cases impossible
            · cases impossible
          · have shows := shows_of_finish shown
            obtain ⟨span, spans, unmarked, assembling⟩ := taken.intact shows.undamaged
            obtain ⟨nals, builds, content, key⟩ := assembling_idle assembling shows.idle
            rw [taken.same.h265_eq] at builds key
            refine ⟨span ++ [packet], nals, ?_, ?_, builds, ?_, ?_⟩
            · rw [shows.isFrame]
              exact spans.snoc rfl
            · rw [List.dropLast_concat]
              exact unmarked
            · rw [shows.isFrame]
              exact content
            · rw [shows.isFrame]
              exact key

/-! ## After an invalidation -/

/-- The event makes the depacketizer run `invalidate`: at a gap, at a change of
the timestamp, for a payload, or for a unit that is open at the marker. -/
def Invalidates (depack : VideoDepacketizer) : Event → Prop
  | none => True
  | some packet =>
      depack.framePts ≠ packet.ptsUsec ∧ depack.framePts ≠ noPts ∨
        (depack.prepare packet.ptsUsec).damaged = false ∧ (depack.assembled packet).damaged = true ∨
        packet.marker = true ∧ (depack.assembled packet).fuActive = true

/-- A keyframe that is flagged as such. -/
def Keyed (h265 : Bool) (frame : Frame) : Prop :=
  frame.keyframe = true ∧
    ∃ nals, frame.annexB = canonicalAnnexB nals ∧ ∃ nal ∈ nals, isIdr h265 (typeOf h265 nal) = true

theorem BuiltFrom.keyed {h265 : Bool} {history : List Event} {frame : Frame} (built : BuiltFrom h265 history frame)
    (keyframe : frame.keyframe = true) : Keyed h265 frame := by
  obtain ⟨span, nals, _, _, _, content, key⟩ := built
  exact ⟨keyframe, nals, content, List.any_eq_true.mp (key.symm.trans keyframe)⟩

theorem awaits_prepare {depack : VideoDepacketizer} {ptsUsec : Int}
    (waits : depack.awaitingKeyframe = true ∨ depack.framePts ≠ ptsUsec ∧ depack.framePts ≠ noPts) :
    (depack.prepare ptsUsec).awaitingKeyframe = true := by
  by_cases same : depack.framePts = ptsUsec
  · rw [prepare, changeTimestamp_of_eq same]
    exact waits.resolve_right (fun changed => changed.1 same)
  · rw [prepare, changeTimestamp_of_ne same]
    change (decide (depack.framePts ≠ noPts) || depack.awaitingKeyframe) = true
    rw [Bool.or_eq_true, decide_eq_true_iff]
    exact waits.symm.imp (fun changed => changed.2) id

/-- While a keyframe is awaited nothing else is shown. -/
theorem Tracks.awaits {depack : VideoDepacketizer} {history : List Event} (tracks : Tracks depack history)
    {event : Event} (waits : depack.awaitingKeyframe = true ∨ Invalidates depack event) :
    ((depack.respond event).2 = none → (depack.respond event).1.awaitingKeyframe = true) ∧
      ∀ frame ∈ (depack.respond event).2, frame.keyframe = true := by
  cases event with
  | none =>
      refine ⟨fun _ => rfl, fun frame impossible => ?_⟩
      cases impossible
  | some packet =>
      have taken := tracks.taken packet
      have awaited : (depack.assembled packet).awaitingKeyframe = true ∨
          packet.marker = true ∧ (depack.assembled packet).fuActive = true := by
        rcases waits with early | changed | ⟨undamaged, damaged⟩ | opened
        · exact Or.inl (taken.awaits (awaits_prepare (Or.inl early)))
        · exact Or.inl (taken.awaits (awaits_prepare (Or.inr changed)))
        · exact Or.inl (taken.breaks undamaged damaged)
        · exact Or.inr opened
      rw [respond_some, conclude]
      cases marker : packet.marker with
      | false =>
          refine ⟨fun _ => awaited.resolve_right (fun opened => ?_), fun frame impossible => ?_⟩
          · cases marker.symm.trans opened.1
          · cases impossible
      | true =>
          refine ⟨fun nothing => awaits_of_finish nothing (awaited.imp id And.right), fun frame shown => ?_⟩
          have shows := shows_of_finish shown
          have waiting := awaited.resolve_right (fun opened => by cases shows.idle.symm.trans opened.2)
          rw [shows.isFrame]
          exact shows.awaited waiting

@[simp] theorem respond_h265 (depack : VideoDepacketizer) (event : Event) :
    (depack.respond event).1.h265 = depack.h265 := by
  cases event with
  | none => rfl
  | some packet => exact consume_h265 depack packet.payload packet.marker packet.ptsUsec

/-- The state after some events, and the frames shown meanwhile. -/
def respondAll (depack : VideoDepacketizer) : List Event → VideoDepacketizer × List Frame
  | [] => (depack, [])
  | event :: rest =>
      (((depack.respond event).1.respondAll rest).1,
        (depack.respond event).2.toList ++ ((depack.respond event).1.respondAll rest).2)

theorem Tracks.respondAll {depack : VideoDepacketizer} {history : List Event} (tracks : Tracks depack history)
    (events : List Event) :
    Tracks (depack.respondAll events).1 (history ++ events) ∧ (depack.respondAll events).1.h265 = depack.h265 := by
  induction events generalizing depack history with
  | nil =>
      rw [List.append_nil]
      exact ⟨tracks, rfl⟩
  | cons event rest inductionHypothesis =>
      obtain ⟨later, same⟩ := inductionHypothesis (tracks.respond event).1
      rw [List.append_assoc] at later
      exact ⟨later, same.trans (respond_h265 depack event)⟩

theorem Tracks.keyed_cons {depack : VideoDepacketizer} {history : List Event} (tracks : Tracks depack history)
    {event : Event} (waits : depack.awaitingKeyframe = true ∨ Invalidates depack event) {rest : List Event}
    (later : (depack.respond event).1.awaitingKeyframe = true →
      ∀ frame ∈ ((depack.respond event).1.respondAll rest).2.head?, Keyed depack.h265 frame) :
    ∀ frame ∈ (depack.respondAll (event :: rest)).2.head?, Keyed depack.h265 frame := by
  obtain ⟨stays, shownKey⟩ := tracks.awaits waits
  rw [VideoDepacketizer.respondAll]
  cases shown : (depack.respond event).2 with
  | none =>
      rw [Option.toList_none, List.nil_append]
      exact later (stays shown)
  | some frame =>
      intro first isFirst
      cases isFirst
      exact ((tracks.respond event).2 frame shown).keyed (shownKey frame shown)

theorem Tracks.keyed_of_awaiting {depack : VideoDepacketizer} {history : List Event} (tracks : Tracks depack history)
    (waits : depack.awaitingKeyframe = true) (events : List Event) :
    ∀ frame ∈ (depack.respondAll events).2.head?, Keyed depack.h265 frame := by
  induction events generalizing depack history with
  | nil =>
      intro frame impossible
      cases impossible
  | cons event rest inductionHypothesis =>
      refine tracks.keyed_cons (Or.inl waits) (fun stays => ?_)
      have later := inductionHypothesis (tracks.respond event).1 stays
      rw [respond_h265] at later
      exact later

/-- From an invalidation on, the first frame that is shown is a keyframe. -/
theorem Tracks.keyed {depack : VideoDepacketizer} {history : List Event} (tracks : Tracks depack history)
    {event : Event} (invalidates : Invalidates depack event) (rest : List Event) :
    ∀ frame ∈ (depack.respondAll (event :: rest)).2.head?, Keyed depack.h265 frame := by
  refine tracks.keyed_cons (Or.inr invalidates) (fun stays => ?_)
  have later := (tracks.respond event).1.keyed_of_awaiting stays rest
  rw [respond_h265] at later
  exact later

/-! ## Calls with a borrowed buffer -/

/-- A call of the depacketizer.  The range lies inside the buffer. -/
inductive Call where
  | onGap
  | feed (data : List UInt8) (off len : Nat) (inside : off + len ≤ data.length) (marker : Bool) (ptsUsec : Int)

def Call.event : Call → Event
  | .onGap => none
  | .feed data off len _ marker ptsUsec => some ⟨slice data off len, marker, ptsUsec⟩

/-- The same call with a buffer that holds the payload and nothing else. -/
def Call.alone : Call → Call
  | .onGap => .onGap
  | .feed data off len inside marker ptsUsec =>
      .feed (slice data off len) 0 len (by rw [slice_length _ _ _ inside, Nat.zero_add]) marker ptsUsec

def perform (depack : VideoDepacketizer) : Call → Checked (VideoDepacketizer × Option Frame)
  | .onGap => pure (depack.onGap, none)
  | .feed data off len _ marker ptsUsec => depack.feed data off len marker ptsUsec

def performAll (depack : VideoDepacketizer) : List Call → Checked (VideoDepacketizer × List Frame)
  | [] => pure (depack, [])
  | call :: rest => do
      let (next, shown) ← depack.perform call
      let (last, frames) ← next.performAll rest
      pure (last, shown.toList ++ frames)

theorem perform_eq (depack : VideoDepacketizer) (call : Call) :
    depack.perform call = .ok (depack.respond call.event) := by
  cases call with
  | onGap => rfl
  | feed data off len inside marker ptsUsec => exact feed_eq_consume depack data off len inside marker ptsUsec

theorem performAll_eq (depack : VideoDepacketizer) (calls : List Call) :
    depack.performAll calls = .ok (depack.respondAll (calls.map Call.event)) := by
  induction calls generalizing depack with
  | nil => rfl
  | cons call rest inductionHypothesis =>
      rw [performAll, perform_eq, ok_bind]
      simp only [inductionHypothesis]
      rfl

theorem event_alone (call : Call) : call.alone.event = call.event := by
  cases call with
  | onGap => rfl
  | feed data off len inside marker ptsUsec =>
      have whole := slice_all (slice data off len)
      rw [slice_length _ _ _ inside] at whole
      exact congrArg (fun payload => some (VideoPacket.mk payload marker ptsUsec)) whole

/-- The buffer that a frame is assembled in has its limit while a payload is
added, and not only after the call. -/
def Bounded (depack : VideoDepacketizer) (event : Event) : Prop :=
  depack.frame.length ≤ MAX_FRAME_BYTES ∧
    ∀ packet ∈ event, (depack.assembled packet).frame.length ≤ MAX_FRAME_BYTES

/-- Any calls at all are survived.  A call reads nothing outside its range and
keeps the limit of the buffer, a frame is built from the end of the history in
the way of the format, and after an invalidation the next frame is a keyframe. -/
theorem untrusted_input (h265 : Bool) (done : List Call) (call : Call) (later : List Call) :
    ∃ depack frames next shown, (create h265).performAll done = .ok (depack, frames) ∧
      depack.perform call = .ok (next, shown) ∧ depack.perform call.alone = .ok (next, shown) ∧
      Bounded depack call.event ∧
      (∀ frame ∈ shown, BuiltFrom h265 ((done ++ [call]).map Call.event) frame) ∧
      (Invalidates depack call.event → ∃ last following, depack.performAll (call :: later) = .ok (last, following) ∧
        ∀ frame ∈ following.head?, Keyed h265 frame) := by
  obtain ⟨tracks, sameCodec⟩ := (tracks_create h265).respondAll (done.map Call.event)
  rw [List.nil_append] at tracks
  change _ = h265 at sameCodec
  refine ⟨_, _, _, _, performAll_eq (create h265) done, perform_eq _ call, ?_, ⟨tracks.bounded, ?_⟩, ?_, ?_⟩
  · rw [perform_eq, event_alone]
    rfl
  · exact fun packet _ => (tracks.taken packet).bounded
  · have built := (tracks.respond call.event).2
    rw [sameCodec] at built
    rw [List.map_append]
    exact built
  · intro invalidates
    refine ⟨_, _, performAll_eq _ (call :: later), ?_⟩
    have keyed := tracks.keyed invalidates (later.map Call.event)
    rw [sameCodec] at keyed
    exact keyed

end VideoDepacketizer
end RtpReceiver
end MetaShare
