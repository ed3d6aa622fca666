import MetaShare.Session.Reception

namespace MetaShare
namespace Session

open Octets Rtp RtpReceiver ReorderBuffer

/-!
# The lossless round trip

When every packet of a stream arrives in order, nothing is ever held back: the
deliveries are the items of the stream, one by one and without gaps.  The
depacketizer then assembles one access unit after the other, and shows each of
them at its marker.
-/

variable {h265 : Bool}

/-! ## One access unit without a gap -/

/-- Every packet of the unit passes the receiver's bound on the frame size. -/
def AccessUnit.Fits (unit : AccessUnit h265) : Prop :=
  ∀ place : Place h265, place.nals = unit.nals → place.Fits

theorem AccessUnit.fits_of_size (unit : AccessUnit h265)
    (small : (canonicalAnnexB unit.nals).length + 7 ≤ VideoDepacketizer.MAX_FRAME_BYTES) : unit.Fits := by
  intro place same
  apply place.fits_of_size
  rw [same]
  exact small

/-- A delivery of an item with nothing missing in front of it. -/
def Carries (base : PacketizerBase) (delivery : Delivery VideoPacket) (item : Item h265) : Prop :=
  delivery.gap = false ∧ delivery.value = item.videoPacket base

theorem Carries.consume {base : PacketizerBase} {delivery : Delivery VideoPacket} {item : Item h265}
    (carries : Carries base delivery item) (depack : VideoDepacketizer) :
    consumeDelivery depack delivery =
      depack.consume item.place.payload item.place.marker (item.ptsUsec base) := by
  rw [consumeDelivery, carries.1, carries.2]
  rfl

/-- What a unit adds to the frames shown. -/
def AccessUnit.shown (base : PacketizerBase) (unit : AccessUnit h265) (awaitingKeyframe : Bool) : List Frame :=
  if awaitingKeyframe = true → isKeyframe h265 unit.nals = true then [unit.streamFrame base] else []

/-- The state behind a complete unit: nothing is under assembly. -/
structure Closed (h265 : Bool) (depack : VideoDepacketizer) (awaitingKeyframe : Bool) : Prop where
  codec : depack.h265 = h265
  idle : depack.Idle
  awaiting : depack.awaitingKeyframe = awaitingKeyframe

/-- The rest of a unit, of which the pieces `done` are assembled. -/
theorem consume_rest (base : PacketizerBase) (number : Nat) (unit : AccessUnit h265) (fits : unit.Fits)
    (done pieces : List Piece) (split : (layoutOf h265).unitPieces unit.nals = done ++ pieces)
    (remaining : pieces ≠ []) (deliveries : List (Delivery VideoPacket))
    (carry : List.Forall₂ (Carries base) deliveries
      ((placesFrom unit done pieces split).map (fun place => ⟨number, base.stamp unit.ptsUsec, place⟩)))
    (depack : VideoDepacketizer) (shown : List Frame) (codec : depack.h265 = h265)
    (undamaged : depack.damaged = false)
    (state : if done = [] then depack.Idle
      else depack.InUnit (usec base.clockRate.toNat (base.stamp unit.ptsUsec).toNat) done) :
    Closed h265 (deliveries.foldl consumeStep (depack, shown)).1
        (depack.awaitingKeyframe && !isKeyframe h265 unit.nals) ∧
      (deliveries.foldl consumeStep (depack, shown)).2 = shown ++ unit.shown base depack.awaitingKeyframe := by
  induction pieces generalizing done deliveries depack with
  | nil => exact absurd rfl remaining
  | cons piece rest inductionHypothesis =>
      obtain ⟨delivery, later, own, carryRest, rfl⟩ := List.forall₂_cons_right_iff.mp carry
      let place : Place h265 := ⟨unit.nals, done, piece, rest, split, unit.acceptable⟩
      have valid := Item.ptsUsec_valid base (⟨number, base.stamp unit.ptsUsec, place⟩ : Item h265)
      have expecting : depack.Expecting (Item.ptsUsec base ⟨number, base.stamp unit.ptsUsec, place⟩) place :=
        ⟨codec, state⟩
      obtain ⟨behind, undamagedAfter, awaiting, shows⟩ :=
        VideoDepacketizer.consume_undamaged expecting valid undamaged (fits place rfl)
      have step := own.consume depack
      rw [List.foldl_cons, consumeStep, step]
      cases rest with
      | nil =>
          cases carryRest
          refine ⟨⟨behind.1, behind.2, awaiting⟩, ?_⟩
          show shown ++ (depack.consume place.payload place.marker _).2.toList = _
          rw [shows, AccessUnit.shown]
          by_cases visible : depack.awaitingKeyframe = true → isKeyframe h265 unit.nals = true
          · rw [if_pos ⟨rfl, visible⟩, if_pos visible]
            rfl
          · rw [if_neg (fun impossible => visible impossible.2), if_neg visible]
            rfl
      | cons other rest =>
          have extended : (layoutOf h265).unitPieces unit.nals = (done ++ [piece]) ++ other :: rest := by
            rw [split, List.append_assoc, List.singleton_append]
          have result := inductionHypothesis (done ++ [piece]) extended (List.cons_ne_nil _ _) later carryRest
            (depack.consume place.payload place.marker
              (Item.ptsUsec base ⟨number, base.stamp unit.ptsUsec, place⟩)).1 behind.1 undamagedAfter
            (by rw [if_neg (by simp)]; exact behind.2)
          have silent : (depack.consume place.payload place.marker
              (Item.ptsUsec base ⟨number, base.stamp unit.ptsUsec, place⟩)).2 = none := by
            rw [shows, if_neg (fun impossible => Bool.false_ne_true impossible.1)]
          have kept : (depack.consume place.payload place.marker
              (Item.ptsUsec base ⟨number, base.stamp unit.ptsUsec, place⟩)).1.awaitingKeyframe =
              depack.awaitingKeyframe := by
            rw [awaiting]
            exact Bool.and_true _
          rw [kept] at result
          rw [silent, Option.toList_none, List.append_nil]
          exact result

/-- A complete unit, from its first packet to its marker. -/
theorem consume_unit (base : PacketizerBase) (number : Nat) (unit : AccessUnit h265) (fits : unit.Fits)
    (filled : unit.nals ≠ []) (deliveries : List (Delivery VideoPacket))
    (carry : List.Forall₂ (Carries base) deliveries (unitItems number (base.stamp unit.ptsUsec) unit))
    (depack : VideoDepacketizer) (shown : List Frame) (awaitingKeyframe : Bool)
    (closed : Closed h265 depack awaitingKeyframe) :
    Closed h265 (deliveries.foldl consumeStep (depack, shown)).1
        (awaitingKeyframe && !isKeyframe h265 unit.nals) ∧
      (deliveries.foldl consumeStep (depack, shown)).2 = shown ++ unit.shown base awaitingKeyframe := by
  have remaining : (layoutOf h265).unitPieces unit.nals ≠ [] := by
    rw [← List.isEmpty_eq_false_iff, NalLayout.unitPieces_isEmpty, List.isEmpty_eq_false_iff]
    exact filled
  have result := consume_rest base number unit fits [] _ rfl remaining deliveries carry depack shown
    closed.codec closed.idle.damaged (by rw [if_pos rfl]; exact closed.idle)
  rw [closed.awaiting] at result
  exact result

/-- Complete units, one after the other, for a receiver that does not wait for
a keyframe. -/
theorem consume_units (base : PacketizerBase) (number : Nat) (units : List (AccessUnit h265))
    (fits : ∀ unit ∈ units, unit.Fits) (filled : ∀ unit ∈ units, unit.nals ≠ [])
    (deliveries : List (Delivery VideoPacket))
    (carry : List.Forall₂ (Carries base) deliveries (itemsFrom base number units))
    (depack : VideoDepacketizer) (shown : List Frame) (closed : Closed h265 depack false) :
    Closed h265 (deliveries.foldl consumeStep (depack, shown)).1 false ∧
      (deliveries.foldl consumeStep (depack, shown)).2 =
        shown ++ units.map (AccessUnit.streamFrame base) := by
  induction units generalizing number deliveries depack shown with
  | nil =>
      cases carry
      exact ⟨closed, (List.append_nil shown).symm⟩
  | cons unit rest inductionHypothesis =>
      rw [itemsFrom] at carry
      have carryOwn := List.forall₂_take_append _ _ _ carry
      have carryLater := List.forall₂_drop_append _ _ _ carry
      rw [← List.take_append_drop (unitItems number (base.stamp unit.ptsUsec) unit).length deliveries]
      generalize deliveries.take (unitItems number (base.stamp unit.ptsUsec) unit).length = own at carryOwn ⊢
      generalize deliveries.drop (unitItems number (base.stamp unit.ptsUsec) unit).length = later at carryLater ⊢
      obtain ⟨closedAfter, shownAfter⟩ := consume_unit base number unit (fits unit List.mem_cons_self)
        (filled unit List.mem_cons_self) own carryOwn depack shown false closed
      rw [List.foldl_append]
      have result := inductionHypothesis (number + 1)
        (fun other member => fits other (List.mem_cons_of_mem _ member))
        (fun other member => filled other (List.mem_cons_of_mem _ member)) later carryLater _
        (own.foldl consumeStep (depack, shown)).2 closedAfter
      refine ⟨result.1, ?_⟩
      have visible : unit.shown base false = [unit.streamFrame base] := by simp [AccessUnit.shown]
      rw [List.map_cons, ← List.singleton_append, ← visible, ← List.append_assoc, ← shownAfter]
      exact result.2

/-! ## The encoder's access units -/

/-- An access unit as an encoder emits it: NAL units of acceptable types behind
start codes of either length, small enough for the receiver. -/
structure EncodedUnit (h265 : Bool) where
  parts : List (Bool × List UInt8)
  ptsUsec : Int64
  nonempty : parts ≠ []
  wellFormed : ∀ part ∈ parts, WellFormedNal part.2
  single : ∀ part ∈ parts, VideoDepacketizer.isSingle h265 (typeOf h265 part.2) = true
  small : (canonicalAnnexB (parts.map Prod.snd)).length + 7 ≤ VideoDepacketizer.MAX_FRAME_BYTES

namespace EncodedUnit

variable (unit : EncodedUnit h265)

/-- The byte string that the packetizer is given. -/
def data : List UInt8 := annexB unit.parts

def nals : List (List UInt8) := unit.parts.map Prod.snd

theorem forEachNal_data : forEachNal unit.data = unit.nals :=
  forEachNal_annexB unit.parts unit.wellFormed

/-- The frame that the receiver should show. -/
def frame (ptsUsec : Int) : Frame :=
  ⟨canonicalAnnexB unit.nals, ptsUsec,
    unit.nals.any (fun nal => VideoDepacketizer.isIdr h265 (typeOf h265 nal))⟩

def accessUnit : AccessUnit h265 where
  data := unit.data
  ptsUsec := unit.ptsUsec
  accepted := by
    rw [unit.forEachNal_data]
    intro nal member
    obtain ⟨part, listed, rfl⟩ := List.mem_map.mp member
    exact unit.single part listed

theorem nals_accessUnit : unit.accessUnit.nals = unit.nals := unit.forEachNal_data

end EncodedUnit

/-! ## Packets of one access unit -/

/-- The marker bit of a packet. -/
def markerOf (packet : Packet) : Bool := (headerOf packet).any Header.marker

theorem markerOf_framePieces (base : PacketizerBase) (ts : UInt32) (pieces : List Piece) (filled : pieces ≠ []) :
    ((layoutOf h265).framePieces ts true base pieces).map markerOf =
      List.replicate (pieces.length - 1) false ++ [true] := by
  induction pieces generalizing base with
  | nil => exact absurd rfl filled
  | cons piece rest inductionHypothesis =>
      rw [NalLayout.framePieces, List.map_cons, markerOf, headerOf_writeHeader]
      cases rest with
      | nil => rfl
      | cons other rest =>
          rw [inductionHypothesis base.nextSeq.2 (List.cons_ne_nil _ _)]
          simp [List.replicate_succ]

/-! ## In-order delivery -/

/-- Arrivals in the order of the stream carry its items in this order. -/
theorem arrivals_in_order {config : Config} (base : PacketizerBase) (matching : Matches config h265 base)
    (items : List (Item h265)) :
    List.Forall₂ (fun arrival (item : Item h265) => arrival.packet = item.videoPacket base)
      ((packetsOf base items).filterMap (videoOf config)) items := by
  induction items generalizing base with
  | nil => exact .nil
  | cons item rest inductionHypothesis =>
      have later := inductionHypothesis base.nextSeq.2
        ⟨matching.codec, matching.ssrc, matching.pt, matching.clock, matching.running⟩
      rw [packetsOf, List.filterMap_cons, videoOf_packet matching]
      exact .cons rfl later

theorem numbering_packets {base : PacketizerBase} {arrivals : List Arrival} {items : List (Item h265)}
    (carried : List.Forall₂ (fun arrival (item : Item h265) => arrival.packet = item.videoPacket base) arrivals items)
    (offset : Int) (first : Nat) :
    List.Forall₂ (fun entry (item : Item h265) => entry.2 = item.videoPacket base)
      (numbering offset arrivals (List.range' first items.length)) items := by
  induction carried generalizing first with
  | nil => exact .nil
  | cons same _ inductionHypothesis =>
      rw [List.length_cons, List.range'_succ]
      exact .cons same (inductionHypothesis (first + 1))

theorem arrives_in_order {config : Config} {sent : List Packet} {inputs : List Input}
    (inOrder : videoDatagrams config inputs = sent) :
    Arrives config sent inputs (List.range' 0 sent.length) := by
  have all : ∀ (earlier later : List Packet), List.Forall₂
      (fun data (index : Nat) => (earlier ++ later)[index]? = some data) later
      (List.range' earlier.length later.length) := by
    intro earlier later
    induction later generalizing earlier with
    | nil => exact .nil
    | cons packet rest inductionHypothesis =>
        have next := inductionHypothesis (earlier ++ [packet])
        rw [List.append_assoc, List.singleton_append, List.length_append] at next
        rw [List.length_cons, List.range'_succ]
        refine .cons ?_ next
        rw [List.getElem?_append_right (Nat.le_refl _), Nat.sub_self]
        rfl
  rw [Arrives, inOrder]
  exact all [] sent

/-- Every packet of a stream that arrives in order is delivered in order, with
no gap announced. -/
theorem deliveries_in_order {env : Environment} {config : Config} {base : PacketizerBase}
    {items : List (Item h265)} {inputs : List Input} {after : RtpReceiver}
    (matching : Matches config h265 base)
    (inOrder : videoDatagrams config inputs = packetsOf base items)
    (ran : run env config (start config) inputs = .ok after) :
    Sound config after ∧ List.Forall₂ (Carries base) (playout after.log).2 items := by
  have arrives := arrives_in_order inOrder
  have near : Near (List.range' 0 (packetsOf base items).length) := near_range' 0 _
  obtain ⟨sound, steps, _⟩ := deliveries_of_run matching arrives near ran
  have delivered := (steps.in_order rfl (by intro next impossible; cases impossible)
    (numbering_chain _ _ _ _)).2.1
  have carried := arrivals_in_order base matching items
  rw [← inOrder, ← arrivalsOf_eq] at carried
  have packets := numbering_packets carried (offsetOf (arrivalsOf config inputs)
    (List.range' 0 (packetsOf base items).length)) 0
  rw [packetsOf_length] at delivered packets
  refine ⟨sound, ?_⟩
  rw [show (playout after.log).2 = (buffer config after).delivered from rfl, delivered]
  exact List.forall₂_map_left_iff.mpr (packets.imp (fun entry item same => ⟨rfl, same⟩))

/-! ## The round trip -/

/-- Packetizing any access units and feeding the packets in order to a fresh
receiver shows every access unit, in its canonical form.  In between the
receiver may time out, get other datagrams or be asked for keyframes.  No packet
exceeds the packet size, sequence numbers are consecutive modulo 2^16, and the
marker is set on the last packet of each unit only. -/
theorem round_trip (ssrc : UInt32) (seq : UInt16) (units : List (EncodedUnit h265))
    (config : Config) (env : Environment) (inputs : List Input)
    (matching : Matches config h265 (packetizer h265 ssrc seq))
    (ready : AudioReady config ∨ VideoOnly config inputs)
    (inOrder : videoDatagrams config inputs =
      packetizeAll (packetizer h265 ssrc seq) (units.map EncodedUnit.accessUnit)) :
    (∃ after, run env config (start config) inputs = .ok after ∧
      frames after.log = units.map (fun unit => unit.frame
        (usec config.videoClockRate ((packetizer h265 ssrc seq).stamp unit.ptsUsec).toNat))) ∧
    (∀ (index : Nat) (packet : Packet),
      (packetizeAll (packetizer h265 ssrc seq) (units.map EncodedUnit.accessUnit))[index]? = some packet →
        packet.length ≤ kMaxPacketSize ∧
          (headerOf packet).map Header.seq = some (seq + UInt16.ofNat index).toNat) ∧
    (∀ unit ∈ units, ∀ base : PacketizerBase,
      (packetize h265 base unit.data unit.ptsUsec).1.map markerOf =
        List.replicate ((packetize h265 base unit.data unit.ptsUsec).1.length - 1) false ++ [true]) := by
  have accessUnits : ∀ unit ∈ units.map EncodedUnit.accessUnit, ∃ encoded ∈ units,
      unit = EncodedUnit.accessUnit encoded := by
    intro unit member
    obtain ⟨encoded, listed, same⟩ := List.mem_map.mp member
    exact ⟨encoded, listed, same.symm⟩
  refine ⟨?_, ?_, ?_⟩
  · have rate := matching.rate_ne_zero
    obtain ⟨after, ran⟩ := run_ok env config rate inputs (start config) (sound_start config) ready
    refine ⟨after, ran, ?_⟩
    rw [packetizeAll_eq _ 0] at inOrder
    obtain ⟨sound, carry⟩ := deliveries_in_order matching inOrder ran
    have fits : ∀ unit ∈ units.map EncodedUnit.accessUnit, unit.Fits := by
      intro unit member
      obtain ⟨encoded, _, rfl⟩ := accessUnits unit member
      apply AccessUnit.fits_of_size
      rw [encoded.nals_accessUnit]
      exact encoded.small
    have filled : ∀ unit ∈ units.map EncodedUnit.accessUnit, unit.nals ≠ [] := by
      intro unit member
      obtain ⟨encoded, _, rfl⟩ := accessUnits unit member
      rw [encoded.nals_accessUnit, EncodedUnit.nals, ne_eq, List.map_eq_nil_iff]
      exact encoded.nonempty
    have shown := (consume_units _ 0 _ fits filled _ carry (.create h265) []
      ⟨rfl, VideoDepacketizer.idle_create h265, rfl⟩).2
    have content : frames after.log = (consumeAll (.create h265) (playout after.log).2).2 :=
      frames_eq matching sound
    rw [content, consumeAll, shown, List.nil_append, List.map_map]
    apply List.map_congr_left
    intro unit _
    rw [Function.comp_apply, AccessUnit.streamFrame, AccessUnit.frame, unit.nals_accessUnit, matching.clock]
    rfl
  · intro index packet found
    rw [packetizeAll_eq _ 0, getElem?_packetsOf, Option.map_eq_some_iff] at found
    obtain ⟨item, _, rfl⟩ := found
    have own : item.place.piece ∈ (layoutOf h265).unitPieces item.place.nals := by
      rw [item.place.split]
      exact List.mem_append_right _ List.mem_cons_self
    have size := (layoutOf h265).length_le_of_mem_unitPieces item.place.nals _ own
    constructor
    · rw [Item.packet, List.length_append, writeHeader_length, Place.payload]
      simp only [singleMax, kMaxPacketSize, kRtpHeaderSize] at *
      omega
    · rw [Item.packet, headerOf_writeHeader, Option.map_some]
      cases h265 <;> rfl
  · intro unit _ base
    have pieces : (layoutOf h265).unitPieces (forEachNal unit.data) ≠ [] := by
      rw [← List.isEmpty_eq_false_iff, NalLayout.unitPieces_isEmpty, List.isEmpty_eq_false_iff,
        unit.forEachNal_data, EncodedUnit.nals, ne_eq, List.map_eq_nil_iff]
      exact unit.nonempty
    rw [packetize_eq_layout, NalLayout.packetize_eq, markerOf_framePieces _ _ _ pieces,
      NalLayout.framePieces_length]

/-- A keyframe with a parameter set in front, and an inter frame behind it. -/
def sampleUnits : List (EncodedUnit true) :=
  [{ parts := [(true, [0x40, 0x01, 0x0C]), (false, [0x26, 0x01, 0xAF])]
     ptsUsec := 0
     nonempty := by decide
     wellFormed := by
       intro part member
       rcases List.mem_pair.mp member with rfl | rfl <;> exact ⟨by decide, by decide, by decide⟩
     single := by decide
     small := by decide },
   { parts := [(true, [0x02, 0x01, 0xD0])]
     ptsUsec := 11111
     nonempty := by decide
     wellFormed := by
       intro part member
       rw [List.mem_singleton.mp member]
       exact ⟨by decide, by decide, by decide⟩
     single := by decide
     small := by decide }]

/-- The sequence numbers wrap between the two access units. -/
theorem round_trip_sample :
    ∃ after, run sampleEnvironment sampleConfig (start sampleConfig)
        ((packetizeAll (packetizer true 7 65534) (sampleUnits.map EncodedUnit.accessUnit)).map arrivalInput) =
          .ok after ∧
      frames after.log =
        [⟨[0, 0, 0, 1, 0x40, 0x01, 0x0C, 0, 0, 0, 1, 0x26, 0x01, 0xAF], 0, true⟩,
          ⟨[0, 0, 0, 1, 0x02, 0x01, 0xD0], 11100, false⟩] := by
  obtain ⟨⟨after, ran, shown⟩, _⟩ := round_trip 7 65534 sampleUnits sampleConfig sampleEnvironment
    ((packetizeAll (packetizer true 7 65534) (sampleUnits.map EncodedUnit.accessUnit)).map arrivalInput)
    (sampleConfig_matches 65534) (Or.inl ⟨rfl, by decide⟩) (by decide +kernel)
  refine ⟨after, ran, shown.trans ?_⟩
  decide +kernel

end Session
end MetaShare
