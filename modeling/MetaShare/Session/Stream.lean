import MetaShare.Receiver.Assembly
import MetaShare.Receiver.Arrival

namespace MetaShare
namespace Session

open Octets Rtp RtpReceiver ReorderBuffer

/-!
# The stream that a packetizer sends

The packets of a sequence of access units form one stream, numbered without
end on the sending side and modulo 2^16 on the wire.  An `Item` is a packet of
this stream as the receiver's proofs need it: its place in its access unit, and
which unit that is.  Two facts connect the two sides.  The packets on the wire
are the items, framed with consecutive sequence numbers; and consecutive items
either continue an access unit or begin the next one.
-/

/-- An access unit from the encoder, all of whose NAL units have types that the
receiver takes. -/
structure AccessUnit (h265 : Bool) where
  data : List UInt8
  ptsUsec : Int64
  accepted : ∀ nal ∈ forEachNal data, VideoDepacketizer.isSingle h265 (typeOf h265 nal) = true

theorem packetize_eq_layout (h265 : Bool) (base : PacketizerBase) (data : List UInt8) (ptsUsec : Int64) :
    packetize h265 base data ptsUsec = (layoutOf h265).packetize base data ptsUsec := by
  cases h265 <;> rfl

/-- The packets of a sequence of access units. -/
def packetizeAll {h265 : Bool} : PacketizerBase → List (AccessUnit h265) → List Packet
  | _, [] => []
  | base, unit :: rest =>
      (packetize h265 base unit.data unit.ptsUsec).1 ++
        packetizeAll (packetize h265 base unit.data unit.ptsUsec).2 rest

variable {h265 : Bool}

namespace AccessUnit

def nals (unit : AccessUnit h265) : List (List UInt8) := forEachNal unit.data

theorem acceptable (unit : AccessUnit h265) : ∀ nal ∈ unit.nals, Acceptable h265 nal :=
  fun nal member => ⟨two_le_length_of_mem_forEachNal unit.data nal member, unit.accepted nal member⟩

/-- The frame that the receiver should show for the unit. -/
def frame (unit : AccessUnit h265) (ptsUsec : Int) : Frame :=
  ⟨canonicalAnnexB unit.nals, ptsUsec, isKeyframe h265 unit.nals⟩

end AccessUnit

/-! ## Items -/

/-- A packet of the stream: the number and timestamp of its access unit, and
its place in it. -/
structure Item (h265 : Bool) where
  unit : Nat
  ts : UInt32
  place : Place h265

/-- The places of the pieces that follow `done` in an access unit. -/
def placesFrom (unit : AccessUnit h265) (done : List Piece) :
    (pieces : List Piece) → (layoutOf h265).unitPieces unit.nals = done ++ pieces → List (Place h265)
  | [], _ => []
  | piece :: rest, split =>
      ⟨unit.nals, done, piece, rest, split, unit.acceptable⟩ ::
        placesFrom unit (done ++ [piece]) rest (by rw [split, List.append_assoc, List.singleton_append])

def unitItems (number : Nat) (ts : UInt32) (unit : AccessUnit h265) : List (Item h265) :=
  (placesFrom unit [] ((layoutOf h265).unitPieces unit.nals) rfl).map (fun place => ⟨number, ts, place⟩)

/-- The items of access units numbered from `number` on. -/
def itemsFrom (base : PacketizerBase) : Nat → List (AccessUnit h265) → List (Item h265)
  | _, [] => []
  | number, unit :: rest =>
      unitItems number (base.stamp unit.ptsUsec) unit ++ itemsFrom base (number + 1) rest

namespace Item

/-- The packet of an item that is the `index`th of the stream. -/
def packet (base : PacketizerBase) (index : Nat) (item : Item h265) : Packet :=
  writeHeader base.pt item.place.marker (base.seq + UInt16.ofNat index) item.ts base.ssrc ++ item.place.payload

theorem packet_advance (base : PacketizerBase) (count index : Nat) (item : Item h265) :
    item.packet (base.advance count) index = item.packet base (count + index) := by
  simp only [packet, PacketizerBase.advance, UInt16.ofNat_add, UInt16.add_assoc]

end Item

/-- The packets of items with consecutive sequence numbers. -/
def packetsOf : PacketizerBase → List (Item h265) → List Packet
  | _, [] => []
  | base, item :: rest => item.packet base 0 :: packetsOf base.nextSeq.2 rest

/-! ## The wire carries the items -/

theorem packetsOf_append (base : PacketizerBase) (first second : List (Item h265)) :
    packetsOf base (first ++ second) =
      packetsOf base first ++ packetsOf (base.advance first.length) second := by
  induction first generalizing base with
  | nil => simp [packetsOf]
  | cons item rest inductionHypothesis =>
      simp only [List.cons_append, packetsOf, inductionHypothesis, List.length_cons,
        PacketizerBase.advance_succ]

/-- The packet with a given index. -/
theorem getElem?_packetsOf (base : PacketizerBase) (items : List (Item h265)) (index : Nat) :
    (packetsOf base items)[index]? = items[index]?.map (fun item => item.packet base index) := by
  induction items generalizing base index with
  | nil => rfl
  | cons item rest inductionHypothesis =>
      cases index with
      | zero => rfl
      | succ index =>
          have shifted := fun item : Item h265 => item.packet_advance base 1 index
          simp only [packetsOf, List.getElem?_cons_succ, inductionHypothesis]
          simp only [PacketizerBase.advance_succ, PacketizerBase.advance_zero, Nat.add_comm 1 index] at shifted
          simp only [shifted]

theorem framePieces_eq (base : PacketizerBase) (number : Nat) (ts : UInt32) (unit : AccessUnit h265)
    (done pieces : List Piece) (split : (layoutOf h265).unitPieces unit.nals = done ++ pieces) :
    (layoutOf h265).framePieces ts true base pieces =
      packetsOf base ((placesFrom unit done pieces split).map (fun place => ⟨number, ts, place⟩)) := by
  induction pieces generalizing base done with
  | nil => rfl
  | cons piece rest inductionHypothesis =>
      rw [NalLayout.framePieces, inductionHypothesis base.nextSeq.2 (done ++ [piece])
        (by rw [split, List.append_assoc, List.singleton_append])]
      simp [placesFrom, packetsOf, Item.packet, Place.marker, Place.payload]

theorem placesFrom_length (unit : AccessUnit h265) (done pieces : List Piece)
    (split : (layoutOf h265).unitPieces unit.nals = done ++ pieces) :
    (placesFrom unit done pieces split).length = pieces.length := by
  induction pieces generalizing done with
  | nil => rfl
  | cons piece rest inductionHypothesis => rw [placesFrom, List.length_cons, inductionHypothesis, List.length_cons]

/-- Timestamps do not depend on the sequence number. -/
theorem itemsFrom_advance (base : PacketizerBase) (count number : Nat) (units : List (AccessUnit h265)) :
    itemsFrom (base.advance count) number units = itemsFrom base number units := by
  induction units generalizing number with
  | nil => rfl
  | cons unit rest inductionHypothesis =>
      rw [itemsFrom, inductionHypothesis]
      rfl

/-- What the packetizer sends are the items of its access units. -/
theorem packetizeAll_eq (base : PacketizerBase) (number : Nat) (units : List (AccessUnit h265)) :
    packetizeAll base units = packetsOf base (itemsFrom base number units) := by
  induction units generalizing base number with
  | nil => rfl
  | cons unit rest inductionHypothesis =>
      have length : (unitItems number (base.stamp unit.ptsUsec) unit).length =
          ((layoutOf h265).unitPieces (forEachNal unit.data)).length := by
        rw [unitItems, List.length_map, placesFrom_length]
        rfl
      rw [packetizeAll, packetize_eq_layout, NalLayout.packetize_eq, itemsFrom, packetsOf_append, length,
        ← itemsFrom_advance base ((layoutOf h265).unitPieces (forEachNal unit.data)).length,
        ← inductionHypothesis]
      congr 1
      exact framePieces_eq base number _ unit [] _ rfl

theorem itemsFrom_append (base : PacketizerBase) (number : Nat) (first second : List (AccessUnit h265)) :
    itemsFrom base number (first ++ second) =
      itemsFrom base number first ++ itemsFrom base (number + first.length) second := by
  induction first generalizing number with
  | nil => rfl
  | cons unit rest inductionHypothesis =>
      rw [List.cons_append, itemsFrom, inductionHypothesis, itemsFrom, List.append_assoc, List.length_cons,
        Nat.add_right_comm, ← Nat.add_assoc]

theorem packetsOf_length (base : PacketizerBase) (items : List (Item h265)) :
    (packetsOf base items).length = items.length := by
  induction items generalizing base with
  | nil => rfl
  | cons item rest inductionHypothesis => rw [packetsOf, List.length_cons, inductionHypothesis, List.length_cons]

/-! ## Consecutive items -/

/-- The second item follows the first one in the stream: in the same access
unit, or as the beginning of a later one. -/
def Item.Next (first second : Item h265) : Prop :=
  (first.place.rest ≠ [] ∧ second.unit = first.unit ∧ second.ts = first.ts ∧
      second.place.done = first.place.done ++ [first.place.piece]) ∨
    (first.place.rest = [] ∧ first.unit < second.unit ∧ second.place.done = [])

/-- The first item begins an access unit. -/
def Opens (items : List (Item h265)) : Prop := ∀ item ∈ items.head?, item.place.done = []

theorem placesFrom_chain (number : Nat) (ts : UInt32) (unit : AccessUnit h265) (done pieces : List Piece)
    (split : (layoutOf h265).unitPieces unit.nals = done ++ pieces) :
    ((placesFrom unit done pieces split).map (fun place => (⟨number, ts, place⟩ : Item h265))).IsChain
      Item.Next := by
  induction pieces generalizing done with
  | nil => exact List.IsChain.nil
  | cons piece rest inductionHypothesis =>
      have later := inductionHypothesis (done ++ [piece])
        (by rw [split, List.append_assoc, List.singleton_append])
      cases rest with
      | nil => exact List.IsChain.singleton _
      | cons other rest => exact List.IsChain.cons_cons (Or.inl ⟨List.cons_ne_nil _ _, rfl, rfl, rfl⟩) later

theorem unitItems_opens (number : Nat) (ts : UInt32) (unit : AccessUnit h265) :
    Opens (unitItems number ts unit) := by
  have start : ∀ (pieces : List Piece) (split : (layoutOf h265).unitPieces unit.nals = [] ++ pieces),
      Opens ((placesFrom unit [] pieces split).map (fun place => (⟨number, ts, place⟩ : Item h265))) := by
    intro pieces split item member
    cases pieces with
    | nil => cases member
    | cons piece rest =>
        cases member
        rfl
  exact start _ rfl

theorem mem_unitItems {number : Nat} {ts : UInt32} {unit : AccessUnit h265} {item : Item h265}
    (member : item ∈ unitItems number ts unit) :
    item.unit = number ∧ item.ts = ts ∧ item.place.nals = unit.nals := by
  have nals : ∀ (done pieces : List Piece) (split : (layoutOf h265).unitPieces unit.nals = done ++ pieces),
      ∀ place ∈ placesFrom unit done pieces split, place.nals = unit.nals := by
    intro done pieces split
    induction pieces generalizing done with
    | nil =>
        intro place impossible
        cases impossible
    | cons piece rest inductionHypothesis =>
        intro place listed
        rcases List.mem_cons.mp listed with same | later
        · rw [same]
        · exact inductionHypothesis _ _ place later
  obtain ⟨place, listed, rfl⟩ := List.mem_map.mp member
  exact ⟨rfl, rfl, nals _ _ _ place listed⟩

/-- The last item of an access unit is its end. -/
theorem unitItems_closes (number : Nat) (ts : UInt32) (unit : AccessUnit h265) :
    ∀ item ∈ (unitItems number ts unit).getLast?, item.place.rest = [] := by
  have close : ∀ (done pieces : List Piece) (split : (layoutOf h265).unitPieces unit.nals = done ++ pieces),
      ∀ place ∈ (placesFrom unit done pieces split).getLast?, place.rest = [] := by
    intro done pieces split
    induction pieces generalizing done with
    | nil =>
        intro place impossible
        cases impossible
    | cons piece rest inductionHypothesis =>
        intro place last
        cases rest with
        | nil =>
            cases last
            rfl
        | cons other rest =>
            rw [placesFrom, placesFrom, List.getLast?_cons_cons] at last
            exact inductionHypothesis (done ++ [piece]) _ place last
  intro item last
  rw [unitItems, List.getLast?_map, Option.mem_map] at last
  obtain ⟨place, isLast, rfl⟩ := last
  exact close _ _ _ place isLast

theorem unit_of_mem_itemsFrom {base : PacketizerBase} {number : Nat} {units : List (AccessUnit h265)}
    {item : Item h265} (member : item ∈ itemsFrom base number units) :
    number ≤ item.unit ∧ ∃ unit, units[item.unit - number]? = some unit ∧
      item.ts = base.stamp unit.ptsUsec ∧ item.place.nals = unit.nals := by
  induction units generalizing number with
  | nil => cases member
  | cons unit rest inductionHypothesis =>
      rcases List.mem_append.mp member with own | later
      · obtain ⟨same, ts, nals⟩ := mem_unitItems own
        refine ⟨same.ge, unit, ?_, ts, nals⟩
        rw [same, Nat.sub_self]
        rfl
      · obtain ⟨bound, other, found, facts⟩ := inductionHypothesis later
        refine ⟨by omega, other, ?_, facts⟩
        rw [show item.unit - number = (item.unit - (number + 1)) + 1 by omega]
        exact found

theorem itemsFrom_opens (base : PacketizerBase) (number : Nat) (units : List (AccessUnit h265)) :
    Opens (itemsFrom base number units) := by
  induction units generalizing number with
  | nil =>
      intro item impossible
      cases impossible
  | cons unit rest inductionHypothesis =>
      intro item first
      rw [itemsFrom, List.head?_append] at first
      rcases Option.or_eq_some_iff.mp first with own | ⟨_, later⟩
      · exact unitItems_opens number _ unit item own
      · exact inductionHypothesis (number + 1) item later

/-- Consecutive packets of the stream continue an access unit or begin the
next one. -/
theorem itemsFrom_chain (base : PacketizerBase) (number : Nat) (units : List (AccessUnit h265)) :
    (itemsFrom base number units).IsChain Item.Next := by
  induction units generalizing number with
  | nil => exact List.IsChain.nil
  | cons unit rest inductionHypothesis =>
      refine List.isChain_append.mpr ⟨placesFrom_chain number _ unit _ _ rfl, inductionHypothesis (number + 1), ?_⟩
      intro last isLast first isFirst
      have ending := unitItems_closes number _ unit last isLast
      have opening := itemsFrom_opens base (number + 1) rest first isFirst
      have own := mem_unitItems (List.mem_of_getLast? isLast)
      have other := unit_of_mem_itemsFrom (List.mem_of_mem_head? isFirst)
      exact Or.inr ⟨ending, by omega, opening⟩

/-- The second item comes later in the stream: in no earlier access unit, and
in a later one when a unit has ended in between. -/
def Item.Later (first second : Item h265) : Prop :=
  first.unit ≤ second.unit ∧ (first.place.rest = [] → first.unit < second.unit)

theorem Item.Next.later {first second : Item h265} (next : first.Next second) : first.Later second := by
  rcases next with ⟨unfinished, same, _⟩ | ⟨_, before, _⟩
  · exact ⟨same.ge, fun finished => absurd finished unfinished⟩
  · exact ⟨before.le, fun _ => before⟩

instance : IsTrans (Item h265) Item.Later where
  trans := fun _ _ _ first second =>
    ⟨first.1.trans second.1, fun finished => (first.2 finished).trans_le second.1⟩

theorem itemsFrom_pairwise (base : PacketizerBase) (number : Nat) (units : List (AccessUnit h265)) :
    (itemsFrom base number units).Pairwise Item.Later :=
  ((itemsFrom_chain base number units).imp (fun _ _ next => next.later)).pairwise

/-! ## What the receiver reads from the wire -/

/-- The receiver has been configured for the stream. -/
structure Matches (config : Config) (h265 : Bool) (base : PacketizerBase) : Prop where
  codec : config.h265 = h265
  ssrc : config.videoSsrc = base.ssrc
  pt : config.videoPt = (base.pt &&& 0x7F).toNat
  clock : config.videoClockRate = base.clockRate.toNat
  running : base.clockRate ≠ 0

theorem Matches.rate_ne_zero {config : Config} {base : PacketizerBase} (matching : Matches config h265 base) :
    config.videoClockRate ≠ 0 := by
  rw [matching.clock]
  intro zero
  apply matching.running
  exact UInt32.toNat_inj.mp (by simpa using zero)

/-- What a packet of the stream is delivered as. -/
def Item.videoPacket (base : PacketizerBase) (item : Item h265) : VideoPacket :=
  ⟨item.place.payload, item.place.marker, usec base.clockRate.toNat item.ts.toNat⟩

theorem marker_bits (pt : UInt8) (marker : Bool) :
    ((if marker then 0x80 else 0x00) ||| (pt &&& 0x7F)) &&& 0x7F = pt &&& 0x7F ∧
      (((if marker then 0x80 else 0x00) ||| (pt &&& 0x7F)) &&& 0x80 != 0) = marker := by
  revert pt
  apply forall_of_bits
  revert marker
  decide +kernel

/-- A written header is read back. -/
theorem headerOf_writeHeader (pt : UInt8) (marker : Bool) (seq : UInt16) (ts ssrc : UInt32)
    (payload : List UInt8) :
    headerOf (writeHeader pt marker seq ts ssrc ++ payload) =
      some ⟨marker, (pt &&& 0x7F).toNat, seq.toNat, ts.toNat, ssrc, 12⟩ := by
  have bits := marker_bits pt marker
  have parsed : parseHeader (writeHeader pt marker seq ts ssrc ++ payload)
      (writeHeader pt marker seq ts ssrc ++ payload).length =
      .ok (some ⟨(((if marker then 0x80 else 0x00) ||| (pt &&& 0x7F)) &&& 0x80 != 0 : Bool),
        (((if marker then 0x80 else 0x00) ||| (pt &&& 0x7F)) &&& 0x7F : UInt8).toNat,
        word16 (seq >>> 8).toUInt8 seq.toUInt8,
        word32 (ts >>> 24).toUInt8 (ts >>> 16).toUInt8 (ts >>> 8).toUInt8 ts.toUInt8,
        UInt32.ofNat (word32 (ssrc >>> 24).toUInt8 (ssrc >>> 16).toUInt8 (ssrc >>> 8).toUInt8 ssrc.toUInt8),
        12⟩) := rfl
  rw [headerOf, parsed, bits.1, bits.2, word16_ofWord16, word32_ofWord32, word32_ofWord32, UInt32.ofNat_toNat]

theorem payload_ne_nil (place : Place h265) : place.payload ≠ [] := by
  have size := place.acceptable_piece.size
  apply List.ne_nil_of_length_pos
  rw [Place.payload]
  cases piece : place.piece with
  | whole nal =>
      rw [piece] at size
      exact Nat.lt_of_lt_of_le Nat.zero_lt_two size
  | fragment nal isFirst isLast chunk =>
      rw [Piece.payload, List.length_append, List.length_cons]
      omega

/-- The receiver takes a packet with the header of the stream for video. -/
theorem videoOf_writeHeader {config : Config} {base : PacketizerBase} (matching : Matches config h265 base)
    (marker : Bool) (seq : UInt16) (ts : UInt32) {payload : List UInt8} (filled : payload ≠ []) :
    videoOf config (writeHeader base.pt marker seq ts base.ssrc ++ payload) =
      some ⟨seq.toNat, ⟨payload, marker, usec base.clockRate.toNat ts.toNat⟩⟩ := by
  have positive := List.length_pos_of_ne_nil filled
  generalize isPacket : writeHeader base.pt marker seq ts base.ssrc ++ payload = packet
  have size : packet.length = 12 + payload.length := by
    rw [← isPacket, List.length_append]
    rfl
  have body : slice packet 12 (packet.length - 12) = payload := by
    rw [size, Nat.add_sub_cancel_left, ← isPacket]
    exact slice_append _ _
  have header : headerOf packet = _ := isPacket ▸ headerOf_writeHeader _ _ _ _ _ _
  rw [videoOf, if_neg (by omega), header]
  simp only [if_neg (show ¬ packet.length ≤ 12 by omega), matching.ssrc, matching.pt, and_self, if_true, body,
    matching.clock]

/-- The receiver takes every packet of the stream for what it is. -/
theorem videoOf_packet {config : Config} {base : PacketizerBase} (matching : Matches config h265 base)
    (index : Nat) (item : Item h265) :
    videoOf config (item.packet base index) =
      some ⟨(base.seq + UInt16.ofNat index).toNat, item.videoPacket base⟩ :=
  videoOf_writeHeader matching _ _ _ (payload_ne_nil item.place)

theorem seq_toNat (seq : UInt16) (index : Nat) :
    ((seq + UInt16.ofNat index).toNat : Int) = (seq.toNat + index) % 65536 := by
  rw [UInt16.toNat_add, UInt16.toNat_ofNat']
  omega

/-! ## A small session

The configuration below serves the concrete runs that accompany the general
results. -/

def sampleConfig : Config where
  videoSsrc := 7
  videoPt := 96
  h265 := true
  videoClockRate := 90000
  audioSsrc := 8
  audioPt := 111
  audioClockRate := 48000
  audioSink := true

theorem sampleConfig_matches (seq : UInt16) : Matches sampleConfig true (packetizer true 7 seq) where
  codec := rfl
  ssrc := rfl
  pt := (by decide : (96 : Int) = ((96 : UInt8) &&& 0x7F).toNat)
  clock := (by decide : (90000 : Int) = (90000 : UInt32).toNat)
  running := (by decide : (90000 : UInt32) ≠ 0)

/-- A clock that advances by one millisecond with every reading, and sends
that succeed. -/
def sampleEnvironment : Environment where
  elapsedRealtime count := count
  sendSucceeds _ := true

/-- The loop receives a datagram from the streamer. -/
def arrivalInput (data : List UInt8) : Input := .iteration (.packet data [] [192, 168, 0, 1] 5004)

end Session
end MetaShare
