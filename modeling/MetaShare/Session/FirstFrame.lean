import MetaShare.Session.RoundTrip

namespace MetaShare
namespace Session

open Octets Rtp RtpReceiver ReorderBuffer

/-!
# The first frame of a session

A fresh receiver plays out from the first packet it gets.  When that packet
continues a fragmented NAL unit, the depacketizer has nothing to continue and
gives the access unit up, whatever else of it arrives.  When the packet begins
a NAL unit inside an access unit, no sequence number reveals what is missing in
front of it, and the rest is shown as if it were the whole.
-/

variable {h265 : Bool}

/-- The packet carries a fragment other than the first one of its NAL unit. -/
def ContinuesNal (base : PacketizerBase) (units : List (AccessUnit h265)) (index : Nat) : Prop :=
  ∃ item, (itemsFrom base 0 units)[index]? = some item ∧ item.place.Continues

/-- The packet belongs to the access unit with this number and is not the first
one of it. -/
def Inside (base : PacketizerBase) (units : List (AccessUnit h265)) (index number : Nat) : Prop :=
  ∃ item, (itemsFrom base 0 units)[index]? = some item ∧ item.place.done ≠ [] ∧ item.unit = number

/-- The frames are access units of the stream, whole and in order, and the one
of which the first packet received is not the first is not among them. -/
def FirstFrameWhole (base : PacketizerBase) (units : List (AccessUnit h265)) (indices : List Nat)
    (shown : List Frame) : Prop :=
  ∃ numbers : List Nat, numbers.Pairwise (· < ·) ∧
    List.Forall₂ (fun frame (number : Nat) => ∃ unit, units[number]? = some unit ∧
      frame = unit.streamFrame base) shown numbers ∧
    ∀ index ∈ indices.head?, ∀ number, Inside base units index number → number ∉ numbers

/-! ## An access unit whose beginning was missed -/

/-- What is known after some deliveries when the first one continues a NAL unit
of this access unit: it stays damaged up to its end, and is never shown. -/
structure Missed (base : PacketizerBase) (items : List (Item h265)) (offset : Int) (unit : Nat)
    (deliveries : List (Delivery VideoPacket)) (shown : List Nat) : Prop where
  followed : Followed base items offset deliveries shown
  hidden : ∀ index ∈ shown, ∀ item : Item h265, items[index]? = some item → item.unit ≠ unit
  spoilt : ∀ last ∈ deliveries.getLast?, ∀ (index : Nat) (item : Item h265), items[index]? = some item →
    last.key = index + offset →
      unit ≤ item.unit ∧ (item.unit = unit → item.place.rest ≠ [] →
        (consumeAll (.create h265) deliveries).1.damaged = true)

/-- The packets of one access unit have one timestamp. -/
theorem ptsUsec_of_unit {base : PacketizerBase} {units : List (AccessUnit h265)} {first second : Item h265}
    (firstMember : first ∈ itemsFrom base 0 units) (secondMember : second ∈ itemsFrom base 0 units)
    (same : second.unit = first.unit) : second.ptsUsec base = first.ptsUsec base := by
  obtain ⟨_, unit, found, ts, _⟩ := unit_of_mem_itemsFrom firstMember
  obtain ⟨_, other, foundOther, tsOther, _⟩ := unit_of_mem_itemsFrom secondMember
  rw [same, found] at foundOther
  cases foundOther
  rw [Item.ptsUsec, tsOther, ← ts, Item.ptsUsec]

/-- Inside a damaged access unit the next packet finds damage, whether or not
packets in between are missing. -/
theorem spoilt_prepare {depack : VideoDepacketizer} {base : PacketizerBase} {item : Item h265} {done : List Piece}
    (inUnit : depack.InUnit (item.ptsUsec base) done) (damaged : depack.damaged = true) (gap : Bool) :
    ((if gap then depack.onGap else depack).prepare (item.ptsUsec base)).damaged = true := by
  cases gap with
  | false =>
      have unchanged := VideoDepacketizer.prepare_of_framePts inUnit.framePts inUnit.pendingGap
      exact (congrArg VideoDepacketizer.damaged unchanged).trans damaged
  | true => exact VideoDepacketizer.prepare_damaged_of_pendingGap _ rfl

/-- One more delivery behind the first one. -/
theorem Missed.concat {base : PacketizerBase} {units : List (AccessUnit h265)} {offset : Int} {unit : Nat}
    {deliveries : List (Delivery VideoPacket)} {shown : List Nat}
    (missed : Missed base (itemsFrom base 0 units) offset unit deliveries shown)
    {delivery : Delivery VideoPacket} {index : Nat} {item : Item h265}
    (found : (itemsFrom base 0 units)[index]? = some item)
    (key : delivery.key = index + offset) (value : delivery.value = item.videoPacket base)
    (follows : ∀ last ∈ deliveries.getLast?, Buffer.Follows last delivery ∧
      Delivered base (itemsFrom base 0 units) offset last.key last.value)
    (first : deliveries = [] → delivery.gap = false ∧ item.place.Continues ∧ item.unit = unit) :
    ∃ more, Missed base (itemsFrom base 0 units) offset unit (deliveries ++ [delivery]) more := by
  obtain ⟨more, followed, new⟩ := missed.followed.concat (itemsFrom_chain base 0 units) found key value follows
    (fun nothing => ⟨(first nothing).1, Or.inr (first nothing).2.1⟩)
  -- A packet of the access unit shows nothing and leaves the damage.
  have own : unit ≤ item.unit ∧ (item.unit = unit →
      (consumeDelivery (consumeAll (.create h265) deliveries).1 delivery).2 = none ∧
        (item.place.rest ≠ [] →
          (consumeDelivery (consumeAll (.create h265) deliveries).1 delivery).1.damaged = true)) := by
    rw [consumeDelivery, value]
    cases last? : deliveries.getLast? with
    | none =>
        have nothing := List.getLast?_eq_none_iff.mp last?
        obtain ⟨unbroken, continues, isUnit⟩ := first nothing
        rw [unbroken, nothing, if_neg Bool.false_ne_true]
        refine ⟨isUnit.ge, fun _ => ?_⟩
        exact (VideoDepacketizer.consume_continuing (VideoDepacketizer.idle_create h265) rfl
          (item.ptsUsec_valid base) continues).2
    | some last =>
        obtain ⟨⟨before, _⟩, earlier, previous, foundLast, lastKey, _⟩ := follows last last?
        obtain ⟨bound, damaged⟩ := missed.spoilt last last? earlier previous foundLast lastKey
        have behind := missed.followed.behind last last? earlier previous foundLast lastKey
        obtain ⟨inside, isPrevious⟩ := List.getElem?_eq_some_iff.mp foundLast
        obtain ⟨within, isItem⟩ := List.getElem?_eq_some_iff.mp found
        have order := List.pairwise_iff_getElem.mp (itemsFrom_pairwise base 0 units) earlier index inside within
          (by omega)
        rw [isPrevious, isItem] at order
        refine ⟨bound.trans order.1, fun isUnit => ?_⟩
        have previousUnit : previous.unit = unit := le_antisymm (isUnit ▸ order.1) bound
        have unfinished : previous.place.rest ≠ [] := by
          intro finished
          have past := order.2 finished
          omega
        have inUnit := behind.2
        rw [if_neg unfinished, ← ptsUsec_of_unit (List.mem_of_getElem? foundLast) (List.mem_of_getElem? found)
          (isUnit.trans previousUnit.symm)] at inUnit
        exact VideoDepacketizer.consume_spoilt _ item.place
          (spoilt_prepare inUnit (damaged previousUnit unfinished) delivery.gap)
  refine ⟨more, followed, ?_, ?_⟩
  · intro other isShown another foundOther isUnit
    rcases new other isShown with old | ⟨isNew, shows⟩
    · exact missed.hidden other old another foundOther isUnit
    · rw [isNew, found] at foundOther
      cases foundOther
      exact shows (own.2 isUnit).1
  · intro last isLast other another foundOther lastKey
    rw [List.getLast?_concat] at isLast
    cases isLast
    have same : other = index := by omega
    rw [same, found] at foundOther
    cases foundOther
    rw [consumeAll_concat]
    exact ⟨own.1, fun isUnit => (own.2 isUnit).2⟩

/-- Whatever is delivered behind a first packet that continues a NAL unit, the
access unit of this packet is not shown. -/
theorem missed_of_deliveries {base : PacketizerBase} {units : List (AccessUnit h265)} (offset : Int) (unit : Nat)
    (deliveries : List (Delivery VideoPacket)) (follows : deliveries.IsChain Buffer.Follows)
    (known : ∀ delivery ∈ deliveries,
      Delivered base (itemsFrom base 0 units) offset delivery.key delivery.value)
    (first : ∀ delivery ∈ deliveries.head?, delivery.gap = false ∧
      ∀ (index : Nat) (item : Item h265), (itemsFrom base 0 units)[index]? = some item →
        delivery.key = index + offset → item.place.Continues ∧ item.unit = unit) :
    ∃ shown, Missed base (itemsFrom base 0 units) offset unit deliveries shown := by
  induction deliveries using List.reverseRecOn with
  | nil =>
      refine ⟨[], .nil base _ offset, ?_, ?_⟩
      all_goals
        intro last impossible
        cases impossible
  | append_singleton deliveries delivery inductionHypothesis =>
      have parts := List.isChain_append.mp follows
      obtain ⟨shown, missed⟩ := inductionHypothesis parts.1
        (fun other member => known other (List.mem_append_left _ member)) (by
          intro other isFirst
          apply first other
          rw [List.head?_append, isFirst]
          rfl)
      obtain ⟨index, item, found, key, value⟩ := known delivery (List.mem_append_right _ List.mem_cons_self)
      exact missed.concat found key value
        (fun last isLast => ⟨parts.2.2 last isLast delivery rfl,
          known last (List.mem_append_left _ (List.mem_of_getLast? isLast))⟩) (by
          intro nothing
          obtain ⟨unbroken, continues⟩ := first delivery (by rw [nothing]; rfl)
          exact ⟨unbroken, continues index item found key⟩)

/-! ## The first packet decides -/

/-- Whatever the network does with the packets of a stream: if the first packet
that reaches a fresh receiver is the first one of its access unit, or continues
a fragmented NAL unit, then only whole access units are shown, and not the one
whose beginning was missed. -/
theorem first_frame_whole (ssrc : UInt32) (seq : UInt16) (units : List (AccessUnit h265))
    (config : Config) (env : Environment) (inputs : List Input) (indices : List Nat) (after : RtpReceiver)
    (matching : Matches config h265 (packetizer h265 ssrc seq))
    (arrives : Arrives config (packetizeAll (packetizer h265 ssrc seq) units) inputs indices)
    (near : Near indices)
    (first : ∀ index ∈ indices.head?, BeginsUnit (packetizer h265 ssrc seq) units index ∨
      ContinuesNal (packetizer h265 ssrc seq) units index)
    (ran : run env config (start config) inputs = .ok after) :
    FirstFrameWhole (packetizer h265 ssrc seq) units indices (frames after.log) := by
  generalize packetizer h265 ssrc seq = base at *
  rw [packetizeAll_eq base 0] at arrives
  obtain ⟨sound, steps, known⟩ := deliveries_of_run matching arrives near ran
  have head := first_delivery (arrives.arrivals matching) steps
  -- The deliveries begin with the first packet received.
  have begins : ∀ delivery ∈ (buffer config after).delivered.head?, delivery.gap = false ∧
      ∀ (index : Nat) (item : Item h265), (itemsFrom base 0 units)[index]? = some item →
        delivery.key = index + offsetOf (arrivalsOf config inputs) indices → index ∈ indices.head? := by
    intro delivery isFirst
    refine ⟨sound.wellFormed.first delivery isFirst, ?_⟩
    intro index item found key
    obtain ⟨other, isHead, sameKey⟩ := head delivery isFirst
    have same : index = other := by omega
    exact same ▸ isHead
  rw [frames_eq matching sound]
  by_cases missed : ∃ index ∈ indices.head?, ContinuesNal base units index
  · obtain ⟨index, isHead, item, found, continues⟩ := missed
    obtain ⟨shown, missed⟩ := missed_of_deliveries _ item.unit (buffer config after).delivered
      sound.wellFormed.chain known (by
        intro delivery isFirst
        obtain ⟨unbroken, own⟩ := begins delivery isFirst
        refine ⟨unbroken, ?_⟩
        intro other another foundOther key
        cases (own other another foundOther key).symm.trans isHead
        rw [found] at foundOther
        cases foundOther
        exact ⟨continues, rfl⟩)
    obtain ⟨numbers, ordered, shows, origin⟩ := units_of_shown missed.followed.frames missed.followed.increasing
    refine ⟨numbers, ordered, shows, ?_⟩
    rintro other isOther number ⟨another, foundOther, _, isNumber⟩ member
    obtain ⟨end', isShown, last, foundLast, isUnit⟩ := origin number member
    cases isOther.symm.trans isHead
    rw [found] at foundOther
    cases foundOther
    exact missed.hidden end' isShown last foundLast (isUnit.trans isNumber.symm)
  · have opens : ∀ index ∈ indices.head?, BeginsUnit base units index := by
      intro index isHead
      exact (first index isHead).resolve_right (fun continues => missed ⟨index, isHead, continues⟩)
    obtain ⟨shown, followed⟩ := followed_of_deliveries _ (itemsFrom_chain base 0 units)
      (buffer config after).delivered sound.wellFormed.chain known (by
        intro delivery isFirst
        obtain ⟨unbroken, own⟩ := begins delivery isFirst
        refine ⟨unbroken, ?_⟩
        intro index item found key
        exact (opens index (own index item found key)).opens found)
    obtain ⟨numbers, ordered, shows, _⟩ := units_of_shown followed.frames followed.increasing
    refine ⟨numbers, ordered, shows, ?_⟩
    rintro index isHead number ⟨item, found, inside, _⟩
    exact absurd ((opens index isHead).opens found) inside

/-! ## A stream that is joined late -/

theorem unitItems_pieces (number : Nat) (ts : UInt32) (unit : AccessUnit h265) :
    (unitItems number ts unit).map (fun item => item.place.piece) = (layoutOf h265).unitPieces unit.nals := by
  have pieces : ∀ (done pieces : List Piece) (split : (layoutOf h265).unitPieces unit.nals = done ++ pieces),
      (placesFrom unit done pieces split).map Place.piece = pieces := by
    intro done pieces split
    induction pieces generalizing done with
    | nil => rfl
    | cons piece rest inductionHypothesis => rw [placesFrom, List.map_cons, inductionHypothesis]
  rw [unitItems, List.map_map]
  exact pieces [] _ rfl

theorem length_unitItems (number : Nat) (ts : UInt32) (unit : AccessUnit h265) :
    (unitItems number ts unit).length = ((layoutOf h265).unitPieces unit.nals).length := by
  rw [← unitItems_pieces number ts, List.length_map]

theorem continuesNal_of_pieces {base : PacketizerBase} {unit : AccessUnit h265} {rest : List (AccessUnit h265)}
    {index : Nat} {nal chunk : List UInt8} {isLast : Bool}
    (fragment : ((layoutOf h265).unitPieces unit.nals)[index]? = some (.fragment nal false isLast chunk)) :
    ContinuesNal base (unit :: rest) index := by
  rw [← unitItems_pieces 0 (base.stamp unit.ptsUsec), List.getElem?_map, Option.map_eq_some_iff] at fragment
  obtain ⟨item, found, isPiece⟩ := fragment
  obtain ⟨inside, _⟩ := List.getElem?_eq_some_iff.mp found
  refine ⟨item, ?_, nal, isLast, chunk, isPiece⟩
  rw [itemsFrom, List.getElem?_append_left inside]
  exact found

theorem videoDatagrams_arrivalInput {config : Config} {data : List UInt8} (taken : (videoOf config data).isSome)
    (inputs : List Input) :
    videoDatagrams config (arrivalInput data :: inputs) = data :: videoDatagrams config inputs := by
  simp [videoDatagrams, arrivalInput, taken]

/-- A selection of the packets, one by one. -/
def selection (sent : List Packet) (indices : List Nat) : List Input :=
  (indices.filterMap (fun index => sent[index]?)).map arrivalInput

theorem arrives_selection {config : Config} {base : PacketizerBase} (matching : Matches config h265 base)
    (items : List (Item h265)) (indices : List Nat) (inside : ∀ index ∈ indices, index < items.length) :
    Arrives config (packetsOf base items) (selection (packetsOf base items) indices) indices := by
  induction indices with
  | nil => exact .nil
  | cons index rest inductionHypothesis =>
      have within := inside index List.mem_cons_self
      have later := inductionHypothesis (fun other member => inside other (List.mem_cons_of_mem _ member))
      have found : (packetsOf base items)[index]? = some (items[index].packet base index) := by
        rw [getElem?_packetsOf, List.getElem?_eq_getElem within]
        rfl
      have taken : (videoOf config (items[index].packet base index)).isSome := by
        rw [videoOf_packet matching]
        rfl
      rw [Arrives, selection, List.filterMap_cons, found, List.map_cons, videoDatagrams_arrivalInput taken]
      exact .cons found later

/-- A NAL unit that takes two fragments. -/
def fragmentedNal : List UInt8 := 0x26 :: 0x01 :: List.replicate 1500 0xAF

theorem wellFormed_fragmentedNal : WellFormedNal fragmentedNal where
  size := by decide +kernel
  noStartCode startCode := by
    have zero : (0 : UInt8) ∈ fragmentedNal := startCode.subset List.mem_cons_self
    exact absurd zero (by decide +kernel)
  lastNonzero := by decide +kernel

theorem pieces_fragmentedNal : h265Layout.unitPieces [fragmentedNal] =
    [.fragment fragmentedNal true false (List.replicate 1385 0xAF),
      .fragment fragmentedNal false true (List.replicate 115 0xAF)] := by
  decide +kernel

/-- A keyframe in two fragments, and a small keyframe. -/
def fragmentedUnits : List (EncodedUnit true) :=
  [{ parts := [(true, fragmentedNal)]
     ptsUsec := 0
     nonempty := by decide
     wellFormed := by
       intro part member
       rw [List.mem_singleton.mp member]
       exact wellFormed_fragmentedNal
     single := by decide
     small := by decide +kernel },
   { parts := [(true, [0x26, 0x01, 0xAF])]
     ptsUsec := 11111
     nonempty := by decide
     wellFormed := by
       intro part member
       rw [List.mem_singleton.mp member]
       exact ⟨by decide, by decide, by decide⟩
     single := by decide
     small := by decide }]

/-- The first fragment of the stream is lost. -/
theorem first_frame_whole_sample :
    ∃ after, run sampleEnvironment sampleConfig (start sampleConfig)
        (selection (packetizeAll (packetizer true 7 65535) (fragmentedUnits.map EncodedUnit.accessUnit)) [1, 2]) =
          .ok after ∧
      FirstFrameWhole (packetizer true 7 65535) (fragmentedUnits.map EncodedUnit.accessUnit) [1, 2]
        (frames after.log) := by
  have fragments : (layoutOf true).unitPieces fragmentedUnits[0].accessUnit.nals =
      [.fragment fragmentedNal true false (List.replicate 1385 0xAF),
        .fragment fragmentedNal false true (List.replicate 115 0xAF)] :=
    (congrArg (layoutOf true).unitPieces (fragmentedUnits[0].nals_accessUnit)).trans pieces_fragmentedNal
  have whole : (layoutOf true).unitPieces fragmentedUnits[1].accessUnit.nals = [.whole [0x26, 0x01, 0xAF]] := by
    decide +kernel
  have items : itemsFrom (packetizer true 7 65535) 0 (fragmentedUnits.map EncodedUnit.accessUnit) =
      unitItems 0 _ fragmentedUnits[0].accessUnit ++ (unitItems 1 _ fragmentedUnits[1].accessUnit ++ []) := rfl
  have long : (itemsFrom (packetizer true 7 65535) 0
      (fragmentedUnits.map EncodedUnit.accessUnit)).length = 3 := by
    rw [items, List.length_append, List.length_append, length_unitItems, length_unitItems, fragments, whole]
    rfl
  obtain ⟨after, ran⟩ := run_ok sampleEnvironment sampleConfig (by decide)
    (selection (packetizeAll (packetizer true 7 65535) (fragmentedUnits.map EncodedUnit.accessUnit)) [1, 2])
    (start sampleConfig) (sound_start sampleConfig) (Or.inl ⟨rfl, by decide⟩)
  have arrives : Arrives sampleConfig
      (packetizeAll (packetizer true 7 65535) (fragmentedUnits.map EncodedUnit.accessUnit))
      (selection (packetizeAll (packetizer true 7 65535) (fragmentedUnits.map EncodedUnit.accessUnit)) [1, 2])
      [1, 2] := by
    rw [packetizeAll_eq _ 0]
    apply arrives_selection (sampleConfig_matches 65535)
    rw [long]
    decide
  refine ⟨after, ran, first_frame_whole 7 65535 _ sampleConfig sampleEnvironment _ [1, 2] after
    (sampleConfig_matches 65535) arrives (by decide) ?_ ran⟩
  intro index isHead
  cases isHead
  exact Or.inr (continuesNal_of_pieces (congrArg (·[1]?) fragments))

/-- The parameter set in front of the first keyframe is lost, and the rest of
the access unit is shown as a keyframe. -/
theorem first_frame_truncated :
    ∃ after, run sampleEnvironment sampleConfig (start sampleConfig)
        (selection (packetizeAll (packetizer true 7 65535) (sampleUnits.map EncodedUnit.accessUnit)) [1]) =
          .ok after ∧
      Arrives sampleConfig (packetizeAll (packetizer true 7 65535) (sampleUnits.map EncodedUnit.accessUnit))
        (selection (packetizeAll (packetizer true 7 65535) (sampleUnits.map EncodedUnit.accessUnit)) [1]) [1] ∧
      frames after.log = [⟨[0, 0, 0, 1, 0x26, 0x01, 0xAF], 0, true⟩] ∧
      ¬ FirstFrameWhole (packetizer true 7 65535) (sampleUnits.map EncodedUnit.accessUnit) [1]
        (frames after.log) := by
  have shown : (run sampleEnvironment sampleConfig (start sampleConfig)
      (selection (packetizeAll (packetizer true 7 65535) (sampleUnits.map EncodedUnit.accessUnit)) [1])).toOption.map
        (fun after => frames after.log) = some [⟨[0, 0, 0, 1, 0x26, 0x01, 0xAF], 0, true⟩] := by
    decide +kernel
  cases ran : run sampleEnvironment sampleConfig (start sampleConfig)
      (selection (packetizeAll (packetizer true 7 65535) (sampleUnits.map EncodedUnit.accessUnit)) [1]) with
  | error thrown =>
      rw [ran] at shown
      cases shown
  | ok after =>
      rw [ran] at shown
      have isShown : frames after.log = [⟨[0, 0, 0, 1, 0x26, 0x01, 0xAF], 0, true⟩] := Option.some.inj shown
      refine ⟨after, rfl, by unfold Arrives; decide +kernel, isShown, ?_⟩
      rw [isShown]
      rintro ⟨numbers, _, shows, _⟩
      have differs : ∀ unit ∈ sampleUnits.map EncodedUnit.accessUnit,
          (⟨[0, 0, 0, 1, 0x26, 0x01, 0xAF], 0, true⟩ : Frame) ≠ unit.streamFrame (packetizer true 7 65535) := by
        decide +kernel
      cases shows with
      | cons own _ =>
          obtain ⟨unit, found, same⟩ := own
          exact differs unit (List.mem_of_getElem? found) same

end Session
end MetaShare
