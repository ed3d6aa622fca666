import MetaShare.Receiver.Expiry
import MetaShare.Receiver.Nack
import MetaShare.Session.RoundTrip

namespace MetaShare
namespace Session

open Octets Rtp RtpReceiver ReorderBuffer

/-!
# After an outage

When many packets in a row are lost, the receiver unwraps the next one to the
closest number.  As long as that lies ahead, the buffer takes what follows, and
once it has waited for the repairs it hands everything on.  The access unit
behind the gap may be given up, but its marker ends the damage, and the next
keyframe is shown.  An outage of at least 32767 packets, modulo 2^16, moves the
numbers behind the playout point instead, and nothing that arrives is taken.
-/

variable {h265 : Bool}

/-! ## What a suffix of the deliveries shows -/

theorem foldl_consumeStep (deliveries : List (Delivery VideoPacket)) (depack : VideoDepacketizer)
    (shown : List Frame) :
    deliveries.foldl consumeStep (depack, shown) =
      ((consumeAll depack deliveries).1, shown ++ (consumeAll depack deliveries).2) := by
  induction deliveries using List.reverseRecOn with
  | nil => simp [consumeAll]
  | append_singleton deliveries delivery inductionHypothesis =>
      rw [List.foldl_append, inductionHypothesis, consumeAll_concat]
      simp [consumeStep]

theorem consumeAll_append (depack : VideoDepacketizer) (early late : List (Delivery VideoPacket)) :
    consumeAll depack (early ++ late) =
      ((consumeAll (consumeAll depack early).1 late).1,
        (consumeAll depack early).2 ++ (consumeAll (consumeAll depack early).1 late).2) := by
  rw [consumeAll, List.foldl_append, ← consumeAll, foldl_consumeStep]

/-- What has been shown stays shown. -/
theorem shown_prefix {depack : VideoDepacketizer} {early all : List (Delivery VideoPacket)}
    (begins : early <+: all) : (consumeAll depack early).2 <+: (consumeAll depack all).2 := by
  obtain ⟨late, rfl⟩ := begins
  rw [consumeAll_append]
  exact List.prefix_append _ _

/-- A keyframe whose packets directly follow a marker is shown. -/
theorem keyframe_shown {base : PacketizerBase} {number : Nat} {unit : AccessUnit h265} (fits : unit.Fits)
    (keyframe : isKeyframe h265 unit.nals = true) {depack : VideoDepacketizer} (codec : depack.h265 = h265)
    {marked : Delivery VideoPacket} (marker : marked.value.marker = true)
    {deliveries : List (Delivery VideoPacket)}
    (carry : List.Forall₂ (Carries base) deliveries (unitItems number (base.stamp unit.ptsUsec) unit)) :
    (consumeAll depack (marked :: deliveries)).2 =
      (consumeDelivery depack marked).2.toList ++ [unit.streamFrame base] := by
  have filled : unit.nals ≠ [] := by
    intro nothing
    rw [nothing] at keyframe
    cases keyframe
  have ended : (consumeDelivery depack marked).1.Idle := by
    rw [consumeDelivery, marker]
    exact VideoDepacketizer.consume_marker _ _ _
  have closed : Closed h265 (consumeDelivery depack marked).1 (consumeDelivery depack marked).1.awaitingKeyframe :=
    ⟨(consumeDelivery_h265 depack marked).trans codec, ended, rfl⟩
  have result := (consume_unit base number unit fits filled deliveries carry _ [] _ closed).2
  have visible : unit.shown base (consumeDelivery depack marked).1.awaitingKeyframe = [unit.streamFrame base] :=
    if_pos (fun _ => keyframe)
  rw [visible, List.nil_append] at result
  have split := consumeAll_append depack [marked] deliveries
  rw [List.singleton_append] at split
  rw [split]
  exact congrArg ((consumeDelivery depack marked).2.toList ++ ·) result

/-- A sound receiver that was handed a marked packet and every packet of a
keyframe behind it has shown the keyframe. -/
theorem keyframe_behind_marker {config : Config} {base : PacketizerBase} (matching : Matches config h265 base)
    {after : RtpReceiver} (sound : Sound config after) {unit : AccessUnit h265} (fits : unit.Fits)
    (keyframe : isKeyframe h265 unit.nals = true) {early later : List (Delivery VideoPacket)}
    {marked : Delivery VideoPacket} (marker : marked.value.marker = true)
    (split : (buffer config after).delivered = early ++ marked :: later) (number : Nat)
    (successors : ∀ (index : Nat) (item : Item h265),
      (unitItems number (base.stamp unit.ptsUsec) unit)[index]? = some item →
        ∃ gap, ⟨gap, marked.key + 1 + index, item.videoPacket base⟩ ∈ (buffer config after).delivered) :
    ∃ shown, frames after.log = (consumeAll (.create h265) early).2 ++ shown ∧
      unit.streamFrame base ∈ shown := by
  obtain ⟨more, isLater⟩ := sound.wellFormed.successors
    ((unitItems number (base.stamp unit.ptsUsec) unit).map (Item.videoPacket base)) split (by
      intro index value listed
      rw [List.getElem?_map, Option.map_eq_some_iff] at listed
      obtain ⟨item, found, rfl⟩ := listed
      exact successors index item found)
  have carry : List.Forall₂ (Carries base)
      (((unitItems number (base.stamp unit.ptsUsec) unit).map (Item.videoPacket base)).mapIdx
        (fun index value => ⟨false, marked.key + 1 + index, value⟩))
      (unitItems number (base.stamp unit.ptsUsec) unit) := by
    rw [List.forall₂_iff_get]
    refine ⟨by rw [List.length_mapIdx, List.length_map], ?_⟩
    intro index inDeliveries inItems
    simp [Carries]
  have content := frames_eq matching sound
  rw [split, isLater, ← List.cons_append, consumeAll_append] at content
  refine ⟨_, content, ?_⟩
  rw [consumeAll_append, keyframe_shown fits keyframe (consumeAll_h265 _ early) marker carry]
  simp

/-! ## Numbers behind the outage -/

/-- Short of half the modulus, the first packet behind an outage is unwrapped
beyond everything received. -/
theorem extendSeq_after {highestExtSeq : Int} (received : 0 ≤ highestExtSeq) (lost : Nat)
    (near : lost % 65536 ≤ 32766) :
    highestExtSeq < extendSeq highestExtSeq (lowWord (highestExtSeq + 1 + lost)).toNat ∧
      (extendSeq highestExtSeq (lowWord (highestExtSeq + 1 + lost)).toNat -
        ((lowWord (highestExtSeq + 1 + lost)).toNat : Int)) % 65536 = 0 := by
  have low := lowWord_toNat (highestExtSeq + 1 + lost)
  have unwrapped : SerialNumber.unwrap 65536 highestExtSeq ((highestExtSeq + 1 + lost) % 65536) =
      highestExtSeq + (highestExtSeq + 1 + lost - highestExtSeq).bmod (65536 : Nat) :=
    SerialNumber.unwrap_emod 65536 highestExtSeq (highestExtSeq + 1 + lost)
  rw [extendSeq, if_neg (by omega), low, unwrapped]
  have distance : highestExtSeq + 1 + (lost : Int) - highestExtSeq = (lost : Int) + 1 := by omega
  rw [distance]
  have residue : ((lost : Int) + 1).bmod (65536 : Nat) = ((lost : Int) + 1) % 65536 := by
    rw [Int.bmod_def]
    split <;> omega
  constructor
  · rw [residue]
    omega
  · rw [residue]
    omega

/-- Packets that arrive in order are numbered from the first one on. -/
theorem unwrapAll_in_order {start : UInt16} {arrivals : List Arrival} {count : Nat}
    (numbered : Numbered start arrivals (List.range' 0 count)) {highestExtSeq offset : Int}
    (first : extendSeq highestExtSeq start.toNat = offset) (beyond : highestExtSeq < offset)
    (started : 0 ≤ offset) (congruent : (offset - start.toNat) % 65536 = 0) :
    unwrapAll highestExtSeq arrivals = numbering offset arrivals (List.range' 0 count) := by
  cases count with
  | zero =>
      cases numbered
      rfl
  | succ count =>
      rw [List.range'_succ] at numbered ⊢
      obtain ⟨arrival, rest, same, later, rfl⟩ := List.forall₂_cons_right_iff.mp numbered
      have own : extendSeq highestExtSeq arrival.seq = ((0 : Nat) : Int) + offset := by
        have isStart : arrival.seq = start.toNat := by
          have below := start.toNat_lt
          omega
        rw [isStart, first]
        omega
      have raised : max highestExtSeq (((0 : Nat) : Int) + offset) = ((0 : Nat) : Int) + offset := by omega
      rw [unwrapAll, own, raised, unwrapAll_near later offset congruent 0 (by omega) (nearFrom_range' 0 count)]
      rfl

/-- Every item that arrives is among the numbered arrivals. -/
theorem numbering_of_arrivals {base : PacketizerBase} {items : List (Item h265)} {arrivals : List Arrival}
    {indices : List Nat} (known : List.Forall₂ (ArrivalOf base items) arrivals indices) (offset : Int)
    {index : Nat} (arrives : index ∈ indices) {item : Item h265} (found : items[index]? = some item) :
    ((index : Int) + offset, item.videoPacket base) ∈ numbering offset arrivals indices := by
  induction known with
  | nil => cases arrives
  | @cons arrival other arrivals indices own rest inductionHypothesis =>
      rcases List.mem_cons.mp arrives with same | later
      · obtain ⟨listed, isListed, rfl⟩ := own
        rw [← same, found] at isListed
        cases isListed
        rw [same]
        exact List.mem_cons_self
      · exact List.mem_cons_of_mem _ (inductionHypothesis later)

/-- A prefix that lacks an element ends before it. -/
theorem prefix_before {α : Type} {short early later all : List α} {element : α} (begins : short <+: all)
    (split : all = early ++ element :: later) (absent : element ∉ short) : short <+: early := by
  have other : early ++ [element] <+: all := ⟨later, by rw [split, List.append_assoc, List.singleton_append]⟩
  rcases List.prefix_or_prefix_of_prefix begins other with within | beyond
  · rcases List.prefix_concat_iff.mp within with same | shorter
    · exact absurd (by rw [same]; exact List.mem_concat_self) absent
    · exact shorter
  · exact absurd (beyond.subset List.mem_concat_self) absent

/-- A pass that begins late enough hands on whatever is held. -/
theorem handed_on {env : Environment} {config : Config} (rate : config.videoClockRate ≠ 0) (monotone : Monotone env)
    {inputs : List Input} {waited after : RtpReceiver} {last : Received}
    (ran : run env config (start config) inputs = .ok waited) (elapsed : Waited env waited)
    (passed : waited.iterate env config last = .ok after) :
    Sound config after ∧ (buffer config waited).delivered <+: (buffer config after).delivered ∧
      ∀ key value, Buffer.Accounted (buffer config waited) key value →
        ∃ gap, ⟨gap, key, value⟩ ∈ (buffer config after).delivered := by
  obtain ⟨soundAfter, expired, isExpired, released, settled, accepted⟩ :=
    (iterate_refines env config last rate (run_from_start ran).1).1 after passed
  have stamped := run_stamped rate inputs (sound_start config) (stamped_start env config) ran
  have emptied := expireEntries_overdue env config rate monotone waited.jitter waited expired
    (run_from_start ran).1 rfl (stamped.overdue elapsed) isExpired
  have grown : (buffer config expired).delivered <+: (buffer config after).delivered := by
    have offered := congrArg View.buffer accepted
    change buffer config after = _ at offered
    rw [offered]
    cases arrivalOf config last with
    | none => exact List.prefix_rfl
    | some arrival => exact (Buffer.Steps.offer _ _ .refl settled).delivered_grows
  refine ⟨soundAfter, released.delivered_grows.trans grown, ?_⟩
  intro key value accounted
  rcases released.accounted accounted with ⟨gap, handedOn⟩ | held
  · exact ⟨gap, grown.subset handedOn⟩
  · rw [buffer, emptied] at held
    cases held

/-! ## The first keyframe that directly follows a marker -/

/-- A reachable receiver, the loss of packets directly behind the highest one
received, and two keyframes behind the loss whose packets arrive in order. -/
structure Outage (env : Environment) (config : Config) (base : PacketizerBase)
    (first second : AccessUnit h265) (lost : Nat) (before more : List Input) (receiver : RtpReceiver) : Prop where
  matching : Matches config h265 base
  monotone : Monotone env
  reached : run env config (start config) before = .ok receiver
  received : 0 ≤ receiver.highestExtSeq
  continues : base.seq = lowWord (receiver.highestExtSeq + 1 + lost)
  keyframes : isKeyframe h265 first.nals = true ∧ isKeyframe h265 second.nals = true
  arrive : videoDatagrams config more = packetizeAll base [first, second]

namespace Outage

variable {env : Environment} {config : Config} {base : PacketizerBase} {first second : AccessUnit h265}
  {lost : Nat} {before more : List Input} {receiver : RtpReceiver}
  (outage : Outage env config base first second lost before more receiver)
include outage

theorem arrivals :
    List.Forall₂ (ArrivalOf base (itemsFrom base 0 [first, second])) (arrivalsOf config more)
      (List.range' 0 (itemsFrom base 0 [first, second]).length) := by
  have inOrder := outage.arrive
  rw [packetizeAll_eq base 0] at inOrder
  have arrives := arrives_in_order inOrder
  rw [packetsOf_length] at arrives
  exact arrives.arrivals outage.matching

/-- The packets behind the outage are taken under numbers beyond everything
received. -/
theorem steps (near : lost % 65536 ≤ 32766) {waited : RtpReceiver}
    (ran : run env config receiver more = .ok waited) :
    Sound config waited ∧ receiver.highestExtSeq < extendSeq receiver.highestExtSeq base.seq.toNat ∧
      Buffer.Steps (buffer config receiver)
        (numbering (extendSeq receiver.highestExtSeq base.seq.toNat) (arrivalsOf config more)
          (List.range' 0 (itemsFrom base 0 [first, second]).length)) (buffer config waited) := by
  have ahead := extendSeq_after outage.received lost near
  rw [← outage.continues] at ahead
  have received := outage.received
  obtain ⟨sound, steps, _⟩ := run_refines env config outage.matching.rate_ne_zero more receiver waited
    (run_from_start outage.reached).1 ran
  rw [unwrapAll_in_order (numbered_of_arrivals outage.arrivals) rfl ahead.1 (by omega) ahead.2] at steps
  exact ⟨sound, ahead.1, steps⟩

variable {waited after : RtpReceiver} {last : Received}

/-- After a pass that begins late enough everything that arrived behind the
outage has been handed on. -/
theorem delivered (near : lost % 65536 ≤ 32766) (ran : run env config receiver more = .ok waited)
    (elapsed : Waited env waited) (passed : waited.iterate env config last = .ok after) :
    Sound config after ∧ (buffer config receiver).delivered <+: (buffer config after).delivered ∧
      ∀ entry ∈ numbering (extendSeq receiver.highestExtSeq base.seq.toNat) (arrivalsOf config more)
          (List.range' 0 (itemsFrom base 0 [first, second]).length),
        ∃ gap, ⟨gap, entry.1, entry.2⟩ ∈ (buffer config after).delivered := by
  obtain ⟨_, ahead, steps⟩ := outage.steps near ran
  have within := (run_from_start outage.reached).1.within
  have chain := numbering_chain (extendSeq receiver.highestExtSeq base.seq.toNat) (arrivalsOf config more) 0
    (itemsFrom base 0 [first, second]).length
  have growing : (numbering (extendSeq receiver.highestExtSeq base.seq.toNat) (arrivalsOf config more)
      (List.range' 0 (itemsFrom base 0 [first, second]).length)).IsChain
        (fun earlier later => earlier.1 < later.1) := chain.imp (fun _ _ next => by omega)
  have accounted := (steps.accounted_of_onward within (Buffer.onward_of_ascending growing.pairwise (by
    intro entry member
    obtain ⟨index, _, key⟩ := mem_numbering_key member
    omega))).2
  have whole : run env config (start config) (before ++ more) = .ok waited :=
    (run_append outage.reached more).trans ran
  obtain ⟨soundAfter, grown, handedOn⟩ :=
    handed_on outage.matching.rate_ne_zero outage.monotone whole elapsed passed
  exact ⟨soundAfter, steps.delivered_grows.trans grown, fun entry member => handedOn _ _ (accounted entry member)⟩

/-- The second keyframe behind the outage is shown. -/
theorem shows_second (near : lost % 65536 ≤ 32766) (ran : run env config receiver more = .ok waited)
    (elapsed : Waited env waited) (passed : waited.iterate env config last = .ok after)
    (fits : second.Fits) :
    ∃ shown, frames after.log = frames receiver.log ++ shown ∧ second.streamFrame base ∈ shown := by
  obtain ⟨sound, begins, deliveredAll⟩ := outage.delivered near ran elapsed passed
  obtain ⟨_, ahead, _⟩ := outage.steps near ran
  generalize isOffset : extendSeq receiver.highestExtSeq base.seq.toNat = offset at deliveredAll ahead
  generalize isFirst : unitItems 0 (base.stamp first.ptsUsec) first = firstItems
  generalize isSecond : unitItems 1 (base.stamp second.ptsUsec) second = secondItems
  have items : itemsFrom base 0 [first, second] = firstItems ++ secondItems := by
    rw [itemsFrom, itemsFrom, itemsFrom, List.append_nil, isFirst, isSecond]
  have deliveredItem : ∀ (index : Nat) (item : Item h265), (firstItems ++ secondItems)[index]? = some item →
      ∃ gap, ⟨gap, index + offset, item.videoPacket base⟩ ∈ (buffer config after).delivered := by
    intro index item found
    rw [← items] at found
    refine deliveredAll (index + offset, item.videoPacket base)
      (numbering_of_arrivals outage.arrivals offset ?_ found)
    rw [List.mem_range']
    exact ⟨index, (List.getElem?_eq_some_iff.mp found).1, by omega⟩
  -- The last packet of the first keyframe is marked.
  have filled : firstItems ≠ [] := by
    intro nothing
    have pieces : ((layoutOf h265).unitPieces first.nals).isEmpty = true := by
      rw [← isFirst, unitItems, List.map_eq_nil_iff, ← List.length_eq_zero_iff, placesFrom_length] at nothing
      exact List.isEmpty_iff_length_eq_zero.mpr nothing
    have keyframe := outage.keyframes.1
    rw [NalLayout.unitPieces_isEmpty, List.isEmpty_iff] at pieces
    rw [pieces] at keyframe
    cases keyframe
  have closes := unitItems_closes 0 (base.stamp first.ptsUsec) first _
    (by rw [isFirst]; exact List.getLast?_eq_some_getLast filled)
  have size := List.length_pos_of_ne_nil filled
  obtain ⟨gap, member⟩ := deliveredItem (firstItems.length - 1) (firstItems.getLast filled) (by
    rw [List.getElem?_append_left (by omega), ← List.getLast?_eq_getElem?, List.getLast?_eq_some_getLast filled])
  obtain ⟨early, later, split⟩ := List.append_of_mem member
  have marker : ((firstItems.getLast filled).videoPacket base).marker = true := by
    change (firstItems.getLast filled).place.marker = true
    rw [Place.marker, closes]
    rfl
  obtain ⟨shown, isShown, visible⟩ := keyframe_behind_marker outage.matching sound fits outage.keyframes.2
    marker split 1 (by
      intro index item found
      obtain ⟨gap, listed⟩ := deliveredItem (firstItems.length + index) item (by
        rw [List.getElem?_append_right (Nat.le_add_right _ _), Nat.add_sub_cancel_left, ← isSecond]
        exact found)
      refine ⟨gap, ?_⟩
      have key : ((firstItems.length - 1 : Nat) : Int) + offset + 1 + index =
          ((firstItems.length + index : Nat) : Int) + offset := by omega
      rw [key]
      exact listed)
  -- What was shown before the outage comes from deliveries before that packet.
  have soundReceiver := (run_from_start outage.reached).1
  have unreached : (⟨gap, ((firstItems.length - 1 : Nat) : Int) + offset,
      (firstItems.getLast filled).videoPacket base⟩ : Delivery VideoPacket) ∉ (buffer config receiver).delivered := by
    intro old
    obtain ⟨next, position, below⟩ := soundReceiver.wellFormed.delivered_lt_next old
    have bound := soundReceiver.within.1 next position
    have low : ((firstItems.length - 1 : Nat) : Int) + offset < next := below
    omega
  have earlier : (buffer config receiver).delivered <+: early := prefix_before begins split unreached
  have grown : (consumeAll (.create h265) (buffer config receiver).delivered).2 <+:
      (consumeAll (.create h265) early).2 := shown_prefix earlier
  obtain ⟨between, isBetween⟩ := grown
  have content := frames_eq outage.matching soundReceiver
  exact ⟨between ++ shown, by rw [isShown, content, ← isBetween, List.append_assoc],
    List.mem_append_right _ visible⟩

end Outage

/-- After an outage of any length that is less than half the modulus, modulo
2^16, the second keyframe behind it is shown, once a pass of the loop begins
later than the repair budget after everything before. -/
theorem resynchronises {env : Environment} {config : Config} {base : PacketizerBase}
    {first second : AccessUnit h265} {lost : Nat} {before more : List Input} {receiver : RtpReceiver}
    (outage : Outage env config base first second lost before more receiver) (last : Received)
    (ready : AudioReady config ∨ VideoOnly config (more ++ [.iteration last]))
    (near : lost % 65536 ≤ 32766) (fits : second.Fits) :
    ∃ waited, run env config receiver more = .ok waited ∧
      (Waited env waited → ∃ after shown, waited.iterate env config last = .ok after ∧
        frames after.log = frames receiver.log ++ shown ∧ second.streamFrame base ∈ shown) := by
  have rate := outage.matching.rate_ne_zero
  obtain ⟨finish, ranAll⟩ := run_ok env config rate _ receiver (run_from_start outage.reached).1 ready
  obtain ⟨waited, after, ran, passed, _⟩ := run_split ranAll
  refine ⟨waited, ran, fun elapsed => ?_⟩
  obtain ⟨shown, content, visible⟩ := outage.shows_second near ran elapsed passed fits
  exact ⟨after, shown, passed, content, visible⟩

/-- A clock that advances by more than the repair budget with every reading. -/
def slowEnvironment : Environment where
  elapsedRealtime count := 100 * count
  sendSucceeds _ := true

theorem waited_slow (receiver : RtpReceiver) : Waited slowEnvironment receiver := by
  intro count earlier
  simp only [slowEnvironment, REPAIR_BUDGET_MS, RtpReceiver.clock]
  omega

theorem monotone_slow : Monotone slowEnvironment := by
  intro first second order
  simp only [slowEnvironment]
  omega

/-- A keyframe of one packet. -/
def sampleKeyframe (ptsUsec : Int64) : AccessUnit true where
  data := [0, 0, 0, 1, 0x26, 0x01, 0xAF]
  ptsUsec := ptsUsec
  accepted := by decide +kernel

/-- The datagrams of two keyframes of one packet, each followed by a pause. -/
def sampleRecovery (seq : UInt16) : List Input :=
  (packetizeAll (packetizer true 7 seq) [sampleKeyframe 11111, sampleKeyframe 22222]).flatMap
    (fun packet => [arrivalInput packet, .iteration .timeout])

def sampleHistory : List Input :=
  (packetizeAll (packetizer true 7 0) [sampleKeyframe 0]).map arrivalInput

theorem sampleKeyframe_fits (ptsUsec : Int64) : (sampleKeyframe ptsUsec).Fits := by
  apply AccessUnit.fits_of_size
  have size : (canonicalAnnexB (sampleKeyframe 0).nals).length + 7 ≤ VideoDepacketizer.MAX_FRAME_BYTES := by
    decide +kernel
  exact size

/-- The receiver after the first packet. -/
theorem sampleHistory_received :
    ∃ receiver, run slowEnvironment sampleConfig (start sampleConfig) sampleHistory = .ok receiver ∧
      receiver.highestExtSeq = 0 := by
  have observed : (run slowEnvironment sampleConfig (start sampleConfig) sampleHistory).toOption.map
      highestExtSeq = some 0 := by decide +kernel
  cases reached : run slowEnvironment sampleConfig (start sampleConfig) sampleHistory with
  | error exception =>
      rw [reached] at observed
      cases observed
  | ok receiver =>
      rw [reached] at observed
      exact ⟨receiver, rfl, Option.some.inj observed⟩

/-- Keyframes behind the loss of packets that follow the first one. -/
theorem sampleOutage (lost : Nat) {receiver : RtpReceiver}
    (reached : run slowEnvironment sampleConfig (start sampleConfig) sampleHistory = .ok receiver)
    (highest : receiver.highestExtSeq = 0)
    (arrive : videoDatagrams sampleConfig (sampleRecovery (lowWord (1 + lost))) =
      packetizeAll (packetizer true 7 (lowWord (1 + lost))) [sampleKeyframe 11111, sampleKeyframe 22222]) :
    Outage slowEnvironment sampleConfig (packetizer true 7 (lowWord (1 + lost))) (sampleKeyframe 11111)
      (sampleKeyframe 22222) lost sampleHistory (sampleRecovery (lowWord (1 + lost))) receiver where
  matching := sampleConfig_matches _
  monotone := monotone_slow
  reached := reached
  received := highest.ge
  continues := by
    rw [highest, zero_add]
    rfl
  keyframes := by decide +kernel
  arrive := arrive

/-- A thousand packets are lost behind the first one. -/
theorem resynchronises_sample :
    ∃ receiver waited after shown,
      run slowEnvironment sampleConfig (start sampleConfig) sampleHistory = .ok receiver ∧
      run slowEnvironment sampleConfig receiver (sampleRecovery 1001) = .ok waited ∧
      waited.iterate slowEnvironment sampleConfig .timeout = .ok after ∧
      frames after.log = frames receiver.log ++ shown ∧
      (sampleKeyframe 22222).streamFrame (packetizer true 7 1001) ∈ shown := by
  obtain ⟨receiver, reached, highest⟩ := sampleHistory_received
  obtain ⟨waited, ran, later⟩ := resynchronises
    (sampleOutage 1000 reached highest (by decide +kernel)) .timeout
    (Or.inl ⟨rfl, by decide⟩) (by decide) (sampleKeyframe_fits 22222)
  obtain ⟨after, shown, passed, content, visible⟩ := later (waited_slow waited)
  exact ⟨receiver, waited, after, shown, reached, ran, passed, content, visible⟩

/-- Behind an outage of forty thousand packets neither keyframe is shown. -/
theorem outage_not_resynchronised :
    ∃ receiver waited after,
      Outage slowEnvironment sampleConfig (packetizer true 7 40001) (sampleKeyframe 11111)
        (sampleKeyframe 22222) 40000 sampleHistory (sampleRecovery 40001) receiver ∧
      (sampleKeyframe 22222).Fits ∧
      run slowEnvironment sampleConfig receiver (sampleRecovery 40001) = .ok waited ∧
      Waited slowEnvironment waited ∧
      waited.iterate slowEnvironment sampleConfig .timeout = .ok after ∧
      frames after.log = frames receiver.log := by
  have observed : (do
      let receiver ← run slowEnvironment sampleConfig (start sampleConfig) sampleHistory
      let waited ← run slowEnvironment sampleConfig receiver (sampleRecovery 40001)
      let after ← waited.iterate slowEnvironment sampleConfig .timeout
      pure (receiver.highestExtSeq, decide (frames after.log = frames receiver.log)) :
        Checked (Int × Bool)).toOption = some (0, true) := by decide +kernel
  obtain ⟨receiver, reached, highest⟩ := sampleHistory_received
  rw [reached, ok_bind] at observed
  cases ran : run slowEnvironment sampleConfig receiver (sampleRecovery 40001) with
  | error exception =>
      rw [ran] at observed
      cases observed
  | ok waited =>
      rw [ran, ok_bind] at observed
      cases passed : waited.iterate slowEnvironment sampleConfig .timeout with
      | error exception =>
          rw [passed] at observed
          cases observed
      | ok after =>
          rw [passed, ok_bind] at observed
          have nothing := congrArg Prod.snd (Option.some.inj observed)
          exact ⟨receiver, waited, after, sampleOutage 40000 reached highest (by decide +kernel),
            sampleKeyframe_fits 22222, ran, waited_slow waited, passed, of_decide_eq_true nothing⟩

end Session
end MetaShare
