import MetaShare.Session.Stream

namespace MetaShare
namespace Session

open Octets Rtp RtpReceiver ReorderBuffer

/-!
# What arrives of a stream

A network may lose, duplicate, delay and reorder the packets of a stream; a
list of send indices says what it does with them.  As long as each arriving
index is near the highest one so far, unwrapping recovers the send indices up
to a constant.  What the receiver then feeds to its depacketizer is an
increasing selection of the stream, with the gaps announced, and whatever the
depacketizer shows is a sent access unit.
-/

/-- Each send index lies within 32767 of the highest one that has arrived. -/
def NearFrom : Nat → List Nat → Prop
  | _, [] => True
  | highest, index :: rest =>
      index ≤ highest + 32767 ∧ highest ≤ index + 32767 ∧ NearFrom (max highest index) rest

def Near : List Nat → Prop
  | [] => True
  | first :: rest => NearFrom first rest

instance : ∀ (highest : Nat) (indices : List Nat), Decidable (NearFrom highest indices)
  | _, [] => isTrue trivial
  | highest, index :: rest =>
      have := instDecidableNearFrom (max highest index) rest
      inferInstanceAs (Decidable (_ ∧ _ ∧ NearFrom (max highest index) rest))

instance : ∀ indices : List Nat, Decidable (Near indices)
  | [] => isTrue trivial
  | first :: rest => inferInstanceAs (Decidable (NearFrom first rest))

/-- The sequence numbers of the arrivals are those of their send indices in a
stream that started with `start`. -/
def Numbered (start : UInt16) (arrivals : List Arrival) (indices : List Nat) : Prop :=
  List.Forall₂ (fun arrival (index : Nat) => (arrival.seq : Int) = (start.toNat + index) % 65536) arrivals indices

/-- The arrivals under their send indices, moved by a constant. -/
def numbering (offset : Int) (arrivals : List Arrival) (indices : List Nat) : List (Int × VideoPacket) :=
  List.zipWith (fun arrival (index : Nat) => (index + offset, arrival.packet)) arrivals indices

/-- The numbers of the arrivals are the send indices, moved by a constant. -/
theorem numbering_keys {start : UInt16} {arrivals : List Arrival} {indices : List Nat} (offset : Int)
    (numbered : Numbered start arrivals indices) :
    (numbering offset arrivals indices).map Prod.fst = indices.map (fun (index : Nat) => index + offset) := by
  induction numbered with
  | nil => rfl
  | @cons arrival index arrivals indices _ _ inductionHypothesis =>
      rw [numbering, List.zipWith_cons_cons, List.map_cons, List.map_cons]
      exact congrArg (_ :: ·) inductionHypothesis

theorem mem_numbering_key {offset : Int} {arrivals : List Arrival} {indices : List Nat} {ext : Int}
    {packet : VideoPacket} (listed : (ext, packet) ∈ numbering offset arrivals indices) :
    ∃ index ∈ indices, ext = index + offset := by
  induction arrivals generalizing indices with
  | nil => cases listed
  | cons arrival rest inductionHypothesis =>
      cases indices with
      | nil => cases listed
      | cons index later =>
          rcases List.mem_cons.mp listed with same | older
          · exact ⟨index, List.mem_cons_self, congrArg Prod.fst same⟩
          · obtain ⟨other, member, isOther⟩ := inductionHypothesis older
            exact ⟨other, List.mem_cons_of_mem _ member, isOther⟩

theorem unwrapAll_near {start : UInt16} {arrivals : List Arrival} {indices : List Nat}
    (numbered : Numbered start arrivals indices) (offset : Int)
    (congruent : (offset - start.toNat) % 65536 = 0) (highest : Nat) (started : 0 ≤ highest + offset)
    (near : NearFrom highest indices) :
    unwrapAll (highest + offset) arrivals = numbering offset arrivals indices := by
  induction numbered generalizing highest with
  | nil => rfl
  | @cons arrival index arrivals indices same rest inductionHypothesis =>
      obtain ⟨ahead, behind, later⟩ := near
      have exact' : extendSeq (highest + offset) arrival.seq = index + offset := by
        have residue : (arrival.seq : Int) = (index + offset) % 65536 := by omega
        rw [extendSeq, if_neg (by omega), residue]
        exact SerialNumber.unwrap_of_near 65536 _ _ (by push_cast; omega) (by push_cast; omega)
      have next : max (highest + offset) (index + offset) = ((max highest index : Nat) : Int) + offset := by
        omega
      rw [unwrapAll, exact', next, inductionHypothesis (max highest index) (by omega) later]
      rfl

/-- The first arrival fixes the constant. -/
def offsetOf (arrivals : List Arrival) (indices : List Nat) : Int :=
  match arrivals, indices with
  | arrival :: _, index :: _ => arrival.seq - index
  | _, _ => 0

/-- Unwrapping recovers the send indices up to one constant. -/
theorem unwrapAll_eq {start : UInt16} {arrivals : List Arrival} {indices : List Nat}
    (numbered : Numbered start arrivals indices) (near : Near indices) :
    unwrapAll (-1) arrivals = numbering (offsetOf arrivals indices) arrivals indices := by
  cases numbered with
  | nil => rfl
  | @cons arrival index arrivals indices same rest =>
      have first : extendSeq (-1) arrival.seq = index + (arrival.seq - index : Int) := by
        rw [extendSeq, if_pos (by decide)]
        omega
      have highest : max (-1) (index + (arrival.seq - index : Int)) = index + (arrival.seq - index : Int) := by
        omega
      rw [unwrapAll, first, highest,
        unwrapAll_near rest (arrival.seq - index) (by omega) index (by omega) near]
      rfl

/-! ## In-order arrival -/

theorem nearFrom_range' (highest count : Nat) : NearFrom highest (List.range' (highest + 1) count) := by
  induction count generalizing highest with
  | zero => trivial
  | succ count inductionHypothesis =>
      rw [List.range'_succ]
      refine ⟨by omega, by omega, ?_⟩
      rw [max_eq_right (Nat.le_succ highest)]
      exact inductionHypothesis (highest + 1)

theorem near_range' (first count : Nat) : Near (List.range' first count) := by
  cases count with
  | zero => trivial
  | succ count =>
      rw [List.range'_succ]
      exact nearFrom_range' first count

/-- Numbers that grow by one keep growing by one when they are moved. -/
theorem numbering_chain (offset : Int) (arrivals : List Arrival) (first count : Nat) :
    (numbering offset arrivals (List.range' first count)).IsChain
      (fun entry next => next.1 = entry.1 + 1) := by
  induction count generalizing arrivals first with
  | zero =>
      have none : numbering offset arrivals (List.range' first 0) = [] := by
        simp [numbering]
      rw [none]
      exact .nil
  | succ count inductionHypothesis =>
      cases arrivals with
      | nil => exact .nil
      | cons arrival arrivals =>
          have later := inductionHypothesis arrivals (first + 1)
          rw [List.range'_succ]
          cases arrivals with
          | nil => exact .singleton _
          | cons other arrivals =>
              cases count with
              | zero => exact .singleton _
              | succ count =>
                  rw [List.range'_succ] at later ⊢
                  refine .cons_cons ?_ later
                  show ((first + 1 : Nat) : Int) + offset = first + offset + 1
                  omega

/-! ## Arrivals of a stream -/

/-- The datagrams that the receiver takes for video packets. -/
def videoDatagrams (config : Config) (inputs : List Input) : List (List UInt8) :=
  inputs.filterMap (fun input =>
    match input with
    | .iteration (.packet data _ _ _) => if (videoOf config data).isSome then some data else none
    | _ => none)

theorem arrivalsOf_eq (config : Config) (inputs : List Input) :
    arrivalsOf config inputs = (videoDatagrams config inputs).filterMap (videoOf config) := by
  rw [arrivalsOf, videoDatagrams, List.filterMap_filterMap]
  apply List.filterMap_congr
  intro input _
  cases input with
  | keyframeRequest => rfl
  | iteration received =>
      cases received with
      | packet data stale address port => cases carried : videoOf config data <;> simp [arrivalOf, carried]
      | _ => rfl

/-- The video datagrams that arrive are sent ones: those with the given send
indices, in this order. -/
def Arrives (config : Config) (sent : List Packet) (inputs : List Input) (indices : List Nat) : Prop :=
  List.Forall₂ (fun data (index : Nat) => sent[index]? = some data) (videoDatagrams config inputs) indices

variable {h265 : Bool}

/-- An arrival of the packet with this send index. -/
def ArrivalOf (base : PacketizerBase) (items : List (Item h265)) (arrival : Arrival) (index : Nat) : Prop :=
  ∃ item, items[index]? = some item ∧
    arrival = ⟨(base.seq + UInt16.ofNat index).toNat, item.videoPacket base⟩

theorem Arrives.arrivals {config : Config} {base : PacketizerBase} {items : List (Item h265)}
    {inputs : List Input} {indices : List Nat} (arrives : Arrives config (packetsOf base items) inputs indices)
    (matching : Matches config h265 base) :
    List.Forall₂ (ArrivalOf base items) (arrivalsOf config inputs) indices := by
  rw [arrivalsOf_eq]
  unfold Arrives at arrives
  generalize videoDatagrams config inputs = datagrams at arrives
  induction arrives with
  | nil => exact .nil
  | @cons data index datagrams indices sent rest inductionHypothesis =>
      rw [getElem?_packetsOf, Option.map_eq_some_iff] at sent
      obtain ⟨item, found, same⟩ := sent
      rw [List.filterMap_cons, ← same, videoOf_packet matching]
      exact .cons ⟨item, found, rfl⟩ inductionHypothesis

theorem numbered_of_arrivals {base : PacketizerBase} {items : List (Item h265)} {arrivals : List Arrival}
    {indices : List Nat} (known : List.Forall₂ (ArrivalOf base items) arrivals indices) :
    Numbered base.seq arrivals indices := by
  refine known.imp ?_
  rintro arrival index ⟨item, _, rfl⟩
  exact seq_toNat base.seq index

/-- What a delivery is known to be: the item with its send index. -/
def Delivered (base : PacketizerBase) (items : List (Item h265)) (offset key : Int) (packet : VideoPacket) :
    Prop :=
  ∃ (index : Nat) (item : Item h265),
    items[index]? = some item ∧ key = index + offset ∧ packet = item.videoPacket base

theorem mem_numbering {base : PacketizerBase} {items : List (Item h265)} {arrivals : List Arrival}
    {indices : List Nat} (known : List.Forall₂ (ArrivalOf base items) arrivals indices) (offset : Int) :
    ∀ entry ∈ numbering offset arrivals indices, Delivered base items offset entry.1 entry.2 := by
  induction known with
  | nil =>
      intro entry impossible
      cases impossible
  | @cons arrival index arrivals indices own rest inductionHypothesis =>
      obtain ⟨item, found, rfl⟩ := own
      intro entry member
      rcases List.mem_cons.mp member with same | later
      · rw [same]
        exact ⟨index, item, found, rfl, rfl⟩
      · exact inductionHypothesis entry later

/-! ## What the depacketizer makes of the deliveries -/

theorem consumeDelivery_h265 (depack : VideoDepacketizer) (delivery : Delivery VideoPacket) :
    (consumeDelivery depack delivery).1.h265 = depack.h265 := by
  rw [consumeDelivery, VideoDepacketizer.consume_h265]
  cases delivery.gap <;> rfl

theorem consumeAll_h265 (depack : VideoDepacketizer) (deliveries : List (Delivery VideoPacket)) :
    (consumeAll depack deliveries).1.h265 = depack.h265 := by
  induction deliveries using List.reverseRecOn with
  | nil => rfl
  | append_singleton deliveries delivery inductionHypothesis =>
      rw [consumeAll_concat]
      exact (consumeDelivery_h265 _ delivery).trans inductionHypothesis

/-- The presentation time that the receiver computes for an item. -/
def Item.ptsUsec (base : PacketizerBase) (item : Item h265) : Int :=
  usec base.clockRate.toNat item.ts.toNat

theorem Item.ptsUsec_valid (base : PacketizerBase) (item : Item h265) : item.ptsUsec base ≠ noPts := by
  have nonneg : 0 ≤ item.ptsUsec base := by
    rw [ptsUsec, usec]
    exact Int.tdiv_nonneg (by omega) (Int.natCast_nonneg _)
  intro same
  rw [same] at nonneg
  exact absurd nonneg (by decide)

/-- A frame shown at an item: the item ends its access unit, and the frame is
that unit's. -/
def ShownAt (base : PacketizerBase) (items : List (Item h265)) (frame : Frame) (index : Nat) : Prop :=
  ∃ item, items[index]? = some item ∧ item.place.rest = [] ∧
    frame = item.place.frame (item.ptsUsec base)

/-- What is known after some deliveries: the frames shown are those of ends of
access units, in order, and the depacketizer stands behind the last delivery. -/
structure Followed (base : PacketizerBase) (items : List (Item h265)) (offset : Int)
    (deliveries : List (Delivery VideoPacket)) (shown : List Nat) : Prop where
  increasing : shown.Pairwise (· < ·)
  frames : List.Forall₂ (ShownAt base items) (consumeAll (.create h265) deliveries).2 shown
  past : ∀ last ∈ deliveries.getLast?, ∀ index ∈ shown, (index : Int) + offset ≤ last.key
  fresh : deliveries = [] → shown = []
  behind : ∀ last ∈ deliveries.getLast?, ∀ (index : Nat) (item : Item h265), items[index]? = some item →
    last.key = index + offset →
      (consumeAll (.create h265) deliveries).1.Behind (item.ptsUsec base) item.place

/-- Before the first delivery nothing has been shown. -/
theorem Followed.nil (base : PacketizerBase) (items : List (Item h265)) (offset : Int) :
    Followed base items offset [] [] := by
  refine ⟨.nil, .nil, ?_, fun _ => rfl, ?_⟩
  all_goals
    intro last impossible
    cases impossible

/-- One more call of the depacketizer, of which it is known where it leads. -/
theorem Followed.extend {base : PacketizerBase} {items : List (Item h265)} {offset : Int}
    {deliveries : List (Delivery VideoPacket)} {shown : List Nat}
    (followed : Followed base items offset deliveries shown)
    {delivery : Delivery VideoPacket} {index : Nat} {item : Item h265}
    (found : items[index]? = some item) (key : delivery.key = index + offset)
    (later : ∀ last ∈ deliveries.getLast?, last.key < delivery.key)
    (behind : (consumeDelivery (consumeAll (.create h265) deliveries).1 delivery).1.Behind
      (item.ptsUsec base) item.place)
    (own : ∀ frame ∈ (consumeDelivery (consumeAll (.create h265) deliveries).1 delivery).2,
      item.place.marker = true ∧ frame = item.place.frame (item.ptsUsec base)) :
    ∃ more, Followed base items offset (deliveries ++ [delivery]) more ∧ ∀ new ∈ more, new ∈ shown ∨
      new = index ∧ (consumeDelivery (consumeAll (.create h265) deliveries).1 delivery).2 ≠ none := by
  have below : ∀ earlier ∈ shown, earlier < index := by
    intro earlier member
    cases last? : deliveries.getLast? with
    | none =>
        rw [followed.fresh (List.getLast?_eq_none_iff.mp last?)] at member
        cases member
    | some last =>
        have bound := followed.past last last? earlier member
        have next := later last last?
        omega
  have place : ∀ last ∈ (deliveries ++ [delivery]).getLast?, ∀ (other : Nat) (another : Item h265),
      items[other]? = some another → last.key = other + offset →
      (consumeAll (.create h265) (deliveries ++ [delivery])).1.Behind (another.ptsUsec base) another.place := by
    intro last isLast other another same lastKey
    rw [List.getLast?_concat] at isLast
    cases isLast
    have sameIndex : other = index := by omega
    rw [sameIndex, found] at same
    cases same
    rw [consumeAll_concat]
    exact behind
  cases result : (consumeDelivery (consumeAll (.create h265) deliveries).1 delivery).2 with
  | none =>
      refine ⟨shown, ⟨followed.increasing, ?_, ?_, ?_, place⟩, fun new member => Or.inl member⟩
      · rw [consumeAll_concat, consumeStep, result]
        simpa using followed.frames
      · intro last isLast earlier member
        rw [List.getLast?_concat] at isLast
        cases isLast
        have := below earlier member
        omega
      · intro impossible
        simp at impossible
  | some frame =>
      obtain ⟨ends, same⟩ := own frame result
      have shows : ShownAt base items frame index :=
        ⟨item, found, List.isEmpty_iff.mp ends, same⟩
      refine ⟨shown ++ [index], ⟨?_, ?_, ?_, ?_, place⟩, fun new member => ?_⟩
      · refine List.pairwise_append.mpr ⟨followed.increasing, List.pairwise_singleton _ _, ?_⟩
        intro earlier member new isNew
        rw [List.mem_singleton.mp isNew]
        exact below earlier member
      · rw [consumeAll_concat, consumeStep, result]
        exact List.rel_append followed.frames (.cons shows .nil)
      · intro last isLast earlier member
        rw [List.getLast?_concat] at isLast
        cases isLast
        rcases List.mem_append.mp member with old | new
        · have := below earlier old
          omega
        · rw [List.mem_singleton.mp new]
          omega
      · intro impossible
        simp at impossible
      · rcases List.mem_append.mp member with old | isNew
        · exact Or.inl old
        · exact Or.inr ⟨List.mem_singleton.mp isNew, Option.some_ne_none _⟩

/-- The state behind an item is the one that its successor needs. -/
theorem Behind.expecting {base : PacketizerBase} {depack : VideoDepacketizer} {first second : Item h265}
    (behind : depack.Behind (first.ptsUsec base) first.place) (next : first.Next second) :
    depack.Expecting (second.ptsUsec base) second.place := by
  refine ⟨behind.1, ?_⟩
  rcases next with ⟨unfinished, _, sameTs, continues⟩ | ⟨finished, _, opens⟩
  · have inUnit := behind.2
    rw [if_neg unfinished] at inUnit
    have samePts : second.ptsUsec base = first.ptsUsec base := by rw [Item.ptsUsec, sameTs, Item.ptsUsec]
    rw [if_neg (by rw [continues]; simp), samePts, continues]
    exact inUnit
  · have idle := behind.2
    rw [if_pos finished] at idle
    rw [if_pos opens]
    exact idle

/-- One more delivery of the stream. -/
theorem Followed.concat {base : PacketizerBase} {items : List (Item h265)} {offset : Int}
    {deliveries : List (Delivery VideoPacket)} {shown : List Nat}
    (followed : Followed base items offset deliveries shown) (chain : items.IsChain Item.Next)
    {delivery : Delivery VideoPacket} {index : Nat} {item : Item h265} (found : items[index]? = some item)
    (key : delivery.key = index + offset) (value : delivery.value = item.videoPacket base)
    (follows : ∀ last ∈ deliveries.getLast?, Buffer.Follows last delivery ∧
      Delivered base items offset last.key last.value)
    (first : deliveries = [] → delivery.gap = false ∧ (item.place.done = [] ∨ item.place.Continues)) :
    ∃ more, Followed base items offset (deliveries ++ [delivery]) more ∧ ∀ new ∈ more, new ∈ shown ∨
      new = index ∧ (consumeDelivery (consumeAll (.create h265) deliveries).1 delivery).2 ≠ none := by
  have later : ∀ last ∈ deliveries.getLast?, last.key < delivery.key :=
    fun last isLast => (follows last isLast).1.1
  have payload : delivery.value.payload = item.place.payload := by rw [value]; rfl
  have marker : delivery.value.marker = item.place.marker := by rw [value]; rfl
  have ptsUsec : delivery.value.ptsUsec = item.ptsUsec base := by rw [value]; rfl
  -- Without a gap the depacketizer expects this very item.
  have inOrder : delivery.gap = false →
      (consumeAll (.create h265) deliveries).1.Expecting (item.ptsUsec base) item.place →
      ∃ more, Followed base items offset (deliveries ++ [delivery]) more ∧ ∀ new ∈ more, new ∈ shown ∨
        new = index ∧ (consumeDelivery (consumeAll (.create h265) deliveries).1 delivery).2 ≠ none := by
    intro unbroken expecting
    have result := VideoDepacketizer.consume_expecting expecting (item.ptsUsec_valid base)
    apply followed.extend found key later
    · rw [consumeDelivery, unbroken, if_neg Bool.false_ne_true, payload, marker, ptsUsec]
      exact result.1
    · rw [consumeDelivery, unbroken, if_neg Bool.false_ne_true, payload, marker, ptsUsec]
      exact result.2
  cases last? : deliveries.getLast? with
  | none =>
      have nothing := List.getLast?_eq_none_iff.mp last?
      obtain ⟨unbroken, opens | continues⟩ := first nothing
      · apply inOrder unbroken
        rw [nothing]
        refine ⟨rfl, ?_⟩
        rw [if_pos opens]
        exact VideoDepacketizer.idle_create h265
      · have idle : (consumeAll (.create h265) deliveries).1.Idle := by
          rw [nothing]
          exact VideoDepacketizer.idle_create h265
        have result := VideoDepacketizer.consume_continuing idle (consumeAll_h265 _ deliveries)
          (item.ptsUsec_valid base) continues
        apply followed.extend found key later
        · rw [consumeDelivery, unbroken, if_neg Bool.false_ne_true, payload, marker, ptsUsec]
          exact result.1
        · rw [consumeDelivery, unbroken, if_neg Bool.false_ne_true, payload, marker, ptsUsec]
          intro frame shows
          cases result.2.1.symm.trans shows
  | some last =>
      obtain ⟨⟨_, skipped⟩, before, previous, foundLast, lastKey, _⟩ := follows last last?
      have behind := followed.behind last last? before previous foundLast lastKey
      cases gap : delivery.gap with
      | false =>
          have adjacent : index = before + 1 := by
            by_contra apart
            rw [skipped.mpr (by omega)] at gap
            cases gap
          have next : previous.Next item := by
            subst adjacent
            obtain ⟨_, isPrevious⟩ := List.getElem?_eq_some_iff.mp foundLast
            obtain ⟨inside, isItem⟩ := List.getElem?_eq_some_iff.mp found
            rw [← isPrevious, ← isItem]
            exact chain.getElem before inside
          exact inOrder gap (Behind.expecting behind next)
      | true =>
          have codec : (consumeAll (.create h265) deliveries).1.onGap.h265 = h265 := behind.1
          have result := VideoDepacketizer.consume_behind_gap (item.ptsUsec base) item.place codec rfl
          apply followed.extend found key later
          · rw [consumeDelivery, gap, if_pos rfl, payload, marker, ptsUsec]
            exact result.1
          · rw [consumeDelivery, gap, if_pos rfl, payload, marker, ptsUsec, result.2]
            intro frame impossible
            cases impossible

/-- Whatever selection of the stream is delivered, with its gaps announced,
only whole access units are shown, in order. -/
theorem followed_of_deliveries {base : PacketizerBase} {items : List (Item h265)} (offset : Int)
    (chain : items.IsChain Item.Next) (deliveries : List (Delivery VideoPacket))
    (follows : deliveries.IsChain Buffer.Follows)
    (known : ∀ delivery ∈ deliveries, Delivered base items offset delivery.key delivery.value)
    (first : ∀ delivery ∈ deliveries.head?, delivery.gap = false ∧
      ∀ (index : Nat) (item : Item h265), items[index]? = some item → delivery.key = index + offset →
        item.place.done = []) :
    ∃ shown, Followed base items offset deliveries shown := by
  induction deliveries using List.reverseRecOn with
  | nil => exact ⟨[], .nil base items offset⟩
  | append_singleton deliveries delivery inductionHypothesis =>
      have parts := List.isChain_append.mp follows
      obtain ⟨shown, followed⟩ := inductionHypothesis parts.1
        (fun other member => known other (List.mem_append_left _ member)) (by
          intro other isFirst
          apply first other
          rw [List.head?_append, isFirst]
          rfl)
      obtain ⟨index, item, found, key, value⟩ := known delivery (List.mem_append_right _ List.mem_cons_self)
      obtain ⟨more, extended, _⟩ := followed.concat chain found key value
        (fun last isLast => ⟨parts.2.2 last isLast delivery rfl,
          known last (List.mem_append_left _ (List.mem_of_getLast? isLast))⟩) (by
          intro nothing
          obtain ⟨unbroken, opens⟩ := first delivery (by rw [nothing]; rfl)
          exact ⟨unbroken, Or.inl (opens index item found key)⟩)
      exact ⟨more, extended⟩

/-! ## Reception over any network -/

/-- What a run that gets packets of a stream has delivered, and that it gets
the send indices right. -/
theorem deliveries_of_run {env : Environment} {config : Config} {base : PacketizerBase}
    {items : List (Item h265)} {inputs : List Input} {indices : List Nat} {after : RtpReceiver}
    (matching : Matches config h265 base)
    (arrives : Arrives config (packetsOf base items) inputs indices) (near : Near indices)
    (ran : run env config (start config) inputs = .ok after) :
    Sound config after ∧
      Buffer.Steps Buffer.empty
        (numbering (offsetOf (arrivalsOf config inputs) indices) (arrivalsOf config inputs) indices)
        (buffer config after) ∧
      ∀ delivery ∈ (buffer config after).delivered, Delivered base items
        (offsetOf (arrivalsOf config inputs) indices) delivery.key delivery.value := by
  have rate := matching.rate_ne_zero
  have arrivals := arrives.arrivals matching
  obtain ⟨sound, steps, _⟩ := run_refines env config rate inputs (start config) after (sound_start config) ran
  have offered : unwrapAll (start config).highestExtSeq (arrivalsOf config inputs) = _ :=
    unwrapAll_eq (numbered_of_arrivals arrivals) near
  rw [offered] at steps
  refine ⟨sound, steps, ?_⟩
  intro delivery member
  have accounted : Buffer.Accounted (buffer config after) delivery.key delivery.value :=
    Or.inl ⟨delivery.gap, member⟩
  rcases steps.offered_of_accounted accounted with (⟨gap, impossible⟩ | impossible) | listed
  · cases impossible
  · cases impossible
  · exact mem_numbering arrivals _ _ listed

/-- The first packet of some access unit of the stream. -/
def BeginsUnit (base : PacketizerBase) (units : List (AccessUnit h265)) (index : Nat) : Prop :=
  ∃ count, index = (packetizeAll base (units.take count)).length

theorem BeginsUnit.opens {base : PacketizerBase} {units : List (AccessUnit h265)} {index : Nat}
    (begins : BeginsUnit base units index) {item : Item h265}
    (found : (itemsFrom base 0 units)[index]? = some item) : item.place.done = [] := by
  obtain ⟨count, same⟩ := begins
  rw [packetizeAll_eq base 0, packetsOf_length] at same
  have split := itemsFrom_append base 0 (units.take count) (units.drop count)
  rw [List.take_append_drop] at split
  rw [split, same, List.getElem?_append_right (Nat.le_refl _), Nat.sub_self] at found
  exact itemsFrom_opens base _ _ item (by rw [List.head?_eq_getElem?]; exact found)

/-- The frame that a unit of the stream stands for. -/
def AccessUnit.streamFrame (base : PacketizerBase) (unit : AccessUnit h265) : Frame :=
  unit.frame (usec base.clockRate.toNat (base.stamp unit.ptsUsec).toNat)

theorem frame_of_item {base : PacketizerBase} {units : List (AccessUnit h265)} {item : Item h265}
    (member : item ∈ itemsFrom base 0 units) :
    ∃ unit, units[item.unit]? = some unit ∧
      item.place.frame (item.ptsUsec base) = unit.streamFrame base := by
  obtain ⟨_, unit, found, ts, nals⟩ := unit_of_mem_itemsFrom member
  refine ⟨unit, found, ?_⟩
  rw [Place.frame, nals, Item.ptsUsec, ts]
  rfl

theorem exists_of_forall₂ {α β : Type} {related : α → β → Prop} {first : List α} {second : List β}
    (all : List.Forall₂ related first second) : ∀ right ∈ second, ∃ left ∈ first, related left right := by
  induction all with
  | nil =>
      intro right impossible
      cases impossible
  | cons head _ inductionHypothesis =>
      intro right member
      rcases List.mem_cons.mp member with same | later
      · exact ⟨_, List.mem_cons_self, same ▸ head⟩
      · obtain ⟨left, listed, holds⟩ := inductionHypothesis right later
        exact ⟨left, List.mem_cons_of_mem _ listed, holds⟩

/-- Ends of access units at increasing indices belong to increasing units. -/
theorem units_of_shown {base : PacketizerBase} {units : List (AccessUnit h265)} {frames : List Frame}
    {shown : List Nat} (shows : List.Forall₂ (ShownAt base (itemsFrom base 0 units)) frames shown)
    (increasing : shown.Pairwise (· < ·)) :
    ∃ numbers : List Nat, numbers.Pairwise (· < ·) ∧
      List.Forall₂ (fun frame (number : Nat) => ∃ unit, units[number]? = some unit ∧
        frame = unit.streamFrame base) frames numbers ∧
      ∀ number ∈ numbers, ∃ index ∈ shown, ∃ item, (itemsFrom base 0 units)[index]? = some item ∧
        item.unit = number := by
  have later := List.pairwise_iff_getElem.mp (itemsFrom_pairwise base 0 units)
  have ends : ∀ index ∈ shown, ∃ item, (itemsFrom base 0 units)[index]? = some item ∧ item.place.rest = [] := by
    intro index member
    obtain ⟨frame, _, item, found, last, _⟩ := exists_of_forall₂ shows index member
    exact ⟨item, found, last⟩
  let number (index : Nat) : Nat := ((itemsFrom base 0 units)[index]?.map Item.unit).getD 0
  refine ⟨shown.map number, ?_, ?_, ?_⟩
  · refine List.pairwise_map.mpr (increasing.imp_of_mem ?_)
    intro first second firstShown secondShown before
    obtain ⟨item, found, last⟩ := ends first firstShown
    obtain ⟨other, foundOther, _⟩ := ends second secondShown
    obtain ⟨firstInside, isItem⟩ := List.getElem?_eq_some_iff.mp found
    obtain ⟨secondInside, isOther⟩ := List.getElem?_eq_some_iff.mp foundOther
    have order := (later first second firstInside secondInside before).2
    rw [isItem, isOther] at order
    simp only [number, found, foundOther, Option.map_some, Option.getD_some]
    exact order last
  · refine List.forall₂_map_right_iff.mpr (shows.imp ?_)
    rintro frame index ⟨item, found, _, same⟩
    obtain ⟨unit, isUnit, shape⟩ := frame_of_item (List.mem_of_getElem? found)
    refine ⟨unit, ?_, same.trans shape⟩
    simp only [number, found, Option.map_some, Option.getD_some, isUnit]
  · intro number' member
    obtain ⟨index, isShown, same⟩ := List.mem_map.mp member
    obtain ⟨item, found, _⟩ := ends index isShown
    refine ⟨index, isShown, item, found, ?_⟩
    rw [← same]
    simp only [number, found, Option.map_some, Option.getD_some]

/-- What the receiver has handed to the video sink is what the depacketizer
shows of the deliveries. -/
theorem frames_eq {config : Config} {base : PacketizerBase} (matching : Matches config h265 base)
    {after : RtpReceiver} (sound : Sound config after) :
    frames after.log = (consumeAll (.create h265) (buffer config after).delivered).2 := by
  have content := congrArg Prod.snd sound.consistent.content
  rw [matching.codec] at content
  exact content

/-- The first packet that arrives is the first one delivered. -/
theorem first_delivery {base : PacketizerBase} {items : List (Item h265)} {arrivals : List Arrival}
    {indices : List Nat} (known : List.Forall₂ (ArrivalOf base items) arrivals indices)
    {reached : Buffer VideoPacket}
    (steps : Buffer.Steps Buffer.empty (numbering (offsetOf arrivals indices) arrivals indices) reached) :
    ∀ delivery ∈ reached.delivered.head?, ∃ index ∈ indices.head?,
      delivery.key = index + offsetOf arrivals indices := by
  intro delivery isFirst
  have head := steps.first_delivered
  rw [isFirst] at head
  cases known with
  | nil => cases head
  | @cons arrival index arrivals indices _ _ => exact ⟨index, rfl, congrArg Prod.fst (Option.some.inj head)⟩

/-- Whatever the network does with the packets of a stream, and however the
clock runs: the frames handed to the video sink are access units of the
stream, complete and unmixed, each at most once and in the order of sending. -/
theorem reception_sound (ssrc : UInt32) (seq : UInt16) (units : List (AccessUnit h265))
    (config : Config) (env : Environment) (inputs : List Input) (indices : List Nat) (after : RtpReceiver)
    (matching : Matches config h265 (packetizer h265 ssrc seq))
    (arrives : Arrives config (packetizeAll (packetizer h265 ssrc seq) units) inputs indices)
    (near : Near indices)
    (first : ∀ index ∈ indices.head?, BeginsUnit (packetizer h265 ssrc seq) units index)
    (ran : run env config (start config) inputs = .ok after) :
    ∃ numbers : List Nat, numbers.Pairwise (· < ·) ∧
      List.Forall₂ (fun frame (number : Nat) => ∃ unit, units[number]? = some unit ∧
        frame = unit.streamFrame (packetizer h265 ssrc seq)) (frames after.log) numbers := by
  generalize packetizer h265 ssrc seq = base at *
  rw [packetizeAll_eq base 0] at arrives
  obtain ⟨sound, steps, known⟩ := deliveries_of_run matching arrives near ran
  obtain ⟨shown, followed⟩ := followed_of_deliveries _ (itemsFrom_chain base 0 units)
    (buffer config after).delivered sound.wellFormed.chain known (by
      intro delivery isFirst
      refine ⟨sound.wellFormed.first delivery isFirst, ?_⟩
      intro index item found key
      obtain ⟨other, isHead, sameKey⟩ := first_delivery (arrives.arrivals matching) steps delivery isFirst
      have same : index = other := by omega
      exact (same ▸ first other isHead).opens found)
  rw [frames_eq matching sound]
  obtain ⟨numbers, ordered, shows, _⟩ := units_of_shown followed.frames followed.increasing
  exact ⟨numbers, ordered, shows⟩

/-- A keyframe and two inter frames, one packet each. -/
def sampleStream : List (AccessUnit true) :=
  [{ data := [0, 0, 1, 0x26, 0x01, 0xAF], ptsUsec := 0, accepted := by decide +kernel },
   { data := [0, 0, 1, 0x02, 0x01, 0xD0], ptsUsec := 11111, accepted := by decide +kernel },
   { data := [0, 0, 1, 0x02, 0x01, 0xD1], ptsUsec := 22222, accepted := by decide +kernel }]

/-- The packets of the sample stream in the order in which they arrive. -/
def sampleInputs (indices : List Nat) : List Input :=
  (indices.filterMap (fun index => (packetizeAll (packetizer true 7 65535) sampleStream)[index]?)).map
    arrivalInput

/-- The second packet arrives last, and twice. -/
theorem reception_sound_sample :
    ∃ after, run sampleEnvironment sampleConfig (start sampleConfig) (sampleInputs [0, 2, 1, 1]) = .ok after ∧
      ∃ numbers : List Nat, numbers.Pairwise (· < ·) ∧
        List.Forall₂ (fun frame (number : Nat) => ∃ unit, sampleStream[number]? = some unit ∧
          frame = unit.streamFrame (packetizer true 7 65535)) (frames after.log) numbers := by
  obtain ⟨after, ran⟩ := run_ok sampleEnvironment sampleConfig (by decide) (sampleInputs [0, 2, 1, 1])
    (start sampleConfig) (sound_start sampleConfig) (Or.inl ⟨rfl, by decide⟩)
  have arrives : Arrives sampleConfig (packetizeAll (packetizer true 7 65535) sampleStream)
      (sampleInputs [0, 2, 1, 1]) [0, 2, 1, 1] := by
    unfold Arrives
    decide +kernel
  exact ⟨after, ran, reception_sound 7 65535 sampleStream sampleConfig sampleEnvironment
    (sampleInputs [0, 2, 1, 1]) [0, 2, 1, 1] after (sampleConfig_matches 65535) arrives (by decide)
    (fun index isFirst => ⟨0, (Option.some.inj isFirst).symm⟩) ran⟩

end Session
end MetaShare
