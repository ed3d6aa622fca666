import MetaShare.Session.Feedback

namespace MetaShare
namespace Session

open Octets Rtp RtpReceiver ReorderBuffer

/-!
# The jitter buffer

Packets may arrive under any numbers, in any order and any number of times, and
with any content.  Their extended sequence numbers are the true send indices up
to one constant, and what is fed to the depacketizer is a strictly increasing
selection of what arrived, with the gaps announced.  A packet that is not too
late when it first arrives is fed once, or still waits.  As long as no gap is
announced, nobody can tell the order of arrival from what is fed.
-/

/-- The packets fed to the depacketizer so far, with the gaps announced in front
of them. -/
def deliveries (receiver : RtpReceiver) : List (Delivery VideoPacket) := (playout receiver.log).2

/-- The packet has been fed exactly once, or it is held and has not been fed. -/
def FedOrHeld (config : Config) (receiver : RtpReceiver) (ext : Int) (packet : VideoPacket) : Prop :=
  (∃ gap, (deliveries receiver).filter (fun delivery => delivery.key == ext) = [⟨gap, ext, packet⟩]) ∨
    ((∀ delivery ∈ deliveries receiver, delivery.key ≠ ext) ∧
      (ext, packet) ∈ heldPackets config receiver.jitter)

theorem FedOrHeld.of_accounted {config : Config} {receiver : RtpReceiver} (sound : Sound config receiver)
    {ext : Int} {packet : VideoPacket} (accounted : Buffer.Accounted (buffer config receiver) ext packet) :
    FedOrHeld config receiver ext packet := by
  rcases accounted with ⟨gap, delivered⟩ | held
  · exact Or.inl ⟨gap, sound.wellFormed.filter_delivered delivered⟩
  · exact Or.inr ⟨fun delivery member => sound.wellFormed.held_not_delivered member held, held⟩

/-- The playout point has not passed the number. -/
theorem ahead_of_next {config : Config} {receiver : RtpReceiver} {ext : Int}
    (current : receiver.nextExtSeq ≤ ext) : ∀ next ∈ (buffer config receiver).next, next ≤ ext := by
  intro next position
  rw [buffer] at position
  split at position
  · cases position
  · exact Option.some.inj position ▸ current

/-- What a run does with arrivals of the given send indices. -/
structure Specified (env : Environment) (config : Config) (inputs : List Input) (first : UInt16)
    (indices : List Nat) (after : RtpReceiver) : Prop where
  /-- The extended sequence numbers are the send indices, moved by a constant. -/
  numbers : arrivedNumbers after.log =
    indices.map (fun (index : Nat) => index + offsetOf (arrivalsOf config inputs) indices)
  /-- Packets are fed under strictly increasing numbers. -/
  increasing : (deliveries after).Pairwise (fun earlier later => earlier.key < later.key)
  /-- What is fed is what arrived under the number. -/
  own : ∀ delivery ∈ deliveries after, (delivery.key, delivery.value) ∈
    numbering (offsetOf (arrivalsOf config inputs) indices) (arrivalsOf config inputs) indices
  /-- A gap is announced between two packets exactly where a number is skipped,
  and nowhere else. -/
  gaps : (deliveries after).IsChain (fun earlier later => later.gap = true ↔ later.key ≠ earlier.key + 1)
  noFirstGap : ∀ delivery ∈ (deliveries after).head?, delivery.gap = false
  noLastGap : (playout after.log).1 = false
  /-- The first copy of a packet that is not behind the playout point when the
  pass that takes it has released what was due. -/
  kept : ∀ (before : List Input) (received : Received) (rest : List Input) (middle expired : RtpReceiver)
      (arrival : Arrival) (index : Nat),
    inputs = before ++ .iteration received :: rest →
    run env config (start config) before = .ok middle → middle.expire env config = .ok expired →
    arrivalOf config received = some arrival →
    indices[(arrivalsOf config before).length]? = some index →
    index ∉ indices.take (arrivalsOf config before).length →
    expired.nextExtSeq ≤ index + offsetOf (arrivalsOf config inputs) indices →
      FedOrHeld config after (index + offsetOf (arrivalsOf config inputs) indices) arrival.packet
  heldAhead : ∀ entry ∈ after.jitter, after.nextExtSeq ≤ entry.1
  bounded : after.jitter.length ≤ JITTER_MAX + 1
  /-- Without a gap the same packets are fed as in a run in which they arrive in
  order, each once. -/
  inOrder : ∀ (other : Environment) (otherInputs : List Input) (otherAfter : RtpReceiver)
      (stream : Nat → VideoPacket) (start : Nat),
    indices.head? = some start →
    List.Forall₂ (fun arrival (index : Nat) => arrival.packet = stream index)
      (arrivalsOf config inputs) indices →
    run other config (RtpReceiver.start config) otherInputs = .ok otherAfter →
    List.Forall₂ (fun arrival (index : Nat) =>
        (arrival.seq : Int) = (first.toNat + index) % 65536 ∧ arrival.packet = stream index)
      (arrivalsOf config otherInputs) (List.range' start (deliveries after).length) →
    (∀ delivery ∈ deliveries after, delivery.gap = false) →
      deliveries after = deliveries otherAfter
  /-- Without a gap nothing is lost: what arrived from the first packet on has
  been fed or still waits. -/
  complete : ∀ start, indices.head? = some start → (∀ delivery ∈ deliveries after, delivery.gap = false) →
    ∀ index ∈ indices, start ≤ index →
      ∃ packet, FedOrHeld config after (index + offsetOf (arrivalsOf config inputs) indices) packet

/-! ## Where arrivals stand in the numbering -/

theorem numbering_append {offset : Int} {early late : List Arrival} {before later : List Nat}
    (length : early.length = before.length) :
    numbering offset (early ++ late) (before ++ later) =
      numbering offset early before ++ numbering offset late later :=
  List.zipWith_append length

/-- The numbers given to the arrivals before one, and to this one. -/
theorem unwrapAll_split {first : UInt16} {early rest : List Arrival} {arrival : Arrival} {indices : List Nat}
    (numbered : Numbered first (early ++ arrival :: rest) indices) (near : Near indices) {index : Nat}
    (own : indices[early.length]? = some index) :
    unwrapAll (-1) early =
        numbering (offsetOf (early ++ arrival :: rest) indices) early (indices.take early.length) ∧
      extendSeq (highestAfter (-1) early) arrival.seq =
        index + offsetOf (early ++ arrival :: rest) indices := by
  have all := unwrapAll_eq numbered near
  generalize offsetOf (early ++ arrival :: rest) indices = offset at all
  obtain ⟨inside, isIndex⟩ := List.getElem?_eq_some_iff.mp own
  have split : indices = indices.take early.length ++ index :: indices.drop (early.length + 1) := by
    rw [← isIndex, List.getElem_cons_drop, List.take_append_drop]
  have length : early.length = (indices.take early.length).length := by
    rw [List.length_take]
    omega
  rw [unwrapAll_append] at all
  nth_rewrite 1 [split] at all
  rw [numbering_append length] at all
  have lengths : (unwrapAll (-1) early).length = (numbering offset early (indices.take early.length)).length := by
    have each : ∀ (highest : Int) (arrivals : List Arrival),
        (unwrapAll highest arrivals).length = arrivals.length := by
      intro highest arrivals
      induction arrivals generalizing highest with
      | nil => rfl
      | cons _ _ inductionHypothesis => rw [unwrapAll, List.length_cons, List.length_cons, inductionHypothesis]
    rw [each, numbering, List.length_zipWith, ← length, Nat.min_self]
  obtain ⟨before, later⟩ := List.append_inj all lengths
  exact ⟨before, congrArg Prod.fst (List.cons.inj later).1⟩

theorem arrivalsOf_append (config : Config) (early late : List Input) :
    arrivalsOf config (early ++ late) = arrivalsOf config early ++ arrivalsOf config late :=
  List.filterMap_append

/-! ## The fate of a first copy -/

/-- A first copy that is not behind the playout point is fed once or held. -/
theorem first_copy_kept {env : Environment} {config : Config} {first : UInt16} {indices : List Nat}
    {before rest : List Input} {received : Received} {middle expired after : RtpReceiver} {arrival : Arrival}
    {index : Nat}
    (numbered : Numbered first (arrivalsOf config (before ++ .iteration received :: rest)) indices)
    (near : Near indices)
    (ran : run env config (start config) (before ++ .iteration received :: rest) = .ok after)
    (early : run env config (start config) before = .ok middle) (released : middle.expire env config = .ok expired)
    (arrives : arrivalOf config received = some arrival)
    (own : indices[(arrivalsOf config before).length]? = some index)
    (new : index ∉ indices.take (arrivalsOf config before).length)
    (current : expired.nextExtSeq ≤
      index + offsetOf (arrivalsOf config (before ++ .iteration received :: rest)) indices) :
    FedOrHeld config after
      (index + offsetOf (arrivalsOf config (before ++ .iteration received :: rest)) indices) arrival.packet := by
  have sound := (run_from_start ran).1
  obtain ⟨_, next, sameMiddle, passed, late⟩ := run_split ran
  cases early.symm.trans sameMiddle
  have split : arrivalsOf config (before ++ .iteration received :: rest) =
      arrivalsOf config before ++ arrival :: arrivalsOf config rest := by
    rw [arrivalsOf_append]
    refine congrArg (_ ++ ·) ?_
    simp [arrivalsOf, arrives]
  rw [split] at numbered current ⊢
  have rate : config.videoClockRate ≠ 0 := by
    intro none
    have nothing := (run_without_rate none _ (show (-1 : Int) < 0 by decide) rfl ran).1
    rw [split] at nothing
    exact absurd nothing (by simp)
  obtain ⟨unwrapped, extended⟩ := unwrapAll_split numbered near own
  generalize offsetOf (arrivalsOf config before ++ arrival :: arrivalsOf config rest) indices = offset at *
  obtain ⟨soundMiddle, stepsMiddle, highest⟩ := run_from_start early
  -- The pass releases what is due and then offers the packet.
  obtain ⟨soundNext, same, isExpired, steps, _, accepted⟩ :=
    (iterate_refines env config received rate soundMiddle).1 next passed
  cases released.symm.trans isExpired
  have offered := congrArg View.buffer accepted
  rw [arrives] at offered
  change buffer config next = (buffer config expired).offer (extendSeq middle.highestExtSeq arrival.seq) _ at offered
  rw [highest, extended] at offered
  -- No other copy of it is held, since none has arrived.
  have absent : OrderedMap.containsKey (index + offset) (buffer config expired).held = false := by
    refine (OrderedMap.containsKey_eq_false_iff _ _).mpr (fun entry held same => new ?_)
    have all := stepsMiddle.trans steps
    rw [List.append_nil, unwrapped] at all
    rcases all.offered_of_accounted (Or.inr held) with (⟨_, impossible⟩ | impossible) | listed
    · cases impossible
    · cases impossible
    · obtain ⟨other, member, isOther⟩ := mem_numbering_key listed
      have equal : other = index := by omega
      exact equal ▸ member
  have accounted := Buffer.offer_accounted (buffer config expired) (index + offset) arrival.packet
    (ahead_of_next current) absent
  rw [← offered] at accounted
  have finish := (run_refines env config rate rest next after soundNext late).2.1
  exact FedOrHeld.of_accounted sound (finish.accounted accounted)

/-! ## In-order runs -/

theorem offsetOf_eq {first : UInt16} {arrivals : List Arrival} {indices : List Nat} {start : Nat}
    (numbered : Numbered first arrivals indices) (head : indices.head? = some start) :
    offsetOf arrivals indices = (first.toNat + start : Int) % 65536 - start := by
  cases numbered with
  | nil => cases head
  | cons same _ =>
      cases head
      rw [offsetOf, same]

/-- What is offered comes from the stream that the arrivals are taken from. -/
theorem numbering_content {offset : Int} {arrivals : List Arrival} {indices : List Nat}
    {stream : Nat → VideoPacket}
    (carried : List.Forall₂ (fun arrival (index : Nat) => arrival.packet = stream index) arrivals indices) :
    ∀ entry ∈ numbering offset arrivals indices, entry.2 = stream (entry.1 - offset).toNat := by
  induction carried with
  | nil =>
      intro entry impossible
      cases impossible
  | @cons arrival index arrivals indices same _ inductionHypothesis =>
      intro entry member
      rcases List.mem_cons.mp member with first | later
      · rw [first]
        show arrival.packet = stream ((index : Int) + offset - offset).toNat
        rw [same, Int.add_sub_cancel, Int.toNat_natCast]
      · exact inductionHypothesis entry later

/-- Every delivery is an offered packet. -/
theorem delivered_offered {config : Config} {offered : List (Int × VideoPacket)} {after : RtpReceiver}
    (steps : Buffer.Steps Buffer.empty offered (buffer config after)) :
    ∀ delivery ∈ deliveries after, (delivery.key, delivery.value) ∈ offered := by
  intro delivery member
  rcases steps.offered_of_accounted (Or.inl ⟨delivery.gap, member⟩) with (⟨_, impossible⟩ | impossible) | listed
  · cases impossible
  · cases impossible
  · exact listed

/-- The first delivery is the first packet that arrived. -/
theorem first_key {config : Config} {offset : Int} {arrivals : List Arrival} {indices : List Nat}
    {after : RtpReceiver} {first : UInt16} (numbered : Numbered first arrivals indices)
    (steps : Buffer.Steps Buffer.empty (numbering offset arrivals indices) (buffer config after)) :
    (deliveries after).head?.map Delivery.key = indices.head?.map (fun (index : Nat) => index + offset) := by
  have head := congrArg (Option.map Prod.fst) steps.first_delivered
  rw [Option.map_map] at head
  have same : (deliveries after).head?.map Delivery.key = _ := head
  rw [same]
  cases numbered <;> rfl

/-- Without gaps a delivery is determined by its number. -/
theorem delivery_content {config : Config} {offset : Int} {arrivals : List Arrival} {indices : List Nat}
    {stream : Nat → VideoPacket} {after : RtpReceiver}
    (carried : List.Forall₂ (fun arrival (index : Nat) => arrival.packet = stream index) arrivals indices)
    (steps : Buffer.Steps Buffer.empty (numbering offset arrivals indices) (buffer config after))
    (unbroken : ∀ delivery ∈ deliveries after, delivery.gap = false) :
    ∀ delivery ∈ deliveries after,
      delivery = ⟨false, delivery.key, stream (delivery.key - offset).toNat⟩ := by
  intro delivery member
  have value : delivery.value = stream (delivery.key - offset).toNat :=
    numbering_content carried _ (delivered_offered steps delivery member)
  rw [← value, ← unbroken delivery member]

/-- Without a gap the order of arrival does not show. -/
theorem same_as_in_order {config : Config} {first : UInt16} {inputs otherInputs : List Input}
    {env other : Environment} {indices : List Nat} {after otherAfter : RtpReceiver} {start : Nat}
    {stream : Nat → VideoPacket} (numbered : Numbered first (arrivalsOf config inputs) indices)
    (near : Near indices) (ran : run env config (RtpReceiver.start config) inputs = .ok after)
    (head : indices.head? = some start)
    (carried : List.Forall₂ (fun arrival (index : Nat) => arrival.packet = stream index)
      (arrivalsOf config inputs) indices)
    (otherRan : run other config (RtpReceiver.start config) otherInputs = .ok otherAfter)
    (inOrder : List.Forall₂ (fun arrival (index : Nat) =>
        (arrival.seq : Int) = (first.toNat + index) % 65536 ∧ arrival.packet = stream index)
      (arrivalsOf config otherInputs) (List.range' start (deliveries after).length))
    (unbroken : ∀ delivery ∈ deliveries after, delivery.gap = false) :
    deliveries after = deliveries otherAfter := by
  obtain ⟨sound, steps, _⟩ := run_from_start ran
  obtain ⟨otherSound, otherSteps, _⟩ := run_from_start otherRan
  have otherNumbered : Numbered first (arrivalsOf config otherInputs)
      (List.range' start (deliveries after).length) := inOrder.imp (fun _ _ both => both.1)
  have otherCarried : List.Forall₂ (fun arrival (index : Nat) => arrival.packet = stream index)
      (arrivalsOf config otherInputs) (List.range' start (deliveries after).length) :=
    inOrder.imp (fun _ _ both => both.2)
  rw [unwrapAll_eq numbered near] at steps
  rw [unwrapAll_eq otherNumbered (near_range' start _)] at otherSteps
  have straight := (otherSteps.in_order rfl (by intro next impossible; cases impossible)
    (numbering_chain _ _ _ _)).2.1
  change deliveries otherAfter = [] ++ _ at straight
  have otherUnbroken : ∀ delivery ∈ deliveries otherAfter, delivery.gap = false := by
    rw [straight]
    intro delivery member
    obtain ⟨entry, _, rfl⟩ := List.mem_map.mp member
    rfl
  have length : (deliveries after).length = (deliveries otherAfter).length := by
    rw [straight, List.nil_append, List.length_map, numbering, List.length_zipWith,
      otherNumbered.length_eq, List.length_range', Nat.min_self]
  have firstKey := first_key numbered steps
  have otherFirstKey := first_key otherNumbered otherSteps
  cases shape : deliveries after with
  | nil =>
      rw [shape] at length
      exact (List.length_eq_zero_iff.mp length.symm).symm
  | cons delivery rest =>
      have sameHead : (List.range' start (deliveries after).length).head? = some start := by
        rw [shape, List.length_cons, List.range'_succ]
        rfl
      rw [offsetOf_eq otherNumbered sameHead] at otherSteps otherFirstKey
      rw [offsetOf_eq numbered head] at steps firstKey
      rw [head] at firstKey
      rw [sameHead] at otherFirstKey
      rw [← shape]
      exact Buffer.deliveries_eq (fun key => stream (key - ((first.toNat + start : Int) % 65536 - start)).toNat)
        (sound.wellFormed.consecutive_of_no_gap unbroken)
        (otherSound.wellFormed.consecutive_of_no_gap otherUnbroken) length (firstKey.trans otherFirstKey.symm)
        (delivery_content carried steps unbroken) (delivery_content otherCarried otherSteps otherUnbroken)

/-- Consecutive numbers leave none out before the playout point. -/
theorem delivered_of_unbroken {config : Config} {after : RtpReceiver} (sound : Sound config after)
    (unbroken : ∀ delivery ∈ deliveries after, delivery.gap = false) {ext lowest : Int}
    (first : (deliveries after).head?.map Delivery.key = some lowest) (low : lowest ≤ ext) :
    (∃ delivery ∈ deliveries after, delivery.key = ext) ∨ ∀ next ∈ (buffer config after).next, next ≤ ext := by
  have chain := sound.wellFormed.consecutive_of_no_gap unbroken
  have latest := sound.wellFormed.latest
  change (deliveries after).IsChain _ at chain
  change _ = (deliveries after).getLast?.map _ at latest
  rw [latest]
  clear latest
  generalize deliveries after = delivered at *
  induction delivered generalizing lowest with
  | nil => cases first
  | cons delivery rest inductionHypothesis =>
      have isLowest : delivery.key = lowest := Option.some.inj first
      by_cases here : delivery.key = ext
      · exact Or.inl ⟨delivery, List.mem_cons_self, here⟩
      cases rest with
      | nil =>
          refine Or.inr ?_
          intro next position
          have same : delivery.key + 1 = next := Option.some.inj position
          omega
      | cons other more =>
          have step := (List.isChain_cons_cons.mp chain).1
          rcases inductionHypothesis (show lowest + 1 ≤ ext by omega)
            (fun entry member => unbroken entry (List.mem_cons_of_mem _ member))
            (show some other.key = some (lowest + 1) by rw [step, isLowest])
            (List.isChain_cons_cons.mp chain).2 with ⟨later, member, same⟩ | ahead
          · exact Or.inl ⟨later, List.mem_cons_of_mem _ member, same⟩
          · exact Or.inr (by rw [List.getLast?_cons_cons]; exact ahead)

/-- Whatever arrives, in whatever order and at whatever time, the jitter buffer
does what is specified of it. -/
theorem jitter_buffer (env : Environment) (config : Config) (inputs : List Input) (first : UInt16)
    (indices : List Nat) (after : RtpReceiver)
    (numbered : Numbered first (arrivalsOf config inputs) indices) (near : Near indices)
    (ran : run env config (start config) inputs = .ok after) :
    Specified env config inputs first indices after := by
  obtain ⟨sound, steps, _⟩ := run_from_start ran
  rw [unwrapAll_eq numbered near] at steps
  refine ⟨arrivedNumbers_of_run numbered near ran, sound.wellFormed.delivered_increasing,
    delivered_offered steps, sound.wellFormed.chain.imp (fun _ _ follows => follows.2), sound.wellFormed.first,
    sound.consistent.announced, ?_, fun entry held => (sound.playoutPoint held).2, sound.bounded, ?_, ?_⟩
  · rintro before received rest middle expired arrival index rfl early released arrives own new current
    exact first_copy_kept numbered near ran early released arrives own new current
  · intro other otherInputs otherAfter stream start head carried otherRan inOrder unbroken
    exact same_as_in_order numbered near ran head carried otherRan inOrder unbroken
  · intro lowest head unbroken index member later
    generalize offsetOf (arrivalsOf config inputs) indices = offset at *
    have firstKey := first_key numbered steps
    rw [head] at firstKey
    obtain ⟨packet, listed⟩ : ∃ packet, ((index : Int) + offset, packet) ∈
        numbering offset (arrivalsOf config inputs) indices := by
      have keys := numbering_keys offset numbered
      have isKey : (index : Int) + offset ∈ indices.map (fun (index : Nat) => index + offset) :=
        List.mem_map_of_mem member
      rw [← keys] at isKey
      obtain ⟨entry, listed, same⟩ := List.mem_map.mp isKey
      exact ⟨entry.2, same ▸ listed⟩
    cases shape : deliveries after with
    | nil =>
        obtain ⟨own, accounted⟩ := steps.accounted_ahead Buffer.wellFormed_empty listed (by
          intro next position
          have latest := sound.wellFormed.latest
          change _ = (deliveries after).getLast?.map _ at latest
          rw [shape] at latest
          cases latest.symm.trans position)
        exact ⟨own, .of_accounted sound accounted⟩
    | cons delivery more =>
        have known : (deliveries after).head?.map Delivery.key = some (lowest + offset) := by
          rw [firstKey]
          rfl
        rcases delivered_of_unbroken sound unbroken known (show _ ≤ (index : Int) + offset by omega) with
          ⟨delivered, isDelivered, same⟩ | ahead
        · exact ⟨delivered.value, same ▸ .of_accounted sound (Or.inl ⟨delivered.gap, isDelivered⟩)⟩
        · obtain ⟨own, accounted⟩ := steps.accounted_ahead Buffer.wellFormed_empty listed ahead
          exact ⟨own, .of_accounted sound accounted⟩

/-- The last packet overtakes the second one, which then arrives twice; the
sequence numbers wrap behind the first. -/
theorem jitter_buffer_sample :
    ∃ after, run sampleEnvironment sampleConfig (start sampleConfig) (sampleInputs [0, 2, 1, 1]) = .ok after ∧
      Specified sampleEnvironment sampleConfig (sampleInputs [0, 2, 1, 1]) 65535 [0, 2, 1, 1] after := by
  obtain ⟨after, ran⟩ := run_ok sampleEnvironment sampleConfig (by decide) (sampleInputs [0, 2, 1, 1])
    (start sampleConfig) (sound_start sampleConfig) (Or.inl ⟨rfl, by decide⟩)
  have numbered : Numbered 65535 (arrivalsOf sampleConfig (sampleInputs [0, 2, 1, 1])) [0, 2, 1, 1] := by
    unfold Numbered
    decide +kernel
  exact ⟨after, ran, jitter_buffer sampleEnvironment sampleConfig (sampleInputs [0, 2, 1, 1]) 65535
    [0, 2, 1, 1] after numbered (by decide) ran⟩

end Session
end MetaShare
