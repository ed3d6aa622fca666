import MetaShare.Server.Gate
import MetaShare.Server.Repairs
import MetaShare.Session.Outage

namespace MetaShare
namespace Session

open Octets Rtp RtpReceiver ReorderBuffer

/-!
# Recovery from what the server drops

What the server drops has taken numbers already.  So the receiver sees a gap in
front of the next packet, waits for repairs that never come, and gives up the
access unit that begins there, although all of it arrives.  A keyframe that
directly follows what was sent before it, or is the first of its session, is
shown, whatever the server dropped, repaired or turned away before.
-/

/-! ## Indices on the wire -/

/-- The second number is ahead of the first one, by less than half the modulus. -/
def Ahead (first second : UInt16) : Prop := 0 < (second - first).toNat ∧ (second - first).toNat ≤ 32767

instance (first second : UInt16) : Decidable (Ahead first second) := inferInstanceAs (Decidable (_ ∧ _))

theorem nearFrom_concat {highest index : Nat} {indices : List Nat} (near : NearFrom highest indices)
    (above : ∀ other ∈ highest :: indices, other ≤ index + 32767)
    (below : ∃ other ∈ highest :: indices, index ≤ other + 32767) : NearFrom highest (indices ++ [index]) := by
  induction indices generalizing highest with
  | nil =>
      obtain ⟨other, member, bound⟩ := below
      cases List.mem_singleton.mp member
      exact ⟨bound, above highest List.mem_cons_self, trivial⟩
  | cons next rest inductionHypothesis =>
      obtain ⟨ahead, behind, later⟩ := near
      refine ⟨ahead, behind, inductionHypothesis later ?_ ?_⟩
      · intro other member
        rcases List.mem_cons.mp member with same | old
        · rw [same]
          exact max_le (above highest List.mem_cons_self) (above next (List.mem_cons_of_mem _ List.mem_cons_self))
        · exact above other (List.mem_cons_of_mem _ (List.mem_cons_of_mem _ old))
      · obtain ⟨other, member, bound⟩ := below
        rcases List.mem_cons.mp member with same | inside
        · exact ⟨max highest next, List.mem_cons_self, by omega⟩
        rcases List.mem_cons.mp inside with same | old
        · exact ⟨max highest next, List.mem_cons_self, by omega⟩
        · exact ⟨other, List.mem_cons_of_mem _ old, bound⟩

theorem near_concat {index : Nat} {indices : List Nat} (near : Near indices)
    (above : ∀ other ∈ indices, other ≤ index + 32767)
    (below : indices ≠ [] → ∃ other ∈ indices, index ≤ other + 32767) : Near (indices ++ [index]) := by
  cases indices with
  | nil => trivial
  | cons first rest => exact nearFrom_concat near above (below (List.cons_ne_nil _ _))

/-- Indices for the fresh packets and for all that is transmitted, such that a
copy has the index of its original. -/
structure Indexed (first : UInt16) (sent transmitted : List (Nat × Packet)) : Prop where
  numbers : ∀ entry ∈ transmitted, seqOf entry.2 = first + UInt16.ofNat entry.1
  same : ∀ entry, entry ∈ transmitted ↔ entry ∈ sent
  steps : sent.IsChain (fun earlier later =>
    earlier.1 < later.1 ∧ later.1 = earlier.1 + (seqOf later.2 - seqOf earlier.2).toNat)
  near : Near (transmitted.map Prod.fst)
  onward : ∀ early entry late, transmitted = early ++ entry :: late →
    entry ∈ early ∨ ∀ earlier ∈ early, earlier.1 < entry.1
  head : transmitted.head? = sent.head?

namespace Indexed

variable {first : UInt16} {sent transmitted : List (Nat × Packet)}

theorem ascending (indexed : Indexed first sent transmitted) :
    sent.Pairwise (fun earlier later => earlier.1 < later.1) := by
  have growing : sent.IsChain (fun earlier later => earlier.1 < later.1) := indexed.steps.imp (fun _ _ both => both.1)
  exact growing.pairwise

/-- The newest packet has the highest index. -/
theorem le_last (indexed : Indexed first sent transmitted) {last : Nat × Packet} (isLast : last ∈ sent.getLast?) :
    ∀ entry ∈ transmitted, entry.1 ≤ last.1 := by
  intro entry member
  obtain ⟨early, split⟩ := List.getLast?_eq_some_iff.mp isLast
  have inSent := (indexed.same entry).mp member
  rw [split] at inSent
  rcases List.mem_append.mp inSent with older | same
  · have order := indexed.ascending
    rw [split] at order
    exact ((List.pairwise_append.mp order).2.2 entry older last List.mem_cons_self).le
  · exact (List.mem_singleton.mp same) ▸ le_rfl

theorem onward_concat (indexed : Indexed first sent transmitted) {new : Nat × Packet}
    (onward : new ∈ transmitted ∨ ∀ earlier ∈ transmitted, earlier.1 < new.1) :
    ∀ early entry late, transmitted ++ [new] = early ++ entry :: late →
      entry ∈ early ∨ ∀ earlier ∈ early, earlier.1 < entry.1 := by
  intro early entry late split
  rcases List.eq_nil_or_concat' late with rfl | ⟨before, last, rfl⟩
  · obtain ⟨rfl, same⟩ := List.append_inj' split rfl
    cases List.cons.inj same |>.1
    exact onward
  · rw [← List.cons_append, ← List.append_assoc] at split
    exact indexed.onward early entry before (List.append_inj' split rfl).1

theorem nil (first : UInt16) : Indexed first [] [] where
  numbers := by
    intro entry impossible
    cases impossible
  same := fun entry => Iff.rfl
  steps := .nil
  near := trivial
  onward := by
    intro early entry late split
    cases early <;> cases split
  head := rfl

/-- The first packet of all. -/
theorem single (packet : Packet) : Indexed (seqOf packet) [(0, packet)] [(0, packet)] where
  numbers := by
    intro entry member
    rw [List.mem_singleton.mp member]
    exact (UInt16.add_zero _).symm
  same := fun entry => Iff.rfl
  steps := .singleton _
  near := trivial
  onward := by
    intro early entry late split
    cases early with
    | nil =>
        refine Or.inr ?_
        intro earlier impossible
        cases impossible
    | cons other rest =>
        have tail := (List.cons.inj split).2
        cases rest <;> cases tail
  head := rfl

/-- A number that is ahead leads to a new index. -/
theorem number_ahead {first previous next : UInt16} {index : Nat} (own : previous = first + UInt16.ofNat index) :
    next = first + UInt16.ofNat (index + (next - previous).toNat) := by
  rw [UInt16.ofNat_add, UInt16.ofNat_toNat, ← UInt16.add_assoc, ← own]
  rw [UInt16.add_comm, UInt16.sub_add_cancel]

/-- A fresh packet whose number is ahead of the newest one. -/
theorem fresh (indexed : Indexed first sent transmitted) {last : Nat × Packet} (isLast : last ∈ sent.getLast?)
    {packet : Packet} (ahead : Ahead (seqOf last.2) (seqOf packet)) :
    Indexed first (sent ++ [(last.1 + (seqOf packet - seqOf last.2).toNat, packet)])
      (transmitted ++ [(last.1 + (seqOf packet - seqOf last.2).toNat, packet)]) := by
  have member := (indexed.same last).mpr (List.mem_of_getLast? isLast)
  have beyond : ∀ earlier ∈ transmitted, earlier.1 < last.1 + (seqOf packet - seqOf last.2).toNat := by
    intro earlier listed
    have low := indexed.le_last isLast earlier listed
    have step := ahead.1
    omega
  have bound := ahead.2
  constructor
  case numbers =>
    intro entry listed
    rcases List.mem_append.mp listed with old | new
    · exact indexed.numbers entry old
    · rw [List.mem_singleton.mp new]
      exact number_ahead (indexed.numbers last member)
  case same =>
    intro entry
    rw [List.mem_append, List.mem_append, indexed.same entry]
  case steps =>
    refine List.isChain_append.mpr ⟨indexed.steps, .singleton _, ?_⟩
    intro other isOther new isNew
    cases isOther.symm.trans isLast
    cases isNew
    exact ⟨beyond _ member, rfl⟩
  case near =>
    rw [List.map_append, List.map_singleton]
    refine near_concat indexed.near ?_ ?_
    · intro other listed
      obtain ⟨entry, inWire, rfl⟩ := List.mem_map.mp listed
      have := beyond entry inWire
      omega
    · intro _
      exact ⟨last.1, List.mem_map_of_mem member, by omega⟩
  case onward => exact indexed.onward_concat (Or.inr beyond)
  case head =>
    rw [List.head?_append, List.head?_append, indexed.head]

/-- A copy of a recent packet. -/
theorem copy (indexed : Indexed first sent transmitted) {entry last : Nat × Packet} (member : entry ∈ sent)
    (isLast : last ∈ sent.getLast?) (recent : last.1 ≤ entry.1 + 32767) :
    Indexed first sent (transmitted ++ [entry]) := by
  have listed := (indexed.same entry).mpr member
  constructor
  case numbers =>
    intro other isOther
    rcases List.mem_append.mp isOther with old | new
    · exact indexed.numbers other old
    · rw [List.mem_singleton.mp new]
      exact indexed.numbers entry listed
  case same =>
    intro other
    rw [List.mem_append, List.mem_singleton, indexed.same other]
    constructor
    · rintro (old | rfl)
      · exact old
      · exact member
    · exact Or.inl
  case steps => exact indexed.steps
  case near =>
    rw [List.map_append, List.map_singleton]
    refine near_concat indexed.near ?_ ?_
    · intro index isIndex
      obtain ⟨other, inWire, rfl⟩ := List.mem_map.mp isIndex
      have := indexed.le_last isLast other inWire
      omega
    · intro _
      exact ⟨entry.1, List.mem_map_of_mem listed, by omega⟩
  case onward => exact indexed.onward_concat (Or.inl listed)
  case head =>
    rw [List.head?_append, indexed.head]
    cases sent with
    | nil => cases member
    | cons => rfl

end Indexed

/-- Behind a packet that is followed by consecutive numbers the indices are
consecutive too. -/
theorem index_of_numbered {entry : Nat × Packet} {late : List (Nat × Packet)} {first : UInt16}
    (numbered : Rtp.Numbered first ((entry :: late).map Prod.snd))
    (steps : (entry :: late).IsChain (fun earlier later =>
      earlier.1 < later.1 ∧ later.1 = earlier.1 + (seqOf later.2 - seqOf earlier.2).toNat)) :
    ∀ last ∈ (entry :: late).getLast?, last.1 = entry.1 + late.length := by
  induction late generalizing entry first with
  | nil =>
      intro last isLast
      cases isLast
      rfl
  | cons next rest inductionHypothesis =>
      intro last isLast
      rw [List.getLast?_cons_cons] at isLast
      obtain ⟨⟨_, step⟩, later⟩ := List.isChain_cons_cons.mp steps
      have own := numbered 0 entry.2 rfl
      have other := numbered 1 next.2 rfl
      have one : (seqOf next.2 - seqOf entry.2).toNat = 1 := by
        rw [own, other]
        have cancel : first + UInt16.ofNat 1 - (first + UInt16.ofNat 0) = 1 := by
          rw [show first + UInt16.ofNat 0 = first from UInt16.add_zero first, UInt16.add_comm, UInt16.add_sub_cancel]
          rfl
        rw [cancel]
        rfl
      have split : Rtp.Numbered first ([entry.2] ++ (next :: rest).map Prod.snd) := numbered
      have tail := (numbered_append.mp split).2
      rw [inductionHypothesis tail later last isLast, step, one, List.length_cons]
      omega

/-- What is transmitted can be indexed, as long as each fresh number is ahead of
the one before. -/
theorem indexed_of_transmits {sent transmitted : List Packet} (transmits : RtpServer.Transmits sent transmitted)
    (ahead : sent.IsChain (fun earlier later => Ahead (seqOf earlier) (seqOf later))) :
    ∃ first sentAt transmittedAt, sentAt.map Prod.snd = sent ∧ transmittedAt.map Prod.snd = transmitted ∧
      Indexed first sentAt transmittedAt := by
  induction transmits with
  | nil => exact ⟨0, [], [], rfl, rfl, .nil 0⟩
  | @fresh sent transmitted packet _ inductionHypothesis =>
      obtain ⟨before, _, across⟩ := List.isChain_append.mp ahead
      obtain ⟨first, sentAt, transmittedAt, rfl, rfl, indexed⟩ := inductionHypothesis before
      cases last? : sentAt.getLast? with
      | none =>
          have noSent := List.getLast?_eq_none_iff.mp last?
          have nothing : transmittedAt = [] := by
            apply List.eq_nil_iff_forall_not_mem.mpr
            intro entry member
            rw [indexed.same, noSent] at member
            cases member
          rw [noSent, nothing]
          exact ⟨seqOf packet, [(0, packet)], [(0, packet)], rfl, rfl, .single packet⟩
      | some last =>
          have next := across last.2 (by rw [List.getLast?_map, last?]; rfl) packet rfl
          exact ⟨first, _, _, by simp, by simp, indexed.fresh last? next⟩
  | @copy sent transmitted late packet start _ suffix numbered few inductionHypothesis =>
      obtain ⟨first, sentAt, transmittedAt, rfl, rfl, indexed⟩ := inductionHypothesis ahead
      obtain ⟨early, split⟩ := suffix
      obtain ⟨earlyAt, lateAt, rfl, _, isLate⟩ := List.map_eq_append_iff.mp split.symm
      obtain ⟨entry, restAt, rfl, rfl, rfl⟩ := List.map_eq_cons_iff.mp isLate
      obtain ⟨last, isLast⟩ : ∃ last, last ∈ (entry :: restAt).getLast? :=
        ⟨_, List.getLast?_eq_some_getLast (List.cons_ne_nil _ _)⟩
      have index := index_of_numbered numbered (List.isChain_append.mp indexed.steps).2.1 last isLast
      have newest : last ∈ (earlyAt ++ entry :: restAt).getLast? := by
        rw [List.getLast?_append, Option.mem_def.mp isLast]
        rfl
      rw [List.length_map] at few
      exact ⟨first, _, transmittedAt ++ [entry], rfl, by simp,
        indexed.copy (List.mem_append_right _ List.mem_cons_self) newest (by omega)⟩

/-! ## What the receiver makes of the packets -/

variable {h265 : Bool}

/-- The receiver takes the packet for video, under its number and with its
marker. -/
def Taken (config : Config) (packet : Packet) : Prop :=
  ∃ video, videoOf config packet = some ⟨(seqOf packet).toNat, video⟩ ∧ video.marker = markerOf packet

/-- What the packet is delivered as. -/
def content (config : Config) (packet : Packet) : VideoPacket :=
  (videoOf config packet).elim ⟨[], false, 0⟩ Arrival.packet

theorem Taken.videoOf_eq {config : Config} {packet : Packet} (taken : Taken config packet) :
    videoOf config packet = some ⟨(seqOf packet).toNat, content config packet⟩ := by
  obtain ⟨video, found, _⟩ := taken
  rw [content, found]
  rfl

theorem Taken.marker {config : Config} {packet : Packet} (taken : Taken config packet) :
    (content config packet).marker = markerOf packet := by
  obtain ⟨video, found, same⟩ := taken
  rw [content, found]
  exact same

theorem taken_of_writeHeader {config : Config} {base : PacketizerBase} (matching : Matches config h265 base)
    (marker : Bool) (seq : UInt16) (ts : UInt32) {payload : List UInt8} (filled : payload ≠ []) :
    Taken config (writeHeader base.pt marker seq ts base.ssrc ++ payload) := by
  refine ⟨⟨payload, marker, usec base.clockRate.toNat ts.toNat⟩, ?_, ?_⟩
  · rw [seqOf_writeHeader]
    exact videoOf_writeHeader matching marker seq ts filled
  · rw [markerOf, headerOf_writeHeader]
    rfl

theorem taken_of_framePieces {config : Config} {base : PacketizerBase} (matching : Matches config h265 base)
    (layout : NalLayout) (ts : UInt32) (marked : Bool) (pieces : List Piece)
    (filled : ∀ piece ∈ pieces, piece.payload layout ≠ []) :
    ∀ packet ∈ layout.framePieces ts marked base pieces, Taken config packet := by
  induction pieces generalizing base with
  | nil =>
      intro packet impossible
      cases impossible
  | cons piece rest inductionHypothesis =>
      intro packet member
      rcases List.mem_cons.mp member with same | later
      · rw [same]
        exact taken_of_writeHeader matching _ _ _ (filled piece List.mem_cons_self)
      · have next : Matches config h265 base.nextSeq.2 :=
          ⟨matching.codec, matching.ssrc, matching.pt, matching.clock, matching.running⟩
        exact inductionHypothesis next (fun other listed => filled other (List.mem_cons_of_mem _ listed)) packet later

theorem taken_of_packetize {config : Config} {base : PacketizerBase} (matching : Matches config h265 base)
    (data : List UInt8) (ptsUsec : Int64) : ∀ packet ∈ (packetize h265 base data ptsUsec).1, Taken config packet := by
  rw [packetize_eq_layout, NalLayout.packetize_eq]
  apply taken_of_framePieces matching
  intro piece member
  have long := two_le_length_of_mem_forEachNal data piece.nal
    ((layoutOf h265).nal_mem_of_mem_unitPieces _ piece member)
  cases piece with
  | whole nal =>
      apply List.ne_nil_of_length_pos
      exact Nat.lt_of_lt_of_le Nat.zero_lt_two long
  | fragment nal isFirst isLast chunk => simp [Piece.payload]

theorem Matches.advance {config : Config} {base : PacketizerBase} (matching : Matches config h265 base)
    (count : Nat) : Matches config h265 (base.advance count) :=
  ⟨matching.codec, matching.ssrc, matching.pt, matching.clock, matching.running⟩

theorem taken_of_cut {config : Config} {base packer : PacketizerBase} (matching : Matches config h265 base)
    {units : List RtpServer.VideoUnit} (cut : RtpServer.Cut h265 base units packer) :
    ∀ unit ∈ units, ∀ packet ∈ unit.packets, Taken config packet := by
  intro unit member packet listed
  obtain ⟨number, found⟩ := List.mem_iff_getElem?.mp member
  rcases cut.unit found with none | made
  · rw [none] at listed
    cases listed
  · rw [← made] at listed
    exact taken_of_packetize (matching.advance _) _ _ packet listed

theorem numbering_of_taken {config : Config} (entries : List (Nat × Packet))
    (taken : ∀ entry ∈ entries, Taken config entry.2) (offset : Int) :
    numbering offset ((entries.map Prod.snd).filterMap (videoOf config)) (entries.map Prod.fst) =
      entries.map (fun entry => ((entry.1 : Int) + offset, content config entry.2)) := by
  induction entries with
  | nil => rfl
  | cons entry rest inductionHypothesis =>
      have later := inductionHypothesis (fun other member => taken other (List.mem_cons_of_mem _ member))
      rw [List.map_cons, List.map_cons, List.map_cons,
        List.filterMap_cons_some (taken entry List.mem_cons_self).videoOf_eq, numbering, List.zipWith_cons_cons,
        ← later, numbering]

theorem numbered_of_taken {config : Config} {first : UInt16} (entries : List (Nat × Packet))
    (taken : ∀ entry ∈ entries, Taken config entry.2)
    (numbers : ∀ entry ∈ entries, seqOf entry.2 = first + UInt16.ofNat entry.1) :
    Numbered first ((entries.map Prod.snd).filterMap (videoOf config)) (entries.map Prod.fst) := by
  induction entries with
  | nil => exact .nil
  | cons entry rest inductionHypothesis =>
      rw [List.map_cons, List.map_cons, List.filterMap_cons_some (taken entry List.mem_cons_self).videoOf_eq]
      refine .cons ?_ (inductionHypothesis (fun other member => taken other (List.mem_cons_of_mem _ member))
        (fun other member => numbers other (List.mem_cons_of_mem _ member)))
      rw [numbers entry List.mem_cons_self]
      exact seq_toNat first entry.1

/-! ## A session without loss on the way -/

/-- A run of the server and a receiver that gets every video packet of the session
as it was transmitted.  Fewer than half of the numbers are ever dropped in a row. -/
structure Lossless (serverConfig : RtpServer.Config) (server : RtpServer) (env : Environment) (config : Config)
    (inputs : List Input) : Prop where
  reached : ∃ actions, RtpServer.run serverConfig actions = some server
  matching : Matches config serverConfig.h265 (packetizer serverConfig.h265 serverConfig.videoSsrc 0)
  monotone : Monotone env
  arrive : videoDatagrams config inputs = server.transmitted
  near : ∀ early earlier later late, server.wire = early ++ earlier :: later :: late →
    server.place later ≤ server.place earlier + 32767

theorem follows_of_split {server : RtpServer} (lined : server.Lined) {early late : List RtpServer.FreshPacket}
    {earlier later : RtpServer.FreshPacket} (split : server.wire = early ++ earlier :: later :: late) :
    DependencyChain.Follows server.line.units earlier.part later.part := by
  have chain := lined.wellFormed.sent.chain
  rw [RtpServer.line, split, List.map_append, List.map_cons, List.map_cons] at chain
  exact (List.isChain_append_cons_cons.mp chain).2.1

/-- So many numbers lie between two packets as lie between their places. -/
theorem numbers_of_places {h265 : Bool} {base packer : PacketizerBase} {server : RtpServer}
    (cut : RtpServer.Cut h265 base server.units packer) {earlier later : RtpServer.FreshPacket}
    (genuine : RtpServer.Genuine server.units earlier) (genuine' : RtpServer.Genuine server.units later)
    (order : server.place earlier < server.place later) (near : server.place later ≤ server.place earlier + 32767) :
    server.place earlier + (seqOf later.packet.bytes - seqOf earlier.packet.bytes).toNat = server.place later := by
  obtain ⟨distance, split⟩ := Nat.exists_eq_add_of_lt order
  have number : seqOf later.packet.bytes = UInt16.ofNat (distance + 1) + seqOf earlier.packet.bytes := by
    rw [RtpServer.seqOf_place cut genuine, RtpServer.seqOf_place cut genuine', split, Nat.add_assoc,
      UInt16.ofNat_add, ← UInt16.add_assoc]
    exact UInt16.add_comm _ _
  rw [number, UInt16.add_sub_cancel, UInt16.toNat_ofNat']
  omega

/-- Indices that grow with the numbers are the places, moved by a constant. -/
theorem indices_of_places {server : RtpServer} {sents : List RtpServer.FreshPacket}
    {entries : List (Nat × Packet)} (same : entries.map Prod.snd = sents.map (fun sent => sent.packet.bytes))
    (steps : entries.IsChain (fun earlier later =>
      earlier.1 < later.1 ∧ later.1 = earlier.1 + (seqOf later.2 - seqOf earlier.2).toNat))
    (places : sents.IsChain (fun earlier later =>
      server.place earlier + (seqOf later.packet.bytes - seqOf earlier.packet.bytes).toNat = server.place later)) :
    ∃ shift : Int, List.Forall₂ (fun entry sent =>
      entry.2 = sent.packet.bytes ∧ (entry.1 : Int) = server.place sent + shift) entries sents := by
  induction entries generalizing sents with
  | nil =>
      have none := List.map_eq_nil_iff.mp same.symm
      rw [none]
      exact ⟨0, .nil⟩
  | cons entry entries inductionHypothesis =>
      obtain ⟨sent, sents, rfl, own, rest⟩ := List.map_eq_cons_iff.mp same.symm
      cases entries with
      | nil =>
          have none := List.map_eq_nil_iff.mp rest
          rw [none]
          exact ⟨entry.1 - server.place sent, .cons ⟨own.symm, by omega⟩ .nil⟩
      | cons next entries =>
          obtain ⟨following, sents, rfl, isNext, _⟩ := List.map_eq_cons_iff.mp rest
          obtain ⟨step, steps⟩ := List.isChain_cons_cons.mp steps
          obtain ⟨place, places⟩ := List.isChain_cons_cons.mp places
          obtain ⟨shift, holds⟩ := inductionHypothesis rest.symm steps places
          have head := (List.forall₂_cons.mp holds).1
          refine ⟨shift, .cons ⟨own.symm, ?_⟩ holds⟩
          have grown := step.2
          rw [← isNext, ← own] at grown
          omega

/-- Every packet of the wire and how it is handed on: under its place, moved by a
constant.  The first one is the first of all. -/
structure HandedOn (server : RtpServer) (config : Config) (delivered : List (Delivery VideoPacket)) (shift : Int) :
    Prop where
  all : ∀ sent ∈ server.wire, ∃ gap, ⟨gap, server.place sent + shift, content config sent.packet.bytes⟩ ∈ delivered
  head : ∀ first ∈ server.wire.head?, ∃ gap later, delivered =
    ⟨gap, server.place first + shift, content config first.packet.bytes⟩ :: later

namespace Lossless

variable {serverConfig : RtpServer.Config} {server : RtpServer} {env : Environment} {config : Config}
  {inputs : List Input}

theorem advances (lossless : Lossless serverConfig server env config inputs) {base packer : PacketizerBase}
    (cut : RtpServer.Cut serverConfig.h265 base server.units packer) :
    server.wire.IsChain (fun earlier later =>
      server.place earlier < server.place later ∧ server.place later ≤ server.place earlier + 32767 ∧
        server.place earlier + (seqOf later.packet.bytes - seqOf earlier.packet.bytes).toNat =
          server.place later) := by
  obtain ⟨actions, reached⟩ := lossless.reached
  have lined := RtpServer.lined_of_run reached
  rw [List.isChain_iff_forall_rel_of_append_cons_cons]
  intro earlier later early late split
  have genuine := lined.genuine earlier (by rw [split]; simp)
  have genuine' := lined.genuine later (by rw [split]; simp)
  have order := RtpServer.place_lt genuine (follows_of_split lined split)
  have near := lossless.near early earlier later late split
  exact ⟨order, near, numbers_of_places cut genuine genuine' order near⟩

/-- What arrives has the places of the packets for numbers, moved by a constant. -/
theorem unwrapped (lossless : Lossless serverConfig server env config inputs) :
    ∃ (shift : Int) (offered : List (Int × VideoPacket)), unwrapAll (-1) (arrivalsOf config inputs) = offered ∧
      (∃ bound, Buffer.Onward bound offered) ∧
      (∀ sent ∈ server.wire, (server.place sent + shift, content config sent.packet.bytes) ∈ offered) ∧
      offered.head? = server.wire.head?.map (fun sent =>
        (server.place sent + shift, content config sent.packet.bytes)) := by
  obtain ⟨actions, reached⟩ := lossless.reached
  obtain ⟨count, cut⟩ := RtpServer.cut_of_run reached
  have lined := RtpServer.lined_of_run reached
  have advances := lossless.advances cut
  obtain ⟨first, sentAt, transmittedAt, isSent, isTransmitted, indexed⟩ :=
    indexed_of_transmits (RtpServer.transmits_of_run reached) (by
      rw [RtpServer.sentBytes, List.isChain_map]
      exact advances.imp (fun _ _ both => ⟨by omega, by omega⟩))
  obtain ⟨shift, places⟩ := indices_of_places isSent indexed.steps (advances.imp (fun _ _ both => both.2.2))
  have taken : ∀ entry ∈ transmittedAt, Taken config entry.2 := by
    intro entry member
    have inSent : entry.2 ∈ server.sentBytes := isSent ▸ List.mem_map_of_mem ((indexed.same entry).mp member)
    obtain ⟨sent, listed, isBytes⟩ := List.mem_map.mp inSent
    obtain ⟨unit, found, packet, _⟩ := lined.genuine sent listed
    rw [← isBytes]
    exact taken_of_cut (lossless.matching.advance count) cut unit (List.mem_of_getElem? found) _
      (List.mem_of_getElem? packet)
  have arrivals : arrivalsOf config inputs = (transmittedAt.map Prod.snd).filterMap (videoOf config) := by
    rw [arrivalsOf_eq, lossless.arrive, isTransmitted]
  generalize isOffset : offsetOf ((transmittedAt.map Prod.snd).filterMap (videoOf config))
    (transmittedAt.map Prod.fst) = offset
  have unwrap := unwrapAll_eq (numbered_of_taken transmittedAt taken indexed.numbers) indexed.near
  rw [isOffset, numbering_of_taken transmittedAt taken] at unwrap
  refine ⟨shift + offset, _, arrivals ▸ unwrap, ⟨offset - 1, ?_⟩, ?_, ?_⟩
  · intro early entry late split
    obtain ⟨earlyAt, restAt, split', rfl, rest⟩ := List.map_eq_append_iff.mp split
    obtain ⟨entryAt, lateAt, rfl, rfl, _⟩ := List.map_eq_cons_iff.mp rest
    rcases indexed.onward earlyAt entryAt lateAt split' with copy | beyond
    · exact Or.inl (List.mem_map_of_mem copy)
    · refine Or.inr ⟨by dsimp only; omega, ?_⟩
      intro earlier member
      obtain ⟨earlierAt, listed, rfl⟩ := List.mem_map.mp member
      have order := beyond earlierAt listed
      dsimp only
      omega
  · intro sent listed
    obtain ⟨entry, member, isBytes, isPlace⟩ := exists_of_forall₂ places sent listed
    refine List.mem_map.mpr ⟨entry, (indexed.same entry).mpr member, Prod.ext ?_ ?_⟩
    · dsimp only
      omega
    · rw [isBytes]
  · rw [List.head?_map, indexed.head]
    generalize server.wire = wire at places
    cases places with
    | nil => rfl
    | cons own _ =>
        obtain ⟨isBytes, isPlace⟩ := own
        refine congrArg some (Prod.ext ?_ ?_)
        · dsimp only
          omega
        · exact congrArg (content config) isBytes

/-- After a pass that begins late enough every packet of the wire has been handed
on. -/
theorem handedOn (lossless : Lossless serverConfig server env config inputs) {waited after : RtpReceiver}
    {last : Received} (ran : run env config (start config) inputs = .ok waited) (elapsed : Waited env waited)
    (passed : waited.iterate env config last = .ok after) :
    Sound config after ∧ ∃ shift, HandedOn server config (buffer config after).delivered shift := by
  obtain ⟨shift, offered, unwrap, ⟨bound, onward⟩, wire, head⟩ := lossless.unwrapped
  have steps := (run_from_start ran).2.1
  rw [unwrap] at steps
  have within : Buffer.Within (Buffer.empty : Buffer VideoPacket) bound :=
    ⟨fun _ impossible => (nomatch impossible), fun _ impossible => absurd impossible List.not_mem_nil⟩
  have accounted := (steps.accounted_of_onward within onward).2
  obtain ⟨sound, grown, delivers⟩ := handed_on lossless.matching.rate_ne_zero lossless.monotone ran elapsed passed
  refine ⟨sound, shift, fun sent listed => delivers _ _ (accounted _ (wire sent listed)), ?_⟩
  intro first isFirst
  have opening := steps.first_delivered
  rw [head, Option.mem_def.mp isFirst] at opening
  obtain ⟨delivery, isHead, same⟩ := Option.map_eq_some_iff.mp opening
  obtain ⟨rest, isRest⟩ := List.head?_eq_some_iff.mp isHead
  obtain ⟨more, isMore⟩ := grown
  have isKey : delivery.key = server.place first + shift := congrArg Prod.fst same
  have isValue : delivery.value = content config first.packet.bytes := congrArg Prod.snd same
  exact ⟨delivery.gap, rest ++ more, by rw [← isMore, isRest, List.cons_append, ← isKey, ← isValue]⟩

end Lossless

/-! ## Access units on the wire -/

/-- All packets of an access unit that is wholly on the wire are there. -/
theorem packets_of_whole {server : RtpServer} (lined : server.Lined) {number : Nat} (whole : server.Whole number)
    {unit : RtpServer.VideoUnit} (found : server.units[number]? = some unit) :
    unit.packets ≠ [] ∧ ∀ (index : Nat) (packet : Packet), unit.packets[index]? = some packet →
      ∃ sent ∈ server.wire, sent.unit = number ∧ sent.index = index ∧ sent.packet.bytes = packet := by
  obtain ⟨own, isOwn, last, listed, isNumber, ends⟩ := whole
  cases isOwn.symm.trans found
  have filled : unit.packets ≠ [] := by
    apply List.ne_nil_of_length_pos
    omega
  refine ⟨filled, fun index packet isPacket => ?_⟩
  obtain ⟨runs, _, _, _, same⟩ := lined.wellFormed.sent.prefixes
  have member : last.part ∈ server.line.sent := List.mem_map_of_mem listed
  rw [same] at member
  obtain ⟨run, isRun, inRun⟩ := List.mem_flatMap.mp member
  obtain ⟨isUnit, below⟩ := DependencyChain.mem_partsOf.mp inRun
  change last.unit = run.1 at isUnit
  change last.index < run.2 at below
  have bound := (List.getElem?_eq_some_iff.mp isPacket).1
  have other : (⟨number, index⟩ : DependencyChain.Part) ∈ server.line.sent := by
    rw [same]
    exact List.mem_flatMap.mpr ⟨run, isRun, DependencyChain.mem_partsOf.mpr ⟨isNumber.symm.trans isUnit, by
      change index < run.2
      omega⟩⟩
  obtain ⟨sent, inWire, isPart⟩ := List.mem_map.mp other
  have sameUnit : sent.unit = number := congrArg DependencyChain.Part.unit isPart
  have sameIndex : sent.index = index := congrArg DependencyChain.Part.index isPart
  obtain ⟨its, isIts, bytes, _⟩ := lined.genuine sent inWire
  rw [sameUnit, found] at isIts
  cases isIts
  rw [sameIndex, isPacket] at bytes
  exact ⟨sent, inWire, sameUnit, sameIndex, (Option.some.inj bytes).symm⟩

/-- The packets of an access unit are its items. -/
theorem packetize_items (base : PacketizerBase) (number : Nat) (unit : AccessUnit h265) :
    (packetize h265 base unit.data unit.ptsUsec).1 =
      packetsOf base (unitItems number (base.stamp unit.ptsUsec) unit) := by
  have all := packetizeAll_eq base number [unit]
  rw [packetizeAll, packetizeAll, itemsFrom, itemsFrom, List.append_nil, List.append_nil] at all
  exact all

/-- The last packet of an access unit is marked. -/
theorem marker_of_last (base : PacketizerBase) (data : List UInt8) (ptsUsec : Int64) :
    ∀ last ∈ (packetize h265 base data ptsUsec).1.getLast?, markerOf last = true := by
  rw [packetize_eq_layout, NalLayout.packetize_eq]
  generalize (layoutOf h265).unitPieces (forEachNal data) = pieces
  intro last isLast
  cases pieces with
  | nil => cases isLast
  | cons piece rest =>
      have marked : ((layoutOf h265).framePieces (base.stamp ptsUsec) true base (piece :: rest)).map markerOf =
          List.replicate rest.length false ++ [true] := markerOf_framePieces base _ _ (List.cons_ne_nil piece rest)
      have markers := congrArg List.getLast? marked
      rw [List.getLast?_map, Option.mem_def.mp isLast, List.getLast?_concat] at markers
      exact Option.some.inj markers

/-- A keyframe that is delivered first of all is shown. -/
theorem keyframe_first {base : PacketizerBase} {number : Nat} {unit : AccessUnit h265} (fits : unit.Fits)
    (keyframe : isKeyframe h265 unit.nals = true) (filled : unit.nals ≠ [])
    {deliveries : List (Delivery VideoPacket)}
    (carry : List.Forall₂ (Carries base) deliveries (unitItems number (base.stamp unit.ptsUsec) unit)) :
    (consumeAll (.create h265) deliveries).2 = [unit.streamFrame base] := by
  have closed : Closed h265 (.create h265) (VideoDepacketizer.create h265).awaitingKeyframe :=
    ⟨rfl, VideoDepacketizer.idle_create h265, rfl⟩
  have result := (consume_unit base number unit fits filled deliveries carry _ [] _ closed).2
  have visible : unit.shown base (VideoDepacketizer.create h265).awaitingKeyframe = [unit.streamFrame base] :=
    if_pos (fun _ => keyframe)
  rw [visible, List.nil_append] at result
  exact result

/-! ## The keyframe is shown -/

/-- The items of an access unit are delivered from this key on. -/
def DeliveredFrom (start : Int) (base : PacketizerBase) (items : List (Item h265))
    (delivered : List (Delivery VideoPacket)) : Prop :=
  ∀ (index : Nat) (item : Item h265), items[index]? = some item →
    ∃ gap, ⟨gap, start + index, item.videoPacket base⟩ ∈ delivered

/-- A keyframe is shown whose first packet is the first of all. -/
theorem shown_at_head {config : Config} {base : PacketizerBase} (matching : Matches config h265 base)
    {after : RtpReceiver} (sound : Sound config after) {unit : AccessUnit h265} (fits : unit.Fits)
    (keyframe : isKeyframe h265 unit.nals = true) {number : Nat} {start : Int}
    (delivered : DeliveredFrom start base (unitItems number (base.stamp unit.ptsUsec) unit)
      (buffer config after).delivered)
    {first : Delivery VideoPacket} {later : List (Delivery VideoPacket)}
    (split : (buffer config after).delivered = first :: later) (isStart : first.key = start)
    (opens : ∀ item ∈ (unitItems number (base.stamp unit.ptsUsec) unit).head?, first.value = item.videoPacket base) :
    unit.streamFrame base ∈ frames after.log := by
  have filled : unit.nals ≠ [] := by
    intro nothing
    rw [nothing] at keyframe
    cases keyframe
  obtain ⟨item, items, isItems⟩ : ∃ item items, unitItems number (base.stamp unit.ptsUsec) unit = item :: items := by
    apply List.exists_cons_of_ne_nil
    intro nothing
    have pieces : ((layoutOf h265).unitPieces unit.nals).isEmpty = true := by
      rw [unitItems, List.map_eq_nil_iff, ← List.length_eq_zero_iff, placesFrom_length] at nothing
      exact List.isEmpty_iff_length_eq_zero.mpr nothing
    rw [NalLayout.unitPieces_isEmpty, List.isEmpty_iff] at pieces
    exact filled pieces
  have undamaged := sound.wellFormed.first first (by rw [split]; rfl)
  obtain ⟨more, isMore⟩ := sound.wellFormed.successors (items.map (Item.videoPacket base))
    (show (buffer config after).delivered = [] ++ first :: later from split) (by
      intro index value listed
      rw [List.getElem?_map, Option.map_eq_some_iff] at listed
      obtain ⟨other, found, rfl⟩ := listed
      obtain ⟨gap, member⟩ := delivered (index + 1) other (by rw [isItems]; exact found)
      refine ⟨gap, ?_⟩
      have key : first.key + 1 + (index : Int) = start + ((index + 1 : Nat) : Int) := by omega
      rw [key]
      exact member)
  have carry : List.Forall₂ (Carries base)
      (first :: (items.map (Item.videoPacket base)).mapIdx (fun index value => ⟨false, first.key + 1 + index, value⟩))
      (unitItems number (base.stamp unit.ptsUsec) unit) := by
    rw [isItems]
    refine .cons ⟨undamaged, opens item (by rw [isItems]; rfl)⟩ ?_
    rw [List.forall₂_iff_get]
    refine ⟨by rw [List.length_mapIdx, List.length_map], ?_⟩
    intro index inDeliveries inItems
    simp [Carries]
  rw [frames_eq matching sound, split, isMore, ← List.cons_append, consumeAll_append]
  exact List.mem_append_left _ (by rw [keyframe_first fits keyframe filled carry]; exact List.mem_cons_self)

/-- A keyframe of the session that is wholly on the wire, with nothing dropped
directly before it. -/
structure Undisturbed (server : RtpServer) (number : Nat) (unit : AccessUnit h265) : Prop where
  broadcast : ∃ cut, server.units[number]? = some cut ∧ cut.data = unit.data ∧ cut.ptsUsec = unit.ptsUsec
  keyframe : isKeyframe h265 unit.nals = true
  fits : unit.Fits
  whole : server.Whole number
  continues : server.Continues number

namespace Lossless

variable {serverConfig : RtpServer.Config} {server : RtpServer} {env : Environment} {config : Config}
  {inputs : List Input}

/-- The items of an access unit that is wholly on the wire are delivered. -/
theorem delivers_items (lossless : Lossless serverConfig server env config inputs) {base packer : PacketizerBase}
    (matching : Matches config serverConfig.h265 base)
    (cut : RtpServer.Cut serverConfig.h265 base server.units packer) {delivered : List (Delivery VideoPacket)}
    {shift : Int} (handedOn : HandedOn server config delivered shift) {number : Nat}
    {unit : AccessUnit serverConfig.h265} (undisturbed : Undisturbed server number unit) :
    ∃ first ∈ server.wire, first.unit = number ∧ first.index = 0 ∧
      DeliveredFrom (server.place first + shift) base (unitItems number (base.stamp unit.ptsUsec) unit) delivered ∧
      ∀ item ∈ (unitItems number (base.stamp unit.ptsUsec) unit).head?,
        content config first.packet.bytes = item.videoPacket base := by
  obtain ⟨actions, reached⟩ := lossless.reached
  have lined := RtpServer.lined_of_run reached
  obtain ⟨own, found, sameData, samePts⟩ := undisturbed.broadcast
  obtain ⟨filled, present⟩ := packets_of_whole lined undisturbed.whole found
  have made := (cut.unit found).resolve_left filled
  rw [sameData, samePts, packetize_items _ number] at made
  generalize isCount : (RtpServer.stream (server.units.take number)).length = count at made
  have stamp : (base.advance count).stamp unit.ptsUsec = base.stamp unit.ptsUsec := rfl
  rw [stamp] at made
  -- Each item is a packet on the wire.
  have carried : ∀ (index : Nat) (item : Item serverConfig.h265),
      (unitItems number (base.stamp unit.ptsUsec) unit)[index]? = some item →
        ∃ sent ∈ server.wire, sent.unit = number ∧ sent.index = index ∧
          content config sent.packet.bytes = item.videoPacket base := by
    intro index item listed
    obtain ⟨sent, inWire, isUnit, isIndex, bytes⟩ := present index (item.packet (base.advance count) index) (by
      rw [← made, getElem?_packetsOf, listed]
      rfl)
    refine ⟨sent, inWire, isUnit, isIndex, ?_⟩
    rw [content, bytes, videoOf_packet (matching.advance count)]
    rfl
  obtain ⟨head, rest, isPackets⟩ := List.exists_cons_of_ne_nil filled
  obtain ⟨first, inWire, isUnit, isIndex, bytes⟩ := present 0 head (by rw [isPackets]; rfl)
  refine ⟨first, inWire, isUnit, isIndex, ?_, ?_⟩
  · intro index item listed
    obtain ⟨sent, inWire', isUnit', isIndex', isContent⟩ := carried index item listed
    obtain ⟨gap, member⟩ := handedOn.all sent inWire'
    refine ⟨gap, ?_⟩
    have key : (server.place first : Int) + shift + index = server.place sent + shift := by
      rw [RtpServer.place, RtpServer.place, isUnit, isIndex, isUnit', isIndex']
      omega
    rw [key, ← isContent]
    exact member
  · intro item isItem
    rw [List.head?_eq_getElem?] at isItem
    obtain ⟨sent, inWire', isUnit', isIndex', isContent⟩ := carried 0 item isItem
    have same : sent.packet.bytes = first.packet.bytes := by
      obtain ⟨own', found', listed', _⟩ := lined.genuine sent inWire'
      obtain ⟨own'', found'', listed'', _⟩ := lined.genuine first inWire
      rw [isUnit', found] at found'
      rw [isUnit, found] at found''
      cases found'
      cases found''
      rw [isIndex'] at listed'
      rw [isIndex] at listed''
      exact Option.some.inj (listed'.symm.trans listed'')
    rw [← same]
    exact isContent

/-- The packet in front of the keyframe ends an access unit. -/
theorem marked_before (lossless : Lossless serverConfig server env config inputs) {base packer : PacketizerBase}
    (matching : Matches config serverConfig.h265 base)
    (cut : RtpServer.Cut serverConfig.h265 base server.units packer) {number : Nat}
    (continues : server.Continues number) {early late : List RtpServer.FreshPacket}
    {previous first : RtpServer.FreshPacket} (split : server.wire = early ++ previous :: first :: late)
    (isUnit : first.unit = number) (isIndex : first.index = 0) :
    server.place previous + 1 = server.place first ∧ (content config previous.packet.bytes).marker = true := by
  obtain ⟨actions, reached⟩ := lossless.reached
  have lined := RtpServer.lined_of_run reached
  have next : server.place previous + 1 = server.place first := by
    refine continues (early ++ [previous]) first late ?_ isUnit isIndex previous ?_
    · rw [split, List.append_assoc, List.singleton_append]
    · rw [List.getLast?_concat]
      rfl
  have genuine := lined.genuine previous (by rw [split]; simp)
  obtain ⟨own, found, isLast⟩ :=
    RtpServer.ends_of_place genuine (follows_of_split lined split) isIndex next
  obtain ⟨own', found', listed, _⟩ := genuine
  cases found.symm.trans found'
  have taken := taken_of_cut matching cut own (List.mem_of_getElem? found) _ (List.mem_of_getElem? listed)
  refine ⟨next, taken.marker.trans ?_⟩
  have filled : own.packets ≠ [] := by
    intro nothing
    rw [nothing] at listed
    cases listed
  have made := (cut.unit found).resolve_left filled
  have isEnd : previous.packet.bytes ∈ own.packets.getLast? := by
    rw [List.getLast?_eq_getElem?, ← isLast, Nat.add_sub_cancel]
    exact listed
  rw [← made] at isEnd
  exact marker_of_last _ _ _ _ isEnd

/-- The keyframe is shown by the pass that begins late enough. -/
theorem shows (lossless : Lossless serverConfig server env config inputs) {waited after : RtpReceiver}
    {last : Received} (ran : run env config (start config) inputs = .ok waited) (elapsed : Waited env waited)
    (passed : waited.iterate env config last = .ok after) {number : Nat} {unit : AccessUnit serverConfig.h265}
    (undisturbed : Undisturbed server number unit) :
    unit.streamFrame (packetizer serverConfig.h265 serverConfig.videoSsrc 0) ∈ frames after.log := by
  obtain ⟨actions, reached⟩ := lossless.reached
  obtain ⟨count, cut⟩ := RtpServer.cut_of_run reached
  have matching := lossless.matching.advance count
  obtain ⟨sound, shift, handedOn⟩ := lossless.handedOn ran elapsed passed
  obtain ⟨first, inWire, isUnit, isIndex, delivered, opens⟩ :=
    lossless.delivers_items matching cut handedOn undisturbed
  have frame : unit.streamFrame ((packetizer serverConfig.h265 serverConfig.videoSsrc 0).advance count) =
      unit.streamFrame (packetizer serverConfig.h265 serverConfig.videoSsrc 0) := rfl
  rw [← frame]
  obtain ⟨early, late, split⟩ := List.append_of_mem inWire
  rcases List.eq_nil_or_concat' early with rfl | ⟨before, previous, rfl⟩
  · obtain ⟨gap, later, isHead⟩ := handedOn.head first (by rw [split]; rfl)
    exact shown_at_head matching sound undisturbed.fits undisturbed.keyframe delivered isHead rfl opens
  · rw [List.append_assoc, List.singleton_append] at split
    obtain ⟨next, marker⟩ := lossless.marked_before matching cut undisturbed.continues split isUnit isIndex
    obtain ⟨gap, member⟩ := handedOn.all previous (by rw [split]; simp)
    obtain ⟨earlier, later, isDelivered⟩ := List.append_of_mem member
    obtain ⟨shown, content, visible⟩ := keyframe_behind_marker matching sound undisturbed.fits
      undisturbed.keyframe marker isDelivered number (by
        intro index item listed
        obtain ⟨gap, handed⟩ := delivered index item listed
        refine ⟨gap, ?_⟩
        have key : (server.place previous : Int) + shift + 1 + index = server.place first + shift + index := by
          omega
        rw [key]
        exact handed)
    rw [content]
    exact List.mem_append_right _ visible

end Lossless

/-- Whatever the server drops, repairs or turns away, the receiver shows every
keyframe that is wholly on the wire and follows what was sent before it without a
gap, once a pass of the loop begins later than the repair budget after everything
before. -/
theorem keyframe_recovered {serverConfig : RtpServer.Config} {server : RtpServer} {env : Environment}
    {config : Config} {inputs : List Input} (lossless : Lossless serverConfig server env config inputs)
    (last : Received) (ready : AudioReady config ∨ VideoOnly config (inputs ++ [.iteration last])) :
    ∃ waited, run env config (start config) inputs = .ok waited ∧
      (Waited env waited → ∃ after, waited.iterate env config last = .ok after ∧
        ∀ (number : Nat) (unit : AccessUnit serverConfig.h265), Undisturbed server number unit →
          unit.streamFrame (packetizer serverConfig.h265 serverConfig.videoSsrc 0) ∈ frames after.log) := by
  obtain ⟨finish, ranAll⟩ := run_ok env config lossless.matching.rate_ne_zero _ (start config) (sound_start config)
    ready
  obtain ⟨waited, after, ran, passed, _⟩ := run_split ranAll
  exact ⟨waited, ran, fun elapsed => ⟨after, passed, fun number unit undisturbed =>
    lossless.shows ran elapsed passed undisturbed⟩⟩

/-- A keyframe of one packet is broadcast, at a given time. -/
def sampleBroadcast (now : RtpServer.Time) (ptsUsec : Int64) : RtpServer.Action :=
  .broadcastVideo now now (sampleKeyframe ptsUsec).data ptsUsec true

/-- The second keyframe is lost at the socket of the server, the others are sent. -/
def sampleDrop : List RtpServer.Action :=
  RtpServer.sampleReady ++ [sampleBroadcast 0 0] ++ RtpServer.sampleSend 1 ++
    [sampleBroadcast 2 11111, .wake, .takeRepair, .popFrame, .takeRepair, .sendPacket true 3 false 3, .senderRequest,
      sampleBroadcast 4 22222] ++
    RtpServer.sampleSend 5 ++ [sampleBroadcast 6 33333] ++ RtpServer.sampleSend 7

def sampleServer : RtpServer := (RtpServer.run RtpServer.sampleConfig sampleDrop).get (by decide +kernel)

/-- What the server sent arrives, with a pause behind each packet. -/
def sampleArrivals : List Input :=
  sampleServer.transmitted.flatMap (fun packet => [arrivalInput packet, .iteration .timeout])

theorem lossless_sample :
    Lossless RtpServer.sampleConfig sampleServer slowEnvironment sampleConfig sampleArrivals where
  reached := ⟨sampleDrop, (Option.some_get _).symm⟩
  matching := sampleConfig_matches 0
  monotone := monotone_slow
  arrive := by decide +kernel
  near := by
    have near : sampleServer.wire.IsChain (fun earlier later =>
        sampleServer.place later ≤ sampleServer.place earlier + 32767) := by decide +kernel
    intro early earlier later late split
    exact List.isChain_iff_forall_rel_of_append_cons_cons.mp near split

/-- The last keyframe follows the one before without a gap. -/
theorem undisturbed_sample : Undisturbed sampleServer 3 (sampleKeyframe 33333) where
  broadcast := by decide +kernel
  keyframe := by decide +kernel
  fits := sampleKeyframe_fits 33333
  whole := by
    have whole : ∃ unit ∈ sampleServer.units[3]?, ∃ sent ∈ sampleServer.wire,
        sent.unit = 3 ∧ sent.index + 1 = unit.packets.length := by decide +kernel
    exact whole
  continues := by
    have chain : sampleServer.wire.IsChain (fun earlier later =>
        later.unit = 3 → later.index = 0 → sampleServer.place earlier + 1 = sampleServer.place later) := by
      decide +kernel
    intro early first late split isUnit isIndex previous isPrevious
    obtain ⟨before, rfl⟩ := List.getLast?_eq_some_iff.mp isPrevious
    rw [List.append_assoc, List.singleton_append] at split
    exact List.isChain_iff_forall_rel_of_append_cons_cons.mp chain split isUnit isIndex

theorem keyframe_recovered_sample :
    ∃ waited after, run slowEnvironment sampleConfig (start sampleConfig) sampleArrivals = .ok waited ∧
      waited.iterate slowEnvironment sampleConfig .timeout = .ok after ∧
      (sampleKeyframe 33333).streamFrame (packetizer true 7 0) ∈ frames after.log := by
  obtain ⟨waited, ran, later⟩ := keyframe_recovered lossless_sample .timeout (Or.inl ⟨rfl, by decide⟩)
  obtain ⟨after, passed, shown⟩ := later (waited_slow waited)
  exact ⟨waited, after, ran, passed, shown 3 _ undisturbed_sample⟩

/-- The keyframe right behind the one that was lost is not shown, although all of
it is on the wire and arrives. -/
theorem keyframe_given_up :
    ∃ waited after, Lossless RtpServer.sampleConfig sampleServer slowEnvironment sampleConfig sampleArrivals ∧
      (∃ cut, sampleServer.units[2]? = some cut ∧ cut.data = (sampleKeyframe 22222).data ∧ cut.ptsUsec = 22222) ∧
      isKeyframe true (sampleKeyframe 22222).nals = true ∧ (sampleKeyframe 22222).Fits ∧ sampleServer.Whole 2 ∧
      run slowEnvironment sampleConfig (start sampleConfig) sampleArrivals = .ok waited ∧
      Waited slowEnvironment waited ∧
      waited.iterate slowEnvironment sampleConfig .timeout = .ok after ∧
      (sampleKeyframe 22222).streamFrame (packetizer true 7 0) ∉ frames after.log := by
  have observed : (do
      let waited ← run slowEnvironment sampleConfig (start sampleConfig) sampleArrivals
      let after ← waited.iterate slowEnvironment sampleConfig .timeout
      pure (decide ((sampleKeyframe 22222).streamFrame (packetizer true 7 0) ∉ frames after.log)) :
        Checked Bool).toOption = some true := by decide +kernel
  have whole : ∃ unit ∈ sampleServer.units[2]?, ∃ sent ∈ sampleServer.wire,
      sent.unit = 2 ∧ sent.index + 1 = unit.packets.length := by decide +kernel
  cases ran : run slowEnvironment sampleConfig (start sampleConfig) sampleArrivals with
  | error exception =>
      rw [ran] at observed
      cases observed
  | ok waited =>
      rw [ran, ok_bind] at observed
      cases passed : waited.iterate slowEnvironment sampleConfig .timeout with
      | error exception =>
          rw [passed] at observed
          cases observed
      | ok after =>
          rw [passed, ok_bind] at observed
          exact ⟨waited, after, lossless_sample, by decide +kernel, by decide +kernel, sampleKeyframe_fits 22222,
            whole, rfl, waited_slow waited, passed, of_decide_eq_true (Option.some.inj observed)⟩

end Session
end MetaShare
