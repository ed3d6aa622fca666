import Mathlib.Data.List.Nodup
import MetaShare.Rtp.Packetizer

namespace MetaShare
namespace Rtp

/-!
# The retransmit buffer

A sliding window of recently sent packets, keyed by sequence number.  Eviction
goes by insertion order, since the lowest number is the newest packet right
after a wrap.  What is stored with a number is left open.
-/

/-- A stored packet and the time at which it was recorded. -/
structure SentPacket (Stored : Type) where
  packet : Stored
  sentAt : Int
  deriving DecidableEq

structure RetransmitBuffer (Stored : Type) where
  packets : List (UInt16 × SentPacket Stored)
  order : List UInt16
  capacity : Nat
  deriving DecidableEq

namespace RetransmitBuffer

variable {Stored : Type}

def create (capacity : Nat) : RetransmitBuffer Stored := ⟨[], [], capacity⟩

def find (packets : List (UInt16 × SentPacket Stored)) (seq : UInt16) : Option (SentPacket Stored) :=
  (packets.find? (fun entry => entry.1 == seq)).map Prod.snd

def insertOrAssign (packets : List (UInt16 × SentPacket Stored)) (seq : UInt16) (sent : SentPacket Stored) :
    List (UInt16 × SentPacket Stored) :=
  (seq, sent) :: packets.filter (fun entry => entry.1 != seq)

/-- Erase from the front of the insertion order until the capacity is met. -/
def evict (capacity : Nat) (packets : List (UInt16 × SentPacket Stored)) :
    List UInt16 → List (UInt16 × SentPacket Stored) × List UInt16
  | [] => (packets, [])
  | seq :: order =>
      if capacity < order.length + 1 then
        evict capacity (packets.filter (fun entry => entry.1 != seq)) order
      else (packets, seq :: order)

def record (buffer : RetransmitBuffer Stored) (now : Int) (seq : UInt16) (packet : Stored) :
    RetransmitBuffer Stored :=
  let inserted := (find buffer.packets seq).isNone
  let order := if inserted then buffer.order ++ [seq] else buffer.order
  let kept := evict buffer.capacity (insertOrAssign buffer.packets seq ⟨packet, now⟩) order
  { buffer with packets := kept.1, order := kept.2 }

def get (buffer : RetransmitBuffer Stored) (seq : UInt16) : Option (SentPacket Stored) :=
  find buffer.packets seq

def clear (buffer : RetransmitBuffer Stored) : RetransmitBuffer Stored :=
  { buffer with packets := [], order := [] }

/-! ## What is stored -/

/-- Everything stored has the property. -/
def Holds (property : Stored → Prop) (buffer : RetransmitBuffer Stored) : Prop :=
  ∀ entry ∈ buffer.packets, property entry.2.packet

variable {property : Stored → Prop}

theorem holds_clear (buffer : RetransmitBuffer Stored) : buffer.clear.Holds property := by
  intro entry impossible
  cases impossible

theorem evict_subset (capacity : Nat) (packets : List (UInt16 × SentPacket Stored)) (order : List UInt16) :
    (evict capacity packets order).1 ⊆ packets := by
  induction order generalizing packets with
  | nil => exact List.Subset.refl packets
  | cons seq order inductionHypothesis =>
      rw [evict]
      split
      · exact List.Subset.trans (inductionHypothesis _) (List.filter_subset_self _)
      · exact List.Subset.refl packets

theorem Holds.record {buffer : RetransmitBuffer Stored} (holds : buffer.Holds property) (now : Int)
    (seq : UInt16) {packet : Stored} (own : property packet) : (buffer.record now seq packet).Holds property := by
  intro entry member
  rcases List.mem_cons.mp (evict_subset _ _ _ member) with same | older
  · rw [same]
    exact own
  · exact holds entry (List.mem_of_mem_filter older)

theorem Holds.get {buffer : RetransmitBuffer Stored} (holds : buffer.Holds property) {seq : UInt16}
    {sent : SentPacket Stored} (found : buffer.get seq = some sent) : property sent.packet := by
  rw [RetransmitBuffer.get, find, Option.map_eq_some_iff] at found
  obtain ⟨entry, listed, rfl⟩ := found
  exact holds entry (List.mem_of_find?_eq_some listed)

/-- Everything is stored under its own key. -/
def Keyed (key : Stored → UInt16) (buffer : RetransmitBuffer Stored) : Prop :=
  ∀ entry ∈ buffer.packets, key entry.2.packet = entry.1

variable {key : Stored → UInt16}

theorem keyed_clear (buffer : RetransmitBuffer Stored) : buffer.clear.Keyed key := by
  intro entry impossible
  cases impossible

theorem Keyed.record {buffer : RetransmitBuffer Stored} (keyed : buffer.Keyed key) (now : Int) (packet : Stored) :
    (buffer.record now (key packet) packet).Keyed key := by
  intro entry member
  rcases List.mem_cons.mp (evict_subset _ _ _ member) with same | older
  · rw [same]
  · exact keyed entry (List.mem_of_mem_filter older)

theorem Keyed.get {buffer : RetransmitBuffer Stored} (keyed : buffer.Keyed key) {seq : UInt16}
    {sent : SentPacket Stored} (found : buffer.get seq = some sent) : key sent.packet = seq := by
  rw [RetransmitBuffer.get, find, Option.map_eq_some_iff] at found
  obtain ⟨entry, listed, rfl⟩ := found
  have same := List.find?_some listed
  rw [keyed entry (List.mem_of_find?_eq_some listed)]
  exact beq_iff_eq.mp same

/-! ## A window over the recent past -/

/-- The buffer stores exactly these packets, the oldest first, under distinct
numbers. -/
structure Window (buffer : RetransmitBuffer Stored) (recent : List (UInt16 × SentPacket Stored)) : Prop where
  packets : buffer.packets = recent.reverse
  order : buffer.order = recent.map Prod.fst
  nodup : (recent.map Prod.fst).Nodup
  within : recent.length ≤ buffer.capacity

theorem window_clear (buffer : RetransmitBuffer Stored) : buffer.clear.Window [] :=
  ⟨rfl, rfl, .nil, Nat.zero_le _⟩

@[simp] theorem capacity_record (buffer : RetransmitBuffer Stored) (now : Int) (seq : UInt16) (packet : Stored) :
    (buffer.record now seq packet).capacity = buffer.capacity := rfl

theorem find_eq_none {packets : List (UInt16 × SentPacket Stored)} {seq : UInt16}
    (absent : seq ∉ packets.map Prod.fst) : find packets seq = none := by
  rw [find, Option.map_eq_none_iff, List.find?_eq_none]
  intro entry member same
  exact absent (beq_iff_eq.mp same ▸ List.mem_map_of_mem member)

theorem filter_absent {packets : List (UInt16 × SentPacket Stored)} {seq : UInt16}
    (absent : seq ∉ packets.map Prod.fst) : packets.filter (fun entry => entry.1 != seq) = packets := by
  rw [List.filter_eq_self]
  intro entry member
  rw [bne_iff_ne]
  rintro rfl
  exact absent (List.mem_map_of_mem member)

/-- With distinct numbers, looking one up finds the packet it is stored with. -/
theorem find_of_mem {packets : List (UInt16 × SentPacket Stored)} (nodup : (packets.map Prod.fst).Nodup)
    {entry : UInt16 × SentPacket Stored} (member : entry ∈ packets) : find packets entry.1 = some entry.2 := by
  induction packets with
  | nil => cases member
  | cons head rest inductionHypothesis =>
      rw [List.map_cons, List.nodup_cons] at nodup
      rw [find]
      rcases List.mem_cons.mp member with rfl | later
      · simp
      · have other : ¬ (head.1 == entry.1) = true := by
          intro same
          exact nodup.1 (beq_iff_eq.mp same ▸ List.mem_map_of_mem later)
        simp only [List.find?_cons, Bool.not_eq_true _ ▸ other]
        exact inductionHypothesis nodup.2 later

namespace Window

variable {buffer : RetransmitBuffer Stored} {recent : List (UInt16 × SentPacket Stored)}

/-- A number that is not in the window displaces at most the oldest one. -/
theorem record (window : buffer.Window recent) (now : Int) {seq : UInt16}
    (new : seq ∉ recent.map Prod.fst) (packet : Stored) :
    (buffer.record now seq packet).Window
      ((recent ++ [(seq, SentPacket.mk packet now)]).drop (recent.length + 1 - buffer.capacity)) := by
  have absent : seq ∉ buffer.packets.map Prod.fst := by
    rw [window.packets, List.map_reverse, List.mem_reverse]
    exact new
  have inserted : insertOrAssign buffer.packets seq ⟨packet, now⟩ =
      (recent ++ [(seq, SentPacket.mk packet now)]).reverse := by
    rw [insertOrAssign, filter_absent absent, window.packets, List.reverse_append]
    rfl
  have order : buffer.order ++ [seq] = (recent ++ [(seq, SentPacket.mk packet now)]).map Prod.fst := by
    rw [window.order, List.map_append]
    rfl
  have nodup : ((recent ++ [(seq, SentPacket.mk packet now)]).map Prod.fst).Nodup := by
    rw [List.map_append]
    refine List.nodup_append.mpr ⟨window.nodup, List.nodup_singleton _, ?_⟩
    intro first listed second isSecond same
    rw [same, List.mem_singleton.mp isSecond] at listed
    exact new listed
  have within := window.within
  have isRecord : (buffer.record now seq packet) =
      { buffer with
        packets := (evict buffer.capacity (recent ++ [(seq, SentPacket.mk packet now)]).reverse
          ((recent ++ [(seq, SentPacket.mk packet now)]).map Prod.fst)).1
        order := (evict buffer.capacity (recent ++ [(seq, SentPacket.mk packet now)]).reverse
          ((recent ++ [(seq, SentPacket.mk packet now)]).map Prod.fst)).2 } := by
    rw [RetransmitBuffer.record, find_eq_none absent, inserted]
    simp only [Option.isNone_none, if_true, order]
  rw [isRecord]
  generalize isAll : recent ++ [(seq, SentPacket.mk packet now)] = all at nodup ⊢
  have size : all.length = recent.length + 1 := by
    rw [← isAll, List.length_append]
    rfl
  rw [← size]
  clear isRecord
  cases all with
  | nil => cases size
  | cons oldest rest =>
      rw [List.map_cons, List.nodup_cons] at nodup
      rw [List.length_cons] at size ⊢
      by_cases full : buffer.capacity < rest.length + 1
      · -- The buffer was full, and the oldest packet goes.
        have one : rest.length + 1 - buffer.capacity = 1 := by omega
        have kept : evict buffer.capacity (oldest :: rest).reverse ((oldest :: rest).map Prod.fst) =
            (rest.reverse, rest.map Prod.fst) := by
          rw [List.map_cons, evict, List.length_map, if_pos full, List.reverse_cons, List.filter_append,
            filter_absent (by rw [List.map_reverse, List.mem_reverse]; exact nodup.1)]
          have last : [oldest].filter (fun entry => entry.1 != oldest.1) = [] := by simp
          rw [last, List.append_nil]
          cases rest with
          | nil => rfl
          | cons next rest =>
              rw [List.map_cons, evict, List.length_map, if_neg]
              rw [List.length_cons] at full size
              omega
        rw [kept, one, List.drop_one, List.tail_cons]
        exact ⟨rfl, rfl, nodup.2, by simp only; omega⟩
      · have none : rest.length + 1 - buffer.capacity = 0 := by omega
        have kept : evict buffer.capacity (oldest :: rest).reverse ((oldest :: rest).map Prod.fst) =
            ((oldest :: rest).reverse, (oldest :: rest).map Prod.fst) := by
          rw [List.map_cons, evict, List.length_map, if_neg full]
        rw [kept, none, List.drop_zero]
        exact ⟨rfl, rfl, List.nodup_cons.mpr nodup, by rw [List.length_cons]; simp only; omega⟩

/-- What is in the window is found, and nothing else. -/
theorem get (window : buffer.Window recent) (seq : UInt16) (sent : SentPacket Stored) :
    buffer.get seq = some sent ↔ (seq, sent) ∈ recent := by
  have nodup : (buffer.packets.map Prod.fst).Nodup := by
    rw [window.packets, List.map_reverse, List.nodup_reverse]
    exact window.nodup
  constructor
  · intro found
    rw [RetransmitBuffer.get, find, Option.map_eq_some_iff] at found
    obtain ⟨entry, listed, rfl⟩ := found
    have same := List.find?_some listed
    have member := List.mem_of_find?_eq_some listed
    rw [window.packets, List.mem_reverse] at member
    rw [← beq_iff_eq.mp same]
    exact member
  · intro member
    have listed : (seq, sent) ∈ buffer.packets := by
      rw [window.packets, List.mem_reverse]
      exact member
    exact find_of_mem nodup listed

end Window

end RetransmitBuffer
end Rtp
end MetaShare
