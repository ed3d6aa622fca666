import Mathlib.Algebra.Order.BigOperators.Group.List
import Mathlib.Algebra.Order.Ring.Nat
import MetaShare.Server.SendPath

namespace MetaShare
namespace RtpServer

open Rtp Transitions

/-!
# The accounts of the queues

The count of queued packets is kept beside the queue and both are bounded; what
is queued is current; and no repair is queued twice.  All of it changes in a few
critical sections only, so it holds whenever no lock is held.
-/

/-- The number under which a packet is recorded. -/
def MediaPacket.number (packet : MediaPacket) : UInt16 := seqOf packet.bytes

def RepairPacket.Duplicates (first second : RepairPacket) : Prop :=
  first.video = second.video ∧ first.packet.number = second.packet.number

def countPackets (sendQ : List VideoFrame) : Nat := (sendQ.map (fun frame => frame.packets.length)).sum

structure Accounted (path : SendPath) : Prop where
  counted : path.queuedPackets = countPackets path.sendQ
  bounded : path.queuedPackets ≤ kMaxQueuedPackets
  frames : ∀ frame ∈ path.sendQ, frame.generation = path.generation
  held : ∀ flight, path.flight = some flight → flight.frame.generation ≤ path.generation
  repairs : ∀ repair ∈ path.repairQ, repair.generation = path.generation
  room : path.repairQ.length ≤ kMaxQueuedRepairs
  distinct : path.repairQ.Pairwise (fun first second => ¬ first.Duplicates second)
  video : path.retx.Keyed MediaPacket.number
  audio : path.audioRetx.Keyed MediaPacket.number

theorem accounted_start (config : Config) : Accounted (start config).sendPath where
  counted := rfl
  bounded := Nat.zero_le _
  frames := by
    intro frame impossible
    cases impossible
  held := by
    intro flight impossible
    cases impossible
  repairs := by
    intro repair impossible
    cases impossible
  room := Nat.zero_le _
  distinct := .nil
  video := RetransmitBuffer.keyed_clear (.create 1024)
  audio := RetransmitBuffer.keyed_clear (.create 512)

theorem countPackets_cons (frame : VideoFrame) (rest : List VideoFrame) :
    countPackets (frame :: rest) = frame.packets.length + countPackets rest := by
  rw [countPackets, List.map_cons, List.sum_cons]
  rfl

theorem countPackets_snoc (sendQ : List VideoFrame) (frame : VideoFrame) :
    countPackets (sendQ ++ [frame]) = countPackets sendQ + frame.packets.length := by
  rw [countPackets, List.map_append, List.sum_append]
  rfl

/-- The counter of type `size_t` does not wrap. -/
theorem sizeSub_of_le {first second : Nat} (le : second ≤ first) (small : first < 2 ^ 64) :
    sizeSub first second = first - second := by
  rw [sizeSub]
  omega

namespace Accounted

variable {path : SendPath}

theorem drop (accounted : Accounted path) : Accounted path.drop where
  counted := rfl
  bounded := Nat.zero_le _
  frames := by
    intro frame impossible
    cases impossible
  held := fun flight isFlight => (accounted.held flight isFlight).trans (Nat.le_succ _)
  repairs := by
    intro repair impossible
    cases impossible
  room := Nat.zero_le _
  distinct := .nil
  video := RetransmitBuffer.keyed_clear _
  audio := accounted.audio

theorem dropIf (accounted : Accounted path) (shed : Bool) : Accounted (path.dropIf shed) := by
  cases shed with
  | true => exact accounted.drop
  | false => exact accounted

/-- A frame taken from the queue takes its packets from the count. -/
theorem popFrame (accounted : Accounted path) {frame : VideoFrame} {rest : List VideoFrame}
    (first : path.sendQ = frame :: rest) :
    sizeSub path.queuedPackets frame.packets.length = countPackets rest := by
  have counted := accounted.counted
  have bounded := accounted.bounded
  rw [first, countPackets_cons] at counted
  rw [sizeSub_of_le (by omega) (by rw [kMaxQueuedPackets] at bounded; omega)]
  omega

/-- What is stored was recorded under its number. -/
theorem number_of_get (accounted : Accounted path) {video : Bool} {seq : UInt16} {stored : SentPacket MediaPacket}
    (found : (if video then path.retx else path.audioRetx).get seq = some stored) : stored.packet.number = seq := by
  cases video with
  | true => exact accounted.video.get found
  | false => exact accounted.audio.get found

theorem step {h265 : Bool} {action : Action} {next : SendPath} {sent : Option FreshPacket}
    (accounted : Accounted path) (step : SendPath.Step h265 action path sent next) : Accounted next := by
  cases step with
  | reset => exact { accounted.drop with audio := RetransmitBuffer.keyed_clear _ }
  | refuse path started now data ptsUsec keyframe streaming made isMade shed =>
      exact { accounted.dropIf shed with }
  | enter path started now data ptsUsec keyframe streaming made isMade filled shed passes room connection unit =>
      have base := accounted.dropIf shed
      refine { base with counted := ?_, bounded := room, frames := ?_ }
      · have size : ((path.dropIf shed).frame made.1 (started + kMaxSendAge) connection unit).packets.length =
            made.1.length := List.length_map _
        rw [countPackets_snoc, size, ← base.counted]
      · intro frame member
        rcases List.mem_append.mp member with older | own
        · exact base.frames frame older
        · rw [List.mem_singleton.mp own]
          rfl
  | recordAudio path data ptsUsec sent recorded packets connection =>
      have keyed : (packets.foldl (fun retx bytes => retx.record recorded (seqOf bytes) ⟨bytes, connection⟩)
          path.audioRetx).Keyed MediaPacket.number := by
        have base := accounted.audio
        generalize path.audioRetx = retx at base
        induction packets generalizing retx with
        | nil => exact base
        | cons bytes rest inductionHypothesis =>
            rw [List.foldl_cons]
            exact inductionHypothesis _ (base.record recorded ⟨bytes, connection⟩)
      exact { accounted with audio := keyed }
  | takeRepair path repair rest first =>
      have inside : ∀ other ∈ rest, other ∈ path.repairQ := by
        intro other member
        rw [first]
        exact List.mem_cons_of_mem _ member
      have room := accounted.room
      have distinct := accounted.distinct
      rw [first] at room distinct
      refine { accounted with repairs := ?_, room := ?_, distinct := distinct.of_cons }
      · exact fun other member => accounted.repairs other (inside other member)
      · exact (Nat.le_succ _).trans room
  | queueRepair path now video seq stored room new found deadline =>
      refine { accounted with repairs := ?_, room := ?_, distinct := ?_ }
      · intro repair member
        rcases List.mem_append.mp member with older | own
        · exact accounted.repairs repair older
        · rw [List.mem_singleton.mp own]
      · rw [List.length_append]
        exact room
      · refine List.pairwise_append.mpr ⟨accounted.distinct, List.pairwise_singleton _ _, ?_⟩
        intro queued member repair own same
        rw [List.mem_singleton.mp own] at same
        exact new queued member ⟨same.1, same.2.trans (accounted.number_of_get found)⟩
  | popFrame path frame rest first idle =>
      have left := accounted.popFrame first
      refine { accounted with counted := left, bounded := ?_, frames := ?_, held := ?_ }
      · have counted := accounted.counted
        have bounded := accounted.bounded
        rw [first, countPackets_cons] at counted
        exact left.trans_le (by omega)
      · intro other member
        refine accounted.frames other ?_
        rw [first]
        exact List.mem_cons_of_mem _ member
      · intro flight isFlight
        rw [flight_continueWith isFlight]
        refine (accounted.frames frame ?_).le
        rw [first]
        exact List.mem_cons_self
  | cancel action path flight =>
      refine { accounted with held := ?_ }
      intro other impossible
      cases impossible
  | send path flight isHeld packet found streaming current now recorded destination =>
      refine { accounted with held := ?_, video := accounted.video.record recorded packet }
      intro other isOther
      rw [flight_continueWith isOther]
      exact accounted.held flight isHeld
  | lose path flight =>
      refine { accounted.drop with held := ?_ }
      intro other impossible
      cases impossible
  | _ => exact { accounted with }

end Accounted

theorem accounted_of_run {config : Config} {actions : List Action} {server : RtpServer}
    (reached : run config actions = some server) : Accounted server.sendPath := by
  induction actions using List.reverseRecOn generalizing server with
  | nil =>
      cases reached
      exact accounted_start config
  | append_singleton actions action inductionHypothesis =>
      obtain ⟨previous, reachedPrevious, stepped⟩ := run_concat_iff.mp reached
      obtain ⟨sent, moved, _⟩ := moves_of_step (lined_of_run reachedPrevious) (belongs_of_run reachedPrevious) stepped
      exact (inductionHypothesis reachedPrevious).step moved

/-! ## Deadlines in order -/

/-- When a call of `broadcast_video` began. -/
def Action.broadcastStart : Action → Option Time
  | .broadcastVideo started _ _ _ _ => some started
  | _ => none

/-- The queue after a step: what it was, less some of it, and at the end perhaps
the access unit that is being broadcast. -/
theorem SendPath.Step.sendQ_grows {h265 : Bool} {action : Action} {path next : SendPath} {sent : Option FreshPacket}
    (step : SendPath.Step h265 action path sent next) :
    ∃ older added, older.Sublist path.sendQ ∧ next.sendQ = older ++ added ∧
      added.map VideoFrame.deadline <+: action.broadcastStart.toList.map (· + kMaxSendAge) := by
  cases step with
  | reset => exact ⟨[], [], List.nil_sublist _, rfl, ⟨_, rfl⟩⟩
  | refuse path started now data ptsUsec keyframe streaming made isMade shed =>
      cases shed with
      | true => exact ⟨[], [], List.nil_sublist _, rfl, ⟨_, rfl⟩⟩
      | false => exact ⟨_, [], List.Sublist.refl _, (List.append_nil _).symm, ⟨_, rfl⟩⟩
  | enter path started now data ptsUsec keyframe streaming made isMade filled shed passes room connection unit =>
      cases shed with
      | true => exact ⟨[], _, List.nil_sublist _, rfl, ⟨[], List.append_nil _⟩⟩
      | false => exact ⟨_, _, List.Sublist.refl _, rfl, ⟨[], List.append_nil _⟩⟩
  | popFrame path frame rest first =>
      refine ⟨rest, [], ?_, (List.append_nil _).symm, ⟨_, rfl⟩⟩
      rw [first]
      exact List.sublist_cons_self frame rest
  | lose => exact ⟨[], [], List.nil_sublist _, rfl, ⟨_, rfl⟩⟩
  | _ => exact ⟨_, [], List.Sublist.refl _, (List.append_nil _).symm, ⟨_, rfl⟩⟩

/-- The deadlines in the queue are those of the calls, in their order. -/
theorem deadlines_of_run {config : Config} {actions : List Action} {server : RtpServer}
    (reached : run config actions = some server) :
    (server.sendQ.map VideoFrame.deadline).Sublist
      ((actions.filterMap Action.broadcastStart).map (· + kMaxSendAge)) := by
  induction actions using List.reverseRecOn generalizing server with
  | nil =>
      cases reached
      exact List.Sublist.refl _
  | append_singleton actions action inductionHypothesis =>
      obtain ⟨previous, reachedPrevious, stepped⟩ := run_concat_iff.mp reached
      obtain ⟨sent, moved, _⟩ := moves_of_step (lined_of_run reachedPrevious) (belongs_of_run reachedPrevious) stepped
      obtain ⟨older, added, kept, isQueue, isAdded⟩ := moved.sendQ_grows
      rw [show server.sendQ = older ++ added from isQueue, List.map_append, List.filterMap_append, List.map_append]
      refine List.Sublist.append ((kept.map _).trans (inductionHypothesis reachedPrevious)) ?_
      have own : [action].filterMap Action.broadcastStart = action.broadcastStart.toList := by
        cases started : action.broadcastStart <;> simp [started]
      rw [own]
      exact isAdded.sublist

/-- The queue accounting holds in every reachable state: the counter is the
number of queued packets, within its bound, and what is taken from it next is
not more than it; everything queued is current; no repair is queued twice.  And
if the calls of `broadcast_video` come one after another, then the deadlines in
the queue do not decrease. -/
theorem queue_accounting (config : Config) (actions : List Action) (server : RtpServer)
    (reached : run config actions = some server) :
    server.queuedPackets = countPackets server.sendQ ∧ server.queuedPackets ≤ kMaxQueuedPackets ∧
      (∀ frame ∈ server.sendQ, frame.packets.length ≤ server.queuedPackets) ∧
      (∀ frame ∈ server.sendQ, frame.generation = server.sendGeneration) ∧
      (∀ repair ∈ server.repairQ, repair.generation = server.sendGeneration) ∧
      server.repairQ.length ≤ kMaxQueuedRepairs ∧
      server.repairQ.Pairwise (fun first second => ¬ first.Duplicates second) ∧
      ((actions.filterMap Action.broadcastStart).Pairwise (· ≤ ·) →
        (server.sendQ.map VideoFrame.deadline).Pairwise (· ≤ ·)) := by
  have accounted := accounted_of_run reached
  refine ⟨accounted.counted, accounted.bounded, ?_, accounted.frames, accounted.repairs, accounted.room,
    accounted.distinct, ?_⟩
  · intro frame member
    rw [show server.queuedPackets = countPackets server.sendQ from accounted.counted, countPackets]
    exact List.single_le_sum (fun _ _ => Nat.zero_le _) _ (List.mem_map_of_mem member)
  · intro ordered
    refine List.Pairwise.sublist (deadlines_of_run reached) (List.pairwise_map.mpr (ordered.imp ?_))
    intro first second le
    exact Int.add_le_add_right le _

theorem queue_accounting_sample :
    ∃ server, run sampleConfig (sampleReady ++ [.broadcastVideo 0 0 [0, 0, 0, 1, 0x26, 0x01, 0xAF] 0 true,
        .broadcastVideo 3 3 [0, 0, 0, 1, 0x02, 0x01, 0xAF] 1 false]) = some server ∧
      server.queuedPackets = 2 ∧ countPackets server.sendQ = 2 ∧
      (server.sendQ.map VideoFrame.deadline).Pairwise (· ≤ ·) := by
  obtain ⟨server, reached, two⟩ : ∃ server ∈ run sampleConfig (sampleReady ++
      [.broadcastVideo 0 0 [0, 0, 0, 1, 0x26, 0x01, 0xAF] 0 true,
        .broadcastVideo 3 3 [0, 0, 0, 1, 0x02, 0x01, 0xAF] 1 false]), server.queuedPackets = 2 := by
    decide +kernel
  obtain ⟨counted, _, _, _, _, _, _, ordered⟩ := queue_accounting sampleConfig _ server reached
  exact ⟨server, reached, two, counted.symm.trans two, ordered (by decide)⟩

end RtpServer
end MetaShare
