import MetaShare.Rtp.Fragmentation
import MetaShare.Server.Accounting

namespace MetaShare
namespace RtpServer

open Rtp Transitions

/-!
# The window for retransmissions

The buffer forgets by age in packets, and a packet that comes under a number
already stored would keep the old place.  That does not happen: what a session
sends is numbered consecutively from one clearing of the buffer to the next,
because each path that takes numbers for packets it does not send also clears
the buffer.
-/

/-- The last 1024 packets. -/
def latest (fresh : List MediaPacket) : List MediaPacket := fresh.drop (fresh.length - 1024)

theorem latest_length_le (fresh : List MediaPacket) : (latest fresh).length ≤ 1024 := by
  rw [latest, List.length_drop]
  omega

theorem latest_snoc (fresh : List MediaPacket) (packet : MediaPacket) :
    latest (fresh ++ [packet]) = (latest fresh ++ [packet]).drop ((latest fresh).length + 1 - 1024) := by
  have moved : latest fresh ++ [packet] = (fresh ++ [packet]).drop (fresh.length - 1024) := by
    rw [latest, List.drop_append_of_le_length (Nat.sub_le _ _)]
  have count : fresh.length + 1 - 1024 = fresh.length - 1024 + (fresh.length - (fresh.length - 1024) + 1 - 1024) := by
    omega
  rw [moved, List.drop_drop, latest, latest, List.length_append, List.length_drop, List.length_singleton, count]

/-- The packets in front of the wire: what the sender holds of a current frame,
and the queue. -/
def SendPath.ahead (path : SendPath) : List MediaPacket :=
  (match path.flight with
    | some flight => if flight.frame.generation = path.generation then flight.frame.packets.drop flight.next else []
    | none => []) ++ path.sendQ.flatMap VideoFrame.packets

/-- Given the packets sent since the buffer was cleared, it stores the last of
them; they and the packets in front of the wire are numbered consecutively; and
behind an open gate the packetizer goes on from there. -/
structure Windowed (path : SendPath) (fresh : List MediaPacket) : Prop where
  capacity : path.retx.capacity = 1024
  stored : ∃ recent, path.retx.Window recent ∧
    recent.map (fun entry => (entry.1, entry.2.packet)) =
      (latest fresh).map (fun packet => (packet.number, packet))
  numbered : ∃ first, Numbered first (fresh.map MediaPacket.bytes)
  onward : path.streaming = true → ∃ first, Numbered first ((fresh ++ path.ahead).map MediaPacket.bytes) ∧
    (path.awaiting = false → path.packer.seq = first + UInt16.ofNat (fresh ++ path.ahead).length)
  gate : path.awaiting = true → fresh = [] ∧ path.ahead = []

namespace SendPath

variable {path : SendPath}

theorem ahead_drop (held : ∀ flight, path.flight = some flight → flight.frame.generation ≤ path.generation) :
    path.drop.ahead = [] := by
  rw [ahead]
  split
  · rename_i flight isFlight
    have older := held flight isFlight
    rw [if_neg (show ¬ flight.frame.generation = path.drop.generation from (Nat.lt_succ_of_le older).ne)]
    rfl
  · rfl

theorem ahead_of_flight {flight : Flight} (held : path.flight = some flight)
    (current : flight.frame.generation = path.generation) :
    path.ahead = flight.frame.packets.drop flight.next ++ path.sendQ.flatMap VideoFrame.packets := by
  rw [ahead, held]
  simp only [if_pos current]

/-- Behind the head of the loop the sender holds what is left of the frame. -/
theorem ahead_continueWith (flight : Flight) (held : path.flight = (continueWith flight).flight)
    (current : flight.frame.generation = path.generation) :
    path.ahead = flight.frame.packets.drop flight.next ++ path.sendQ.flatMap VideoFrame.packets := by
  by_cases more : flight.next < flight.frame.packets.length
  · refine ahead_of_flight ?_ current
    rw [held, continueWith, if_pos more]
    rfl
  · rw [ahead, held, continueWith, if_neg more, List.drop_eq_nil_of_le (Nat.le_of_not_lt more)]
    rfl

theorem ahead_snoc (frame : VideoFrame) (queue : Nat) (awaiting : Bool) (packer : PacketizerBase) :
    { path with
      packer := packer
      awaiting := awaiting
      queuedPackets := queue
      sendQ := path.sendQ ++ [frame] }.ahead = path.ahead ++ frame.packets := by
  rw [ahead, ahead, List.flatMap_append, List.flatMap_singleton, ← List.append_assoc]

end SendPath

namespace Windowed

variable {path : SendPath} {fresh : List MediaPacket}

theorem drop (windowed : Windowed path fresh) (accounted : Accounted path) : Windowed path.drop [] where
  capacity := windowed.capacity
  stored := ⟨[], RetransmitBuffer.window_clear _, rfl⟩
  numbered := ⟨0, numbered_nil 0⟩
  onward := by
    rw [SendPath.ahead_drop accounted.held]
    refine fun _ => ⟨0, numbered_nil 0, ?_⟩
    intro impossible
    cases impossible
  gate := fun _ => ⟨rfl, SendPath.ahead_drop accounted.held⟩

/-- An access unit that is queued goes on with the numbers. -/
theorem enter (windowed : Windowed path fresh) (streaming : path.streaming = true) {h265 : Bool}
    {data : List UInt8} {ptsUsec : Int64} {made : List Packet × PacketizerBase}
    (isMade : packetize h265 path.packer data ptsUsec = made) (deadline : Time) (connection unit queue : Nat) :
    Windowed
      { path with
        packer := made.2
        awaiting := false
        queuedPackets := queue
        sendQ := path.sendQ ++ [path.frame made.1 deadline connection unit] } fresh := by
  have bytes : (path.frame made.1 deadline connection unit).packets.map MediaPacket.bytes = made.1 := by
    rw [SendPath.frame, List.map_map]
    exact List.map_id _
  have count : (path.frame made.1 deadline connection unit).packets.length = made.1.length := List.length_map _
  have own := packetize_numbered h265 path.packer data ptsUsec
  rw [isMade] at own
  have onward : ∃ first, Numbered first ((fresh ++ path.ahead).map MediaPacket.bytes) ∧
      path.packer.seq = first + UInt16.ofNat (fresh ++ path.ahead).length := by
    obtain ⟨first, numbered, next⟩ := windowed.onward streaming
    rcases Bool.eq_false_or_eq_true path.awaiting with closed | wasOpen
    · obtain ⟨noFresh, nothing⟩ := windowed.gate closed
      rw [noFresh, nothing]
      exact ⟨path.packer.seq, numbered_nil _, (UInt16.add_zero _).symm⟩
    · exact ⟨first, numbered, next wasOpen⟩
  obtain ⟨first, numbered, next⟩ := onward
  refine { windowed with onward := fun _ => ⟨first, ?_, fun _ => ?_⟩, gate := ?_ }
  · rw [SendPath.ahead_snoc, ← List.append_assoc, List.map_append, bytes]
    refine numbered_append.mpr ⟨numbered, ?_⟩
    rw [List.length_map, ← next]
    exact own.1
  · rw [SendPath.ahead_snoc, ← List.append_assoc, List.length_append, count, UInt16.ofNat_add, ← UInt16.add_assoc,
      ← next]
    exact own.2
  · intro impossible
    cases impossible

/-- A packet that is sent joins the window. -/
theorem send (windowed : Windowed path fresh) {flight : Flight} (held : path.flight = some flight)
    {packet : MediaPacket} (found : flight.frame.packets[flight.next]? = some packet)
    (streaming : path.streaming = true) (current : flight.frame.generation = path.generation) (recorded : Time) :
    Windowed
      { path with
        retx := path.retx.record recorded (seqOf packet.bytes) packet
        flight := (continueWith { flight with next := flight.next + 1 }).flight } (fresh ++ [packet]) := by
  generalize isNext : { path with
    retx := path.retx.record recorded (seqOf packet.bytes) packet
    flight := (continueWith { flight with next := flight.next + 1 }).flight } = next
  have ahead : path.ahead = packet :: next.ahead := by
    have rest : next.ahead = flight.frame.packets.drop (flight.next + 1) ++
        path.sendQ.flatMap VideoFrame.packets := by
      rw [← isNext]
      exact SendPath.ahead_continueWith { flight with next := flight.next + 1 } rfl current
    obtain ⟨inside, isPacket⟩ := List.getElem?_eq_some_iff.mp found
    rw [rest, SendPath.ahead_of_flight held current, List.drop_eq_getElem_cons inside, isPacket, List.cons_append]
  have same : fresh ++ path.ahead = fresh ++ [packet] ++ next.ahead := by
    rw [ahead, List.append_assoc]
    rfl
  obtain ⟨first, numbered, onward⟩ := windowed.onward streaming
  have upTo : Numbered first ((fresh ++ [packet]).map MediaPacket.bytes) := by
    rw [same, List.map_append] at numbered
    exact (numbered_append.mp numbered).1
  obtain ⟨recent, window, isRecent⟩ := windowed.stored
  have keys : recent.map Prod.fst = (latest fresh).map MediaPacket.number := by
    have both := congrArg (List.map Prod.fst) isRecent
    rw [List.map_map, List.map_map] at both
    exact both
  have size : recent.length = (latest fresh).length := by
    have both := congrArg List.length keys
    rw [List.length_map, List.length_map] at both
    exact both
  have new : seqOf packet.bytes ∉ recent.map Prod.fst := by
    have split : fresh ++ [packet] = fresh.take (fresh.length - 1024) ++ (latest fresh ++ [packet]) := by
      rw [latest, ← List.append_assoc, List.take_append_drop]
    rw [split, List.map_append] at upTo
    have recentNumbers := (numbered_append.mp upTo).2
    rw [List.map_append] at recentNumbers
    have absent := Numbered.new recentNumbers (by
      have := latest_length_le fresh
      rw [List.length_map]
      omega)
    rw [keys]
    rw [List.map_map] at absent
    exact absent
  constructor
  case capacity =>
    rw [← isNext]
    exact windowed.capacity
  case stored =>
    refine ⟨(recent ++ [(seqOf packet.bytes, SentPacket.mk packet recorded)]).drop
      (recent.length + 1 - path.retx.capacity), ?_, ?_⟩
    · rw [← isNext]
      exact window.record recorded new packet
    · rw [List.map_drop, List.map_append, isRecent, windowed.capacity, size, latest_snoc, List.map_drop,
        List.map_append]
      rfl
  case numbered => exact ⟨first, upTo⟩
  case onward =>
    rw [← same, ← isNext]
    exact fun _ => ⟨first, numbered, onward⟩
  case gate =>
    rw [← isNext]
    intro closed
    have nothing := (windowed.gate closed).2
    rw [ahead] at nothing
    cases nothing

/-- One step either sends at most one packet and leaves the window in place, or
clears the buffer and moves the generation. -/
theorem step {h265 : Bool} {action : Action} {next : SendPath} {sent : Option FreshPacket}
    (windowed : Windowed path fresh) (accounted : Accounted path)
    (step : SendPath.Step h265 action path sent next) :
    (next.generation = path.generation ∧ Windowed next (fresh ++ (sent.map FreshPacket.packet).toList)) ∨
      (next.generation ≠ path.generation ∧ sent = none ∧ Windowed next []) := by
  have same : ∀ {other : SendPath}, other.generation = path.generation → Windowed other fresh →
      (other.generation = path.generation ∧
        Windowed other (fresh ++ ((none : Option FreshPacket).map FreshPacket.packet).toList)) ∨
      (other.generation ≠ path.generation ∧ (none : Option FreshPacket) = none ∧ Windowed other []) := by
    intro other generation kept
    rw [Option.map_none, Option.toList_none, List.append_nil]
    exact Or.inl ⟨generation, kept⟩
  cases step with
  | stop => exact same rfl { windowed with onward := fun impossible => Bool.noConfusion impossible }
  | reset => exact Or.inr ⟨(Nat.lt_succ_self _).ne', rfl, { windowed.drop accounted with }⟩
  | ready message path empty =>
      refine same rfl { windowed with onward := fun _ => ?_ }
      rcases Bool.eq_false_or_eq_true path.streaming with streaming | stopped
      · exact windowed.onward streaming
      · obtain ⟨_, awaiting, _⟩ := empty stopped
        obtain ⟨noFresh, nothing⟩ := windowed.gate awaiting
        have ahead : { path with streaming := true, readyRequest := true }.ahead = [] := nothing
        rw [noFresh, ahead]
        exact ⟨0, numbered_nil 0, fun wasOpen => absurd (awaiting.symm.trans wasOpen) Bool.noConfusion⟩
  | pack path started now data ptsUsec keyframe streaming made isMade nothing =>
      refine same rfl { windowed with onward := fun _ => ?_ }
      obtain ⟨first, numbered, next⟩ := windowed.onward streaming
      refine ⟨first, numbered, fun wasOpen => ?_⟩
      have own := (packetize_numbered h265 path.packer data ptsUsec).2
      rw [isMade, nothing, List.length_nil] at own
      exact (own.trans (UInt16.add_zero _)).trans (next wasOpen)
  | refuse path started now data ptsUsec keyframe streaming made isMade shed shut =>
      cases shed with
      | true => exact Or.inr ⟨(Nat.lt_succ_self _).ne', rfl, { windowed.drop accounted with
          onward := fun _ => by
            obtain ⟨first, numbered, _⟩ := (windowed.drop accounted).onward streaming
            exact ⟨first, numbered, fun wasOpen => Bool.noConfusion wasOpen⟩ }⟩
      | false =>
          refine same rfl { windowed with onward := fun _ => ?_ }
          obtain ⟨first, numbered, _⟩ := windowed.onward streaming
          exact ⟨first, numbered, fun wasOpen => absurd (shut.symm.trans wasOpen) Bool.noConfusion⟩
  | enter path started now data ptsUsec keyframe streaming made isMade filled shed passes room connection unit =>
      cases shed with
      | true =>
          refine Or.inr ⟨(Nat.lt_succ_self _).ne', rfl, ?_⟩
          exact (windowed.drop accounted).enter streaming isMade _ connection unit _
      | false => exact same rfl (windowed.enter streaming isMade _ connection unit _)
  | popFrame path frame rest first idle =>
      have current : frame.generation = path.generation := by
        apply accounted.frames
        rw [first]
        exact List.mem_cons_self
      have ahead : { path with
          sendQ := rest
          queuedPackets := sizeSub path.queuedPackets frame.packets.length
          flight := (continueWith ⟨frame, 0⟩).flight }.ahead = path.ahead := by
        refine (SendPath.ahead_continueWith ⟨frame, 0⟩ ?_ ?_).trans ?_
        · rfl
        · exact current
        · rw [SendPath.ahead, idle, first, List.flatMap_cons]
          rfl
      refine same rfl { windowed with onward := ?_, gate := ?_ }
      · rw [ahead]
        exact windowed.onward
      · rw [ahead]
        exact windowed.gate
  | cancel action path flight held outdated =>
      refine same rfl { windowed with onward := fun streaming => ?_, gate := fun closed => ?_ }
      · have ahead : { path with flight := none }.ahead = path.ahead := by
          rw [SendPath.ahead, SendPath.ahead, held]
          simp only [if_neg (outdated streaming)]
        rw [ahead]
        exact windowed.onward streaming
      · obtain ⟨noFresh, nothing⟩ := windowed.gate closed
        exact ⟨noFresh, (List.append_eq_nil_iff.mp nothing).2⟩
  | send path flight held packet found streaming current now recorded destination =>
      exact Or.inl ⟨rfl, windowed.send held found streaming current recorded⟩
  | lose path flight held streaming current =>
      refine Or.inr ⟨(Nat.lt_succ_self _).ne', rfl,
        { windowed.drop accounted with onward := fun _ => ?_, gate := ?_ }⟩
      · exact ⟨0, numbered_nil 0, fun wasOpen => Bool.noConfusion wasOpen⟩
      · exact fun _ => ⟨rfl, rfl⟩
  | _ => exact same rfl { windowed with }

end Windowed

/-! ## Every run -/

theorem windowed_start (config : Config) : Windowed (start config).sendPath [] where
  capacity := rfl
  stored := ⟨[], RetransmitBuffer.window_clear (.create 1024), rfl⟩
  numbered := ⟨0, numbered_nil 0⟩
  onward := by
    intro impossible
    cases impossible
  gate := fun _ => ⟨rfl, rfl⟩

/-- The fresh video packets sent since an earlier state of the server. -/
def sentSince (earlier server : RtpServer) : List MediaPacket :=
  ((server.log.drop earlier.log.length).filterMap Event.freshPacket).map FreshPacket.packet

/-- The time since the buffer was cleared last: each clearing moves the
generation on, and nothing else does. -/
abbrev SinceCleared (config : Config) (early late : List Action) (cleared server : RtpServer) : Prop :=
  Since (step config) (start config) (fun state => state.sendGeneration = server.sendGeneration) early late cleared
    server

theorem windowed_of_run {config : Config} {actions : List Action} {server : RtpServer}
    (reached : run config actions = some server) :
    ∃ early late cleared, actions = early ++ late ∧ SinceCleared config early late cleared server ∧
      cleared.log.length ≤ server.log.length ∧ Windowed server.sendPath (sentSince cleared server) := by
  induction actions using List.reverseRecOn generalizing server with
  | nil =>
      cases reached
      exact ⟨[], [], _, rfl, since_start rfl, Nat.le_refl _, windowed_start config⟩
  | append_singleton actions action inductionHypothesis =>
      obtain ⟨previous, reachedPrevious, stepped⟩ := run_concat_iff.mp reached
      obtain ⟨early, late, cleared, rfl, since, older, windowed⟩ := inductionHypothesis reachedPrevious
      have belongs := belongs_of_run reachedPrevious
      obtain ⟨sent, moved, logged⟩ := moves_of_step (lined_of_run reachedPrevious) belongs stepped
      obtain ⟨events, grown, _⟩ := sends_of_step belongs stepped
      rcases windowed.step (accounted_of_run reachedPrevious) moved with ⟨same, kept⟩ | ⟨changed, _, restarted⟩
      · have generation : server.sendGeneration = previous.sendGeneration := same
        have added : sentSince cleared server =
            sentSince cleared previous ++ (sent.map FreshPacket.packet).toList := by
          rw [grown, List.filterMap_append, List.append_cancel_left_eq] at logged
          rw [sentSince, sentSince, grown, List.drop_append_of_le_length older, List.filterMap_append, logged,
            List.map_append]
          cases sent <;> rfl
        refine ⟨early, late ++ [action], cleared, List.append_assoc _ _ _, ?_, ?_, ?_⟩
        · rw [SinceCleared, generation]
          exact since.snoc stepped generation
        · rw [grown, List.length_append]
          exact Nat.le_add_right_of_le older
        · rw [added]
          exact kept
      · refine ⟨early ++ late ++ [action], [], server, (List.append_nil _).symm, ?_, Nat.le_refl _, ?_⟩
        · exact since_now reachedPrevious stepped (fun same => changed same.symm) rfl
        · rw [sentSince, List.drop_length]
          exact restarted

/-- In every reachable state the fresh video packets sent since the buffer was
cleared are numbered consecutively, the buffer holds the last 1024 of them, each
once and from the oldest to the newest, and looking up a number finds the one
among these that has it, or nothing. -/
theorem retransmit_window (config : Config) (actions : List Action) (server : RtpServer)
    (reached : run config actions = some server) :
    ∃ early late cleared, actions = early ++ late ∧ SinceCleared config early late cleared server ∧
      (∃ first : UInt16, ∀ index packet, (sentSince cleared server)[index]? = some packet →
        packet.number = first + UInt16.ofNat index) ∧
      server.videoRetx.order = (latest (sentSince cleared server)).map MediaPacket.number ∧
      server.videoRetx.packets.map Prod.fst = server.videoRetx.order.reverse ∧ server.videoRetx.order.Nodup ∧
      ∀ seq packet, (server.videoRetx.get seq).map SentPacket.packet = some packet ↔
        packet ∈ latest (sentSince cleared server) ∧ packet.number = seq := by
  obtain ⟨early, late, cleared, split, since, _, windowed⟩ := windowed_of_run reached
  obtain ⟨recent, window, isRecent⟩ := windowed.stored
  have keys : recent.map Prod.fst = (latest (sentSince cleared server)).map MediaPacket.number := by
    have both := congrArg (List.map Prod.fst) isRecent
    rw [List.map_map, List.map_map] at both
    exact both
  refine ⟨early, late, cleared, split, since, ?_, window.order.trans keys, ?_, ?_, fun seq packet => ?_⟩
  · obtain ⟨first, numbered⟩ := windowed.numbered
    refine ⟨first, fun index packet found => numbered index packet.bytes ?_⟩
    rw [List.getElem?_map, found]
    rfl
  · rw [show server.videoRetx.packets = recent.reverse from window.packets,
      show server.videoRetx.order = recent.map Prod.fst from window.order, List.map_reverse]
  · rw [show server.videoRetx.order = recent.map Prod.fst from window.order]
    exact window.nodup
  · have listed : (seq, packet) ∈ recent.map (fun entry => (entry.1, entry.2.packet)) ↔
        packet ∈ latest (sentSince cleared server) ∧ packet.number = seq := by
      rw [isRecent, List.mem_map]
      constructor
      · rintro ⟨other, member, same⟩
        cases same
        exact ⟨member, rfl⟩
      · rintro ⟨member, rfl⟩
        exact ⟨packet, member, rfl⟩
    rw [← listed, Option.map_eq_some_iff, List.mem_map]
    constructor
    · rintro ⟨sent, found, rfl⟩
      exact ⟨(seq, sent), (window.get seq sent).mp found, rfl⟩
    · rintro ⟨entry, member, same⟩
      cases same
      exact ⟨entry.2, (window.get _ _).mpr member, rfl⟩

theorem retransmit_window_sample :
    ∃ server, run sampleConfig (sampleReady ++
        [.broadcastVideo 0 0 [0, 0, 0, 1, 0x26, 0x01, 0xAF] 0 true] ++ sampleSend 1) = some server ∧
      ∃ early late cleared, SinceCleared sampleConfig early late cleared server ∧
        [0] = (latest (sentSince cleared server)).map MediaPacket.number := by
  obtain ⟨server, reached, order⟩ : ∃ server ∈ run sampleConfig (sampleReady ++
      [.broadcastVideo 0 0 [0, 0, 0, 1, 0x26, 0x01, 0xAF] 0 true] ++ sampleSend 1), server.videoRetx.order = [0] := by
    decide +kernel
  obtain ⟨early, late, cleared, _, since, _, isOrder, _⟩ := retransmit_window sampleConfig _ server reached
  exact ⟨server, reached, early, late, cleared, since, order.symm.trans isOrder⟩

end RtpServer
end MetaShare
