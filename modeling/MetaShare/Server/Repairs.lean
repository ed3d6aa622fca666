import MetaShare.Server.Transmission

namespace MetaShare
namespace RtpServer

open Rtp Transitions

/-!
# Repairs are copies of recent packets

Between the fresh packets there are repairs.  Each of them is a copy of a fresh
packet of the same session, and a recent one: the queue of repairs is short, and
of every few turns of the sender only one is for a fresh packet.
-/

variable {config : Config} {server next : RtpServer}

/-! ## Turns of the sender -/

/-- The step takes a repair from its queue, finds no more of them, or leaves the
sender at least as many turns for repairs. -/
inductive Turn (server next : RtpServer) : Prop where
  | take (repair : RepairPacket) (first : server.repairQ = repair :: next.repairQ)
      (holds : next.sender.repair = some repair) (credit : server.sender.credit = next.sender.credit + 1)
  | finished (empty : next.repairQ = []) (holds : next.sender.repair = none)
  | other (credit : server.sender.credit ≤ next.sender.credit)
      (holds : ∀ repair, next.sender.repair = some repair → server.sender.repair = some repair)

theorem Turn.of_sender (same : next.sender = server.sender) : Turn server next := by
  refine .other ?_ ?_
  · rw [same]
  · rw [same]
    exact fun _ holds => holds

theorem turn_takeRepair {flight : Option Flight} {done : Nat} (position : server.sender = .repairing flight done) :
    Turn server (server.takeRepair flight done) := by
  have left := repair_repaired flight
  rw [takeRepair]
  split
  · rename_i more
    split
    · rename_i empty
      exact .finished empty left
    · rename_i repair rest contents
      refine .take repair contents rfl ?_
      rw [position, Sender.credit, Sender.credit]
      omega
  · rename_i enough
    refine .other ?_ ?_
    · rw [position, Sender.credit, Nat.sub_eq_zero_of_le (Nat.le_of_not_lt enough)]
      exact Nat.zero_le _
    · intro repair holds
      cases left.symm.trans holds

theorem sender_setStreamRate (server : RtpServer) (config : Config) (kbps : Int) :
    (server.setStreamRate config kbps).sender = server.sender := by
  rw [setStreamRate]
  split <;> rfl

theorem sender_broadcastAudio (server : RtpServer) (data : List UInt8) (ptsUsec : Int64) (sent : Bool)
    (recorded : Time) : (server.broadcastAudio data ptsUsec sent recorded).sender = server.sender := by
  apply broadcastAudio_keeps (fun current => current.sender = server.sender)
  · exact fun _ => rfl
  · exact fun _ _ _ same => same

theorem turn_of_step {action : Action} (stepped : step config server action = some next) : Turn server next := by
  cases stepped_of_step stepped with
  | accept => exact .of_sender rfl
  | resetVideoQueue reset =>
      rw [afterReset] at reset
      split at reset <;> cases reset
      all_goals exact .of_sender rfl
  | message message =>
      cases kind : message.type <;> simp only [onMessage, kind]
      case ready =>
        apply Turn.of_sender
        rw [onReady]
        split
        · rfl
        simp only
        split
        · rfl
        · exact sender_setStreamRate _ _ _
      case bye => exact .of_sender (sender_setStreamRate _ _ _)
      all_goals exact .of_sender rfl
  | hangUp => exact .of_sender (sender_setStreamRate _ _ _)
  | signalingRequest => exact .of_sender rfl
  | setPacingBitrate =>
      apply Turn.of_sender
      rw [setPacingBitrate]
      split
      · rfl
      · exact sender_setStreamRate _ _ _
  | broadcastVideo =>
      apply Turn.of_sender
      rw [broadcastVideo]
      simp only [enqueue]
      repeat' split
      all_goals rfl
  | captureRequest => exact .of_sender rfl
  | broadcastAudio data ptsUsec sent recorded =>
      exact .of_sender (sender_broadcastAudio server data ptsUsec sent recorded)
  | wake position =>
      refine .other ?_ ?_
      · rw [position]
        exact Nat.le_refl _
      · intro repair impossible
        cases impossible
  | takeRepair position => exact turn_takeRepair position
  | @sendRepair flight done repair paced now sent position =>
      have sender : (server.sendRepair flight done repair paced now sent).sender = .repairing flight (done + 1) := by
        rcases server.sendRepair_cases flight done repair paced now sent with passed | ⟨_, _, _, left⟩
        · rw [passed]
        · rw [left]
          rfl
      refine .other ?_ ?_
      · rw [position, sender]
        exact Nat.le_refl _
      · rw [sender]
        intro other impossible
        cases impossible
  | popFrame position =>
      refine .other ?_ ?_
      · rw [position]
        exact Nat.zero_le _
      · intro repair holds
        rw [popFrame] at holds
        split at holds
        · cases holds
        · cases (repair_continueWith _).symm.trans holds
  | @sendPacket flight packet paced now taken recorded position =>
      refine .other ?_ ?_
      · rw [position]
        exact Nat.zero_le _
      · intro repair holds
        rcases server.sendPacket_cases flight packet paced now taken recorded with
          ⟨_, isNext⟩ | ⟨_, _, ⟨_, isNext⟩ | ⟨_, isNext⟩⟩
        all_goals rw [isNext] at holds
        · cases holds
        · cases (repair_continueWith _).symm.trans holds
        · cases holds
  | senderRequest position =>
      refine .other ?_ ?_
      · rw [position]
        exact Nat.le_refl _
      · intro repair impossible
        cases impossible
  | receiveRtcp =>
      rw [receiveRtcp]
      split <;> exact .of_sender rfl
  | @handleEvent event _ now =>
      cases event with
      | retransmit video seq =>
          apply Turn.of_sender
          rw [handleEvent]
          rcases retransmit_cases _ video seq now with same | ⟨_, _, _, _, _, _, queued⟩
          · rw [same]
          · rw [queued]
      | _ => exact .of_sender rfl

/-- What a step does to the queue of repairs, and that it is emptied with every
new generation. -/
theorem SendPath.Step.repairQ {h265 : Bool} {action : Action} {path next : SendPath} {sent : Option FreshPacket}
    (step : SendPath.Step h265 action path sent next) :
    (next.generation = path.generation ∧ (next.repairQ = path.repairQ ∨
        (∃ repair, path.repairQ = repair :: next.repairQ) ∨
        ∃ repair seq stored, next.repairQ = path.repairQ ++ [repair] ∧ path.repairQ.length < kMaxQueuedRepairs ∧
          (repair.video = true → path.retx.get seq = some stored ∧ repair.packet = stored.packet))) ∨
      (next.generation = path.generation + 1 ∧ next.repairQ = []) := by
  cases step with
  | reset => exact Or.inr ⟨rfl, rfl⟩
  | lose => exact Or.inr ⟨rfl, rfl⟩
  | refuse path started now data ptsUsec keyframe streaming made isMade shed =>
      cases shed with
      | true => exact Or.inr ⟨rfl, rfl⟩
      | false => exact Or.inl ⟨rfl, Or.inl rfl⟩
  | enter path started now data ptsUsec keyframe streaming made isMade filled shed =>
      cases shed with
      | true => exact Or.inr ⟨rfl, rfl⟩
      | false => exact Or.inl ⟨rfl, Or.inl rfl⟩
  | takeRepair path repair rest first => exact Or.inl ⟨rfl, Or.inr (Or.inl ⟨repair, first⟩)⟩
  | queueRepair path now video seq stored room new found deadline =>
      refine Or.inl ⟨rfl, Or.inr (Or.inr ⟨_, seq, stored, rfl, room, ?_⟩)⟩
      intro isVideo
      rw [if_pos isVideo] at found
      exact ⟨found, rfl⟩
  | _ => exact Or.inl ⟨rfl, Or.inl rfl⟩

/-- Streaming begins behind a closed gate. -/
theorem SendPath.Step.begins {h265 : Bool} {action : Action} {path next : SendPath} {sent : Option FreshPacket}
    (step : SendPath.Step h265 action path sent next) (stopped : path.streaming = false)
    (begun : next.streaming = true) : path.awaiting = true := by
  cases step with
  | ready message path empty => exact (empty stopped).2.1
  | refuse path started now data ptsUsec keyframe streaming => cases stopped.symm.trans streaming
  | enter path started now data ptsUsec keyframe streaming => cases stopped.symm.trans streaming
  | lose path flight held streaming => cases stopped.symm.trans streaming
  | stop => cases begun
  | _ => cases stopped.symm.trans begun

/-- Given the fresh packets sent since the retransmit buffer was cleared, each
video repair that waits is a copy of one of them, and the more repairs are in
front of it the more recent it is. -/
structure Copies (server : RtpServer) (fresh : List MediaPacket) : Prop where
  windowed : Windowed server.sendPath fresh
  current : server.peerStreaming = true → fresh <:+ server.wire.map FreshPacket.packet
  queue : ∀ (position : Nat) (repair : RepairPacket), server.repairQ[position]? = some repair →
    repair.video = true → ∃ late, repair.packet :: late <:+ fresh ∧
      4 * late.length + position ≤ 4155 + server.sender.credit
  held : ∀ repair, server.sender.repair = some repair → repair.generation = server.sendGeneration →
    repair.video = true → ∃ late, repair.packet :: late <:+ fresh ∧ late.length ≤ 1039

theorem copies_start (config : Config) : Copies (start config) [] where
  windowed := windowed_start config
  current := fun _ => List.nil_suffix
  queue := by
    intro position repair impossible
    cases impossible
  held := by
    intro repair impossible
    cases impossible

/-- A stored packet is one of the last 1024. -/
theorem Windowed.lag {path : SendPath} {fresh : List MediaPacket} (windowed : Windowed path fresh) {seq : UInt16}
    {stored : SentPacket MediaPacket} (found : path.retx.get seq = some stored) :
    ∃ late, stored.packet :: late <:+ fresh ∧ late.length ≤ 1023 := by
  obtain ⟨recent, window, isRecent⟩ := windowed.stored
  have listed : (seq, stored.packet) ∈ recent.map (fun entry => (entry.1, entry.2.packet)) :=
    List.mem_map.mpr ⟨(seq, stored), (window.get seq stored).mp found, rfl⟩
  rw [isRecent] at listed
  obtain ⟨packet, member, same⟩ := List.mem_map.mp listed
  obtain ⟨early, late, split⟩ := List.append_of_mem member
  have isPacket : packet = stored.packet := congrArg Prod.snd same
  rw [isPacket] at split
  refine ⟨late, ?_, ?_⟩
  · have inside : stored.packet :: late <:+ latest fresh := ⟨early, split.symm⟩
    exact inside.trans (List.drop_suffix _ _)
  · have size := latest_length_le fresh
    rw [split, List.length_append, List.length_cons] at size
    omega

/-- A step that does not send a fresh packet. -/
theorem Copies.idle {fresh : List MediaPacket} (copies : Copies server fresh) {action : Action}
    (moved : SendPath.Step config.h265 action server.sendPath none next.sendPath)
    (turn : Turn server next) (same : next.sendGeneration = server.sendGeneration)
    (windowed : Windowed next.sendPath fresh)
    (current : next.peerStreaming = true → fresh <:+ next.wire.map FreshPacket.packet) : Copies next fresh where
  windowed := windowed
  current := current
  queue := by
    intro position repair found isVideo
    rcases turn with ⟨taken, first, holds, credit⟩ | ⟨empty, _⟩ | ⟨credit, _⟩
    · obtain ⟨late, suffix, bound⟩ := copies.queue (position + 1) repair (by rw [first]; exact found) isVideo
      exact ⟨late, suffix, by omega⟩
    · rw [empty] at found
      cases found
    · rcases moved.repairQ with ⟨_, kept | ⟨first, taken⟩ | ⟨new, seq, stored, joined, room, isStored⟩⟩ | ⟨moved, _⟩
      · have queue : next.repairQ = server.repairQ := kept
        rw [queue] at found
        obtain ⟨late, suffix, bound⟩ := copies.queue position repair found isVideo
        exact ⟨late, suffix, by omega⟩
      · have queue : server.repairQ = first :: next.repairQ := taken
        obtain ⟨late, suffix, bound⟩ := copies.queue (position + 1) repair (by rw [queue]; exact found) isVideo
        exact ⟨late, suffix, by omega⟩
      · have queue : next.repairQ = server.repairQ ++ [new] := joined
        rw [queue] at found
        rcases Nat.lt_trichotomy position server.repairQ.length with inside | end' | beyond
        · rw [List.getElem?_append_left inside] at found
          obtain ⟨late, suffix, bound⟩ := copies.queue position repair found isVideo
          exact ⟨late, suffix, by omega⟩
        · rw [end', List.getElem?_concat_length] at found
          cases found
          obtain ⟨isFound, isPacket⟩ := isStored isVideo
          obtain ⟨late, suffix, bound⟩ := copies.windowed.lag isFound
          rw [isPacket]
          have few : server.repairQ.length < 64 := room
          exact ⟨late, suffix, by omega⟩
        · rw [List.getElem?_eq_none (by rw [List.length_append, List.length_singleton]; omega)] at found
          cases found
      · have grown : next.sendGeneration = server.sendGeneration + 1 := moved
        omega
  held := by
    intro repair holds isCurrent isVideo
    rcases turn with ⟨taken, first, isTaken, credit⟩ | ⟨_, none⟩ | ⟨_, before⟩
    · cases isTaken.symm.trans holds
      obtain ⟨late, suffix, bound⟩ := copies.queue 0 repair (by rw [first]; rfl) isVideo
      have few := server.sender.credit_le
      exact ⟨late, suffix, by omega⟩
    · cases none.symm.trans holds
    · exact copies.held repair (before repair holds) (isCurrent.trans same) isVideo

/-- The step that sends a fresh packet. -/
theorem Copies.send {fresh : List MediaPacket} (copies : Copies server fresh) {sent : FreshPacket}
    (turn : server.sender.credit = 0 ∧ next.sender.credit = 4 ∧ next.sender.repair = none)
    (queue : next.repairQ = server.repairQ) (windowed : Windowed next.sendPath (fresh ++ [sent.packet]))
    (current : fresh <:+ server.wire.map FreshPacket.packet) (wire : next.wire = server.wire ++ [sent]) :
    Copies next (fresh ++ [sent.packet]) where
  windowed := windowed
  current := by
    obtain ⟨early, split⟩ := current
    refine fun _ => ⟨early, ?_⟩
    rw [wire, List.map_append, ← split, List.append_assoc]
    rfl
  queue := by
    intro position repair found isVideo
    rw [queue] at found
    obtain ⟨late, ⟨early, split⟩, bound⟩ := copies.queue position repair found isVideo
    refine ⟨late ++ [sent.packet], ⟨early, ?_⟩, ?_⟩
    · rw [← split, List.append_assoc, List.cons_append]
    · rw [List.length_append, List.length_singleton]
      omega
  held := by
    intro repair holds
    cases turn.2.2.symm.trans holds

/-- A step that clears the buffer. -/
theorem copies_clear (belongs : server.Belongs) (accounted : Accounted server.sendPath)
    (turn : Turn server next) (empty : next.repairQ = [])
    (grown : next.sendGeneration = server.sendGeneration + 1) (windowed : Windowed next.sendPath []) :
    Copies next [] where
  windowed := windowed
  current := fun _ => List.nil_suffix
  queue := by
    intro position repair found
    rw [empty] at found
    cases found
  held := by
    intro repair holds isCurrent
    -- What the sender holds carries an older generation.
    have older : repair.generation ≤ server.sendGeneration := by
      rcases turn with ⟨taken, first, isTaken, _⟩ | ⟨_, none⟩ | ⟨_, before⟩
      · cases isTaken.symm.trans holds
        refine (accounted.repairs repair ?_).le
        rw [sendPath, first]
        exact List.mem_cons_self
      · cases none.symm.trans holds
      · refine (belongs.repairs repair ?_).1
        rw [RtpServer.repairs, before repair holds]
        exact List.mem_cons_self
    omega

/-- The fresh packets, and what is transmitted with copies in between.  A copied
packet and those sent behind it are numbered consecutively, and they are few. -/
inductive Transmits : List Packet → List Packet → Prop where
  | nil : Transmits [] []
  | fresh {sent transmitted : List Packet} (packet : Packet) :
      Transmits sent transmitted → Transmits (sent ++ [packet]) (transmitted ++ [packet])
  | copy {sent transmitted late : List Packet} {packet : Packet} {first : UInt16} :
      Transmits sent transmitted → packet :: late <:+ sent → Numbered first (packet :: late) →
        late.length ≤ 1039 → Transmits sent (transmitted ++ [packet])

/-- The bytes of the fresh packets of the session. -/
def sentBytes (server : RtpServer) : List Packet := server.wire.map (fun sent => sent.packet.bytes)

theorem sentBytes_eq (server : RtpServer) :
    server.sentBytes = (server.wire.map FreshPacket.packet).map MediaPacket.bytes := by
  rw [sentBytes, List.map_map]
  rfl

theorem SameVideo.fresh (same : SameVideo server next) :
    next.log.filterMap Event.freshPacket = server.log.filterMap Event.freshPacket := by
  have through : ∀ log : List Event, log.filterMap Event.freshPacket =
      (log.filter Event.isVideo).filterMap Event.freshPacket := by
    intro log
    rw [List.filterMap_filter]
    apply List.filterMap_congr
    intro event _
    cases event with
    | repair video packet sentAt destination => cases video <;> rfl
    | _ => rfl
  rw [through, same.log, ← through]

/-- A held repair is a copy of a packet that was sent in the session. -/
theorem Copies.transmits {fresh : List MediaPacket} (copies : Copies server fresh)
    (streaming : server.peerStreaming = true) {repair : RepairPacket}
    (holds : server.sender.repair = some repair) (current : repair.generation = server.sendGeneration)
    (video : repair.video = true) {transmitted : List Packet} (before : Transmits server.sentBytes transmitted) :
    Transmits server.sentBytes (transmitted ++ [repair.packet.bytes]) := by
  obtain ⟨late, suffix, few⟩ := copies.held repair holds current video
  obtain ⟨first, numbered⟩ := copies.windowed.numbered
  obtain ⟨early, split⟩ := suffix
  rw [← split, List.map_append] at numbered
  have inSession : repair.packet :: late <:+ server.wire.map FreshPacket.packet :=
    List.IsSuffix.trans ⟨early, split⟩ (copies.current streaming)
  refine .copy before ?_ (numbered_append.mp numbered).2 ?_
  · rw [sentBytes_eq]
    exact inSession.map MediaPacket.bytes
  · rw [List.length_map]
    exact few

/-- A step that sends leaves the queue of repairs alone. -/
theorem SendPath.Step.repairQ_of_sent {h265 : Bool} {action : Action} {path next : SendPath} {sent : FreshPacket}
    (step : SendPath.Step h265 action path (some sent) next) : next.repairQ = path.repairQ := by
  cases step with
  | send => rfl

theorem Copies.step {fresh : List MediaPacket} (copies : Copies server fresh) (lined : server.Lined)
    (belongs : server.Belongs) (accounted : Accounted server.sendPath) {action : Action}
    (stepped : step config server action = some next) : ∃ later, Copies next later := by
  have turn := turn_of_step stepped
  obtain ⟨sent, moved, logged⟩ := moves_of_step lined belongs stepped
  rcases copies.windowed.step accounted moved with ⟨same, kept⟩ | ⟨changed, _, cleared⟩
  · -- Streaming that begins finds the buffer empty.
    have current : next.wire = server.wire → next.peerStreaming = true →
        fresh <:+ next.wire.map FreshPacket.packet := by
      intro wire streaming
      rw [wire]
      rcases Bool.eq_false_or_eq_true server.peerStreaming with before | stopped
      · exact copies.current before
      · have awaiting := moved.begins stopped streaming
        rw [(copies.windowed.gate awaiting).1]
        exact List.nil_suffix
    have idle : next.log.filterMap Event.freshPacket = server.log.filterMap Event.freshPacket →
        (next.peerStreaming = true → fresh <:+ next.wire.map FreshPacket.packet) → ∃ later, Copies next later := by
      intro unsent current
      have none : sent = none := by
        rw [unsent, List.self_eq_append_right] at logged
        cases sent with
        | none => rfl
        | some sent => cases logged
      rw [none, Option.map_none, Option.toList_none, List.append_nil] at kept
      rw [none] at moved
      exact ⟨fresh, copies.idle moved turn same kept current⟩
    cases videoStep_of_step stepped with
    | same unchanged => exact idle unchanged.fresh (current unchanged.wire)
    | connected peer begun stopped =>
        refine idle (begun.fresh.trans (fresh_record server rfl)) ?_
        intro streaming
        cases stopped.symm.trans streaming
    | broadcast unit joined _ =>
        exact idle (joined.fresh.trans (fresh_record server rfl))
          (current (joined.wire.trans (wire_kept server rfl rfl)))
    | repair held now _ _ _ put =>
        exact idle (put.fresh.trans (fresh_record server rfl)) (current (put.wire.trans (wire_kept server rfl rfl)))
    | fresh own put turn =>
        have isSent : sent = some own := by
          rw [put.fresh, record, List.filterMap_append, List.append_cancel_left_eq] at logged
          cases sent with
          | none => cases logged
          | some sent => exact congrArg some (List.cons.inj logged).1.symm
        rw [isSent] at moved kept
        obtain ⟨_, _, streaming, _⟩ := moved.of_sent
        exact ⟨_, copies.send turn moved.repairQ_of_sent kept (copies.current streaming)
          (put.wire.trans (wire_record server _ (Event.goesOn rfl)))⟩
  · rcases moved.repairQ with ⟨same, _⟩ | ⟨grown, empty⟩
    · exact absurd same changed
    · exact ⟨[], copies_clear belongs accounted turn empty grown cleared⟩

theorem copies_of_run {actions : List Action} (reached : run config actions = some server) :
    ∃ fresh, Copies server fresh := by
  induction actions using List.reverseRecOn generalizing server with
  | nil =>
      cases reached
      exact ⟨[], copies_start config⟩
  | append_singleton actions action inductionHypothesis =>
      obtain ⟨previous, reachedPrevious, stepped⟩ := run_concat_iff.mp reached
      obtain ⟨fresh, copies⟩ := inductionHypothesis reachedPrevious
      exact copies.step (lined_of_run reachedPrevious) (belongs_of_run reachedPrevious)
        (accounted_of_run reachedPrevious) stepped

/-- In every reachable state the session has transmitted its fresh packets and
copies of recent ones. -/
theorem transmits_of_run {actions : List Action} (reached : run config actions = some server) :
    Transmits server.sentBytes server.transmitted := by
  induction actions using List.reverseRecOn generalizing server with
  | nil =>
      cases reached
      exact .nil
  | append_singleton actions action inductionHypothesis =>
      obtain ⟨previous, reachedPrevious, stepped⟩ := run_concat_iff.mp reached
      have transmits := inductionHypothesis reachedPrevious
      cases videoStep_of_step stepped with
      | same unchanged =>
          rw [sentBytes, unchanged.wire, unchanged.transmitted]
          exact transmits
      | connected peer begun =>
          obtain ⟨_, noWire, nothing⟩ := units_connected previous peer
          rw [sentBytes, begun.wire, begun.transmitted, noWire, nothing]
          exact .nil
      | broadcast unit joined _ =>
          have wire : server.wire = previous.wire := joined.wire.trans (wire_kept previous rfl rfl)
          have sent : server.transmitted = previous.transmitted :=
            joined.transmitted.trans (transmitted_kept previous rfl rfl)
          rw [sentBytes, wire, sent]
          exact transmits
      | fresh own put _ =>
          rw [sentBytes, put.wire, put.transmitted, wire_record previous _ (Event.goesOn rfl),
            transmitted_record previous _ (Event.goesOn rfl), List.map_append]
          exact transmits.fresh own.packet.bytes
      | repair held now holds streaming isCurrent put =>
          rw [sentBytes, put.wire, put.transmitted, wire_kept previous rfl rfl]
          cases video : held.video with
          | false =>
              rw [transmitted_kept previous rfl rfl]
              exact transmits
          | true =>
              obtain ⟨fresh, copies⟩ := copies_of_run reachedPrevious
              rw [transmitted_record previous _ (Event.goesOn rfl)]
              exact copies.transmits streaming holds isCurrent video transmits

end RtpServer
end MetaShare
