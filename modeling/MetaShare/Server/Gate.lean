import MetaShare.Server.SendPath

namespace MetaShare
namespace RtpServer

open Rtp Transitions DependencyChain

/-!
# The gate for dependent frames

Closed, the gate turns every dependent frame away.  So what passes it is
decodable; and so it must not stay closed without somebody having asked for a
keyframe.
-/

/-! ## What is on the wire is decodable -/

/-- The last packet of the access unit is on the wire. -/
def Whole (server : RtpServer) (number : Nat) : Prop :=
  ∃ unit, server.units[number]? = some unit ∧
    ∃ sent ∈ server.wire, sent.unit = number ∧ sent.index + 1 = unit.packets.length

def IsKeyframe (server : RtpServer) (number : Nat) : Prop :=
  ∃ unit, server.units[number]? = some unit ∧ unit.keyframe = true

/-- The access unit was broadcast, is not wholly on the wire, and is not going
to be: it is neither queued nor, with the current generation, in the hands of
the sender. -/
def Dropped (server : RtpServer) (number : Nat) : Prop :=
  number < server.units.length ∧ ¬ server.Whole number ∧
    ∀ frame ∈ server.frames, frame.generation = server.sendGeneration → frame.unit ≠ number

/-- The first packets of an access unit, with the number of the unit. -/
def firstPackets (units : List VideoUnit) (run : Nat × Nat) : List (Nat × Packet) :=
  ((units[run.1]?.elim [] VideoUnit.packets).take run.2).map (Prod.mk run.1)

/-- What was put on the wire in the session is a concatenation of prefixes of
distinct access units in the order of their broadcast, in time, and decodable. -/
structure Intact (server : RtpServer) : Prop where
  prefixes : ∃ runs : List (Nat × Nat), runs.Pairwise (fun earlier later => earlier.1 < later.1) ∧
    (∀ run ∈ runs, ∃ unit, server.units[run.1]? = some unit ∧ 0 < run.2 ∧ run.2 ≤ unit.packets.length) ∧
    server.wire.map (fun sent => (sent.unit, sent.packet.bytes)) = runs.flatMap (firstPackets server.units)
  opens : ∀ first ∈ server.wire.head?, server.IsKeyframe first.unit
  inTime : ∀ sent ∈ server.wire, ∃ unit, server.units[sent.unit]? = some unit ∧ sent.sentAt < unit.deadline
  afterLoss : ∀ lost, ¬ server.Whole lost → ∀ next ∈ server.wire, lost < next.unit →
    (∀ other ∈ server.wire, lost < other.unit → next.unit ≤ other.unit) → server.IsKeyframe next.unit

variable {server : RtpServer}

theorem shape_found {units : List VideoUnit} {number : Nat} {found : Shape}
    (isShape : (units.map shape)[number]? = some found) :
    ∃ unit, units[number]? = some unit ∧ shape unit = found := by
  rw [List.getElem?_map] at isShape
  exact Option.map_eq_some_iff.mp isShape

theorem isKeyframe_of_independent {number : Nat} (independent : Independent server.line.units number) :
    server.IsKeyframe number := by
  obtain ⟨found, isShape, holds⟩ := independent
  obtain ⟨unit, isUnit, rfl⟩ := shape_found isShape
  exact ⟨unit, isUnit, holds⟩

theorem whole_of_complete {number : Nat} (complete : Complete server.line.units server.line.sent number) :
    server.Whole number := by
  obtain ⟨part, member, isUnit, found, isShape, ends⟩ := complete
  obtain ⟨sent, listed, rfl⟩ := List.mem_map.mp member
  obtain ⟨unit, isFound, rfl⟩ := shape_found isShape
  exact ⟨unit, isUnit ▸ isFound, sent, listed, isUnit, ends⟩

/-- The bytes on the wire are those of the access units. -/
theorem firstPackets_eq {units : List VideoUnit} {number count : Nat} {unit : VideoUnit}
    (isUnit : units[number]? = some unit) (within : count ≤ unit.packets.length) :
    firstPackets units (number, count) = (partsOf number count).filterMap (fun part =>
      (units[part.unit]?.bind (fun unit => unit.packets[part.index]?)).map (Prod.mk part.unit)) := by
  rw [firstPackets, isUnit]
  induction count with
  | zero => rfl
  | succ count inductionHypothesis =>
      have found : unit.packets[count]? = some unit.packets[count] := List.getElem?_eq_getElem within
      rw [partsOf_succ, List.filterMap_append, ← inductionHypothesis (Nat.le_of_succ_le within)]
      simp only [Option.elim_some, List.filterMap_cons, List.filterMap_nil, isUnit, Option.bind_some, found,
        Option.map_some]
      rw [List.take_add_one, found, List.map_append]
      rfl

theorem Lined.intact (lined : server.Lined) : server.Intact where
  prefixes := by
    obtain ⟨runs, ordered, bounded, _, same⟩ := lined.wellFormed.sent.prefixes
    have inUnits : ∀ run ∈ runs, ∃ unit, server.units[run.1]? = some unit ∧ 0 < run.2 ∧
        run.2 ≤ unit.packets.length := by
      intro run member
      obtain ⟨found, isShape, positive, within⟩ := bounded run member
      obtain ⟨unit, isUnit, rfl⟩ := shape_found isShape
      exact ⟨unit, isUnit, positive, within⟩
    refine ⟨runs, ordered, inUnits, ?_⟩
    have lookup : server.wire.map (fun sent => (sent.unit, sent.packet.bytes)) =
        (server.wire.map FreshPacket.part).filterMap (fun part =>
          (server.units[part.unit]?.bind (fun unit => unit.packets[part.index]?)).map (Prod.mk part.unit)) := by
      rw [List.filterMap_map, ← List.filterMap_eq_map]
      refine List.filterMap_congr (fun sent member => ?_)
      obtain ⟨unit, isUnit, bytes, _⟩ := lined.genuine sent member
      simp only [Function.comp_apply, FreshPacket.part, isUnit, Option.bind_some, bytes, Option.map_some]
    rw [lookup, show server.wire.map FreshPacket.part = _ from same, List.filterMap_flatMap]
    refine List.flatMap_congr (fun run member => ?_)
    obtain ⟨unit, isUnit, _, within⟩ := inUnits run member
    exact (firstPackets_eq isUnit within).symm
  opens := by
    intro first isFirst
    refine isKeyframe_of_independent (lined.wellFormed.sent.opens first.part ?_).2
    rw [line, List.head?_map, Option.mem_def.mp isFirst]
    rfl
  inTime := by
    intro sent member
    obtain ⟨unit, isUnit, _, _, early⟩ := lined.genuine sent member
    exact ⟨unit, isUnit, early⟩
  afterLoss := by
    intro lost notWhole next member later first
    refine isKeyframe_of_independent (lined.wellFormed.sent.independent_after_loss later
      (fun complete => notWhole (whole_of_complete complete)) (List.mem_map_of_mem member) rfl ?_)
    intro part isSent beyond
    obtain ⟨other, listed, rfl⟩ := List.mem_map.mp isSent
    exact first other listed beyond

/-- What is dropped has left the line. -/
theorem Lined.lost (lined : server.Lined) {number : Nat} (dropped : server.Dropped number) :
    server.line.Lost number := by
  obtain ⟨inside, notWhole, gone⟩ := dropped
  refine ⟨?_, fun complete => notWhole (whole_of_complete complete), ?_⟩
  · rw [line, List.length_map]
    exact inside
  intro part member
  have inQueue : part ∈ server.queued := by
    rw [line] at member
    simp only at member
    split at member
    · exact member
    · cases member
  have ofFrame : ∀ frame ∈ server.frames, frame.generation = server.sendGeneration → part ∈ frame.parts →
      part.unit ≠ number := by
    intro frame listed current own
    rw [(mem_partsOf.mp own).1]
    exact gone frame listed current
  rcases List.mem_append.mp inQueue with held | waiting
  · rw [inHand] at held
    split at held
    · rename_i flight isFlight
      split at held
      · rename_i current
        refine ofFrame flight.frame (List.mem_append_left _ ?_) current (List.mem_of_mem_drop held)
        rw [isFlight]
        exact List.mem_cons_self
      · cases held
    · cases held
  · obtain ⟨frame, listed, own⟩ := List.mem_flatMap.mp waiting
    exact ofFrame frame (List.mem_append_right _ listed) (lined.generations frame listed) own

/-- The dependency chain is kept on the wire.  In every reachable state what
was put on the wire in the session is a concatenation of prefixes of distinct
access units; it begins with a keyframe and nothing in it was late; and behind
an access unit that is not wholly on the wire the next one there is a keyframe.
While something dropped is the latest, the next packet that is sent is the first
one of a keyframe beyond it. -/
theorem chain_kept (config : Config) (actions : List Action) (server : RtpServer)
    (reached : run config actions = some server) :
    server.Intact ∧ ∀ action next sent, step config server action = some next →
      next.log = server.log ++ [.fresh sent] → ∀ lost, server.Dropped lost →
        (∀ earlier ∈ server.wire, earlier.unit ≤ lost) →
          lost < sent.unit ∧ sent.index = 0 ∧ server.IsKeyframe sent.unit := by
  have lined := lined_of_run reached
  refine ⟨lined.intact, fun action next sent stepped grown lost dropped latest => ?_⟩
  obtain ⟨fresh, moved, logged⟩ := moves_of_step lined (belongs_of_run reached) stepped
  have isFresh : fresh = some sent := by
    rw [grown, List.filterMap_append, List.append_cancel_left_eq] at logged
    cases fresh with
    | none => cases logged
    | some other => exact congrArg some (List.cons.inj logged).1.symm
  rw [isFresh] at moved
  obtain ⟨flight, held, streaming, current, found, isUnit, isIndex⟩ := moved.of_sent
  have first : server.line.pending = sent.part ::
      (Flight.parts { flight with next := flight.next + 1 } ++ server.sendQ.flatMap VideoFrame.parts) := by
    have parts : flight.parts = sent.part :: Flight.parts { flight with next := flight.next + 1 } := by
      rw [FreshPacket.part, isUnit, isIndex]
      exact parts_cons (List.getElem?_eq_some_iff.mp found).1
    rw [line, show server.peerStreaming = true from streaming, if_pos rfl, queued, inHand_of_current held current,
      parts, List.cons_append]
  obtain ⟨beyond, zero, independent⟩ := lined.wellFormed.next_after_loss (lined.lost dropped) (fun part member => by
    obtain ⟨earlier, listed, rfl⟩ := List.mem_map.mp member
    exact latest earlier listed) first
  exact ⟨beyond, zero, isKeyframe_of_independent independent⟩

/-- A keyframe is sent, the frame behind it is lost at the socket, and the next
keyframe is about to be sent. -/
def sampleLoss : List Action :=
  sampleReady ++ ([.broadcastVideo 0 0 [0, 0, 0, 1, 0x26, 0x01, 0xAF] 0 true] : List Action) ++ sampleSend 1 ++
    ([.broadcastVideo 2 2 [0, 0, 0, 1, 0x02, 0x01, 0xAF] 1 false, .wake, .takeRepair, .popFrame, .takeRepair,
      .sendPacket true 3 false 3, .senderRequest,
      .broadcastVideo 4 4 [0, 0, 0, 1, 0x26, 0x01, 0xAF] 2 true, .wake, .takeRepair, .popFrame,
      .takeRepair] : List Action)

theorem chain_kept_sample :
    ∃ server next sent, run sampleConfig sampleLoss = some server ∧
      step sampleConfig server (.sendPacket true 5 true 5) = some next ∧
      next.log = server.log ++ [.fresh sent] ∧ server.Dropped 1 ∧ server.Intact ∧ server.IsKeyframe sent.unit := by
  obtain ⟨server, reached, next, stepped, sent, _, grown, units, wire, frames⟩ :
      ∃ server ∈ run sampleConfig sampleLoss, ∃ next ∈ step sampleConfig server (.sendPacket true 5 true 5),
        ∃ sent ∈ next.log.filterMap Event.freshPacket, next.log = server.log ++ [.fresh sent] ∧
          server.units.length = 3 ∧ server.wire.map FreshPacket.unit = [0] ∧
            server.frames.map VideoFrame.unit = [2] := by
    decide +kernel
  have latest : ∀ earlier ∈ server.wire, earlier.unit = 0 := by
    intro earlier member
    have listed := List.mem_map_of_mem (f := FreshPacket.unit) member
    rw [wire] at listed
    exact List.mem_singleton.mp listed
  have dropped : server.Dropped 1 := by
    refine ⟨by omega, ?_, ?_⟩
    · rintro ⟨unit, _, earlier, member, isOne, _⟩
      have := latest earlier member
      omega
    · intro frame member _
      have listed := List.mem_map_of_mem (f := VideoFrame.unit) member
      rw [frames] at listed
      have := List.mem_singleton.mp listed
      omega
  have kept := chain_kept sampleConfig sampleLoss server reached
  have late := kept.2 _ next sent stepped grown 1 dropped (fun earlier member => by
    have := latest earlier member
    omega)
  exact ⟨server, next, sent, reached, stepped, grown, dropped, kept.1, late.2.2⟩

/-! ## A closed gate has been reported -/

/-- A thread has not come to its request for a keyframe yet: the one that
closed the gate, or the one that began to stream. -/
def Owes (server : RtpServer) (closing : Option Action) : Prop :=
  (∃ peer, server.signaling = .requesting peer) ∨
    match closing with
    | some (.broadcastVideo ..) => 0 < server.captureRequests
    | some (.sendPacket ..) => server.sender = .requesting
    | _ => False

variable {config : Config} {next : RtpServer}

theorem requesting_of_asks {signaling : Signaling} (asks : signaling.asks = true) :
    ∃ peer, signaling = .requesting peer := by
  cases signaling with
  | requesting peer => exact ⟨peer, rfl⟩
  | _ => cases asks

theorem sender_of_asks {sender : Sender} (asks : sender.asks = true) : sender = .requesting := by
  cases sender with
  | requesting => rfl
  | _ => cases asks

/-- The gate closes during the session only where a request becomes due. -/
theorem owes_of_closing {action : Action} (moved : Moves config action server next)
    (wasOpen : server.awaitingKeyframe = false) (closed : next.awaitingKeyframe = true)
    (streaming : next.peerStreaming = true) : next.Owes (some action) := by
  obtain ⟨sent, stepped, _⟩ := moved
  generalize isPath : server.sendPath = path at stepped
  generalize isNext : next.sendPath = after at stepped
  have before : path.awaiting = false := isPath ▸ wasOpen
  have now : after.awaiting = true := isNext ▸ closed
  have still : after.streaming = true := isNext ▸ streaming
  cases stepped with
  | reset path stopped => exact absurd (stopped.symm.trans still) Bool.noConfusion
  | refuse path started now data ptsUsec keyframe _ made isMade shed =>
      have owed : next.captureRequests = (path.dropIf shed).captureRequests + 1 :=
        congrArg SendPath.captureRequests isNext
      exact Or.inr (owed ▸ Nat.succ_pos _)
  | lose path flight held _ current paced time taken recorded =>
      exact Or.inr (sender_of_asks (congrArg SendPath.senderRequest isNext))
  | enter => cases now
  | _ => exact absurd (before.symm.trans now) Bool.noConfusion

/-- The same in terms of the path. -/
def SendPath.Owes (path : SendPath) (closing : Option Action) : Prop :=
  path.readyRequest = true ∨
    match closing with
    | some (.broadcastVideo ..) => 0 < path.captureRequests
    | some (.sendPacket ..) => path.senderRequest = true
    | _ => False

theorem owes_iff (server : RtpServer) (closing : Option Action) :
    server.Owes closing ↔ server.sendPath.Owes closing := by
  have ready : (∃ peer, server.signaling = .requesting peer) ↔ server.sendPath.readyRequest = true := by
    constructor
    · rintro ⟨peer, position⟩
      rw [sendPath, position]
      rfl
    · exact requesting_of_asks
  have sender : server.sender = .requesting ↔ server.sendPath.senderRequest = true := by
    constructor
    · intro position
      rw [sendPath, position]
      rfl
    · exact sender_of_asks
  apply or_congr ready
  cases closing with
  | none => exact Iff.rfl
  | some action =>
      cases action with
      | sendPacket paced now taken recorded => exact sender
      | _ => exact Iff.rfl

/-- The actions with which a thread makes its request. -/
def Action.Asks : Action → Prop
  | .signalingRequest => True
  | .captureRequest => True
  | .senderRequest => True
  | _ => False

/-- The requests only become more. -/
theorem SendPath.Owes.mono {path next : SendPath} {closing : Option Action} (owes : path.Owes closing)
    (ready : path.readyRequest = true → next.readyRequest = true)
    (capture : path.captureRequests ≤ next.captureRequests)
    (sender : path.senderRequest = true → next.senderRequest = true) : next.Owes closing := by
  refine owes.imp ready (fun other => ?_)
  cases closing with
  | none => exact other
  | some action =>
      cases action with
      | broadcastVideo started now data ptsUsec keyframe => exact lt_of_lt_of_le other capture
      | sendPacket paced now taken recorded => exact sender other
      | _ => exact other

/-- What is owed stays owed until a request is made. -/
theorem SendPath.Owes.step {h265 : Bool} {action : Action} {path next : SendPath} {sent : Option FreshPacket}
    {closing : Option Action} (owes : path.Owes closing) (step : SendPath.Step h265 action path sent next)
    (streaming : next.streaming = true) : next.Owes closing ∨ action.Asks := by
  cases step with
  | stop => cases streaming
  | ready => exact Or.inl (Or.inl rfl)
  | answerReady => exact Or.inr trivial
  | answerCapture => exact Or.inr trivial
  | answerSender => exact Or.inr trivial
  | refuse path started now data ptsUsec keyframe _ made isMade shed =>
      refine Or.inl (owes.mono ?_ ?_ ?_)
      all_goals cases shed
      all_goals first | exact id | exact Nat.le_succ _
  | enter path started now data ptsUsec keyframe _ made isMade filled shed =>
      refine Or.inl (owes.mono ?_ ?_ ?_)
      all_goals cases shed
      all_goals first | exact id | exact Nat.le_refl _
  | lose => exact Or.inl (owes.mono id (Nat.le_refl _) (fun _ => rfl))
  | _ => exact Or.inl (owes.mono id (Nat.le_refl _) id)

theorem logged_of_asks {action : Action} (asks : action.Asks) (stepped : step config server action = some next) :
    next.log = server.log ++ [.keyframeRequest] := by
  cases stepped_of_step stepped with
  | signalingRequest | captureRequest | senderRequest => rfl
  | _ => exact asks.elim

/-- Streaming begins with a request that is due. -/
theorem SendPath.owes_of_ready {h265 : Bool} {action : Action} {path next : SendPath} {sent : Option FreshPacket}
    (closing : Option Action) (step : SendPath.Step h265 action path sent next) (stopped : path.streaming = false)
    (streaming : next.streaming = true) : next.Owes closing := by
  cases step with
  | stop => cases streaming
  | ready => exact Or.inl rfl
  | refuse path started now data ptsUsec keyframe was => exact absurd (was.symm.trans stopped) Bool.noConfusion
  | enter path started now data ptsUsec keyframe was => exact absurd (was.symm.trans stopped) Bool.noConfusion
  | lose path flight held was => exact absurd (was.symm.trans stopped) Bool.noConfusion
  | _ => exact absurd (stopped.symm.trans streaming) Bool.noConfusion

/-- What has happened stays in the log. -/
theorem mem_drop_log (belongs : server.Belongs) {action : Action} (stepped : step config server action = some next)
    {event : Event} {count : Nat} (member : event ∈ server.log.drop count) : event ∈ next.log.drop count := by
  obtain ⟨events, grown, _⟩ := sends_of_step belongs stepped
  rw [grown, List.drop_append]
  exact List.mem_append_left _ member

theorem length_log_le (belongs : server.Belongs) {action : Action} (stepped : step config server action = some next) :
    server.log.length ≤ next.log.length := by
  obtain ⟨events, grown, _⟩ := sends_of_step belongs stepped
  rw [grown, List.length_append]
  exact Nat.le_add_right _ _

/-- A run from a state with a closed gate: either the request was made since,
or, if there is streaming at all, it is due. -/
theorem asked_or_owes {before : RtpServer} {early : List Action} (reachedBefore : run config early = some before)
    (closed : before.peerStreaming = true → before.Owes early.getLast?) :
    ∀ (late : List Action) (server : RtpServer), Transitions.run (step config) before late = some server →
      before.log.length ≤ server.log.length ∧ (server.peerStreaming = true →
        .keyframeRequest ∈ server.log.drop before.log.length ∨ server.Owes early.getLast?) := by
  intro late
  induction late using List.reverseRecOn with
  | nil =>
      intro server reached
      cases reached
      exact ⟨Nat.le_refl _, fun streaming => Or.inr (closed streaming)⟩
  | append_singleton late action inductionHypothesis =>
      intro next reached
      obtain ⟨server, reachedServer, stepped⟩ := run_concat_iff.mp reached
      obtain ⟨length, settled⟩ := inductionHypothesis server reachedServer
      have whole : run config (early ++ late) = some server :=
        run_append_iff.mpr ⟨before, reachedBefore, reachedServer⟩
      have belongs := belongs_of_run whole
      obtain ⟨sent, moved, _⟩ := moves_of_step (lined_of_run whole) belongs stepped
      refine ⟨length.trans (length_log_le belongs stepped), fun streaming => ?_⟩
      cases was : server.peerStreaming with
      | false => exact Or.inr ((owes_iff _ _).mpr (SendPath.owes_of_ready _ moved was streaming))
      | true =>
          rcases settled was with asked | owes
          · exact Or.inl (mem_drop_log belongs stepped asked)
          · rcases ((owes_iff _ _).mp owes).step moved streaming with still | asks
            · exact Or.inr ((owes_iff _ _).mpr still)
            · rw [logged_of_asks asks stepped, List.drop_append]
              refine Or.inl (List.mem_append_right _ ?_)
              rw [Nat.sub_eq_zero_of_le length]
              exact List.mem_cons_self

/-- In every reachable state in which the server streams but waits for a
keyframe, `on_keyframe_request` has been invoked since the gate was closed last,
or the thread that closed it or the READY handler has not come to its call yet. -/
theorem keyframe_asked (config : Config) (actions : List Action) (server : RtpServer)
    (reached : run config actions = some server) (streaming : server.peerStreaming = true)
    (waiting : server.awaitingKeyframe = true) :
    ∃ early late closed, actions = early ++ late ∧
      Since (step config) (start config) (fun state => state.awaitingKeyframe = true) early late closed server ∧
      (.keyframeRequest ∈ server.log.drop closed.log.length ∨ server.Owes early.getLast?) := by
  obtain ⟨early, late, closed, split, since⟩ : ∃ early late closed, actions = early ++ late ∧
      Since (step config) (start config) (fun state => state.awaitingKeyframe = true) early late closed server :=
    exists_since reached waiting
  refine ⟨early, late, closed, split, since, ?_⟩
  have due : closed.peerStreaming = true → closed.Owes early.getLast? := by
    intro streaming
    rcases List.eq_nil_or_concat early with rfl | ⟨most, action, isEarly⟩
    · cases since.reached
      cases streaming
    · rw [List.concat_eq_append] at isEarly
      subst isEarly
      obtain ⟨previous, reachedPrevious, stepped⟩ := run_concat_iff.mp since.reached
      have wasOpen := since.before action List.getLast?_concat previous
        (by rw [List.dropLast_concat]; exact reachedPrevious)
      have moved := moves_of_step (lined_of_run reachedPrevious) (belongs_of_run reachedPrevious) stepped
      rw [List.getLast?_concat]
      exact owes_of_closing moved (Bool.eq_false_iff.mpr wasOpen) (since.holds [] late rfl closed rfl) streaming
  exact (asked_or_owes since.reached due late server since.later).2 streaming

theorem keyframe_asked_sample :
    ∃ server, run sampleConfig sampleReady = some server ∧ server.peerStreaming = true ∧
      ∃ early late closed, sampleReady = early ++ late ∧
        Since (step sampleConfig) (start sampleConfig) (fun state => state.awaitingKeyframe = true) early late closed
          server ∧
        (.keyframeRequest ∈ server.log.drop closed.log.length ∨ server.Owes early.getLast?) := by
  obtain ⟨server, reached, streaming, waiting⟩ : ∃ server ∈ run sampleConfig sampleReady,
      server.peerStreaming = true ∧ server.awaitingKeyframe = true := by
    decide +kernel
  exact ⟨server, reached, streaming, keyframe_asked sampleConfig sampleReady server reached streaming waiting⟩

end RtpServer
end MetaShare
