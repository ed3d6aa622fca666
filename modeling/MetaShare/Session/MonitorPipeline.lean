import MetaShare.Capture.Encoder
import MetaShare.Server.Gate
import MetaShare.Session.Reception

namespace MetaShare

open Transitions

/-!
# A pipeline: encoder, codec and server

The capture thread of a monitor passes frames to the encoder and hands the packets
that come out to the server.  In the other direction the server asks for keyframes:
`on_keyframe_request` sets a flag that the next call of `encode` takes up, and the
keyframe then travels through the codec and back to the server, where it opens the
gate for dependent frames.  The requests come from three threads, at any time.

The codec is a queue.  Of the frames inside it only matters whether they were forced
to be keyframes.  A closed gate is never forgotten on this way round.
-/

namespace RtpServer

/-- How often `on_keyframe_request` has been invoked. -/
def requests (server : RtpServer) : Nat := server.log.count .keyframeRequest

end RtpServer

namespace Encoder

/-- The call opens the codec again with another rate, and frees the old one. -/
def reopens (encoder : Encoder) (answers : Answers) : Bool :=
  decide (0 < encoder.pendingBitrateKbps ∧ encoder.pendingBitrateKbps ≠ encoder.cfg.bitrateKbps ∧
    encoder.chosenName ≠ "libx264") && answers.reopened

/-- The frame that a call submits, if it does: forced to be a keyframe or not. -/
def submits (encoder : Encoder) (frame : AVFrame) (ptsUsec : Int) (answers : Answers) : List Bool :=
  ((encoder.encode frame ptsUsec answers).1.submitted.drop encoder.submitted.length).map Submission.forcedKeyframe

end Encoder

/-- The state of a pipeline: its server, its encoder, the frames inside the codec,
the packets that the capture thread still has to hand over, and whether the thread
has left its loop. -/
structure MonitorPipeline where
  server : RtpServer
  encoder : Encoder
  codec : List Bool
  outbox : List Encoder.Packet
  ended : Bool

namespace MonitorPipeline

def start (config : RtpServer.Config) (encoder : Encoder) : MonitorPipeline :=
  ⟨RtpServer.start config, encoder, [], [], false⟩

/-- The server has taken a step.  A request for a keyframe reaches the encoder. -/
def advance (pipeline : MonitorPipeline) (server : RtpServer) : MonitorPipeline :=
  { pipeline with
    server := server
    encoder := { pipeline.encoder with
      forceKeyframe := pipeline.encoder.forceKeyframe || decide (pipeline.server.requests < server.requests) } }

/-- The frames inside the codec once a call has submitted its own. -/
def inside (pipeline : MonitorPipeline) (frame : Encoder.AVFrame) (ptsUsec : Int) (answers : Encoder.Answers) :
    List Bool :=
  (if pipeline.encoder.reopens answers then [] else pipeline.codec) ++
    pipeline.encoder.submits frame ptsUsec answers

/-- A call of `encode`.  An error ends the loop of the capture thread. -/
def encode (pipeline : MonitorPipeline) (frame : Encoder.AVFrame) (ptsUsec : Int) (answers : Encoder.Answers) :
    MonitorPipeline :=
  let result := pipeline.encoder.encode frame ptsUsec answers
  { pipeline with
    encoder := result.1
    codec := (pipeline.inside frame ptsUsec answers).drop result.2.1.length
    outbox := result.2.1
    ended := result.2.2.toOption.isNone }

/-- A step of the server by any thread other than the capture thread, a new target
for the bitrate, and what the capture thread does: it encodes a frame once it is done
with the one before, it hands over a packet once it has asked for the keyframe that the
packet before it made due, and behind its loop it flushes the codec. -/
inductive Action where
  | server (action : RtpServer.Action)
  | setBitrate (kbps : Int)
  | encode (frame : Encoder.AVFrame) (ptsUsec : Int) (answers : Encoder.Answers)
  | deliver (started now : RtpServer.Time)
  | stop
  | flush (packets : List Encoder.Packet)

def step (config : RtpServer.Config) (pipeline : MonitorPipeline) : Action → Option MonitorPipeline
  | .server (.broadcastVideo _ _ _ _ _) => none
  | .server action => (RtpServer.step config pipeline.server action).map pipeline.advance
  | .setBitrate kbps =>
      some { pipeline with encoder := { pipeline.encoder with pendingBitrateKbps := kbps } }
  | .encode frame ptsUsec answers =>
      if pipeline.ended = false ∧ pipeline.outbox = [] ∧ pipeline.server.captureRequests = 0 then
        some (pipeline.encode frame ptsUsec answers)
      else none
  | .deliver started now =>
      match pipeline.outbox with
      | [] => none
      | packet :: rest =>
          if pipeline.server.captureRequests = 0 then
            some { pipeline.advance (pipeline.server.broadcastVideo config started now packet.data
                (Int64.ofInt packet.pts) packet.keyframe) with
              outbox := rest }
          else none
  | .stop => some { pipeline with ended := true }
  | .flush packets =>
      if pipeline.ended = true ∧ pipeline.outbox = [] then
        some { pipeline with codec := [], outbox := packets }
      else none

/-- The packet of a keyframe, with a NAL unit in it. -/
def Keyframe (packet : Encoder.Packet) : Prop := packet.keyframe = true ∧ Rtp.forEachNal packet.data ≠ []

/-- What the codec library promises: packets come out in the order of the frames, one
for each, and a frame that is forced to be a keyframe becomes one. -/
def Honours (pipeline : MonitorPipeline) : Action → Prop
  | .encode frame ptsUsec answers =>
      List.Forall₂ (fun forced packet => forced = true → Keyframe packet)
        ((pipeline.inside frame ptsUsec answers).take (pipeline.encoder.encode frame ptsUsec answers).2.1.length)
        (pipeline.encoder.encode frame ptsUsec answers).2.1
  | _ => True

instance : DecidablePred Keyframe := fun packet =>
  inferInstanceAs (Decidable (packet.keyframe = true ∧ Rtp.forEachNal packet.data ≠ []))

instance (pipeline : MonitorPipeline) : (action : Action) → Decidable (Honours pipeline action)
  | .encode _ _ _ => inferInstanceAs (Decidable (List.Forall₂ _ _ _))
  | .server _ | .setBitrate _ | .deliver _ _ | .stop | .flush _ => isTrue trivial

end MonitorPipeline

/-! ## What a call of `encode` does to the flag -/

namespace Encoder

variable (encoder : Encoder) (frame : AVFrame) (ptsUsec : Int) (answers : Answers)

/-- A codec that is opened again is to start with a keyframe. -/
theorem forceKeyframe_applyBitrate :
    (encoder.applyBitrate answers.reopened).forceKeyframe = (encoder.forceKeyframe || encoder.reopens answers) := by
  rw [applyBitrate, reopens]
  split
  · rename_i wanted
    rw [reconfigureBitrate]
    by_cases software : encoder.chosenName = "libx264"
    · simp [software]
    · cases answers.reopened <;> simp [software, wanted]
  · rename_i unwanted
    have none : ¬ (0 < encoder.pendingBitrateKbps ∧ encoder.pendingBitrateKbps ≠ encoder.cfg.bitrateKbps ∧
        encoder.chosenName ≠ "libx264") := fun all => unwanted ⟨all.1, all.2.1⟩
    simp [none]

theorem submitted_applyBitrate : (encoder.applyBitrate answers.reopened).submitted = encoder.submitted := by
  rw [applyBitrate]
  split
  · rw [reconfigureBitrate]
    dsimp only
    split
    · rfl
    · split <;> rfl
  · rfl

/-- Conversion has nothing to do with keyframes. -/
theorem convert_flag : (encoder.convert frame answers).1.forceKeyframe = encoder.forceKeyframe ∧
    (encoder.convert frame answers).1.submitted = encoder.submitted := by
  have renewed : (encoder.renewContext frame answers.context).forceKeyframe = encoder.forceKeyframe ∧
      (encoder.renewContext frame answers.context).submitted = encoder.submitted := by
    rw [renewContext]
    split
    · split <;> exact ⟨rfl, rfl⟩
    · exact ⟨rfl, rfl⟩
  rw [convert]
  split
  · dsimp only
    split
    · exact renewed
    · split <;> exact renewed
  · exact ⟨rfl, rfl⟩

/-- The frames that were forced to be keyframes. -/
def forced : Nat := encoder.submitted.countP Submission.forcedKeyframe

/-- A call submits its frame, with the flag that was set, or it fails before that. -/
theorem encode_submits :
    ((encoder.encode frame ptsUsec answers).1.forceKeyframe = (encoder.forceKeyframe || encoder.reopens answers) ∧
        (encoder.encode frame ptsUsec answers).1.forced = encoder.forced ∧
        (encoder.encode frame ptsUsec answers).2.2.toOption = none ∧
        encoder.submits frame ptsUsec answers = []) ∨
      ((encoder.encode frame ptsUsec answers).1.forceKeyframe = false ∧
        (encoder.encode frame ptsUsec answers).1.forced =
          encoder.forced + (encoder.forceKeyframe || encoder.reopens answers).toNat ∧
        encoder.submits frame ptsUsec answers = [encoder.forceKeyframe || encoder.reopens answers]) := by
  have flag := ((encoder.applyBitrate answers.reopened).convert_flag frame answers).1.trans
    (encoder.forceKeyframe_applyBitrate answers)
  have list := ((encoder.applyBitrate answers.reopened).convert_flag frame answers).2.trans
    (encoder.submitted_applyBitrate answers)
  rw [submits, encode]
  generalize (encoder.applyBitrate answers.reopened).convert frame answers = converted at flag list
  obtain ⟨converted, outcome⟩ := converted
  dsimp only at flag list
  have nothing : converted.forced = encoder.forced ∧
      (converted.submitted.drop encoder.submitted.length).map Submission.forcedKeyframe = [] := by
    rw [forced, forced, list, List.drop_length]
    exact ⟨rfl, rfl⟩
  have added : ∀ last : Submission,
      (encoder.submitted ++ [last]).countP Submission.forcedKeyframe = encoder.forced + last.forcedKeyframe.toNat ∧
      ((encoder.submitted ++ [last]).drop encoder.submitted.length).map Submission.forcedKeyframe =
        [last.forcedKeyframe] := by
    intro last
    rw [List.countP_append, List.drop_left]
    refine ⟨congrArg (encoder.forced + ·) ?_, rfl⟩
    cases isForced : last.forcedKeyframe <;> simp [isForced]
  cases outcome with
  | error err => exact Or.inl ⟨flag, nothing.1, rfl, nothing.2⟩
  | ok frame =>
      dsimp only
      rw [submit]
      split
      · exact Or.inl ⟨flag, nothing.1, rfl, nothing.2⟩
      · refine Or.inr ?_
        dsimp only
        rw [list, flag]
        split <;> exact ⟨rfl, added _⟩

end Encoder

namespace RtpServer

open Rtp

variable {config : Config} {server next : RtpServer}

theorem requests_lt_of_asks {action : Action} (asks : action.Asks) (stepped : step config server action = some next) :
    server.requests < next.requests := by
  rw [requests, requests, logged_of_asks asks stepped, List.count_append]
  exact Nat.lt_succ_self _

/-- While the server streams with a closed gate, a request is due, or it has just been
made, or the gate was closed before and no request was due. -/
theorem closed_of_step (lined : server.Lined) (belongs : server.Belongs) {action : Action}
    (stepped : step config server action = some next) (streaming : next.peerStreaming = true)
    (closed : next.awaitingKeyframe = true) :
    (∃ closing, next.Owes closing) ∨ server.requests < next.requests ∨
      (server.peerStreaming = true ∧ server.awaitingKeyframe = true ∧ ¬ ∃ closing, server.Owes closing) := by
  have moved := moves_of_step lined belongs stepped
  obtain ⟨sent, path, _⟩ := id moved
  cases was : server.peerStreaming with
  | false => exact Or.inl ⟨none, (owes_iff _ _).mpr (SendPath.owes_of_ready none path was streaming)⟩
  | true =>
      cases shut : server.awaitingKeyframe with
      | false => exact Or.inl ⟨some action, owes_of_closing moved shut closed streaming⟩
      | true =>
          by_cases due : ∃ closing, server.Owes closing
          · obtain ⟨closing, owes⟩ := due
            rcases ((owes_iff _ _).mp owes).step path streaming with still | asks
            · exact Or.inl ⟨closing, (owes_iff _ _).mpr still⟩
            · exact Or.inr (Or.inl (requests_lt_of_asks asks stepped))
          · exact Or.inr (Or.inr ⟨rfl, rfl, due⟩)

theorem made_ne_nil (h265 : Bool) (base : PacketizerBase) {data : List UInt8} (ptsUsec : Int64)
    (filled : forEachNal data ≠ []) : (packetize h265 base data ptsUsec).1 ≠ [] := by
  rw [Session.packetize_eq_layout, NalLayout.packetize_eq]
  apply List.ne_nil_of_length_pos
  rw [NalLayout.framePieces_length]
  apply List.length_pos_of_ne_nil
  rw [← List.isEmpty_eq_false_iff, NalLayout.unitPieces_isEmpty, List.isEmpty_eq_false_iff]
  exact filled

theorem broadcastVideo_of_not_streaming (started now : Time) (data : List UInt8) (ptsUsec : Int64) (keyframe : Bool)
    (stopped : server.peerStreaming = false) :
    server.broadcastVideo config started now data ptsUsec keyframe = server := by
  rw [broadcastVideo, stopped]
  rfl

theorem enqueue_opens (unit : VideoUnit) (number : Nat) :
    (server.enqueue unit number).awaitingKeyframe = false ∨ 0 < (server.enqueue unit number).captureRequests := by
  rw [enqueue]
  split
  · exact Or.inr (Nat.succ_pos _)
  · exact Or.inl rfl

/-- A keyframe opens the gate, or is too large, and then the next one is asked for. -/
theorem broadcastVideo_keyframe (started now : Time) {data : List UInt8} (ptsUsec : Int64)
    (filled : forEachNal data ≠ []) (streaming : server.peerStreaming = true) :
    (server.broadcastVideo config started now data ptsUsec true).awaitingKeyframe = false ∨
      0 < (server.broadcastVideo config started now data ptsUsec true).captureRequests := by
  have made := made_ne_nil config.h265 server.videoPacker ptsUsec filled
  rw [broadcastVideo]
  simp only
  rw [if_neg (by rw [streaming]; exact Bool.noConfusion), if_neg (by simp),
    if_neg (fun empty => made (List.isEmpty_iff.mp empty))]
  exact enqueue_opens _ _

end RtpServer

namespace MonitorPipeline

variable {config : RtpServer.Config} {pipeline next : MonitorPipeline}

/-! ## A closed gate is not forgotten -/

/-- A keyframe is on its way: a thread of the server has not come to its request yet,
the encoder has been asked, the frame is inside the codec, or the capture thread is
about to hand it over. -/
def OnItsWay (pipeline : MonitorPipeline) : Prop :=
  (∃ closing, pipeline.server.Owes closing) ∨ pipeline.encoder.forceKeyframe = true ∨ true ∈ pipeline.codec ∨
    ∃ packet ∈ pipeline.outbox, Keyframe packet

/-- The server has come here by steps of its own, and while its gate is closed to a
client a keyframe is on its way, unless the capture thread has left its loop. -/
structure Supplied (config : RtpServer.Config) (pipeline : MonitorPipeline) : Prop where
  reached : ∃ actions, RtpServer.run config actions = some pipeline.server
  supplied : pipeline.ended = false → pipeline.server.peerStreaming = true →
    pipeline.server.awaitingKeyframe = true → pipeline.OnItsWay

theorem supplied_start (config : RtpServer.Config) (encoder : Encoder) : Supplied config (start config encoder) where
  reached := ⟨[], rfl⟩
  supplied := fun _ streaming => nomatch streaming

/-- A step of the server keeps a keyframe on its way. -/
theorem Supplied.advance (supplied : Supplied config pipeline) {action : RtpServer.Action} {server : RtpServer}
    (stepped : RtpServer.step config pipeline.server action = some server) :
    Supplied config (pipeline.advance server) where
  reached := by
    obtain ⟨actions, reached⟩ := supplied.reached
    exact ⟨actions ++ [action], run_concat_iff.mpr ⟨_, reached, stepped⟩⟩
  supplied := by
    intro running streaming closed
    obtain ⟨actions, reached⟩ := supplied.reached
    rcases RtpServer.closed_of_step (RtpServer.lined_of_run reached) (RtpServer.belongs_of_run reached) stepped
      streaming closed with due | asked | ⟨was, shut, nothing⟩
    · exact Or.inl due
    · refine Or.inr (Or.inl ?_)
      simp [MonitorPipeline.advance, asked]
    · rcases supplied.supplied running was shut with due | flag | inCodec | handed
      · exact absurd due nothing
      · refine Or.inr (Or.inl ?_)
        simp [MonitorPipeline.advance, flag]
      · exact Or.inr (Or.inr (Or.inl inCodec))
      · exact Or.inr (Or.inr (Or.inr handed))

/-- The keyframe that is handed over opens the gate, or a request becomes due. -/
theorem Supplied.deliver (supplied : Supplied config pipeline) (started now : RtpServer.Time)
    {packet : Encoder.Packet} {rest : List Encoder.Packet} (contents : pipeline.outbox = packet :: rest) :
    Supplied config { pipeline.advance (pipeline.server.broadcastVideo config started now packet.data
      (Int64.ofInt packet.pts) packet.keyframe) with outbox := rest } := by
  have stepped : RtpServer.step config pipeline.server
      (.broadcastVideo started now packet.data (Int64.ofInt packet.pts) packet.keyframe) = some
        (pipeline.server.broadcastVideo config started now packet.data
          (Int64.ofInt packet.pts) packet.keyframe) := rfl
  have moved := supplied.advance stepped
  refine ⟨moved.reached, ?_⟩
  intro running streaming closed
  rcases moved.supplied running streaming closed with due | flag | inCodec | ⟨other, listed, keyframe⟩
  · exact Or.inl due
  · exact Or.inr (Or.inl flag)
  · exact Or.inr (Or.inr (Or.inl inCodec))
  change other ∈ pipeline.outbox at listed
  rw [contents] at listed
  rcases List.mem_cons.mp listed with same | later
  · subst same
    have still : pipeline.server.peerStreaming = true := by
      cases was : pipeline.server.peerStreaming with
      | true => rfl
      | false =>
          change (pipeline.server.broadcastVideo config started now _ _ _).peerStreaming = true at streaming
          rw [RtpServer.broadcastVideo_of_not_streaming _ _ _ _ _ was] at streaming
          exact was.symm.trans streaming
    have opens := @RtpServer.broadcastVideo_keyframe config pipeline.server started now _ (Int64.ofInt other.pts)
      keyframe.2 still
    rw [← keyframe.1] at opens
    rcases opens with isOpen | owed
    · exact absurd (isOpen.symm.trans closed) Bool.noConfusion
    · exact Or.inl ⟨some (.broadcastVideo started now [] 0 true), Or.inr owed⟩
  · exact Or.inr (Or.inr (Or.inr ⟨other, later, keyframe⟩))

/-- A forced frame stays inside the codec, or comes out as a keyframe. -/
theorem Supplied.encode (supplied : Supplied config pipeline) (frame : Encoder.AVFrame) (ptsUsec : Int)
    (answers : Encoder.Answers) (running : pipeline.ended = false) (done : pipeline.outbox = [])
    (honoured : Honours pipeline (.encode frame ptsUsec answers)) :
    Supplied config (pipeline.encode frame ptsUsec answers) where
  reached := supplied.reached
  supplied := by
    intro still streaming closed
    rcases pipeline.encoder.encode_submits frame ptsUsec answers with ⟨_, _, failed, _⟩ | ⟨_, _, submitted⟩
    · rw [MonitorPipeline.encode, failed] at still
      cases still
    rcases supplied.supplied running streaming closed with due | forced | inCodec | ⟨packet, listed, _⟩
    · exact Or.inl due
    rotate_left 2
    · rw [done] at listed
      cases listed
    all_goals
      have present : true ∈ pipeline.inside frame ptsUsec answers := by
        rw [inside, submitted]
        cases reopened : pipeline.encoder.reopens answers with
        | true => simp
        | false => simp_all
      rw [← List.take_append_drop (pipeline.encoder.encode frame ptsUsec answers).2.1.length
        (pipeline.inside frame ptsUsec answers)] at present
      rcases List.mem_append.mp present with out | kept
      · obtain ⟨packet, listed, keyframe⟩ := Session.exists_of_forall₂ honoured.flip true out
        exact Or.inr (Or.inr (Or.inr ⟨packet, listed, keyframe rfl⟩))
      · exact Or.inr (Or.inr (Or.inl kept))

theorem Supplied.step (supplied : Supplied config pipeline) {action : Action} (honoured : Honours pipeline action)
    (stepped : step config pipeline action = some next) : Supplied config next := by
  cases action with
  | server action =>
      have moved : (RtpServer.step config pipeline.server action).map pipeline.advance = some next := by
        cases action <;> first | exact stepped | cases stepped
      obtain ⟨server, taken, rfl⟩ := Option.map_eq_some_iff.mp moved
      exact supplied.advance taken
  | setBitrate kbps =>
      cases stepped
      exact ⟨supplied.reached, supplied.supplied⟩
  | encode frame ptsUsec answers =>
      obtain ⟨⟨running, done, _⟩, rfl⟩ := eq_of_guarded stepped
      exact supplied.encode frame ptsUsec answers running done honoured
  | deliver started now =>
      simp only [MonitorPipeline.step] at stepped
      split at stepped
      · cases stepped
      · rename_i packet rest contents
        obtain ⟨_, rfl⟩ := eq_of_guarded stepped
        exact supplied.deliver started now contents
  | stop =>
      cases stepped
      exact ⟨supplied.reached, fun running => nomatch running⟩
  | flush packets =>
      obtain ⟨⟨ended, _⟩, rfl⟩ := eq_of_guarded stepped
      refine ⟨supplied.reached, fun running => ?_⟩
      exact absurd (ended.symm.trans running) Bool.noConfusion

/-! ## Every request is served, and nothing else is -/

/-- The step opens the codec again. -/
def Action.reopens (pipeline : MonitorPipeline) : Action → Bool
  | .encode _ _ answers => pipeline.encoder.reopens answers
  | _ => false

/-- How often the codec is opened again in a run. -/
def reopenings (config : RtpServer.Config) : MonitorPipeline → List Action → Nat
  | _, [] => 0
  | pipeline, action :: rest =>
      (action.reopens pipeline).toNat +
        match step config pipeline action with
        | some next => reopenings config next rest
        | none => 0

/-- What a step does to the flag: it is set by requests and when the codec is opened
again, and a submission takes it. -/
inductive Flags (pipeline next : MonitorPipeline) (reopened : Bool) : Prop where
  | kept (asked : pipeline.server.requests ≤ next.server.requests)
      (forced : next.encoder.forced = pipeline.encoder.forced)
      (flag : next.encoder.forceKeyframe =
        (pipeline.encoder.forceKeyframe || decide (pipeline.server.requests < next.server.requests)))
  | failed (asked : next.server.requests = pipeline.server.requests)
      (forced : next.encoder.forced = pipeline.encoder.forced)
      (flag : next.encoder.forceKeyframe = (pipeline.encoder.forceKeyframe || reopened))
  | submitted (asked : next.server.requests = pipeline.server.requests)
      (forced : next.encoder.forced = pipeline.encoder.forced + (pipeline.encoder.forceKeyframe || reopened).toNat)
      (flag : next.encoder.forceKeyframe = false)

theorem flags_of_step (supplied : Supplied config pipeline) {action : Action}
    (stepped : step config pipeline action = some next) :
    Flags pipeline next (action.reopens pipeline) := by
  obtain ⟨actions, reached⟩ := supplied.reached
  have more : ∀ action server, RtpServer.step config pipeline.server action = some server →
      pipeline.server.requests ≤ server.requests := by
    intro action server taken
    obtain ⟨events, grown, _⟩ := RtpServer.sends_of_step (RtpServer.belongs_of_run reached) taken
    rw [RtpServer.requests, RtpServer.requests, grown, List.count_append]
    exact Nat.le_add_right _ _
  have still : ∀ encoder : Encoder, encoder.forceKeyframe = pipeline.encoder.forceKeyframe →
      encoder.submitted = pipeline.encoder.submitted → ∀ codec outbox ended,
        Flags pipeline ⟨pipeline.server, encoder, codec, outbox, ended⟩ false := by
    intro encoder flag same codec outbox ended
    refine .kept (Nat.le_refl _) ?_ ?_
    · rw [Encoder.forced, Encoder.forced, same]
    · simp [flag]
  cases action with
  | server action =>
      have moved : (RtpServer.step config pipeline.server action).map pipeline.advance = some next := by
        cases action <;> first | exact stepped | cases stepped
      obtain ⟨server, taken, rfl⟩ := Option.map_eq_some_iff.mp moved
      exact .kept (more action server taken) rfl rfl
  | setBitrate kbps =>
      cases stepped
      exact still { pipeline.encoder with pendingBitrateKbps := kbps } rfl rfl _ _ _
  | encode frame ptsUsec answers =>
      obtain ⟨_, rfl⟩ := eq_of_guarded stepped
      rcases pipeline.encoder.encode_submits frame ptsUsec answers with ⟨flag, same, _⟩ | ⟨flag, grown, _⟩
      · exact .failed rfl same flag
      · exact .submitted rfl grown flag
  | deliver started now =>
      simp only [MonitorPipeline.step] at stepped
      split at stepped
      · cases stepped
      · rename_i packet rest contents
        obtain ⟨_, rfl⟩ := eq_of_guarded stepped
        exact .kept (more (.broadcastVideo started now packet.data (Int64.ofInt packet.pts) packet.keyframe) _ rfl)
          rfl rfl
  | stop =>
      cases stepped
      exact still _ rfl rfl _ _ _
  | flush packets =>
      obtain ⟨_, rfl⟩ := eq_of_guarded stepped
      exact still _ rfl rfl _ _ _

theorem toNat_or_le (first second : Bool) : (first || second).toNat ≤ first.toNat + second.toNat := by
  cases first <;> cases second <;> decide

/-- Over a run: a request leaves the flag set or a forced frame behind, and no frame
is forced without a request or a codec that was opened again. -/
theorem flags_of_run {actions : List Action} (supplied : Supplied config pipeline)
    (honoured : Throughout (step config) pipeline Honours actions)
    (ran : Transitions.run (step config) pipeline actions = some next) :
    pipeline.server.requests ≤ next.server.requests ∧ pipeline.encoder.forced ≤ next.encoder.forced ∧
      (pipeline.server.requests < next.server.requests ∨ pipeline.encoder.forceKeyframe = true →
        next.encoder.forceKeyframe = true ∨ pipeline.encoder.forced < next.encoder.forced) ∧
      next.encoder.forced + next.encoder.forceKeyframe.toNat + pipeline.server.requests ≤
        pipeline.encoder.forced + pipeline.encoder.forceKeyframe.toNat + next.server.requests +
          reopenings config pipeline actions := by
  induction actions generalizing pipeline with
  | nil =>
      cases ran
      refine ⟨Nat.le_refl _, Nat.le_refl _, ?_, Nat.le_refl _⟩
      exact fun asked => Or.inl (asked.resolve_left (Nat.lt_irrefl _))
  | cons action rest inductionHypothesis =>
      obtain ⟨middle, stepped, later⟩ := run_cons_iff.mp ran
      obtain ⟨now, afterwards⟩ := throughout_cons_iff.mp honoured
      obtain ⟨asked, forced, served, bound⟩ :=
        inductionHypothesis (supplied.step now stepped) (afterwards middle stepped) later
      have flags := flags_of_step supplied stepped
      rw [reopenings, stepped]
      dsimp only
      generalize action.reopens pipeline = reopened at flags ⊢
      cases flags with
      | kept asks same flag =>
          have raised : middle.encoder.forceKeyframe.toNat + pipeline.server.requests ≤
              pipeline.encoder.forceKeyframe.toNat + middle.server.requests := by
            have either := toNat_or_le pipeline.encoder.forceKeyframe
              (decide (pipeline.server.requests < middle.server.requests))
            rw [← flag] at either
            by_cases grown : pipeline.server.requests < middle.server.requests
            · simp only [grown, decide_true, Bool.toNat_true] at either
              omega
            · simp only [grown, decide_false, Bool.toNat_false] at either
              omega
          refine ⟨asks.trans asked, same ▸ forced, fun due => ?_, by omega⟩
          rw [← same]
          apply served
          rw [flag, Bool.or_eq_true, decide_eq_true_iff]
          rcases due with grown | flagged
          · exact (lt_or_ge pipeline.server.requests middle.server.requests).elim (fun now => Or.inr (Or.inr now))
              (fun none => Or.inl (by omega))
          · exact Or.inr (Or.inl flagged)
      | failed asks same flag =>
          have either := toNat_or_le pipeline.encoder.forceKeyframe reopened
          rw [← flag] at either
          refine ⟨asks ▸ asked, same ▸ forced, fun due => ?_, by omega⟩
          rw [← same]
          apply served
          rw [flag, Bool.or_eq_true, asks]
          exact due.imp_right Or.inl
      | submitted asks grown flag =>
          have either := toNat_or_le pipeline.encoder.forceKeyframe reopened
          simp only [flag, Bool.toNat_false] at bound
          refine ⟨asks ▸ asked, by omega, fun due => ?_, by omega⟩
          rcases due with late | flagged
          · exact (served (Or.inl (asks ▸ late))).imp_right (fun more => by omega)
          · simp only [flagged, Bool.true_or, Bool.toNat_true] at grown
            exact Or.inr (by omega)

theorem supplied_of_run {actions : List Action} (supplied : Supplied config pipeline)
    (honoured : Throughout (step config) pipeline Honours actions)
    (ran : Transitions.run (step config) pipeline actions = some next) : Supplied config next :=
  run_invariant_throughout (fun _ _ _ supplied honoured stepped => Supplied.step supplied honoured stepped) supplied
    honoured ran

/-- The keyframe loop of a pipeline, over every interleaving of its threads.  While
the capture thread runs and the gate of the server is closed to a streaming client, a
keyframe is on its way.  Every request is served: it leaves the flag set until a frame
has been forced.  And no keyframe is forced for nothing: there are at most as many as
there were requests and reopened codecs. -/
theorem keyframes_supplied (config : RtpServer.Config) (cfg : Encoder.EncoderConfig) (chosenName : String)
    (hwFrames : Bool) (convFmt : Int) {actions : List Action} {pipeline : MonitorPipeline}
    (reached : Transitions.run (step config)
      (start config (Encoder.opened cfg chosenName hwFrames convFmt)) actions = some pipeline)
    (honoured : Throughout (step config) (start config (Encoder.opened cfg chosenName hwFrames convFmt)) Honours
      actions) :
    (pipeline.ended = false → pipeline.server.peerStreaming = true → pipeline.server.awaitingKeyframe = true →
      pipeline.OnItsWay) ∧
    (∀ early late middle, actions = early ++ late →
      Transitions.run (step config) (start config (Encoder.opened cfg chosenName hwFrames convFmt)) early =
        some middle →
      middle.server.requests < pipeline.server.requests →
        pipeline.encoder.forceKeyframe = true ∨ middle.encoder.forced < pipeline.encoder.forced) ∧
    pipeline.encoder.forced ≤ pipeline.server.requests +
      reopenings config (start config (Encoder.opened cfg chosenName hwFrames convFmt)) actions := by
  have began := supplied_start config (Encoder.opened cfg chosenName hwFrames convFmt)
  refine ⟨(supplied_of_run began honoured reached).supplied, ?_, ?_⟩
  · rintro early late middle rfl reachedMiddle asked
    obtain ⟨before, after⟩ := honoured.split
    obtain ⟨other, isOther, later⟩ := run_append_iff.mp reached
    cases isOther.symm.trans reachedMiddle
    have suppliedMiddle := supplied_of_run began before reachedMiddle
    exact (flags_of_run suppliedMiddle (after middle reachedMiddle) later).2.2.1 (Or.inl asked)
  · have bound := (flags_of_run began honoured reached).2.2.2
    have none : (start config (Encoder.opened cfg chosenName hwFrames convFmt)).encoder.forced = 0 ∧
        (start config (Encoder.opened cfg chosenName hwFrames convFmt)).encoder.forceKeyframe.toNat = 0 ∧
        (start config (Encoder.opened cfg chosenName hwFrames convFmt)).server.requests = 0 := ⟨rfl, rfl, rfl⟩
    omega

/-- A client becomes ready, the next frame is forced and comes out one call later. -/
def sampleActions : List Action :=
  RtpServer.sampleReady.map Action.server ++
    [.encode ⟨0, 1920, 1080⟩ 0 ⟨true, true, true, .ok (), .ok (), [], .ok ()⟩,
      .encode ⟨0, 1920, 1080⟩ 33333 ⟨true, true, true, .ok (), .ok (),
        [⟨[0, 0, 0, 1, 0x26, 0x01, 0xAF], 0, true⟩], .ok ()⟩]

theorem keyframes_supplied_sample :
    ∃ pipeline, Transitions.run (step RtpServer.sampleConfig)
        (start RtpServer.sampleConfig (Encoder.opened ⟨1920, 1080, 8000⟩ "libx264" false 0)) sampleActions =
          some pipeline ∧
      pipeline.server.awaitingKeyframe = true ∧ pipeline.OnItsWay ∧ pipeline.encoder.forced ≤ 1 := by
  obtain ⟨pipeline, reached, ended, streaming, closed, requests⟩ :
      ∃ pipeline ∈ Transitions.run (step RtpServer.sampleConfig)
          (start RtpServer.sampleConfig (Encoder.opened ⟨1920, 1080, 8000⟩ "libx264" false 0)) sampleActions,
        pipeline.ended = false ∧ pipeline.server.peerStreaming = true ∧
          pipeline.server.awaitingKeyframe = true ∧ pipeline.server.requests = 1 := by
    decide +kernel
  have honoured : Throughout (step RtpServer.sampleConfig)
      (start RtpServer.sampleConfig (Encoder.opened ⟨1920, 1080, 8000⟩ "libx264" false 0)) Honours sampleActions := by
    decide +kernel
  have reopened : reopenings RtpServer.sampleConfig
      (start RtpServer.sampleConfig (Encoder.opened ⟨1920, 1080, 8000⟩ "libx264" false 0)) sampleActions = 0 := by
    decide +kernel
  obtain ⟨supplied, _, bound⟩ := keyframes_supplied RtpServer.sampleConfig ⟨1920, 1080,
    8000⟩ "libx264" false 0 reached
    honoured
  exact ⟨pipeline, reached, closed, supplied ended streaming closed, by omega⟩

end MonitorPipeline
end MetaShare
