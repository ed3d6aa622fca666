import Mathlib.Algebra.BigOperators.Group.List.Lemmas
import Mathlib.Algebra.Order.Ring.Rat
import MetaShare.Server.Sessions

namespace MetaShare

open Transitions

/-!
# The pacing rate of a host

All servers of a host share one pacer, which adds up the rates of their streams.
Two threads of a server tell it the rate: the encoder's, whenever the bitrate
adapts, and the signaling thread, whenever streaming begins or ends.
-/

/-- The rates by stream, and the token bucket they determine.  Waiting for
tokens is left out, and the total is a number without bound. -/
structure Pacer where
  streamKbps : List (Int × Int)
  rateBytesPerSec : Rat
  burstBytes : Rat
  tokens : Rat

namespace Pacer

def start : Pacer := ⟨[], 0, 32 * 1024, 32 * 1024⟩

def lookup (rates : List (Int × Int)) (index : Int) : Option Int :=
  (rates.find? (fun entry => entry.1 == index)).map Prod.snd

/-- Replace the value of a key, or add it. -/
def assign (index kbps : Int) : List (Int × Int) → List (Int × Int)
  | [] => [(index, kbps)]
  | entry :: rest => if entry.1 = index then (index, kbps) :: rest else entry :: assign index kbps rest

def setStreamRate (pacer : Pacer) (index kbps : Int) : Pacer :=
  let streamKbps := assign index kbps pacer.streamKbps
  let total : Int := streamKbps.foldl (fun total entry => total + entry.2) 0
  let rate := (total : Rat) * 1000 / 8 * (5 / 4)
  let burst := max (32 * 1024) (rate / 100)
  { streamKbps := streamKbps, rateBytesPerSec := rate, burstBytes := burst, tokens := min pacer.tokens burst }

/-! ## The rates by stream -/

theorem lookup_cons (entry : Int × Int) (rest : List (Int × Int)) (index : Int) :
    lookup (entry :: rest) index = if entry.1 = index then some entry.2 else lookup rest index := by
  rw [lookup, List.find?_cons]
  by_cases same : entry.1 = index
  · rw [if_pos same, beq_iff_eq.mpr same]
    rfl
  · rw [if_neg same, beq_eq_false_iff_ne.mpr same]
    rfl

theorem lookup_assign (index kbps other : Int) (rates : List (Int × Int)) :
    lookup (assign index kbps rates) other = if index = other then some kbps else lookup rates other := by
  induction rates with
  | nil => exact lookup_cons (index, kbps) [] other
  | cons entry rest inductionHypothesis =>
      rw [assign]
      split
      · rename_i same
        rw [lookup_cons, lookup_cons, same]
        split <;> rfl
      · rename_i different
        rw [lookup_cons, lookup_cons, inductionHypothesis]
        by_cases isEntry : entry.1 = other
        · rw [if_pos isEntry, if_pos isEntry, if_neg (fun same => different (isEntry.trans same.symm))]
        · rw [if_neg isEntry, if_neg isEntry]

theorem mem_keys_assign {index kbps key : Int} {rates : List (Int × Int)}
    (member : key ∈ (assign index kbps rates).map Prod.fst) : key = index ∨ key ∈ rates.map Prod.fst := by
  induction rates with
  | nil => exact Or.inl (List.mem_singleton.mp member)
  | cons entry rest inductionHypothesis =>
      rw [assign] at member
      split at member
      · rename_i same
        rw [List.map_cons, List.mem_cons] at member
        exact member.imp id (List.mem_cons_of_mem _)
      · rw [List.map_cons, List.mem_cons] at member
        rcases member with own | later
        · exact Or.inr (List.mem_cons.mpr (Or.inl own))
        · exact (inductionHypothesis later).imp id (List.mem_cons_of_mem _)

theorem nodup_assign {rates : List (Int × Int)} (nodup : (rates.map Prod.fst).Nodup) (index kbps : Int) :
    ((assign index kbps rates).map Prod.fst).Nodup := by
  induction rates with
  | nil => exact List.nodup_singleton _
  | cons entry rest inductionHypothesis =>
      rw [List.map_cons, List.nodup_cons] at nodup
      rw [assign]
      split
      · rename_i same
        rw [List.map_cons, List.nodup_cons]
        exact ⟨same ▸ nodup.1, nodup.2⟩
      · rename_i different
        rw [List.map_cons, List.nodup_cons]
        refine ⟨fun member => ?_, inductionHypothesis nodup.2⟩
        rcases mem_keys_assign member with same | older
        · exact different same
        · exact nodup.1 older

end Pacer

namespace RtpServer

/-! ## The rate that a server has told -/

def rateStep (rate : Option Int) : Event → Option Int
  | .streamRate kbps => some kbps
  | _ => rate

/-- The rate that the server told the pacer last. -/
def rate (server : RtpServer) : Option Int := server.log.foldl rateStep none

/-- The rate told last is the current one. -/
def Rated (server : RtpServer) : Prop :=
  (server.peerStreaming = true → server.rate = some server.pacingKbps) ∧
    (server.peerStreaming = false → server.rate = none ∨ server.rate = some 0)

/-- Nothing that the pacer depends on has changed. -/
structure SameRate (server next : RtpServer) : Prop where
  rate : next.rate = server.rate
  pacingKbps : next.pacingKbps = server.pacingKbps
  peerStreaming : next.peerStreaming = server.peerStreaming

variable {server next : RtpServer} {config : Config}

theorem rate_record (server : RtpServer) (event : Event) :
    (server.record event).rate = rateStep server.rate event := by
  rw [rate, record, List.foldl_append]
  rfl

theorem Rated.same (rated : server.Rated) (same : SameRate server next) : next.Rated := by
  rw [Rated, same.rate, same.pacingKbps, same.peerStreaming]
  exact rated

theorem sameRate_of_log (log : next.log = server.log) (pacingKbps : next.pacingKbps = server.pacingKbps)
    (peerStreaming : next.peerStreaming = server.peerStreaming) : SameRate server next :=
  ⟨congrArg (List.foldl rateStep none) log, pacingKbps, peerStreaming⟩

/-- An event that is not a rate. -/
theorem SameRate.record (same : SameRate server next) {event : Event}
    (quiet : ∀ rate, rateStep rate event = rate) : SameRate server (next.record event) where
  rate := by
    rw [rate_record, quiet]
    exact same.rate
  pacingKbps := same.pacingKbps
  peerStreaming := same.peerStreaming

theorem sameRate_of_event {event : Event} (log : next.log = server.log ++ [event])
    (quiet : ∀ rate, rateStep rate event = rate) (pacingKbps : next.pacingKbps = server.pacingKbps)
    (peerStreaming : next.peerStreaming = server.peerStreaming) : SameRate server next where
  rate := by
    rw [rate, log, List.foldl_append]
    exact quiet server.rate
  pacingKbps := pacingKbps
  peerStreaming := peerStreaming

theorem rate_setStreamRate (pacer : config.pacer = true) (server : RtpServer) (kbps : Int) :
    (server.setStreamRate config kbps).rate = some kbps := by
  rw [setStreamRate, if_pos pacer, rate_record]
  rfl

theorem setStreamRate_pacingKbps (server : RtpServer) (config : Config) (kbps : Int) :
    (server.setStreamRate config kbps).pacingKbps = server.pacingKbps := by
  rw [setStreamRate]
  split <;> rfl

theorem setStreamRate_peerStreaming (server : RtpServer) (config : Config) (kbps : Int) :
    (server.setStreamRate config kbps).peerStreaming = server.peerStreaming := by
  rw [setStreamRate]
  split <;> rfl

theorem rated_disconnect (pacer : config.pacer = true) (server : RtpServer) : (server.disconnect config).Rated := by
  have rate : (server.disconnect config).rate = some 0 := by
    rw [disconnect, rate_record]
    exact rate_setStreamRate pacer _ 0
  have stopped : (server.disconnect config).peerStreaming = false := setStreamRate_peerStreaming _ config 0
  exact ⟨fun streaming => absurd (stopped.symm.trans streaming) Bool.noConfusion, fun _ => Or.inr rate⟩

theorem Rated.onMessage (rated : server.Rated) (pacer : config.pacer = true) (peer : SockAddr)
    (message : Signal.Message) : (server.onMessage config peer message).Rated := by
  cases kind : message.type <;> simp only [RtpServer.onMessage, kind]
  case ready =>
    rw [onReady]
    split
    · exact rated
    simp only
    split
    · exact rated.same (sameRate_of_log rfl rfl rfl)
    refine Rated.same ?_ (SameRate.record ⟨rfl, rfl, rfl⟩ (fun _ => rfl))
    refine ⟨fun _ => ?_, fun stopped => ?_⟩
    · rw [rate_setStreamRate pacer, setStreamRate_pacingKbps]
    · rw [setStreamRate_peerStreaming] at stopped
      cases stopped
  case bye => exact rated_disconnect pacer _
  all_goals exact rated

theorem Rated.setPacingBitrate (rated : server.Rated) (pacer : config.pacer = true) (kbps : Int) :
    (server.setPacingBitrate config kbps).Rated := by
  rw [RtpServer.setPacingBitrate]
  split
  · exact rated
  · refine ⟨fun streaming => ?_, fun stopped => ?_⟩
    · rw [setStreamRate_peerStreaming] at streaming
      rw [rate_setStreamRate pacer, setStreamRate_pacingKbps, if_pos streaming]
    · rw [setStreamRate_peerStreaming] at stopped
      rw [rate_setStreamRate pacer]
      have off : ¬ server.peerStreaming = true := Bool.eq_false_iff.mp stopped
      exact Or.inr (congrArg some (if_neg off))

theorem sameRate_broadcastVideo (server : RtpServer) (config : Config) (started now : Time) (data : List UInt8)
    (ptsUsec : Int64) (keyframe : Bool) :
    SameRate server (server.broadcastVideo config started now data ptsUsec keyframe) := by
  have enqueued : ∀ (current : RtpServer) (unit : VideoUnit) (number : Nat), SameRate server current →
      SameRate server (current.enqueue unit number) := by
    intro current unit number same
    rw [enqueue]
    split <;> exact ⟨same.rate, same.pacingKbps, same.peerStreaming⟩
  rw [broadcastVideo]
  simp only
  split
  · exact sameRate_of_log rfl rfl rfl
  split
  · exact sameRate_of_event rfl (fun _ => rfl) rfl rfl
  split
  · exact sameRate_of_log rfl rfl rfl
  · refine enqueued _ _ _ (SameRate.record ?_ ?_)
    · split <;> exact sameRate_of_log rfl rfl rfl
    · exact fun _ => rfl

theorem sameRate_broadcastAudio (server : RtpServer) (data : List UInt8) (ptsUsec : Int64) (sent : Bool)
    (recorded : Time) : SameRate server (server.broadcastAudio data ptsUsec sent recorded) := by
  apply broadcastAudio_keeps (SameRate server)
  · exact fun _ => sameRate_of_log rfl rfl rfl
  · intro _ current bytes same
    refine SameRate.record ?_ ?_
    · exact ⟨same.rate, same.pacingKbps, same.peerStreaming⟩
    · exact fun _ => rfl

theorem rated_of_step (rated : server.Rated) (belongs : server.Belongs) (pacer : config.pacer = true)
    {action : Action} (stepped : step config server action = some next) : next.Rated := by
  cases stepped_of_step stepped with
  | accept _ position =>
      -- Nobody is being served yet, so that streaming is off already.
      have stopped : server.peerStreaming = false := by
        rw [Bool.eq_false_iff]
        intro streaming
        have served := belongs.served streaming
        rw [position] at served
        cases served
      rw [connect]
      refine Rated.same ?_ (sameRate_of_event rfl (fun _ => rfl) rfl rfl)
      exact ⟨fun impossible => Bool.noConfusion impossible, fun _ => rated.2 stopped⟩
  | resetVideoQueue reset =>
      rw [afterReset] at reset
      split at reset <;> cases reset
      · exact rated.same (sameRate_of_event rfl (fun _ => rfl) rfl rfl)
      · exact rated.same (sameRate_of_log rfl rfl rfl)
      · exact rated.same (sameRate_of_log rfl rfl rfl)
  | message message => exact rated.onMessage pacer _ message
  | hangUp => exact rated_disconnect pacer _
  | signalingRequest => exact rated.same (sameRate_of_event rfl (fun _ => rfl) rfl rfl)
  | setPacingBitrate kbps => exact rated.setPacingBitrate pacer kbps
  | broadcastVideo started now data ptsUsec keyframe =>
      exact rated.same (sameRate_broadcastVideo server config started now data ptsUsec keyframe)
  | captureRequest => exact rated.same (sameRate_of_event rfl (fun _ => rfl) rfl rfl)
  | broadcastAudio data ptsUsec sent recorded =>
      exact rated.same (sameRate_broadcastAudio server data ptsUsec sent recorded)
  | wake => exact rated.same (sameRate_of_log rfl rfl rfl)
  | takeRepair =>
      rw [takeRepair]
      repeat' split
      all_goals exact rated.same (sameRate_of_log rfl rfl rfl)
  | @sendRepair flight done repair paced now sent =>
      rcases server.sendRepair_cases flight done repair paced now sent with passed | ⟨_, _, _, left⟩
      · exact passed ▸ rated.same (sameRate_of_log rfl rfl rfl)
      · exact left ▸ rated.same (sameRate_of_event rfl (fun _ => rfl) rfl rfl)
  | popFrame =>
      rw [popFrame]
      split <;> exact rated.same (sameRate_of_log rfl rfl rfl)
  | @sendPacket flight packet paced now taken recorded =>
      rcases server.sendPacket_cases flight packet paced now taken recorded with
        ⟨_, isNext⟩ | ⟨_, _, ⟨_, isNext⟩ | ⟨_, isNext⟩⟩
      all_goals rw [isNext]
      · exact rated.same (sameRate_of_log rfl rfl rfl)
      · exact rated.same (sameRate_of_event rfl (fun _ => rfl) rfl rfl)
      · exact rated.same (sameRate_of_log rfl rfl rfl)
  | senderRequest => exact rated.same (sameRate_of_event rfl (fun _ => rfl) rfl rfl)
  | receiveRtcp =>
      rw [receiveRtcp]
      split <;> exact rated.same (sameRate_of_log rfl rfl rfl)
  | @handleEvent event _ now =>
      cases event with
      | keyframeRequest => exact rated.same (sameRate_of_event rfl (fun _ => rfl) rfl rfl)
      | fractionLost octet => exact rated.same (sameRate_of_log rfl rfl rfl)
      | retransmit video seq =>
          rw [handleEvent]
          rcases retransmit_cases _ video seq now with same | ⟨_, _, _, _, _, _, queued⟩
          · exact same ▸ rated.same (sameRate_of_log rfl rfl rfl)
          · exact queued ▸ rated.same (sameRate_of_log rfl rfl rfl)

/-- The rates that a step told the pacer. -/
def Event.rate : Event → Option Int
  | .streamRate kbps => some kbps
  | _ => none

end RtpServer

/-! ## The host -/

/-- A server and the id under which it tells the pacer its rate. -/
structure Monitor where
  id : Int
  config : RtpServer.Config
  server : RtpServer

structure Host where
  pacer : Pacer
  monitors : List Monitor

namespace Host

/-- The pacer after a critical section of the server with this id. -/
def tell (pacer : Pacer) (id : Int) (events : List RtpServer.Event) : Pacer :=
  (events.filterMap RtpServer.Event.rate).foldl (fun pacer kbps => pacer.setStreamRate id kbps) pacer

/-- One of the servers takes a step. -/
def step (host : Host) (action : Nat × RtpServer.Action) : Option Host :=
  match host.monitors[action.1]? with
  | none => none
  | some monitor =>
      (RtpServer.step monitor.config monitor.server action.2).map (fun next =>
        { pacer := tell host.pacer monitor.id (next.log.drop monitor.server.log.length)
          monitors := host.monitors.set action.1 { monitor with server := next } })

/-- The servers of a host before their first clients, with distinct ids and one
pacer. -/
structure Fresh (host : Host) : Prop where
  pacer : host.pacer = .start
  ids : (host.monitors.map Monitor.id).Nodup
  started : ∀ monitor ∈ host.monitors, monitor.server = RtpServer.start monitor.config
  paced : ∀ monitor ∈ host.monitors, monitor.config.pacer = true

/-- What a monitor takes of the rate of the host. -/
def share (monitor : Monitor) : Int := if monitor.server.peerStreaming then monitor.server.pacingKbps else 0

structure Paced (host : Host) : Prop where
  ids : (host.monitors.map Monitor.id).Nodup
  paced : ∀ monitor ∈ host.monitors, monitor.config.pacer = true
  keys : (host.pacer.streamKbps.map Prod.fst).Nodup
  known : ∀ key ∈ host.pacer.streamKbps.map Prod.fst, key ∈ host.monitors.map Monitor.id
  told : ∀ monitor ∈ host.monitors, Pacer.lookup host.pacer.streamKbps monitor.id = monitor.server.rate
  total : host.pacer.rateBytesPerSec = ((host.pacer.streamKbps.map Prod.snd).sum : Int) * 1000 / 8 * (5 / 4)
  belongs : ∀ monitor ∈ host.monitors, monitor.server.Belongs
  rated : ∀ monitor ∈ host.monitors, monitor.server.Rated

/-- What a server tells the pacer concerns its own rate only. -/
theorem tell_spec (pacer : Pacer) (id : Int) (events : List RtpServer.Event)
    (keys : (pacer.streamKbps.map Prod.fst).Nodup)
    (total : pacer.rateBytesPerSec = ((pacer.streamKbps.map Prod.snd).sum : Int) * 1000 / 8 * (5 / 4)) :
    ((tell pacer id events).streamKbps.map Prod.fst).Nodup ∧
      (∀ key ∈ (tell pacer id events).streamKbps.map Prod.fst, key = id ∨ key ∈ pacer.streamKbps.map Prod.fst) ∧
      Pacer.lookup (tell pacer id events).streamKbps id =
        events.foldl RtpServer.rateStep (Pacer.lookup pacer.streamKbps id) ∧
      (∀ other, other ≠ id →
        Pacer.lookup (tell pacer id events).streamKbps other = Pacer.lookup pacer.streamKbps other) ∧
      (tell pacer id events).rateBytesPerSec =
        (((tell pacer id events).streamKbps.map Prod.snd).sum : Int) * 1000 / 8 * (5 / 4) := by
  induction events generalizing pacer with
  | nil => exact ⟨keys, fun key member => Or.inr member, rfl, fun _ _ => rfl, total⟩
  | cons event rest inductionHypothesis =>
      cases event with
      | streamRate kbps =>
          have sum : ∀ rates : List (Int × Int), rates.foldl (fun total entry => total + entry.2) 0 =
              (rates.map Prod.snd).sum := by
            intro rates
            rw [List.sum_eq_foldl, List.foldl_map]
          have now : (pacer.setStreamRate id kbps).rateBytesPerSec =
              (((pacer.setStreamRate id kbps).streamKbps.map Prod.snd).sum : Int) * 1000 / 8 * (5 / 4) := by
            rw [← sum]
            rfl
          obtain ⟨nodup, known, own, others, rate⟩ := inductionHypothesis (pacer.setStreamRate id kbps)
            (Pacer.nodup_assign keys id kbps) now
          refine ⟨nodup, fun key member => ?_, ?_, fun other different => ?_, rate⟩
          · rcases known key member with same | older
            · exact Or.inl same
            · exact Pacer.mem_keys_assign older
          · refine own.trans (congrArg (rest.foldl RtpServer.rateStep) ?_)
            exact (Pacer.lookup_assign id kbps id _).trans (if_pos rfl)
          · exact (others other different).trans
              ((Pacer.lookup_assign id kbps other _).trans (if_neg (Ne.symm different)))
      | _ => exact inductionHypothesis pacer keys total

/-- Another monitor than the one that took the step has another id. -/
theorem id_ne {monitors : List Monitor} (ids : (monitors.map Monitor.id).Nodup) {index other : Nat}
    {monitor second : Monitor} (found : monitors[index]? = some monitor) (isSecond : monitors[other]? = some second)
    (different : index ≠ other) : second.id ≠ monitor.id := by
  intro same
  have inside : index < (monitors.map Monitor.id).length := by
    rw [List.length_map]
    exact (List.getElem?_eq_some_iff.mp found).1
  refine different ((List.getElem?_inj inside ids).mp ?_)
  rw [List.getElem?_map, List.getElem?_map, found, isSecond]
  exact congrArg some same.symm

/-- A monitor that takes a step keeps its id. -/
theorem ids_set {monitors : List Monitor} {index : Nat} {monitor : Monitor} (found : monitors[index]? = some monitor)
    (server : RtpServer) :
    (monitors.set index { monitor with server := server }).map Monitor.id = monitors.map Monitor.id := by
  refine List.ext_getElem? (fun other => ?_)
  rw [List.getElem?_map, List.getElem?_map]
  by_cases same : index = other
  · rw [← same, List.getElem?_set_self (List.getElem?_eq_some_iff.mp found).1, found]
    rfl
  · rw [List.getElem?_set_ne same]

theorem Paced.step {host next : Host} (paced : host.Paced) {action : Nat × RtpServer.Action}
    (stepped : host.step action = some next) : next.Paced := by
  rw [Host.step] at stepped
  split at stepped
  · cases stepped
  rename_i monitor found
  obtain ⟨server, moved, rfl⟩ := Option.map_eq_some_iff.mp stepped
  have member : monitor ∈ host.monitors := List.mem_of_getElem? found
  have belongs := paced.belongs monitor member
  have pacer := paced.paced monitor member
  obtain ⟨keys, known, own, others, total⟩ := tell_spec host.pacer monitor.id
    (server.log.drop monitor.server.log.length) paced.keys paced.total
  have ids := ids_set found server
  have split : ∀ other ∈ host.monitors.set action.1 { monitor with server := server },
      other = { monitor with server := server } ∨ (other ∈ host.monitors ∧ other.id ≠ monitor.id) := by
    intro other listed
    obtain ⟨index, isOther⟩ := List.mem_iff_getElem?.mp listed
    by_cases same : action.1 = index
    · rw [← same, List.getElem?_set_self (List.getElem?_eq_some_iff.mp found).1] at isOther
      exact Or.inl (Option.some.inj isOther).symm
    · rw [List.getElem?_set_ne same] at isOther
      exact Or.inr ⟨List.mem_of_getElem? isOther, id_ne paced.ids found isOther same⟩
  constructor
  case ids => exact ids ▸ paced.ids
  case paced =>
    intro other listed
    rcases split other listed with rfl | ⟨older, _⟩
    · exact pacer
    · exact paced.paced other older
  case keys => exact keys
  case known =>
    intro key isKey
    rw [ids]
    rcases known key isKey with rfl | older
    · exact List.mem_map_of_mem member
    · exact paced.known key older
  case told =>
    intro other listed
    rcases split other listed with rfl | ⟨older, different⟩
    · obtain ⟨events, grown, _⟩ := RtpServer.sends_of_step belongs moved
      have added : server.log.drop monitor.server.log.length = events := by
        rw [grown, List.drop_left]
      have rate : server.rate = events.foldl RtpServer.rateStep monitor.server.rate := by
        rw [RtpServer.rate, grown, List.foldl_append]
        rfl
      rw [added, paced.told monitor member] at own
      rw [rate, ← own, added]
    · exact (others other.id different).trans (paced.told other older)
  case total => exact total
  case belongs =>
    intro other listed
    rcases split other listed with rfl | ⟨older, _⟩
    · exact RtpServer.Belongs.step belongs moved
    · exact paced.belongs other older
  case rated =>
    intro other listed
    rcases split other listed with rfl | ⟨older, _⟩
    · exact RtpServer.rated_of_step (paced.rated monitor member) belongs pacer moved
    · exact paced.rated other older

end Host
end MetaShare
