import MetaShare.Rtp.Fragmentation
import MetaShare.Server.PacedServer

namespace MetaShare

open Rtp Transitions RtpServer

/-!
# The backlog of a paced server

The backlog of a queue that is filled at no more than the encoder's rate, and
emptied at the pacer's, never exceeds what passes within the age of a frame.  An
access unit is due a little before its deadline, which makes up for the clock
that counts in nanoseconds.
-/

/-- The packets of the frame in hand that `consume` has let pass beyond those
that are sent. -/
def Waiting.passed : Waiting → Nat
  | .returned _ => 1
  | _ => 0

namespace PacedServer

/-! ## What waits -/

def bytes (packets : List MediaPacket) : Rat := ((packets.map (fun packet => packet.bytes.length)).sum : Nat)

def due (frame : VideoFrame) : Rat := seconds frame.deadline - 11 / 1000

def flightJob (passed : Nat) (flight : Flight) : Rat × Rat :=
  (bytes (flight.frame.packets.drop (flight.next + passed)), due flight.frame)

def frameJob (frame : VideoFrame) : Rat × Rat := (bytes frame.packets, due frame)

/-- The frame in hand and those in the queue, as far as they still have to pass. -/
def jobs (sender : Sender) (waiting : Waiting) (queue : List VideoFrame) : List (Rat × Rat) :=
  (sender.flight.map (flightJob waiting.passed)).toList ++ queue.map frameJob

/-- The bytes of the packets made since. -/
def arrived (pushes : List Push) (since : Rat) : Rat :=
  ((pushes.map (fun push => if since ≤ push.time then push.rtpBytes else 0)).sum : Nat)

theorem bytes_nonneg (packets : List MediaPacket) : 0 ≤ bytes packets := Nat.cast_nonneg _

theorem bytes_drop {packets : List MediaPacket} {next : Nat} {packet : MediaPacket}
    (found : packets[next]? = some packet) :
    bytes (packets.drop next) = packet.bytes.length + bytes (packets.drop (next + 1)) := by
  obtain ⟨inside, same⟩ := List.getElem?_eq_some_iff.mp found
  rw [List.drop_eq_getElem_cons inside, same, bytes, List.map_cons, List.sum_cons, Nat.cast_add]
  rfl

theorem arrived_concat (pushes : List Push) (push : Push) (since : Rat) :
    arrived (pushes ++ [push]) since = arrived pushes since +
      (if since ≤ push.time then (push.rtpBytes : Rat) else 0) := by
  simp [arrived]

/-! ## The time -/

theorem lt_reading_add_one (clock : Rat) : clock * 1000000000 < reading clock + 1 := Int.lt_floor_add_one _

theorem reading_lt_iff {clock : Rat} {time : Time} : reading clock < time ↔ clock < seconds time := by
  rw [reading, Int.floor_lt, seconds, lt_div_iff₀ (by norm_num)]

/-- An access unit that is pushed now is due in 88 milliseconds at the earliest. -/
theorem le_due {clock : Rat} {frame : VideoFrame} (pushed : frame.deadline = reading clock + kMaxSendAge) :
    clock + 88 / 1000 ≤ due frame := by
  have floor := lt_reading_add_one clock
  have age : (frame.deadline : Rat) = reading clock + 100000000 := by
    rw [pushed, kMaxSendAge, Int.cast_add]
    norm_num
  rw [due, seconds, age]
  linarith

theorem lt_deadline {clock : Rat} {frame : VideoFrame} (inTime : clock ≤ due frame) :
    clock < seconds frame.deadline := by
  rw [due] at inTime
  linarith

/-! ## The invariant -/

/-- Where the sender can stand.  In `consume` it has a packet in hand. -/
def Position : Sender → Waiting → Prop
  | .sending flight, _ => flight.next < flight.frame.packets.length
  | .repairing flight _, .outside => ∀ held, flight = some held → held.next < held.frame.packets.length
  | .waiting, .outside => True
  | .popping, .outside => True
  | _, _ => False

/-- The server streams, nothing is to be repaired, and a packet is smaller than
the bucket. -/
structure Placed (server : RtpServer) (waiting : Waiting) : Prop where
  streaming : server.peerStreaming = true
  noRepairs : server.repairQ = []
  position : Position server.sender waiting
  current : ∀ frame ∈ server.sendQ, frame.generation = server.sendGeneration
  small : ∀ frame ∈ server.frames, ∀ packet ∈ frame.packets, packet.bytes.length ≤ 32768

/-- What holds of every state as long as the encoder keeps its promise. -/
structure Sound (kbps : Int) (state : PacedServer) : Prop where
  positive : 0 < state.bucket.rateBytesPerSec
  rate : state.bucket.rateBytesPerSec = kbps * 1000 / 8 * (5 / 4)
  burst : 32768 ≤ state.bucket.burstBytes
  tokens : state.bucket.toTokenBucket.WellFormed
  refilled : state.bucket.lastRefill ≤ state.clock
  placed : Placed state.server state.waiting
  asleep : ∀ wakeAt, state.waiting = .asleep wakeAt → state.clock ≤ wakeAt ∧
    ∃ flight packet, state.server.sender = .sending flight ∧ flight.frame.packets[flight.next]? = some packet ∧
      state.bucket.tokens + (wakeAt - state.bucket.lastRefill) * state.bucket.rateBytesPerSec ≤ packet.bytes.length
  answered : ∀ paced, state.waiting = .returned paced → paced = true
  pushed : ∀ push ∈ state.pushes, push.time ≤ state.clock
  serves : state.bucket.toTokenBucket.Serves state.clock (arrived state.pushes)
    (jobs state.server.sender state.waiting state.server.sendQ)
  prompt : ∀ answer ∈ state.answers, answer.granted = true ∧ answer.time < seconds answer.flight.frame.deadline

variable {config : Config} {kbps : Int} {state next : PacedServer}

/-- The frame in hand is not late. -/
theorem Sound.flight_in_time (sound : state.Sound kbps) {flight : Flight}
    (held : state.server.sender.flight = some flight) : state.clock < seconds flight.frame.deadline := by
  refine lt_deadline (sound.serves.inTime (flightJob state.waiting.passed flight) ?_)
  rw [jobs, held]
  exact List.mem_cons_self

/-- No frame in the queue is late. -/
theorem Sound.queue_in_time (sound : state.Sound kbps) {frame : VideoFrame} (member : frame ∈ state.server.sendQ) :
    state.clock < seconds frame.deadline :=
  lt_deadline (sound.serves.inTime (frameJob frame)
    (List.mem_append_right _ (List.mem_map_of_mem member)))

/-! ## The sender's steps -/

/-- What the sender thread can do in its turn. -/
inductive Turns (state : PacedServer) : PacedServer → Prop where
  | move (sender : Sender) (outside : state.waiting = .outside)
      (same : sender.flight = state.server.sender.flight) (position : Position sender .outside) :
      Turns state { state with server := { state.server with sender := sender }, waiting := .outside }
  | pop (first : VideoFrame) (rest : List VideoFrame) (queue : state.server.sendQ = first :: rest)
      (free : state.server.sender.flight = none) (outside : state.waiting = .outside) (queuedPackets : Nat) :
      Turns state
        { state with
          server := { state.server with
            sendQ := rest
            queuedPackets := queuedPackets
            sender := continueWith ⟨first, 0⟩ }
          waiting := .outside }
  | consume (flight : Flight) (packet : MediaPacket) (position : state.server.sender = .sending flight)
      (found : flight.frame.packets[flight.next]? = some packet) (unanswered : state.waiting.passed = 0) :
      Turns state (state.consume flight packet)
  | cancel (flight : Flight) (position : state.server.sender = .sending flight)
      (outdated : flight.frame.generation ≠ state.server.sendGeneration) :
      Turns state { state with server := { state.server with sender := .waiting }, waiting := .outside }
  | send (flight : Flight) (position : state.server.sender = .sending flight) (paced : Bool)
      (returned : state.waiting = .returned paced) (retx : RetransmitBuffer MediaPacket) (event : Event) :
      Turns state
        { state with
          server := { state.server with
            videoRetx := retx
            sender := continueWith { flight with next := flight.next + 1 } }.record event
          waiting := .outside }

theorem outside_of_position {sender : Sender} {waiting : Waiting} (position : Position sender waiting)
    (notSending : ∀ flight, sender ≠ .sending flight) : waiting = .outside := by
  cases sender with
  | sending flight => exact absurd rfl (notSending flight)
  | _ => cases waiting <;> first | rfl | exact position.elim

theorem turns_wake (isWaiting : state.server.sender = .waiting)
    (outside : state.waiting = .outside) (acted : state.act config .wake = some next) : Turns state next := by
  obtain ⟨server, stepped, rfl⟩ := Option.map_eq_some_iff.mp acted
  rw [RtpServer.step, isWaiting] at stepped
  dsimp only at stepped
  split at stepped <;> cases stepped
  refine .move _ outside ?_ ?_
  · rw [isWaiting]
    rfl
  · intro held impossible
    cases impossible

/-- Without repairs `send_repairs` does nothing. -/
theorem takeRepair_eq {server : RtpServer} (noRepairs : server.repairQ = []) (flight : Option Flight) (done : Nat) :
    server.takeRepair flight done = { server with sender := repaired flight } := by
  rw [RtpServer.takeRepair]
  split
  · split
    · rfl
    · rename_i queued
      rw [noRepairs] at queued
      cases queued
  · rfl

theorem Sound.turns_takeRepair (sound : state.Sound kbps) {flight : Option Flight} {done : Nat}
    (repairing : state.server.sender = .repairing flight done) (outside : state.waiting = .outside)
    (acted : state.act config .takeRepair = some next) : Turns state next := by
  obtain ⟨server, stepped, rfl⟩ := Option.map_eq_some_iff.mp acted
  have position := sound.placed.position
  rw [repairing, outside] at position
  rw [RtpServer.step, repairing] at stepped
  dsimp only at stepped
  rw [takeRepair_eq sound.placed.noRepairs] at stepped
  cases stepped
  refine .move _ outside ?_ ?_
  · rw [repairing]
    cases flight <;> rfl
  · cases flight with
    | none => trivial
    | some flight => exact position flight rfl

theorem turns_popFrame (popping : state.server.sender = .popping) (outside : state.waiting = .outside)
    (acted : state.act config .popFrame = some next) : Turns state next := by
  obtain ⟨server, stepped, rfl⟩ := Option.map_eq_some_iff.mp acted
  rw [RtpServer.step, popping] at stepped
  dsimp only at stepped
  cases stepped
  rw [RtpServer.popFrame]
  split
  · refine .move _ outside ?_ trivial
    rw [popping]
    rfl
  · rename_i first rest queue
    exact .pop first rest queue (by rw [popping]; rfl) outside _

/-- Behind `consume` the packet is sent, or its frame has been cancelled. -/
theorem Sound.turns_sendPacket (sound : state.Sound kbps) {flight : Flight} {packet : MediaPacket} {paced : Bool}
    (sending : state.server.sender = .sending flight) (found : flight.frame.packets[flight.next]? = some packet)
    (returned : state.waiting = .returned paced)
    (acted : state.act config (.sendPacket paced (reading state.clock) true (reading state.clock)) = some next) :
    Turns state next := by
  obtain ⟨server, stepped, rfl⟩ := Option.map_eq_some_iff.mp acted
  have inTime : reading state.clock < flight.frame.deadline :=
    reading_lt_iff.mpr (sound.flight_in_time (by rw [sending]; rfl))
  rw [RtpServer.step, sending] at stepped
  dsimp only at stepped
  rw [found, Option.map_some, Option.some.injEq] at stepped
  subst stepped
  rcases state.server.sendPacket_cases flight packet paced (reading state.clock) true (reading state.clock) with
    ⟨cancelled, isNext⟩ | ⟨_, _, ⟨_, isNext⟩ | ⟨late, _⟩⟩
  · rw [isNext]
    exact .cancel flight sending (cancelled sound.placed.streaming)
  · rw [isNext]
    exact .send flight sending paced returned _ _
  · exact absurd ⟨sound.answered paced returned, inTime, rfl⟩ late

theorem Sound.turns (sound : state.Sound kbps) (turned : state.turn config = some next) : Turns state next := by
  have outside : (∀ flight, state.server.sender ≠ .sending flight) → state.waiting = .outside :=
    outside_of_position sound.placed.position
  have position := sound.placed.position
  unfold turn at turned
  cases sender : state.server.sender with
  | waiting =>
      rw [sender] at turned outside
      exact turns_wake sender (outside (by simp)) turned
  | repairing flight done =>
      rw [sender] at turned outside
      exact sound.turns_takeRepair sender (outside (by simp)) turned
  | holding flight done repair =>
      rw [sender] at turned
      cases turned
  | popping =>
      rw [sender] at turned outside
      exact turns_popFrame sender (outside (by simp)) turned
  | requesting =>
      rw [sender] at position
      exact position.elim
  | sending flight =>
      rw [sender] at turned
      dsimp only at turned
      split at turned
      · cases turned
      rename_i packet found
      split at turned
      · rename_i isWaiting
        cases turned
        exact .consume flight packet sender found (by rw [isWaiting]; rfl)
      · rename_i wakeAt isWaiting
        obtain ⟨_, rfl⟩ := eq_of_guarded turned
        exact .consume flight packet sender found (by rw [isWaiting]; rfl)
      · rename_i paced isWaiting
        exact sound.turns_sendPacket sender found isWaiting turned

/-! ## What the sender's steps keep -/

/-- A step after which no more waits than before. -/
theorem Sound.act (sound : state.Sound kbps) {server : RtpServer} (placed : Placed server .outside)
    (part : (jobs server.sender .outside server.sendQ).Sublist
      (jobs state.server.sender state.waiting state.server.sendQ)) :
    { state with server := server, waiting := .outside }.Sound kbps where
  positive := sound.positive
  rate := sound.rate
  burst := sound.burst
  tokens := sound.tokens
  refilled := sound.refilled
  placed := placed
  asleep := by
    intro wakeAt impossible
    cases impossible
  answered := by
    intro paced impossible
    cases impossible
  pushed := sound.pushed
  serves := sound.serves.sublist part
  prompt := sound.prompt

/-- The head of the loop over the packets: what is left of the frame still has to
pass, and nothing is left when the loop ends. -/
theorem jobs_continueWith (flight : Flight) (queue : List VideoFrame) :
    (jobs (continueWith flight) .outside queue).Sublist (flightJob 0 flight :: queue.map frameJob) := by
  rw [continueWith]
  split
  · exact List.Sublist.refl _
  · exact List.sublist_cons_self _ _

theorem position_continueWith (flight : Flight) : Position (continueWith flight) .outside := by
  rw [continueWith]
  split
  · rename_i more
    intro held same
    cases same
    exact more
  · trivial

theorem frame_continueWith {flight : Flight} {frame : VideoFrame}
    (member : frame ∈ ((continueWith flight).flight.map Flight.frame).toList) : frame = flight.frame := by
  rw [continueWith] at member
  split at member
  · exact List.mem_singleton.mp member
  · cases member

theorem Sound.move (sound : state.Sound kbps) {sender : Sender} (outside : state.waiting = .outside)
    (same : sender.flight = state.server.sender.flight) (position : Position sender .outside) :
    { state with server := { state.server with sender := sender }, waiting := .outside }.Sound kbps := by
  refine sound.act ⟨sound.placed.streaming, sound.placed.noRepairs, position, sound.placed.current, ?_⟩ ?_
  · intro frame member
    refine sound.placed.small frame ?_
    rw [frames, ← same]
    exact member
  · rw [outside, jobs, same]
    exact List.Sublist.refl _

theorem Sound.pop (sound : state.Sound kbps) {first : VideoFrame} {rest : List VideoFrame}
    (queue : state.server.sendQ = first :: rest) (free : state.server.sender.flight = none) (queuedPackets : Nat) :
    { state with
      server := { state.server with
        sendQ := rest
        queuedPackets := queuedPackets
        sender := continueWith ⟨first, 0⟩ }
      waiting := .outside }.Sound kbps := by
  refine sound.act ⟨sound.placed.streaming, sound.placed.noRepairs, position_continueWith _, ?_, ?_⟩ ?_
  · intro frame member
    refine sound.placed.current frame ?_
    rw [queue]
    exact List.mem_cons_of_mem _ member
  · intro frame member
    refine sound.placed.small frame (List.mem_append_right _ ?_)
    rw [queue]
    rcases List.mem_append.mp member with own | later
    · rw [frame_continueWith own]
      exact List.mem_cons_self
    · exact List.mem_cons_of_mem _ later
  · have before : jobs state.server.sender state.waiting state.server.sendQ = (first :: rest).map frameJob := by
      rw [jobs, free, queue]
      rfl
    rw [before]
    exact jobs_continueWith ⟨first, 0⟩ rest

theorem Sound.cancel (sound : state.Sound kbps) :
    { state with server := { state.server with sender := .waiting }, waiting := .outside }.Sound kbps := by
  refine sound.act ⟨sound.placed.streaming, sound.placed.noRepairs, trivial, sound.placed.current, ?_⟩ ?_
  · intro frame member
    exact sound.placed.small frame (List.mem_append_right _ member)
  · exact List.sublist_append_right _ _

theorem Sound.send (sound : state.Sound kbps) {flight : Flight} {paced : Bool}
    (position : state.server.sender = .sending flight) (returned : state.waiting = .returned paced)
    (retx : RetransmitBuffer MediaPacket) (event : Event) :
    { state with
      server := { state.server with
        videoRetx := retx
        sender := continueWith { flight with next := flight.next + 1 } }.record event
      waiting := .outside }.Sound kbps := by
  refine sound.act ⟨sound.placed.streaming, sound.placed.noRepairs, position_continueWith _,
    sound.placed.current, ?_⟩ ?_
  · intro frame member
    refine sound.placed.small frame ?_
    rcases List.mem_append.mp member with own | later
    · rw [frame_continueWith own, frames, position]
      exact List.mem_cons_self
    · exact List.mem_append_right _ later
  · rw [position, returned]
    exact jobs_continueWith { flight with next := flight.next + 1 } state.server.sendQ

/-! ## Waiting for tokens -/

theorem Sound.prompt_concat (sound : state.Sound kbps) {flight : Flight}
    (inTime : state.clock < seconds flight.frame.deadline) :
    ∀ answer ∈ state.answers ++ [⟨flight, true, state.clock⟩],
      answer.granted = true ∧ answer.time < seconds answer.flight.frame.deadline := by
  intro answer member
  rcases List.mem_append.mp member with older | new
  · exact sound.prompt answer older
  · rw [List.mem_singleton.mp new]
    exact ⟨rfl, inTime⟩

/-- A pass through the loop of `consume`: the packet in hand is granted, or the
sender sleeps at most until its tokens are there. -/
inductive Consumed (state : PacedServer) (flight : Flight) (packet : MediaPacket) : PacedServer → Prop where
  | granted (enough : (packet.bytes.length : Rat) ≤ (state.bucket.refill state.clock).tokens) :
      Consumed state flight packet
        { state with
          bucket := { state.bucket.refill state.clock with
            tokens := (state.bucket.refill state.clock).tokens - packet.bytes.length }
          waiting := .returned true
          answers := state.answers ++ [⟨flight, true, state.clock⟩] }
  | asleep (wakeAt : Rat) (tooFew : (state.bucket.refill state.clock).tokens < packet.bytes.length)
      (isWake : wakeAt = state.clock + min ((packet.bytes.length - (state.bucket.refill state.clock).tokens) /
        state.bucket.rateBytesPerSec) (1 / 500)) :
      Consumed state flight packet
        { state with
          bucket := state.bucket.refill state.clock
          waiting := .asleep wakeAt }

theorem Sound.consumed (sound : state.Sound kbps) {flight : Flight} (packet : MediaPacket)
    (position : state.server.sender = .sending flight) :
    Consumed state flight packet (state.consume flight packet) := by
  have inTime := sound.flight_in_time (by rw [position]; rfl : state.server.sender.flight = some flight)
  unfold PacedServer.consume
  have ways := state.bucket.consumes packet.bytes.length (seconds flight.frame.deadline) state.clock
  generalize state.bucket.consume packet.bytes.length (seconds flight.frame.deadline) state.clock = pass at ways
  cases ways with
  | unlimited unset => exact absurd sound.positive (not_lt.mpr unset)
  | late isLate => exact absurd inTime (not_lt.mpr isLate)
  | grant paced inTime enough => exact .granted enough
  | sleep paced inTime tooFew => exact .asleep _ tooFew rfl

/-- While the sender sleeps, its packet gets no more tokens than it needs. -/
theorem few_tokens {tokens rate now wakeAt len : Rat} (paced : 0 < rate)
    (isWake : wakeAt = now + min ((len - tokens) / rate) (1 / 500)) : tokens + (wakeAt - now) * rate ≤ len := by
  have short := mul_le_mul_of_nonneg_right (min_le_left ((len - tokens) / rate) (1 / 500)) (le_of_lt paced)
  rw [div_mul_cancel₀ _ (ne_of_gt paced)] at short
  rw [isWake, add_sub_cancel_left]
  linarith

theorem Sound.consume (sound : state.Sound kbps) {flight : Flight} {packet : MediaPacket}
    (position : state.server.sender = .sending flight) (found : flight.frame.packets[flight.next]? = some packet)
    (unanswered : state.waiting.passed = 0) : (state.consume flight packet).Sound kbps := by
  have inTime := sound.flight_in_time (by rw [position]; rfl : state.server.sender.flight = some flight)
  have waiting : jobs state.server.sender state.waiting state.server.sendQ =
      (packet.bytes.length + bytes (flight.frame.packets.drop (flight.next + 1)), due flight.frame) ::
        state.server.sendQ.map frameJob := by
    rw [jobs, position, unanswered, ← bytes_drop found]
    rfl
  have serves := sound.serves
  rw [waiting] at serves
  have placed : ∀ waiting, Placed state.server waiting := by
    intro waiting
    refine ⟨sound.placed.streaming, sound.placed.noRepairs, ?_, sound.placed.current, sound.placed.small⟩
    have inside := sound.placed.position
    rw [position] at inside ⊢
    exact inside
  have tokens := sound.tokens.refill (le_of_lt sound.positive) sound.refilled
  have consumed := sound.consumed packet position
  generalize state.consume flight packet = next at consumed
  cases consumed with
  | granted enough =>
      refine ⟨sound.positive, sound.rate, sound.burst, tokens.take (Nat.cast_nonneg _) enough, le_refl _, placed _,
        ?_, ?_, sound.pushed, ?_, sound.prompt_concat inTime⟩
      · intro wakeAt impossible
        cases impossible
      · intro answer same
        cases same
        rfl
      · dsimp only
        rw [position]
        exact serves.take (Nat.cast_nonneg _) (bytes_nonneg _)
  | asleep wakeAt tooFew isWake =>
      refine ⟨sound.positive, sound.rate, sound.burst, tokens, le_refl _, placed _, ?_, ?_, sound.pushed, ?_,
        sound.prompt⟩
      · intro other same
        cases same
        have need : 0 ≤ (packet.bytes.length - (state.bucket.refill state.clock).tokens) /
            state.bucket.rateBytesPerSec :=
          div_nonneg (sub_nonneg.mpr (le_of_lt tooFew)) (le_of_lt sound.positive)
        refine ⟨?_, flight, packet, position, found, few_tokens sound.positive isWake⟩
        rw [isWake]
        exact le_add_of_nonneg_right (le_min need (by norm_num))
      · intro answer impossible
        cases impossible
      · have same : jobs state.server.sender (.asleep wakeAt) state.server.sendQ =
            (packet.bytes.length + bytes (flight.frame.packets.drop (flight.next + 1)), due flight.frame) ::
              state.server.sendQ.map frameJob := by
          rw [jobs, position, ← bytes_drop found]
          rfl
        dsimp only
        rw [same]
        exact serves.refill

theorem rests_cases {later : Rat} (rests : state.restsUntil later = true) :
    (∃ wakeAt, state.waiting = .asleep wakeAt ∧ later ≤ wakeAt) ∨
      state.server.sender = .waiting ∧ state.server.sendQ = [] ∧ state.server.repairQ = [] := by
  rw [restsUntil] at rests
  split at rests
  · rename_i wakeAt isWaiting
    exact Or.inl ⟨wakeAt, isWaiting, of_decide_eq_true rests⟩
  · rw [Bool.and_eq_true, Bool.and_eq_true, decide_eq_true_eq, List.isEmpty_iff, List.isEmpty_iff] at rests
    exact Or.inr ⟨rests.1.1, rests.1.2, rests.2⟩

/-- Time passes while the sender sleeps: the bucket does not run over. -/
theorem Sound.sleepOn (sound : state.Sound kbps) {later wakeAt : Rat} (forward : state.clock ≤ later)
    (isWaiting : state.waiting = .asleep wakeAt) (sleeps : later ≤ wakeAt) :
    state.bucket.toTokenBucket.Serves later (arrived state.pushes)
      (jobs state.server.sender state.waiting state.server.sendQ) := by
  obtain ⟨_, flight, packet, position, found, few⟩ := sound.asleep wakeAt isWaiting
  have inflow : (later - state.bucket.lastRefill) * state.bucket.rateBytesPerSec ≤
      (wakeAt - state.bucket.lastRefill) * state.bucket.rateBytesPerSec :=
    mul_le_mul_of_nonneg_right (sub_le_sub_right sleeps _) (le_of_lt sound.positive)
  have upTo : state.bucket.tokens + (later - state.bucket.lastRefill) * state.bucket.rateBytesPerSec ≤
      packet.bytes.length := (add_le_add_right inflow _).trans few
  have small : (packet.bytes.length : Rat) ≤ 32768 := by
    have inHand : flight.frame ∈ state.server.frames := by
      rw [frames, position]
      exact List.mem_cons_self
    exact_mod_cast sound.placed.small _ inHand packet (List.mem_of_getElem? found)
  have first : (packet.bytes.length : Rat) ≤ (flightJob 0 flight).1 := by
    rw [flightJob, Nat.add_zero, bytes_drop found]
    exact le_add_of_nonneg_right (bytes_nonneg _)
  have waiting : jobs state.server.sender state.waiting state.server.sendQ =
      flightJob 0 flight :: state.server.sendQ.map frameJob := by
    rw [position, isWaiting]
    rfl
  have serves := sound.serves
  rw [waiting] at serves ⊢
  have level : state.bucket.toTokenBucket.level later ≤ packet.bytes.length := (min_le_right _ _).trans upTo
  exact serves.wait sound.positive forward ((upTo.trans small).trans sound.burst) (level.trans first)

theorem arrived_nonneg (pushes : List Push) (since : Rat) : 0 ≤ arrived pushes since := Nat.cast_nonneg _

/-- Time passes. -/
theorem Sound.elapse (sound : state.Sound kbps) {later : Rat} (forward : state.clock ≤ later)
    (rests : state.restsUntil later = true) : { state with clock := later }.Sound kbps := by
  have refilled := sound.refilled.trans forward
  refine ⟨sound.positive, sound.rate, sound.burst, sound.tokens, refilled, sound.placed, ?_, sound.answered,
    fun push member => (sound.pushed push member).trans forward, ?_, sound.prompt⟩
  · intro wakeAt isWaiting
    obtain ⟨_, flight, packet, position, found, few⟩ := sound.asleep wakeAt isWaiting
    refine ⟨?_, flight, packet, position, found, few⟩
    rcases rests_cases rests with ⟨other, same, sleeps⟩ | ⟨idle, _, _⟩
    · cases isWaiting.symm.trans same
      exact sleeps
    · cases idle.symm.trans position
  · rcases rests_cases rests with ⟨wakeAt, isWaiting, sleeps⟩ | ⟨idle, empty, _⟩
    · exact sound.sleepOn forward isWaiting sleeps
    · dsimp only
      rw [idle, empty]
      exact TokenBucket.serves_nil sound.tokens (le_of_lt sound.positive) refilled (arrived_nonneg _ _)

/-! ## What is pushed -/

/-- What `broadcast_video` does to the queue: it may be shed, and the access unit
may enter it. -/
structure Entering (server : RtpServer) (now : Time) (made : List Packet) (next : RtpServer)
    (kept entered : List VideoFrame) : Prop where
  queue : next.sendQ = kept ++ entered
  kept : kept = server.sendQ ∧ next.sendGeneration = server.sendGeneration ∨
    kept = [] ∧ next.sendGeneration = server.sendGeneration + 1 ∧ server.overflows now made.length = true
  entered : ∀ frame ∈ entered, entered = [frame] ∧ frame.packets.map MediaPacket.bytes = made ∧
    frame.deadline = now + kMaxSendAge ∧ frame.generation = next.sendGeneration
  sender : next.sender = server.sender
  streaming : next.peerStreaming = server.peerStreaming
  repairs : server.repairQ = [] → next.repairQ = []

/-- The access unit enters the queue, or is turned away. -/
theorem entering_enqueue {server shed : RtpServer} {now : Time} (unit : VideoUnit) (number : Nat)
    (deadline : unit.deadline = now + kMaxSendAge)
    (kept : shed.sendQ = server.sendQ ∧ shed.sendGeneration = server.sendGeneration ∨
      shed.sendQ = [] ∧ shed.sendGeneration = server.sendGeneration + 1 ∧
        server.overflows now unit.packets.length = true)
    (sender : shed.sender = server.sender) (streaming : shed.peerStreaming = server.peerStreaming)
    (repairs : server.repairQ = [] → shed.repairQ = []) :
    ∃ entered, Entering server now unit.packets (shed.enqueue unit number) shed.sendQ entered := by
  rw [enqueue]
  split
  · refine ⟨[], (List.append_nil _).symm, kept, ?_, sender, streaming, repairs⟩
    intro frame impossible
    cases impossible
  · refine ⟨_, rfl, kept, ?_, sender, streaming, repairs⟩
    intro frame member
    rw [List.mem_singleton.mp member]
    refine ⟨rfl, ?_, deadline, rfl⟩
    rw [List.map_map]
    exact List.map_id _

theorem entering_broadcastVideo (config : Config) (server : RtpServer) (now : Time) (data : List UInt8)
    (ptsUsec : Int64) (keyframe : Bool) :
    ∃ kept entered, Entering server now (made config server data ptsUsec keyframe)
      (server.broadcastVideo config now now data ptsUsec keyframe) kept entered := by
  have nothing : ∀ {next : RtpServer} {made : List Packet}, next.sendQ = server.sendQ →
      next.sendGeneration = server.sendGeneration → next.sender = server.sender →
      next.peerStreaming = server.peerStreaming → next.repairQ = server.repairQ →
      ∃ kept entered, Entering server now made next kept entered := by
    intro next made queue generation sender streaming repairs
    refine ⟨server.sendQ, [], ?_, Or.inl ⟨rfl, generation⟩, ?_, sender, streaming, fun none => repairs.trans none⟩
    · rw [queue, List.append_nil]
    · intro frame impossible
      cases impossible
  rw [broadcastVideo]
  dsimp only
  split
  · exact nothing rfl rfl rfl rfl rfl
  rename_i streaming
  split
  · exact nothing rfl rfl rfl rfl rfl
  rename_i passes
  have isMade : made config server data ptsUsec keyframe =
      (packetize config.h265 server.videoPacker data ptsUsec).1 := by
    rw [made, Bool.eq_false_iff.mpr streaming, Bool.eq_false_iff.mpr passes]
    rfl
  rw [isMade]
  split
  · exact nothing rfl rfl rfl rfl rfl
  let unit : VideoUnit :=
    ⟨data, ptsUsec, keyframe, now + kMaxSendAge, (packetize config.h265 server.videoPacker data ptsUsec).1⟩
  refine ⟨_, entering_enqueue unit server.unitCount rfl ?_ ?_ ?_ ?_⟩
  · split
    · rename_i full
      exact Or.inr ⟨rfl, rfl, full⟩
    · exact Or.inl ⟨rfl, rfl⟩
  · split <;> rfl
  · split <;> rfl
  · intro none
    split
    · rfl
    · exact none

theorem small_made (config : Config) (server : RtpServer) (data : List UInt8) (ptsUsec : Int64) (keyframe : Bool) :
    ∀ packet ∈ made config server data ptsUsec keyframe, packet.length ≤ kMaxPacketSize := by
  have small : ∀ layout : NalLayout, ∀ packet ∈ (layout.packetize server.videoPacker data ptsUsec).1,
      packet.length ≤ kMaxPacketSize := by
    intro layout
    rw [NalLayout.packetize_eq]
    exact layout.length_le_of_mem_framePieces _ _ _ _ (layout.length_le_of_mem_unitPieces _)
  intro packet member
  rw [made] at member
  split at member
  · cases member
  · rw [packetize] at member
    split at member <;> exact small _ packet member

/-- The encoder's promise bounds what can have arrived since an instant. -/
theorem arrived_le {pushes : List Push} {now : Rat} (overhead : ∀ push ∈ pushes, 10 * push.rtpBytes ≤ 11 * push.size)
    (pushed : ∀ push ∈ pushes, push.time ≤ now) (since : Rat) :
    10 * arrived pushes since ≤ 11 * (encodedBytes pushes since now : Rat) := by
  have counted : 10 * (pushes.map (fun push => if since ≤ push.time then push.rtpBytes else 0)).sum ≤
      11 * encodedBytes pushes since now := by
    induction pushes with
    | nil => exact Nat.zero_le _
    | cons push rest inductionHypothesis =>
        have later := inductionHypothesis (fun other member => overhead other (List.mem_cons_of_mem _ member))
          (fun other member => pushed other (List.mem_cons_of_mem _ member))
        have own := overhead push List.mem_cons_self
        rw [encodedBytes, List.map_cons, List.map_cons, List.sum_cons, List.sum_cons, ← encodedBytes]
        by_cases recent : since ≤ push.time
        · rw [if_pos recent, if_pos ⟨recent, pushed push List.mem_cons_self⟩]
          omega
        · rw [if_neg recent, if_neg (fun both => recent both.1)]
          omega
  rw [arrived]
  exact_mod_cast counted

/-- The promise covers the pushes so far. -/
theorem Conforms.before {pushes : List Push} {push : Push} (conforms : Conforms kbps (pushes ++ [push])) :
    Conforms kbps pushes where
  bound := by
    intro first last window
    have less : encodedBytes pushes first last ≤ encodedBytes (pushes ++ [push]) first last := by
      simp [encodedBytes]
    have most := conforms.bound first last window
    have less' : (encodedBytes pushes first last : Rat) ≤ encodedBytes (pushes ++ [push]) first last := by
      exact_mod_cast less
    linarith
  overhead := fun other member => conforms.overhead other (List.mem_append_left _ member)

theorem bytes_eq {packets : List MediaPacket} {push : Push} (same : packets.map MediaPacket.bytes = push.packets) :
    bytes packets = push.rtpBytes := by
  rw [bytes, Push.rtpBytes, ← same, List.map_map]
  rfl

/-- What the constants of the encoder, of the pacer and of the server come to:
the backlog passes within 88 milliseconds. -/
theorem arrival_curve {pushes : List Push} {rate now due : Rat} (conforms : Conforms kbps pushes)
    (isRate : rate = kbps * 1000 / 8 * (5 / 4)) (positive : 0 < rate) (pushed : ∀ push ∈ pushes, push.time ≤ now)
    (isDue : now + 88 / 1000 ≤ due) (since : Rat) (earlier : since ≤ now) :
    arrived pushes since ≤ rate * (now - since) + rate * (due - now) := by
  have overhead := arrived_le conforms.overhead pushed since
  have encoded := conforms.bound since now earlier
  have kbpsPositive : 0 < (kbps : Rat) := by
    rw [isRate] at positive
    linarith
  have inflow : rate * (88 / 1000) ≤ rate * (due - now) :=
    mul_le_mul_of_nonneg_left (by linarith) (le_of_lt positive)
  have window : 0 ≤ (kbps : Rat) * (now - since) := mul_nonneg (le_of_lt kbpsPositive) (sub_nonneg.mpr earlier)
  calc
    arrived pushes since ≤ 11 / 80 * (1000 * kbps * (now - since) + 1000 * kbps / 10) := by linarith
    _ = 275 / 2 * (kbps * (now - since)) + 55 / 4 * kbps := by ring
    _ ≤ 625 / 4 * (kbps * (now - since)) + 55 / 4 * kbps := by linarith
    _ = rate * (now - since) + rate * (88 / 1000) := by rw [isRate]; ring
    _ ≤ rate * (now - since) + rate * (due - now) := by linarith

theorem Placed.push {server next : RtpServer} {waiting : Waiting} {now : Time} {made : List Packet}
    {kept entered : List VideoFrame} (placed : Placed server waiting)
    (entering : Entering server now made next kept entered)
    (small : ∀ packet ∈ made, packet.length ≤ kMaxPacketSize) : Placed next waiting where
  streaming := entering.streaming.trans placed.streaming
  noRepairs := entering.repairs placed.noRepairs
  position := by
    rw [entering.sender]
    exact placed.position
  current := by
    intro frame member
    rw [entering.queue] at member
    rcases List.mem_append.mp member with older | new
    · rcases entering.kept with ⟨same, generation⟩ | ⟨none, _, _⟩
      · rw [generation]
        exact placed.current frame (same ▸ older)
      · rw [none] at older
        cases older
    · exact (entering.entered frame new).2.2.2
  small := by
    intro frame member packet inFrame
    rw [frames, entering.sender, entering.queue] at member
    rcases List.mem_append.mp member with own | queued
    · exact placed.small frame (List.mem_append_left _ own) packet inFrame
    rcases List.mem_append.mp queued with older | new
    · rcases entering.kept with ⟨same, _⟩ | ⟨none, _, _⟩
      · exact placed.small frame (List.mem_append_right _ (same ▸ older)) packet inFrame
      · rw [none] at older
        cases older
    · have isMade : packet.bytes ∈ made := by
        rw [← (entering.entered frame new).2.1]
        exact List.mem_map_of_mem inFrame
      exact (small _ isMade).trans (by decide)

theorem Sound.push (sound : state.Sound kbps) {data : List UInt8} {ptsUsec : Int64} {keyframe : Bool}
    (conforms : Conforms kbps (state.push config data ptsUsec keyframe).pushes) :
    (state.push config data ptsUsec keyframe).Sound kbps := by
  obtain ⟨kept, entered, entering⟩ :=
    entering_broadcastVideo config state.server (reading state.clock) data ptsUsec keyframe
  let push : Push := ⟨state.clock, data.length, made config state.server data ptsUsec keyframe⟩
  change Conforms kbps (state.pushes ++ [push]) at conforms
  have pushed : ∀ other ∈ state.pushes ++ [push], other.time ≤ state.clock := by
    intro other member
    rcases List.mem_append.mp member with older | new
    · exact sound.pushed other older
    · rw [List.mem_singleton.mp new]
  have more : ∀ since, since ≤ state.clock →
      arrived state.pushes since + push.rtpBytes = arrived (state.pushes ++ [push]) since := by
    intro since earlier
    rw [arrived_concat, if_pos earlier]
  have part : (jobs state.server.sender state.waiting kept).Sublist
      (jobs state.server.sender state.waiting state.server.sendQ) := by
    rcases entering.kept with ⟨same, _⟩ | ⟨none, _, _⟩
    · rw [same]
    · rw [none, jobs, List.map_nil, List.append_nil]
      exact List.sublist_append_left _ _
  have placed : Placed (state.push config data ptsUsec keyframe).server state.waiting :=
    sound.placed.push entering (small_made config state.server data ptsUsec keyframe)
  refine ⟨sound.positive, sound.rate, sound.burst, sound.tokens, sound.refilled, placed, ?_, sound.answered, pushed,
    ?_, sound.prompt⟩
  · intro wakeAt isWaiting
    obtain ⟨sleeps, flight, packet, position, rest⟩ := sound.asleep wakeAt isWaiting
    exact ⟨sleeps, flight, packet, entering.sender.trans position, rest⟩
  · change TokenBucket.Serves _ _ (arrived (state.pushes ++ [push])) (jobs
      (state.server.broadcastVideo config _ _ data ptsUsec keyframe).sender state.waiting
      (state.server.broadcastVideo config _ _ data ptsUsec keyframe).sendQ)
    have before := sound.serves.sublist part
    rw [entering.sender, entering.queue]
    cases entered with
    | nil =>
        rw [List.append_nil]
        refine before.loosen (fun since earlier => ?_)
        rw [← more since earlier]
        exact le_add_of_nonneg_right (Nat.cast_nonneg _)
    | cons frame rest =>
        obtain ⟨single, packets, deadline, _⟩ := entering.entered frame List.mem_cons_self
        have split : jobs state.server.sender state.waiting (kept ++ [frame]) =
            jobs state.server.sender state.waiting kept ++ [frameJob frame] := by
          rw [jobs, List.map_append, ← List.append_assoc]
          rfl
        have isDue := le_due deadline
        have size : (frameJob frame).1 = push.rtpBytes := bytes_eq packets
        rw [single, split]
        refine before.arrive (bytes_nonneg _) ?_ ?_ ?_
        · change state.clock ≤ due frame
          linarith
        · intro since earlier
          rw [size]
          exact le_of_eq (more since earlier)
        · exact arrival_curve conforms sound.rate sound.positive pushed isDue

/-! ## Every state -/

theorem Sound.turn (sound : state.Sound kbps) (turned : state.turn config = some next) : next.Sound kbps := by
  cases sound.turns turned with
  | move sender outside same position => exact sound.move outside same position
  | pop first rest queue free outside queuedPackets => exact sound.pop queue free queuedPackets
  | consume flight packet position found unanswered => exact sound.consume position found unanswered
  | cancel flight position outdated => exact sound.cancel
  | send flight position paced returned retx event => exact sound.send position returned retx event

theorem Sound.step (sound : state.Sound kbps) {action : Action} (stepped : state.step config action = some next)
    (conforms : Conforms kbps next.pushes) : next.Sound kbps := by
  cases action with
  | push data ptsUsec keyframe =>
      cases stepped
      exact sound.push conforms
  | captureRequest =>
      obtain ⟨server, requested, rfl⟩ := Option.map_eq_some_iff.mp stepped
      cases stepped_of_step requested
      exact ⟨sound.positive, sound.rate, sound.burst, sound.tokens, sound.refilled,
        ⟨sound.placed.streaming, sound.placed.noRepairs, sound.placed.position, sound.placed.current,
          sound.placed.small⟩, sound.asleep, sound.answered, sound.pushed, sound.serves, sound.prompt⟩
  | turn => exact sound.turn stepped
  | elapse duration =>
      obtain ⟨⟨forward, rests⟩, isNext⟩ := eq_of_guarded stepped
      rw [isNext]
      exact sound.elapse (le_add_of_nonneg_right forward) rests

theorem pushes_act {action : RtpServer.Action} (acted : state.act config action = some next) :
    next.pushes = state.pushes := by
  obtain ⟨server, _, rfl⟩ := Option.map_eq_some_iff.mp acted
  rfl

theorem pushes_consume (state : PacedServer) (flight : Flight) (packet : MediaPacket) :
    (state.consume flight packet).pushes = state.pushes := by
  unfold PacedServer.consume
  dsimp only
  split <;> rfl

theorem pushes_turn (turned : state.turn config = some next) : next.pushes = state.pushes := by
  unfold PacedServer.turn at turned
  split at turned
  · exact pushes_act turned
  · exact pushes_act turned
  · cases turned
  · exact pushes_act turned
  · exact pushes_act turned
  · split at turned
    · cases turned
    split at turned
    · cases turned
      exact pushes_consume state _ _
    · obtain ⟨_, rfl⟩ := eq_of_guarded turned
      exact pushes_consume state _ _
    · exact pushes_act turned

/-- If the encoder has kept its promise after a step, it had before. -/
theorem Conforms.of_step {action : Action} (stepped : step config state action = some next)
    (conforms : Conforms kbps next.pushes) : Conforms kbps state.pushes := by
  cases action with
  | push data ptsUsec keyframe =>
      cases stepped
      exact conforms.before
  | captureRequest =>
      obtain ⟨server, _, rfl⟩ := Option.map_eq_some_iff.mp stepped
      exact conforms
  | turn => exact pushes_turn stepped ▸ conforms
  | elapse duration =>
      obtain ⟨_, rfl⟩ := eq_of_guarded stepped
      exact conforms

theorem Conforms.of_run {actions : List Action} (ran : run (step config) state actions = some next)
    (conforms : Conforms kbps next.pushes) : Conforms kbps state.pushes := by
  induction actions generalizing state with
  | nil =>
      cases ran
      exact conforms
  | cons action rest inductionHypothesis =>
      obtain ⟨middle, stepped, later⟩ := run_cons_iff.mp ran
      exact (inductionHypothesis later).of_step stepped

/-- What every step keeps as long as the encoder keeps its promise, a run keeps. -/
theorem run_conforming {invariant : PacedServer → Prop} {actions : List Action}
    (preserved : ∀ state action next, invariant state → state.step config action = some next →
      Conforms kbps next.pushes → invariant next)
    (holds : invariant state) (ran : run (step config) state actions = some next)
    (conforms : Conforms kbps next.pushes) : invariant next := by
  induction actions generalizing state with
  | nil =>
      cases ran
      exact holds
  | cons action rest inductionHypothesis =>
      obtain ⟨middle, stepped, later⟩ := run_cons_iff.mp ran
      exact inductionHypothesis (preserved state action middle holds stepped (conforms.of_run later)) later

theorem sound_begin {server : RtpServer} (opening : Opening server) {index : Int} {tokens lastRefill clock : Rat}
    (positive : 0 < kbps) (nonneg : 0 ≤ tokens)
    (capped : tokens ≤ (begin server index kbps tokens lastRefill clock).bucket.burstBytes)
    (refilled : lastRefill ≤ clock) : (begin server index kbps tokens lastRefill clock).Sound kbps := by
  have rate : (begin server index kbps tokens lastRefill clock).bucket.rateBytesPerSec =
      kbps * 1000 / 8 * (5 / 4) := by
    change ((0 + kbps : Int) : Rat) * 1000 / 8 * (5 / 4) = kbps * 1000 / 8 * (5 / 4)
    rw [zero_add]
  have cast : (0 : Rat) < kbps := by exact_mod_cast positive
  have paced : 0 < (begin server index kbps tokens lastRefill clock).bucket.rateBytesPerSec := by
    rw [rate]
    linarith
  have floor : (32768 : Rat) ≤ 32 * 1024 := by norm_num
  have none : jobs server.sender .outside server.sendQ = [] := by
    rw [opening.waiting, opening.sendQ]
    rfl
  refine ⟨paced, rate, floor.trans (le_max_left _ _), ⟨nonneg, capped⟩, refilled, ?_, ?_, ?_, ?_, ?_, ?_⟩
  · refine ⟨opening.streaming, opening.repairQ, ?_, ?_, ?_⟩
    · change Position server.sender .outside
      rw [opening.waiting]
      trivial
    · intro frame member
      change frame ∈ server.sendQ at member
      rw [opening.sendQ] at member
      cases member
    · intro frame member
      change frame ∈ server.frames at member
      rw [frames, opening.waiting, opening.sendQ] at member
      cases member
  · intro wakeAt impossible
    cases impossible
  · intro paced impossible
    cases impossible
  · intro push impossible
    cases impossible
  · change TokenBucket.Serves _ _ _ (jobs server.sender .outside server.sendQ)
    rw [none]
    exact TokenBucket.serves_nil ⟨nonneg, capped⟩ (le_of_lt paced) refilled (arrived_nonneg _ _)
  · intro answer impossible
    cases impossible

end PacedServer
end MetaShare
