import MetaShare.Foundation.Transitions
import MetaShare.Server.Discovery
import Mathlib.Data.List.Perm.Basic

namespace MetaShare

open Transitions

/-!
# Searching the network

Datagrams are lost, repeated, delayed and reordered, and anybody can send some.  A
streamer answers what looks like a probe, a client takes the first answer.
-/

namespace Options

/-- The port on which the server of a monitor listens. -/
def serverPort (o : Options) (i : Nat) : UInt16 := UInt16.ofNat (o.port.toNat + i)

end Options

namespace Discovery

/-- A machine that runs a streamer with accepted options. -/
structure Host where
  addresses : List UInt32
  build : Build
  options : Options
  wellFormed : options.WellFormed build
  hostName : HostName

def Host.responder (host : Host) : DiscoveryResponder where
  signalingPort := host.options.port
  monitorCount := UInt16.ofInt host.options.monitors
  hostName := host.hostName

structure Lan where
  hosts : List Host
  broadcasts : List UInt32

structure Endpoint where
  address : UInt32
  port : UInt16
  deriving DecidableEq

structure Datagram where
  source : Endpoint
  destination : Endpoint
  data : List UInt8
  deriving DecidableEq

/-- Whether the responder of the host gets the datagram. -/
def Lan.reaches (lan : Lan) (datagram : Datagram) (host : Host) : Bool :=
  host.options.discovery && datagram.destination.port == kDiscoveryPort &&
    (host.addresses.contains datagram.destination.address || lan.broadcasts.contains datagram.destination.address)

/-- Where `discover` stands. -/
inductive Client where
  | idle
  | probing (socket : Endpoint)
  | searching (socket : Endpoint)
  | found (address : UInt32) (port : UInt16) (available : Nat)
  deriving DecidableEq

/-- The port of the server of a monitor.  Ports beyond the range are refused with an
exception. -/
def targetPort (port : UInt16) (monitorIndex : Nat) : Option UInt16 :=
  if port.toNat + monitorIndex < 65536 then some (UInt16.ofNat (port.toNat + monitorIndex)) else none

end Discovery

open Discovery in
/-- The client, the datagrams in flight, those that somebody else has sent, and two
counts: what was sent or repeated apart from offers, and the offers. -/
structure Discovery where
  client : Client
  flying : List Datagram
  injected : List Datagram
  copies : Nat
  offers : Nat
  deriving DecidableEq

namespace Discovery

def start : Discovery := ⟨.idle, [], [], 0, 0⟩

/-- What clients, hosts and the network do.  A socket that the system chooses never
has the port of the responders. -/
inductive Action where
  | openSocket (socket : Endpoint)
  | sendProbe (address : UInt32)
  | listen
  | receive (datagram : Datagram)
  | timeout
  | serve (datagram : Datagram) (host : Nat) (via : UInt32)
  | lose (datagram : Datagram)
  | duplicate (datagram : Datagram)
  | inject (datagram : Datagram)
  deriving DecidableEq

def send (state : Discovery) (datagram : Datagram) : Discovery :=
  { state with flying := state.flying ++ [datagram], copies := state.copies + 1 }

def take (state : Discovery) (datagram : Datagram) : Discovery :=
  { state with flying := state.flying.erase datagram }

/-- The responder of a host gets a datagram. -/
def answer (state : Discovery) (host : Host) (via : UInt32) (datagram : Datagram) : Discovery :=
  match host.responder.serve datagram.data with
  | some reply => { state with
      flying := state.flying.erase datagram ++ [⟨⟨via, kDiscoveryPort⟩, datagram.source, reply⟩]
      offers := state.offers + 1 }
  | none => state.take datagram

/-- The client gets a datagram. -/
def offered (state : Discovery) (datagram : Datagram) : Discovery :=
  match readOffer datagram.data with
  | some (port, available) =>
      { state.take datagram with client := .found datagram.source.address port available }
  | none => state.take datagram

def step (lan : Lan) (state : Discovery) : Action → Option Discovery
  | .openSocket socket =>
      match state.client with
      | .probing _ | .searching _ => none
      | _ => if socket.port = kDiscoveryPort then none else some { state with client := .probing socket }
  | .sendProbe address =>
      match state.client with
      | .probing socket => some (state.send ⟨socket, ⟨address, kDiscoveryPort⟩, probe.bytes⟩)
      | _ => none
  | .listen =>
      match state.client with
      | .probing socket => some { state with client := .searching socket }
      | _ => none
  | .receive datagram =>
      match state.client with
      | .searching socket =>
          if datagram ∈ state.flying ∧ datagram.destination = socket then some (state.offered datagram) else none
      | _ => none
  | .timeout =>
      match state.client with
      | .searching _ => some { state with client := .idle }
      | _ => none
  | .serve datagram host via =>
      match lan.hosts[host]? with
      | some host =>
          if datagram ∈ state.flying ∧ lan.reaches datagram host = true ∧ via ∈ host.addresses then
            some (state.answer host via datagram)
          else none
      | none => none
  | .lose datagram => if datagram ∈ state.flying then some (state.take datagram) else none
  | .duplicate datagram => if datagram ∈ state.flying then some (state.send datagram) else none
  | .inject datagram =>
      some { state.send datagram with injected := state.injected ++ [datagram] }

/-! ## Where offers come from -/

/-- The host offers its monitors at the address. -/
structure Offers (lan : Lan) (host : Host) (address : UInt32) (port : UInt16) (available : Nat) : Prop where
  member : host ∈ lan.hosts
  discovery : host.options.discovery = true
  isAddress : address ∈ host.addresses
  isPort : port = host.options.port
  monitors : (available : Int) = host.options.monitors
  target : ∀ i, targetPort port i =
    if host.options.port.toNat + i < 65536 then some (host.options.serverPort i) else none
  distinct : ∀ i j, i < available → j < available → host.options.serverPort i = host.options.serverPort j → i = j

theorem serverPort_injective {o : Options} {i j : Nat} (small : i < 65536) (other : j < 65536)
    (same : o.serverPort i = o.serverPort j) : i = j := by
  have numbers := congrArg UInt16.toNat same
  rw [Options.serverPort, Options.serverPort, UInt16.toNat_ofNat', UInt16.toNat_ofNat'] at numbers
  omega

/-- What a host says of itself. -/
theorem Host.offers {lan : Lan} {host : Host} {address : UInt32} (member : host ∈ lan.hosts)
    (discovery : host.options.discovery = true) (isAddress : address ∈ host.addresses) :
    Offers lan host address host.options.port (max 1 host.responder.monitorCount.toNat) := by
  obtain ⟨least, most⟩ := host.wellFormed.monitors
  have count : (host.responder.monitorCount.toNat : Int) = host.options.monitors := by
    rw [Host.responder, UInt16.ofInt, UInt16.toNat_ofNat']
    omega
  have available : ((max 1 host.responder.monitorCount.toNat : Nat) : Int) = host.options.monitors := by
    omega
  refine ⟨member, discovery, isAddress, rfl, available, fun _ => rfl, ?_⟩
  intro i j small other
  apply serverPort_injective <;> omega

/-- Who has sent a datagram. -/
inductive Origin (lan : Lan) (injected : List Datagram) (datagram : Datagram) : Prop where
  | injected (member : datagram ∈ injected)
  | client (isProbe : datagram.data = probe.bytes)
  | host (host : Host) (member : host ∈ lan.hosts) (discovery : host.options.discovery = true)
      (address : datagram.source.address ∈ host.addresses) (isOffer : datagram.data = host.responder.offer.bytes)

/-- What the client finds is a host, unless somebody else has made it up. -/
structure Sourced (lan : Lan) (state : Discovery) : Prop where
  flying : ∀ datagram ∈ state.flying, Origin lan state.injected datagram
  found : ∀ address port available, state.client = .found address port available →
    (∃ host, Offers lan host address port available) ∨
      ∃ datagram ∈ state.injected, datagram.source.address = address ∧
        readOffer datagram.data = some (port, available)

section Runs

variable {lan : Lan} {state next : Discovery}

theorem Origin.grow {injected : List Datagram} {datagram : Datagram} (origin : Origin lan injected datagram)
    (more : List Datagram) : Origin lan (injected ++ more) datagram := by
  cases origin with
  | injected member => exact .injected (List.mem_append_left _ member)
  | client isProbe => exact .client isProbe
  | host host member discovery address isOffer => exact .host host member discovery address isOffer

/-- Fewer datagrams in flight, and nothing found. -/
theorem Sourced.less (sourced : Sourced lan state) (flying : ∀ datagram ∈ next.flying, datagram ∈ state.flying)
    (injected : next.injected = state.injected)
    (client : next.client = state.client ∨ ∀ address port available, next.client ≠ .found address port available) :
    Sourced lan next := by
  constructor
  · intro datagram member
    rw [injected]
    exact sourced.flying datagram (flying datagram member)
  · intro address port available isFound
    rw [injected]
    rcases client with same | other
    · exact sourced.found address port available (same.symm.trans isFound)
    · exact absurd isFound (other address port available)

theorem Sourced.send (sourced : Sourced lan state) {datagram : Datagram}
    (origin : Origin lan state.injected datagram) : Sourced lan (state.send datagram) :=
  ⟨List.forall_mem_append.mpr ⟨sourced.flying, List.forall_mem_singleton.mpr origin⟩, sourced.found⟩

theorem Sourced.answer (sourced : Sourced lan state) {host : Host} {via : UInt32} {datagram : Datagram}
    (member : host ∈ lan.hosts) (discovery : host.options.discovery = true) (address : via ∈ host.addresses) :
    Sourced lan (state.answer host via datagram) := by
  rw [Discovery.answer]
  split
  · rename_i reply served
    refine ⟨List.forall_mem_append.mpr ⟨?_, List.forall_mem_singleton.mpr ?_⟩, sourced.found⟩
    · exact fun other among => sourced.flying other (List.mem_of_mem_erase among)
    · exact .host host member discovery address (serve_eq served)
  · exact sourced.less (fun _ among => List.mem_of_mem_erase among) rfl (.inl rfl)

theorem Sourced.offered (sourced : Sourced lan state) {datagram : Datagram} (member : datagram ∈ state.flying) :
    Sourced lan (state.offered datagram) := by
  rw [Discovery.offered]
  split
  · rename_i port available read
    refine ⟨fun other among => sourced.flying other (List.mem_of_mem_erase among), ?_⟩
    intro address port available isFound
    cases isFound
    cases sourced.flying datagram member with
    | injected among => exact .inr ⟨datagram, among, rfl, read⟩
    | client isProbe =>
        rw [isProbe, readOffer_probe] at read
        cases read
    | host host among discovery address isOffer =>
        rw [isOffer, readOffer_offer] at read
        obtain ⟨_, same⟩ := Option.ite_none_right_eq_some.mp read
        cases same
        exact .inl ⟨host, Host.offers among discovery address⟩
  · exact sourced.less (fun _ among => List.mem_of_mem_erase among) rfl (.inl rfl)

theorem Sourced.step (sourced : Sourced lan state) {action : Action}
    (stepped : Discovery.step lan state action = some next) :
    Sourced lan next := by
  cases action with
  | openSocket socket =>
      have quiet : Sourced lan { state with client := .probing socket } :=
        sourced.less (fun _ among => among) rfl (.inr (fun _ _ _ => Client.noConfusion))
      rw [Discovery.step] at stepped
      split at stepped
      · cases stepped
      · cases stepped
      · obtain ⟨_, isNext⟩ := Option.ite_none_left_eq_some.mp stepped
        cases isNext
        exact quiet
  | sendProbe address =>
      rw [Discovery.step] at stepped
      split at stepped <;> cases stepped
      exact sourced.send (.client rfl)
  | listen =>
      rw [Discovery.step] at stepped
      split at stepped <;> cases stepped
      exact sourced.less (fun _ among => among) rfl (.inr (fun _ _ _ => Client.noConfusion))
  | receive datagram =>
      rw [Discovery.step] at stepped
      split at stepped
      · obtain ⟨⟨member, _⟩, rfl⟩ := eq_of_guarded stepped
        exact sourced.offered member
      · cases stepped
  | timeout =>
      rw [Discovery.step] at stepped
      split at stepped <;> cases stepped
      exact sourced.less (fun _ among => among) rfl (.inr (fun _ _ _ => Client.noConfusion))
  | serve datagram host via =>
      rw [Discovery.step] at stepped
      split at stepped
      · rename_i host isHost
        obtain ⟨⟨_, reached, address⟩, rfl⟩ := eq_of_guarded stepped
        rw [Lan.reaches, Bool.and_eq_true, Bool.and_eq_true] at reached
        exact sourced.answer (List.mem_of_getElem? isHost) reached.1.1 address
      · cases stepped
  | lose datagram =>
      obtain ⟨_, rfl⟩ := eq_of_guarded stepped
      exact sourced.less (fun _ among => List.mem_of_mem_erase among) rfl (.inl rfl)
  | duplicate datagram =>
      obtain ⟨member, rfl⟩ := eq_of_guarded stepped
      exact sourced.send (sourced.flying datagram member)
  | inject datagram =>
      cases stepped
      refine ⟨List.forall_mem_append.mpr ⟨?_, List.forall_mem_singleton.mpr ?_⟩, ?_⟩
      · exact fun other among => (sourced.flying other among).grow [datagram]
      · exact .injected (List.mem_append_right _ List.mem_cons_self)
      · intro address port available isFound
        rcases sourced.found address port available isFound with host | ⟨other, among, facts⟩
        · exact .inl host
        · exact .inr ⟨other, List.mem_append_left _ among, facts⟩

theorem sourced_start (lan : Lan) : Sourced lan start :=
  ⟨List.forall_mem_nil _, fun _ _ _ => Client.noConfusion⟩

/-- A probe that reaches a host can be answered, and the answer received. -/
theorem answered {socket : Endpoint} {datagram : Datagram} {i : Nat} {host : Host} {via : UInt32}
    (searching : state.client = .searching socket) (member : datagram ∈ state.flying)
      (source : datagram.source = socket)
    (isProbe : datagram.data = probe.bytes) (isHost : lan.hosts[i]? = some host)
    (reached : lan.reaches datagram host = true) (address : via ∈ host.addresses) (port : 0 < host.options.port) :
    ∃ next, run (Discovery.step lan) state
      [.serve datagram i via, .receive ⟨⟨via, kDiscoveryPort⟩, socket, host.responder.offer.bytes⟩] = some next ∧
        next.client = .found via host.options.port (max 1 host.responder.monitorCount.toNat) := by
  let offer : Datagram := ⟨⟨via, kDiscoveryPort⟩, socket, host.responder.offer.bytes⟩
  have served : state.answer host via datagram = { state with
      flying := state.flying.erase datagram ++ [offer], offers := state.offers + 1 } := by
    rw [answer, isProbe, serve_probe, source]
  have read : readOffer offer.data = some (host.options.port, max 1 host.responder.monitorCount.toNat) := by
    rw [readOffer_offer]
    exact if_pos port
  have first : Discovery.step lan state (.serve datagram i via) = some (state.answer host via datagram) := by
    rw [Discovery.step, isHost]
    exact if_pos ⟨member, reached, address⟩
  have second : Discovery.step lan (state.answer host via datagram) (.receive offer) =
      some ((state.answer host via datagram).offered offer) := by
    rw [served, Discovery.step]
    simp only [searching]
    exact if_pos ⟨List.mem_append_right _ List.mem_cons_self, rfl⟩
  refine ⟨_, run_cons_iff.mpr ⟨_, first, run_cons_iff.mpr ⟨_, second, rfl⟩⟩, ?_⟩
  rw [offered, read]

/-- What the client finds is a streamer with its monitors at their ports, unless it
was made up, and a probe that reaches a streamer can be answered. -/
theorem discovered {actions : List Action} (ran : run (Discovery.step lan) start actions = some state) :
    (∀ address port available, state.client = .found address port available →
      (∃ host, Offers lan host address port available) ∨
        ∃ datagram ∈ state.injected, datagram.source.address = address ∧
          readOffer datagram.data = some (port, available)) ∧
      ∀ socket datagram i host via, state.client = .searching socket → datagram ∈ state.flying →
        datagram.source = socket → datagram.data = probe.bytes → lan.hosts[i]? = some host →
        lan.reaches datagram host = true → via ∈ host.addresses → 0 < host.options.port →
        ∃ next, run (Discovery.step lan) state
          [.serve datagram i via, .receive ⟨⟨via, kDiscoveryPort⟩, socket, host.responder.offer.bytes⟩] = some next ∧
          next.client = .found via host.options.port (max 1 host.responder.monitorCount.toNat) := by
  have sourced : Sourced lan state :=
    run_invariant (fun _ _ _ sourced stepped => sourced.step stepped) (sourced_start lan) ran
  refine ⟨sourced.found, ?_⟩
  intro socket datagram i host via searching member source isProbe isHost reached address port
  exact answered searching member source isProbe isHost reached address port

end Runs

def sampleHost : Host where
  addresses := [0xC0A80002]
  build := ⟨false, true⟩
  options := ({ Options.initial ⟨false, true⟩ with monitors := 3 }).complete ⟨false, true⟩
  wellFormed := ⟨by decide, by decide, .inl rfl, by decide⟩
  hostName := ⟨List.replicate 64 0, List.length_replicate, true⟩

def sampleLan : Lan := ⟨[sampleHost], [0xFFFFFFFF]⟩

/-- A client finds the only host by a broadcast. -/
def sampleSearch : List Action :=
  [.openSocket ⟨0xC0A80001, 40000⟩, .sendProbe 0xFFFFFFFF, .listen,
    .serve ⟨⟨0xC0A80001, 40000⟩, ⟨0xFFFFFFFF, kDiscoveryPort⟩, probe.bytes⟩ 0 0xC0A80002,
    .receive ⟨⟨0xC0A80002, kDiscoveryPort⟩, ⟨0xC0A80001, 40000⟩, sampleHost.responder.offer.bytes⟩]

def sampleFound : Discovery := (run (Discovery.step sampleLan) start sampleSearch).get (by decide +kernel)

theorem discovered_sample : sampleFound.client = .found 0xC0A80002 7778 3 ∧
    ∃ host, Offers sampleLan host 0xC0A80002 7778 3 := by
  have ran : run (Discovery.step sampleLan) start sampleSearch = some sampleFound :=
    Option.eq_some_of_isSome (by decide +kernel)
  have found : sampleFound.client = .found 0xC0A80002 7778 3 := by decide +kernel
  have honest : sampleFound.injected = [] := by decide +kernel
  refine ⟨found, ?_⟩
  rcases (discovered ran).1 _ _ _ found with host | ⟨_, member, _⟩
  · exact host
  · rw [honest] at member
    exact absurd member List.not_mem_nil

/-! ## Offers that are answered -/

/-- A datagram that both comes from and goes to the port of the responders. -/
def Datagram.Reflects (datagram : Datagram) : Prop :=
  datagram.source.port = kDiscoveryPort ∧ datagram.destination.port = kDiscoveryPort

instance (datagram : Datagram) : Decidable datagram.Reflects := inferInstanceAs (Decidable (_ ∧ _))

/-- Whether a responder can get the datagram. -/
def Datagram.isRequest (datagram : Datagram) : Bool := datagram.destination.port == kDiscoveryPort

/-- Every offer is paid for by a datagram that is none. -/
structure Contained (state : Discovery) : Prop where
  quiet : ∀ datagram ∈ state.flying, ¬datagram.Reflects
  sockets : ∀ socket, state.client = .probing socket → socket.port ≠ kDiscoveryPort
  paid : state.offers + state.flying.countP Datagram.isRequest ≤ state.copies

section Contained

variable {lan : Lan} {state next : Discovery}

theorem countP_take {datagram : Datagram} (member : datagram ∈ state.flying) :
    state.flying.countP Datagram.isRequest = (state.take datagram).flying.countP Datagram.isRequest +
      if datagram.isRequest then 1 else 0 := by
  rw [(List.perm_cons_erase member).countP_eq, List.countP_cons]
  rfl

theorem Contained.send (contained : state.Contained) {datagram : Datagram} (quiet : ¬datagram.Reflects) :
    (state.send datagram).Contained := by
  have paid := contained.paid
  refine ⟨List.forall_mem_append.mpr ⟨contained.quiet, List.forall_mem_singleton.mpr quiet⟩, contained.sockets, ?_⟩
  change state.offers + (state.flying ++ [datagram]).countP Datagram.isRequest ≤ state.copies + 1
  rw [List.countP_append, List.countP_singleton]
  split <;> omega

theorem Contained.take (contained : state.Contained) {datagram : Datagram} (member : datagram ∈ state.flying) :
    (state.take datagram).Contained := by
  have paid := contained.paid
  rw [countP_take member] at paid
  refine ⟨fun other among => contained.quiet other (List.mem_of_mem_erase among), contained.sockets, ?_⟩
  change state.offers + (state.take datagram).flying.countP Datagram.isRequest ≤ state.copies
  omega

theorem Contained.answer (contained : state.Contained) {host : Host} {via : UInt32} {datagram : Datagram}
    (member : datagram ∈ state.flying) (request : datagram.destination.port = kDiscoveryPort) :
    (state.answer host via datagram).Contained := by
  have paid := contained.paid
  have source : datagram.source.port ≠ kDiscoveryPort := fun same => contained.quiet datagram member ⟨same, request⟩
  rw [Discovery.answer]
  split
  · refine ⟨List.forall_mem_append.mpr ⟨?_, List.forall_mem_singleton.mpr ?_⟩, contained.sockets, ?_⟩
    · exact fun other among => contained.quiet other (List.mem_of_mem_erase among)
    · exact fun reflects => source reflects.2
    · have isRequest : datagram.isRequest = true := beq_iff_eq.mpr request
      have away : (datagram.source.port == kDiscoveryPort) = false := beq_eq_false_iff_ne.mpr source
      rw [countP_take member, isRequest] at paid
      change state.offers + 1 + ((state.take datagram).flying ++ _).countP Datagram.isRequest ≤ state.copies
      rw [List.countP_append, List.countP_singleton, Datagram.isRequest, away]
      exact (Nat.add_right_comm _ _ _).trans_le paid
  · exact contained.take member

theorem Contained.step (contained : state.Contained) {action : Action}
    (stepped : Discovery.step lan state action = some next) (quiet : ∀ datagram ∈ next.injected, ¬datagram.Reflects) :
    next.Contained := by
  cases action with
  | openSocket socket =>
      have probing : socket.port ≠ kDiscoveryPort → Contained { state with client := .probing socket } := by
        intro apart
        refine ⟨contained.quiet, ?_, contained.paid⟩
        intro other same
        cases same
        exact apart
      rw [Discovery.step] at stepped
      split at stepped
      · cases stepped
      · cases stepped
      · obtain ⟨apart, isNext⟩ := Option.ite_none_left_eq_some.mp stepped
        cases isNext
        exact probing apart
  | sendProbe address =>
      rw [Discovery.step] at stepped
      split at stepped <;> cases stepped
      rename_i socket probing
      exact contained.send (fun reflects => contained.sockets socket probing reflects.1)
  | listen =>
      rw [Discovery.step] at stepped
      split at stepped <;> cases stepped
      exact ⟨contained.quiet, fun _ => Client.noConfusion, contained.paid⟩
  | receive datagram =>
      rw [Discovery.step] at stepped
      split at stepped
      · rename_i socket searching
        obtain ⟨⟨member, _⟩, rfl⟩ := eq_of_guarded stepped
        have taken := contained.take member
        rw [offered]
        split
        · exact ⟨taken.quiet, fun _ => Client.noConfusion, taken.paid⟩
        · exact taken
      · cases stepped
  | timeout =>
      rw [Discovery.step] at stepped
      split at stepped <;> cases stepped
      exact ⟨contained.quiet, fun _ => Client.noConfusion, contained.paid⟩
  | serve datagram host via =>
      rw [Discovery.step] at stepped
      split at stepped
      · obtain ⟨⟨member, reached, _⟩, rfl⟩ := eq_of_guarded stepped
        rw [Lan.reaches, Bool.and_eq_true, Bool.and_eq_true] at reached
        exact contained.answer member (beq_iff_eq.mp reached.1.2)
      · cases stepped
  | lose datagram =>
      obtain ⟨member, rfl⟩ := eq_of_guarded stepped
      exact contained.take member
  | duplicate datagram =>
      obtain ⟨member, rfl⟩ := eq_of_guarded stepped
      exact contained.send (contained.quiet datagram member)
  | inject datagram =>
      cases stepped
      have sent := contained.send (quiet datagram (List.mem_append_right _ List.mem_cons_self))
      exact ⟨sent.quiet, sent.sockets, sent.paid⟩

/-- Nothing that was sent by somebody else is forgotten. -/
theorem injected_of_step {action : Action} (stepped : Discovery.step lan state action = some next) :
    ∀ datagram ∈ state.injected, datagram ∈ next.injected := by
  have same : next.injected = state.injected → ∀ datagram ∈ state.injected, datagram ∈ next.injected :=
    fun same _ member => same ▸ member
  cases action with
  | openSocket socket =>
      rw [Discovery.step] at stepped
      split at stepped
      · cases stepped
      · cases stepped
      · obtain ⟨_, isNext⟩ := Option.ite_none_left_eq_some.mp stepped
        cases isNext
        exact fun _ member => member
  | receive datagram =>
      rw [Discovery.step] at stepped
      split at stepped
      · obtain ⟨_, rfl⟩ := eq_of_guarded stepped
        apply same
        rw [offered]
        split <;> rfl
      · cases stepped
  | serve datagram host via =>
      rw [Discovery.step] at stepped
      split at stepped
      · obtain ⟨_, rfl⟩ := eq_of_guarded stepped
        apply same
        rw [answer]
        split <;> rfl
      · cases stepped
  | lose datagram =>
      obtain ⟨_, rfl⟩ := eq_of_guarded stepped
      exact fun _ member => member
  | duplicate datagram =>
      obtain ⟨_, rfl⟩ := eq_of_guarded stepped
      exact fun _ member => member
  | inject datagram =>
      cases stepped
      exact fun _ member => List.mem_append_left _ member
  | _ =>
      rw [Discovery.step] at stepped
      split at stepped <;> cases stepped
      exact fun _ member => member

theorem contained_start : start.Contained :=
  ⟨List.forall_mem_nil _, fun _ => Client.noConfusion, Nat.le_refl _⟩

/-- One datagram that reflects is enough for any number of offers: two responders, or
one, answer each other. -/
theorem storm {i j : Nat} {first second : Host} {here there : UInt32} (isFirst : lan.hosts[i]? = some first)
    (isSecond : lan.hosts[j]? = some second) (firstServes : first.options.discovery = true)
    (secondServes : second.options.discovery = true) (isHere : here ∈ first.addresses)
    (isThere : there ∈ second.addresses) {data : List UInt8}
    (served : ∀ responder : DiscoveryResponder, responder.serve data = some responder.offer.bytes)
    (flying : state.flying = [⟨⟨there, kDiscoveryPort⟩, ⟨here, kDiscoveryPort⟩, data⟩]) (count : Nat) :
    ∃ actions next, run (Discovery.step lan) state actions = some next ∧ next.injected = state.injected ∧
      next.copies = state.copies ∧ next.offers = state.offers + count := by
  induction count generalizing state i j first second here there data with
  | zero => exact ⟨[], state, rfl, rfl, rfl, rfl⟩
  | succ count inductionHypothesis =>
      let datagram : Datagram := ⟨⟨there, kDiscoveryPort⟩, ⟨here, kDiscoveryPort⟩, data⟩
      let answered : Discovery := { state with
        flying := [⟨⟨here, kDiscoveryPort⟩, ⟨there, kDiscoveryPort⟩, first.responder.offer.bytes⟩]
        offers := state.offers + 1 }
      have isAnswered : state.answer first here datagram = answered := by
        rw [answer, served, flying]
        simp [datagram, answered]
      have stepped : Discovery.step lan state (.serve datagram i here) = some answered := by
        rw [Discovery.step, isFirst, ← isAnswered]
        refine if_pos ⟨?_, ?_, isHere⟩
        · rw [flying]
          exact List.mem_cons_self
        · simp [Lan.reaches, firstServes, datagram, isHere]
      have others : ∃ actions next, run (Discovery.step lan) answered actions = some next ∧
          next.injected = answered.injected ∧ next.copies = answered.copies ∧
            next.offers = answered.offers + count :=
        inductionHypothesis isSecond isFirst secondServes firstServes isThere isHere
          (fun responder => serve_offer responder first.responder) rfl
      obtain ⟨actions, next, ran, injected, copies, offers⟩ := others
      refine ⟨_ :: actions, next, run_cons_iff.mpr ⟨_, stepped, ran⟩, injected, copies, ?_⟩
      rw [offers]
      exact Nat.add_right_comm _ _ _

/-- The responders send no more offers than other datagrams, and none to a responder,
unless somebody sends a datagram from the port of a responder to it; with a single one
of these there is no bound. -/
theorem contained (lan : Lan) :
    (∀ actions state, run (Discovery.step lan) start actions = some state →
      (∀ datagram ∈ state.injected, ¬datagram.Reflects) →
      state.offers ≤ state.copies ∧ ∀ datagram ∈ state.flying, ¬datagram.Reflects) ∧
      ∀ (i j : Nat) (first second : Host) (here there : UInt32), lan.hosts[i]? = some first →
        lan.hosts[j]? = some second →
        first.options.discovery = true → second.options.discovery = true →
        here ∈ first.addresses → there ∈ second.addresses → ∀ count, ∃ actions state,
          run (Discovery.step lan) start actions = some state ∧
            state.injected = [⟨⟨there, kDiscoveryPort⟩, ⟨here, kDiscoveryPort⟩, probe.bytes⟩] ∧
            state.copies = 1 ∧ state.offers = count := by
  constructor
  · intro actions state ran quiet
    have preserved : ∀ state action next, ((∀ datagram ∈ state.injected, ¬datagram.Reflects) → state.Contained) →
        Discovery.step lan state action = some next →
        (∀ datagram ∈ next.injected, ¬datagram.Reflects) → next.Contained := by
      intro state action next contained stepped quiet
      refine (contained ?_).step stepped quiet
      exact fun datagram member => quiet datagram (injected_of_step stepped datagram member)
    have contained := run_invariant preserved (fun _ => contained_start) ran
    obtain ⟨apart, _, paid⟩ := contained quiet
    exact ⟨(Nat.le_add_right _ _).trans paid, apart⟩
  · intro i j first second here there isFirst isSecond firstServes secondServes isHere isThere count
    let datagram : Datagram := ⟨⟨there, kDiscoveryPort⟩, ⟨here, kDiscoveryPort⟩, probe.bytes⟩
    have others : ∃ actions next, run (Discovery.step lan) ⟨.idle, [datagram], [datagram], 1, 0⟩ actions = some next ∧
        next.injected = [datagram] ∧ next.copies = 1 ∧ next.offers = 0 + count :=
      storm isFirst isSecond firstServes secondServes isHere isThere serve_probe rfl count
    obtain ⟨actions, next, ran, injected, copies, offers⟩ := others
    exact ⟨.inject datagram :: actions, next, run_cons_iff.mpr ⟨_, rfl, ran⟩, injected, copies,
      offers.trans (Nat.zero_add count)⟩

/-- A search leads to one offer, and a single datagram between two responders to a
thousand. -/
theorem contained_sample :
    (sampleFound.offers = 1 ∧ sampleFound.offers ≤ sampleFound.copies ∧
      ∀ datagram ∈ sampleFound.flying, ¬datagram.Reflects) ∧
      ∃ actions state, run (Discovery.step sampleLan) start actions = some state ∧
        state.copies = 1 ∧ state.offers = 1000 := by
  constructor
  · have ran : run (Discovery.step sampleLan) start sampleSearch = some sampleFound :=
      Option.eq_some_of_isSome (by decide +kernel)
    have honest : sampleFound.injected = [] := by decide +kernel
    refine ⟨by decide +kernel, (contained sampleLan).1 sampleSearch sampleFound ran ?_⟩
    rw [honest]
    exact List.forall_mem_nil _
  · obtain ⟨actions, state, ran, _, copies, offers⟩ := (contained sampleLan).2 0 0 sampleHost sampleHost 0xC0A80002
      0xC0A80002 rfl rfl rfl rfl List.mem_cons_self List.mem_cons_self 1000
    exact ⟨actions, state, ran, copies, offers⟩

end Contained

end Discovery
end MetaShare
