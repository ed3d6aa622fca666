import MetaShare.Foundation.Transitions
import Mathlib.Data.PNat.Defs
import Mathlib.Tactic.Common

namespace MetaShare

open Transitions

/-!
# The streamer of the control panel

The window starts one streamer at a time and remembers its process.  Stop asks
the process to end, and a timer kills whatever process is remembered two seconds
later.  Nothing takes a timer back.
-/

namespace MainWindow

inductive Signal where
  | SIGTERM
  | SIGKILL
  deriving DecidableEq

/-- A child process: its place in the order of launch, whether stop was called for it,
and whether it was reaped. -/
structure Child where
  number : Nat
  pid : ℕ+
  asked : Bool
  reaped : Bool
  deriving DecidableEq

/-- A timer: when it is due, and the child for which it was armed. -/
structure Timer where
  due : Nat
  child : Option Nat
  deriving DecidableEq

/-- A signal, with the child that had the process number when it was sent, and the
timer that sent it. -/
structure Sent where
  signal : Signal
  target : Option Child
  timer : Option Timer
  deriving DecidableEq

/-- What becomes of an attempt to launch the streamer: the binary is not found, the
launch fails, or there is a process. -/
inductive Spawn where
  | notFound
  | failed
  | spawned (pid : ℕ+)
  deriving DecidableEq

end MainWindow

/-- What the window remembers of its streamer. -/
structure MainWindow where
  pid : Nat
  running : Bool
  deriving DecidableEq

namespace MainWindow

/-- The window among the things around it: the clock in milliseconds, the timers, all
children in the order of their launch, and all signals. -/
structure World where
  window : MainWindow
  now : Nat
  timers : List Timer
  children : List Child
  signals : List Sent
  deriving DecidableEq

def initial : World := ⟨⟨0, false⟩, 0, [], [], []⟩

/-- The child that has the process number. -/
def World.find (world : World) (pid : Nat) : Option Child :=
  world.children.find? (fun child => child.pid = pid ∧ child.reaped = false)

def World.kill (world : World) (pid : Nat) (signal : Signal) (timer : Option Timer) : World :=
  { world with signals := world.signals ++ [⟨signal, world.find pid, timer⟩] }

def Child.ask (pid : Nat) (child : Child) : Child :=
  if child.pid = pid ∧ child.reaped = false then { child with asked := true } else child

def Child.reap (pid : Nat) (child : Child) : Child :=
  if child.pid = pid ∧ child.reaped = false then { child with reaped := true } else child

def startStreamer (world : World) : Spawn → World
  | .notFound | .failed => world
  | .spawned pid => { world with
      window := ⟨pid, true⟩
      children := world.children ++ [⟨world.children.length, pid, false, false⟩] }

def stopStreamer (world : World) : World :=
  if world.window.running then
    let timer : Timer := ⟨world.now + 2000, (world.find world.window.pid).map (fun child => child.number)⟩
    let world := { world with children := world.children.map (Child.ask world.window.pid) }
    let world := if 0 < world.window.pid then world.kill world.window.pid .SIGTERM none else world
    { world with timers := world.timers ++ [timer] }
  else world

def onPrimaryClicked (world : World) (spawn : Spawn) : World :=
  if world.window.running then stopStreamer world else startStreamer world spawn

/-- The child is reaped, and the window forgets the streamer. -/
def onChildExited (world : World) (pid : ℕ+) : World :=
  { world with window := ⟨0, false⟩, children := world.children.map (Child.reap pid) }

/-- The timer does not look for which process it was armed. -/
def escalate (world : World) (timer : Timer) : World :=
  if world.window.running && 0 < world.window.pid then world.kill world.window.pid .SIGKILL (some timer) else world

inductive Action where
  | wait (milliseconds : Nat)
  | click (spawn : Spawn)
  | exit (pid : ℕ+)
  | fire
  deriving DecidableEq

/-- One turn of the main loop.  A child that was not reaped may exit at any time, and
the timers fire in their order, when they are due or later. -/
def step (world : World) : Action → Option World
  | .wait milliseconds => some { world with now := world.now + milliseconds }
  | .click spawn => some (onPrimaryClicked world spawn)
  | .exit pid => if (world.find pid).isSome then some (onChildExited world pid) else none
  | .fire =>
      match world.timers with
      | timer :: timers =>
          if timer.due ≤ world.now then some (escalate { world with timers := timers } timer) else none
      | [] => none

/-- The signal goes to a child for which stop was called and which was not reaped.  If
a timer sent it, then that is the child for which the timer was armed. -/
def Sent.IsProper (sent : Sent) : Prop :=
  ∃ child, sent.target = some child ∧ child.asked = true ∧ child.reaped = false ∧
    ∀ timer ∈ sent.timer, timer.child = some child.number

/-! ## The order of clicks, exits and timers -/

/-- Whether a streamer runs, how often it or one before it was stopped, how often one
before it was stopped, and how many timers have fired. -/
structure History where
  running : Bool
  stops : Nat
  earlier : Nat
  fires : Nat
  deriving DecidableEq

def History.next (history : History) : Action → History
  | .wait _ => history
  | .click spawn =>
      if history.running then { history with stops := history.stops + 1 }
      else
        match spawn with
        | .spawned _ => { history with running := true, earlier := history.stops }
        | .notFound | .failed => history
  | .exit _ => { history with running := false }
  | .fire => { history with fires := history.fires + 1 }

/-- What the actions say by themselves. -/
def history (actions : List Action) : History := actions.foldl History.next ⟨false, 0, 0, 0⟩

/-- No timer fires while a streamer runs that was started after the timer was armed. -/
def Timely (actions : List Action) : Prop :=
  ∀ early late, actions = early ++ .fire :: late →
    (history early).running = true → (history early).earlier ≤ (history early).fires

/-! ## Between the actions -/

/-- The streamer is the last of the children, and all others were reaped. -/
structure Watched (world : World) (pid : ℕ+) (asked : Bool) : Prop where
  window : world.window = ⟨pid, true⟩
  children : ∃ earlier, world.children = earlier ++ [⟨earlier.length, pid, asked, false⟩] ∧
    ∀ child ∈ earlier, child.reaped = true

/-- Without a streamer all children were reaped.  A streamer was asked to stop if one
was since it runs. -/
def Matches (world : World) (history : History) : Prop :=
  if history.running then
    ∃ pid asked, Watched world pid asked ∧ (history.earlier < history.stops → asked = true)
  else world.window = ⟨0, false⟩ ∧ ∀ child ∈ world.children, child.reaped = true

/-- Every stop arms a timer.  Those armed before the streamer was started are for other
children, and the others are for it. -/
structure Armed (world : World) (history : History) : Prop where
  counted : history.fires + world.timers.length = history.stops
  earlier : history.earlier ≤ history.stops
  known : ∀ timer ∈ world.timers, ∀ number ∈ timer.child, number < world.children.length
  own : history.running = true → ∀ position timer, world.timers[position]? = some timer →
    (timer.child = some (world.children.length - 1) ↔ history.earlier ≤ history.fires + position)

/-! ## One action -/

section Step

variable {world next : World} {pid : ℕ+} {asked : Bool} {past : History}

theorem Watched.find (watched : Watched world pid asked) :
    world.find pid = some ⟨world.children.length - 1, pid, asked, false⟩ := by
  obtain ⟨earlier, isChildren, reaped⟩ := watched.children
  have none : earlier.find? (fun child => child.pid = (pid : Nat) ∧ child.reaped = false) = none := by
    rw [List.find?_eq_none]
    intro child member
    simp [reaped child member]
  rw [World.find, isChildren, List.find?_append, none]
  simp

/-- With a streamer that is watched, only its own exit can come. -/
theorem Watched.exits (watched : Watched world pid asked) {other : ℕ+} (found : (world.find other).isSome = true) :
    other = pid := by
  obtain ⟨earlier, isChildren, reaped⟩ := watched.children
  obtain ⟨child, isChild⟩ := Option.isSome_iff_exists.mp found
  have member := List.mem_of_find?_eq_some isChild
  have holds := List.find?_some isChild
  simp only [decide_eq_true_eq] at holds
  rw [isChildren] at member
  rcases List.mem_append.mp member with earlier | last
  · exact absurd (reaped child earlier) (by simp [holds.2])
  · rw [List.mem_singleton.mp last] at holds
    exact Subtype.ext holds.1.symm

/-- The children before the streamer stay as they are. -/
theorem Watched.map (watched : Watched world pid asked) {change : Child → Child}
    (kept : ∀ child : Child, child.reaped = true → change child = child) :
    ∃ earlier, world.children.map change = earlier ++ [change ⟨earlier.length, pid, asked, false⟩] ∧
      ∀ child ∈ earlier, child.reaped = true := by
  obtain ⟨earlier, isChildren, reaped⟩ := watched.children
  have same : earlier.map change = earlier :=
    (List.map_congr_left (fun child member => kept child (reaped child member))).trans (List.map_id earlier)
  refine ⟨earlier, ?_, reaped⟩
  rw [isChildren, List.map_append, same, List.map_singleton]

theorem ask_reaped (number : Nat) {child : Child} (reaped : child.reaped = true) : child.ask number = child := by
  rw [Child.ask, if_neg (fun both => by simp [reaped] at both)]

theorem reap_reaped (number : Nat) {child : Child} (reaped : child.reaped = true) : child.reap number = child := by
  rw [Child.reap, if_neg (fun both => by simp [reaped] at both)]

theorem matches_running (running : past.running = true) :
    Matches world past ↔ ∃ pid asked, Watched world pid asked ∧ (past.earlier < past.stops → asked = true) := by
  rw [Matches, if_pos running]

theorem matches_idle (idle : past.running = false) :
    Matches world past ↔ world.window = ⟨0, false⟩ ∧ ∀ child ∈ world.children, child.reaped = true := by
  rw [Matches, if_neg (Bool.eq_false_iff.mp idle)]

/-- The history is about the window and the children only. -/
theorem Matches.congr {later : History} (matched : Matches world past) (window : next.window = world.window)
    (children : next.children = world.children) (running : later.running = past.running)
    (earlier : later.earlier = past.earlier) (stops : later.stops = past.stops) : Matches next later := by
  cases isRunning : past.running with
  | true =>
      obtain ⟨pid, asked, watched, wasAsked⟩ := (matches_running isRunning).mp matched
      refine (matches_running (running.trans isRunning)).mpr ⟨pid, asked, ?_, ?_⟩
      · exact ⟨window.trans watched.window, children ▸ watched.children⟩
      · rw [earlier, stops]
        exact wasAsked
  | false =>
      have idle := (matches_idle isRunning).mp matched
      exact (matches_idle (running.trans isRunning)).mpr ⟨window.trans idle.1, children ▸ idle.2⟩

/-- A new streamer is behind all children, so no timer is armed for it. -/
theorem matches_start (matched : Matches world past) (armed : Armed world past) (idle : past.running = false)
    (spawn : Spawn) :
    Matches (startStreamer world spawn) (past.next (.click spawn)) ∧
      Armed (startStreamer world spawn) (past.next (.click spawn)) ∧
      (startStreamer world spawn).signals = world.signals := by
  have isNext : past.next (.click spawn) = match spawn with
      | .spawned _ => { past with running := true, earlier := past.stops }
      | .notFound | .failed => past := by
    cases spawn <;> exact if_neg (Bool.eq_false_iff.mp idle)
  rw [isNext]
  cases spawn with
  | notFound => exact ⟨matched, armed, rfl⟩
  | failed => exact ⟨matched, armed, rfl⟩
  | spawned pid =>
      have reaped := ((matches_idle idle).mp matched).2
      have longer : (startStreamer world (.spawned pid)).children.length = world.children.length + 1 :=
        List.length_append
      refine ⟨(matches_running rfl).mpr ⟨pid, false, ⟨rfl, world.children, rfl, reaped⟩, ?_⟩, ?_, rfl⟩
      · exact fun impossible => absurd impossible (Nat.lt_irrefl _)
      · refine ⟨armed.counted, Nat.le_refl _, fun timer member number isNumber => ?_,
        fun _ position timer found => ?_⟩
        · rw [longer]
          exact Nat.lt_succ_of_lt (armed.known timer member number isNumber)
        · rw [longer, Nat.add_sub_cancel]
          have counted := armed.counted
          have within := (List.getElem?_eq_some_iff.mp found).1
          constructor
          · intro isLast
            exact absurd (armed.known timer (List.mem_of_getElem? found) _ isLast) (Nat.lt_irrefl _)
          · intro after
            change past.stops ≤ past.fires + position at after
            change position < world.timers.length at within
            omega

/-- Stop marks the streamer before it sends its signal, and arms a timer for it. -/
theorem matches_stop (watched : Watched world pid asked) (armed : Armed world past) (running : past.running = true)
    (spawn : Spawn) :
    Matches (stopStreamer world) (past.next (.click spawn)) ∧
      Armed (stopStreamer world) (past.next (.click spawn)) ∧
      (stopStreamer world).signals =
        world.signals ++ [⟨.SIGTERM, some ⟨world.children.length - 1, pid, true, false⟩, none⟩] := by
  have isNext : past.next (.click spawn) = { past with stops := past.stops + 1 } := by
    cases spawn <;> exact if_pos running
  obtain ⟨before, isChildren, reaped⟩ := watched.map (fun _ => ask_reaped pid)
  have isAsked : Child.ask pid ⟨before.length, pid, asked, false⟩ = ⟨before.length, pid, true, false⟩ :=
    if_pos ⟨rfl, rfl⟩
  rw [isAsked] at isChildren
  let askedWorld : World := { world with children := world.children.map (Child.ask pid) }
  have marked : Watched askedWorld pid true := ⟨watched.window, before, isChildren, reaped⟩
  have same : askedWorld.children.length = world.children.length := List.length_map _
  let timer : Timer := ⟨world.now + 2000, some (world.children.length - 1)⟩
  have stopped : stopStreamer world = { askedWorld.kill pid .SIGTERM none with timers :=
      world.timers ++ [timer] } := by
    have number : world.window.pid = pid := by rw [watched.window]
    rw [stopStreamer, if_pos (by rw [watched.window])]
    simp only [number, if_pos pid.pos, watched.find, Option.map_some]
    rfl
  rw [isNext, stopped]
  refine ⟨?_, ?_, ?_⟩
  · rw [matches_running (by exact running)]
    exact ⟨pid, true, ⟨marked.window, marked.children⟩, fun _ => rfl⟩
  · have counted := armed.counted
    have earlier := armed.earlier
    constructor
    case counted =>
      change past.fires + (world.timers ++ [timer]).length = past.stops + 1
      rw [List.length_append, List.length_singleton]
      omega
    case earlier => exact Nat.le_succ_of_le earlier
    case known =>
      intro other member number isNumber
      change number < askedWorld.children.length
      rw [same]
      rcases List.mem_append.mp member with old | new
      · exact armed.known other old number isNumber
      · rw [List.mem_singleton.mp new] at isNumber
        obtain ⟨earlier, isEarlier, _⟩ := watched.children
        cases isNumber
        rw [isEarlier, List.length_append, List.length_singleton]
        omega
    case own =>
      intro _ position other found
      change (world.timers ++ [timer])[position]? = some other at found
      change other.child = some (askedWorld.children.length - 1) ↔ past.earlier ≤ past.fires + position
      rw [same]
      rcases Nat.lt_or_ge position world.timers.length with old | new
      · rw [List.getElem?_append_left old] at found
        exact armed.own running position other found
      · rw [List.getElem?_append_right new, List.getElem?_singleton] at found
        split at found
        · cases found
          exact ⟨fun _ => by omega, fun _ => rfl⟩
        · cases found
  · change _ ++ [(⟨.SIGTERM, askedWorld.find pid, none⟩ : Sent)] = _
    rw [marked.find, same]

theorem matches_exit (watched : Watched world pid asked) (armed : Armed world past) (number : ℕ+)
    (same : number = pid) :
    Matches (onChildExited world number) (past.next (.exit number)) ∧
      Armed (onChildExited world number) (past.next (.exit number)) := by
  subst same
  obtain ⟨earlier, isChildren, reaped⟩ := watched.map (fun _ => reap_reaped number)
  have isReaped : Child.reap number ⟨earlier.length, number, asked, false⟩ = ⟨earlier.length, number, asked, true⟩ :=
    if_pos ⟨rfl, rfl⟩
  refine ⟨(matches_idle rfl).mpr ⟨rfl, ?_⟩, armed.counted, armed.earlier, ?_,
    fun impossible => Bool.noConfusion impossible⟩
  · intro child member
    rw [onChildExited, isChildren, isReaped] at member
    rcases List.mem_append.mp member with before | last
    · exact reaped child before
    · rw [List.mem_singleton.mp last]
  · intro timer member other isNumber
    rw [onChildExited, List.length_map]
    exact armed.known timer member other isNumber

/-- A timer kills the streamer, whichever it is. -/
theorem matches_escalate (watched : Watched world pid asked) (timer : Timer) :
    escalate world timer = { world with
      signals := world.signals ++
        [⟨.SIGKILL, some ⟨world.children.length - 1, pid, asked, false⟩, some timer⟩] } := by
  have killed : escalate world timer = world.kill pid .SIGKILL (some timer) := by
    rw [escalate, watched.window]
    simp
  rw [killed, World.kill, watched.find]

/-- With the first timer gone, one more has fired. -/
theorem Armed.fire (armed : Armed world past) {timer : Timer} {timers : List Timer}
    (isTimers : world.timers = timer :: timers) : Armed { world with timers := timers } (past.next .fire) where
  counted := by
    have counted := armed.counted
    rw [isTimers, List.length_cons] at counted
    change past.fires + 1 + timers.length = past.stops
    omega
  earlier := armed.earlier
  known := fun other member => armed.known other (isTimers ▸ List.mem_cons_of_mem _ member)
  own := by
    intro running position other found
    have later := armed.own running (position + 1) other (by rw [isTimers]; exact found)
    rw [Nat.add_comm position, ← Nat.add_assoc] at later
    exact later

/-- What an action sends is proper, or is not, as the condition says. -/
def Sends (world next : World) (proper : Prop) : Prop :=
  ∃ sent, next.signals = world.signals ++ sent ∧ ((∀ signal ∈ sent, signal.IsProper) ↔ proper)

theorem sends_nothing {proper : Prop} (same : next.signals = world.signals) (holds : proper) :
    Sends world next proper :=
  ⟨[], by rw [same, List.append_nil], fun _ => holds, fun _ _ impossible => absurd impossible List.not_mem_nil⟩

theorem sends_one {proper : Prop} {sent : Sent} (more : next.signals = world.signals ++ [sent])
    (holds : sent.IsProper ↔ proper) : Sends world next proper := by
  refine ⟨_, more, ?_⟩
  rw [← holds, List.forall_mem_singleton]

theorem isProper_iff {signal : Signal} {child : Child} {timer : Option Timer} :
    Sent.IsProper ⟨signal, some child, timer⟩ ↔
      child.asked = true ∧ child.reaped = false ∧ ∀ armed ∈ timer, armed.child = some child.number := by
  constructor
  · rintro ⟨found, isFound, holds⟩
    exact Option.some.inj isFound ▸ holds
  · exact fun holds => ⟨child, rfl, holds⟩

/-- Every signal of an action is proper, unless a timer fires that was armed before
the streamer was started. -/
theorem matches_step {action : Action} (matched : Matches world past) (armed : Armed world past)
    (stepped : step world action = some next) :
    Matches next (past.next action) ∧ Armed next (past.next action) ∧
      Sends world next (action = .fire → past.running = true → past.earlier ≤ past.fires) := by
  cases action with
  | wait milliseconds =>
      obtain rfl := Option.some.inj stepped
      exact ⟨matched.congr rfl rfl rfl rfl rfl, ⟨armed.counted, armed.earlier, armed.known, armed.own⟩,
        sends_nothing rfl (fun impossible => nomatch impossible)⟩
  | click spawn =>
      obtain rfl := Option.some.inj stepped
      rw [onPrimaryClicked]
      cases running : past.running with
      | false =>
          rw [if_neg (by rw [((matches_idle running).mp matched).1]; exact Bool.false_ne_true)]
          obtain ⟨later, stillArmed, same⟩ := matches_start matched armed running spawn
          exact ⟨later, stillArmed, sends_nothing same (fun impossible => nomatch impossible)⟩
      | true =>
          obtain ⟨pid, asked, watched, _⟩ := (matches_running running).mp matched
          rw [if_pos (by rw [watched.window])]
          obtain ⟨later, stillArmed, more⟩ := matches_stop watched armed running spawn
          refine ⟨later, stillArmed, sends_one more (isProper_iff.trans ?_)⟩
          exact ⟨fun _ impossible => (nomatch impossible), fun _ => ⟨rfl, rfl, fun _ none => nomatch none⟩⟩
  | exit other =>
      obtain ⟨found, rfl⟩ := eq_of_guarded stepped
      cases running : past.running with
      | false =>
          obtain ⟨child, isChild⟩ := Option.isSome_iff_exists.mp found
          have holds := List.find?_some isChild
          simp [((matches_idle running).mp matched).2 child (List.mem_of_find?_eq_some isChild)] at holds
      | true =>
          obtain ⟨pid, asked, watched, _⟩ := (matches_running running).mp matched
          obtain ⟨later, stillArmed⟩ := matches_exit watched armed other (watched.exits found)
          exact ⟨later, stillArmed, sends_nothing rfl (fun impossible => nomatch impossible)⟩
  | fire =>
      rw [step] at stepped
      split at stepped
      · rename_i timer timers isTimers
        obtain ⟨_, rfl⟩ := eq_of_guarded stepped
        have left : Matches { world with timers := timers } (past.next .fire) := matched.congr rfl rfl rfl rfl rfl
        have stillArmed := armed.fire isTimers
        cases running : past.running with
        | false =>
            have nothing : escalate { world with timers := timers } timer = { world with timers := timers } := by
              rw [escalate, ((matches_idle running).mp matched).1]
              rfl
            rw [nothing]
            exact ⟨left, stillArmed, sends_nothing rfl (fun _ impossible => Bool.noConfusion impossible)⟩
        | true =>
            obtain ⟨pid, asked, watched, wasAsked⟩ := (matches_running running).mp matched
            have isOwn := armed.own running 0 timer (by rw [isTimers]; rfl)
            have counted := armed.counted
            rw [isTimers, List.length_cons] at counted
            have watching : Watched { world with timers := timers } pid asked := ⟨watched.window, watched.children⟩
            rw [matches_escalate watching timer]
            refine ⟨left.congr rfl rfl rfl rfl rfl, ⟨stillArmed.counted, stillArmed.earlier, stillArmed.known,
              stillArmed.own⟩, sends_one rfl (isProper_iff.trans ?_)⟩
            constructor
            · rintro ⟨_, _, own⟩ _ _
              exact isOwn.mp (own timer rfl)
            · intro timely
              have after := timely rfl rfl
              refine ⟨wasAsked (by omega), rfl, fun other isOther => ?_⟩
              cases isOther
              exact isOwn.mpr after
      · cases stepped

end Step

/-! ## All actions -/

theorem history_concat (actions : List Action) (action : Action) :
    history (actions ++ [action]) = (history actions).next action :=
  List.foldl_concat _ _ _ _

theorem timely_concat {actions : List Action} {action : Action} : Timely (actions ++ [action]) ↔
    Timely actions ∧ (action = .fire → (history actions).running = true →
      (history actions).earlier ≤ (history actions).fires) := by
  constructor
  · intro timely
    refine ⟨fun early late split => timely early (late ++ [action]) ?_, ?_⟩
    · rw [split, List.append_assoc, List.cons_append]
    · rintro rfl
      exact timely actions [] rfl
  · rintro ⟨timely, last⟩ early late split
    rcases List.eq_nil_or_concat late with rfl | ⟨rest, final, rfl⟩
    · obtain ⟨rfl, isLast⟩ := List.append_inj' split rfl
      exact last (List.singleton_inj.mp isLast)
    · rw [List.concat_eq_append, ← List.cons_append, ← List.append_assoc] at split
      exact timely early rest (List.append_inj' split rfl).1

theorem matches_run {actions : List Action} {world : World} (ran : run step initial actions = some world) :
    Matches world (history actions) ∧ Armed world (history actions) ∧
      ((∀ signal ∈ world.signals, signal.IsProper) ↔ Timely actions) := by
  induction actions using List.reverseRecOn generalizing world with
  | nil =>
      obtain rfl := Option.some.inj ran
      refine ⟨(matches_idle rfl).mpr ⟨rfl, fun _ impossible => absurd impossible List.not_mem_nil⟩, ?_, ?_⟩
      · exact ⟨rfl, Nat.le_refl _, fun _ impossible => absurd impossible List.not_mem_nil,
          fun impossible => Bool.noConfusion impossible⟩
      · refine ⟨fun _ early late impossible => ?_, fun _ _ impossible => absurd impossible List.not_mem_nil⟩
        exact absurd impossible.symm (by simp)
  | append_singleton actions action inductionHypothesis =>
      obtain ⟨middle, before, stepped⟩ := run_concat_iff.mp ran
      obtain ⟨matched, armed, soFar⟩ := inductionHypothesis before
      obtain ⟨next, stillArmed, sent, isSignals, proper⟩ := matches_step matched armed stepped
      rw [history_concat]
      refine ⟨next, stillArmed, ?_⟩
      rw [isSignals, List.forall_mem_append, soFar, proper, timely_concat]

/-- The condition, place by place. -/
theorem timely_iff {actions : List Action} : Timely actions ↔
    ∀ position < actions.length, actions[position]? = some .fire →
      (history (actions.take position)).running = true →
        (history (actions.take position)).earlier ≤ (history (actions.take position)).fires := by
  constructor
  · intro timely position within found
    refine timely (actions.take position) (actions.drop (position + 1)) ?_
    rw [← (List.getElem?_eq_some_iff.mp found).2, List.getElem_cons_drop, List.take_append_drop]
  · intro all early late split
    have isFire : actions[early.length]? = some .fire := by
      rw [split, List.getElem?_append_right (Nat.le_refl _), Nat.sub_self]
      rfl
    have isEarly : actions.take early.length = early := by rw [split, List.take_left]
    have holds := all early.length (List.getElem?_eq_some_iff.mp isFire).1 isFire
    rwa [isEarly] at holds

/-- Every signal goes to a child that was asked to stop and was not reaped, and that of a
timer to the child for which the timer was armed, exactly when no timer fires while a
streamer runs that was started after the timer was armed. -/
theorem signals_proper {actions : List Action} {world : World} (ran : run step initial actions = some world) :
    (∀ signal ∈ world.signals, signal.IsProper) ↔ Timely actions :=
  (matches_run ran).2.2

/-- Two streamers are stopped one after the other.  The first exits before its timer
fires, and the second does not. -/
def twoStops : List Action :=
  [.click (.spawned 7), .click .failed, .wait 100, .exit 7, .wait 1900, .fire, .click (.spawned 8), .click .failed,
    .wait 2000, .fire]

theorem signals_proper_sample : ∃ world, run step initial twoStops = some world ∧
    world.signals = [⟨.SIGTERM, some ⟨0, 7, true, false⟩, none⟩, ⟨.SIGTERM, some ⟨1, 8, true, false⟩, none⟩,
      ⟨.SIGKILL, some ⟨1, 8, true, false⟩, some ⟨4000, some 1⟩⟩] ∧
    ∀ signal ∈ world.signals, signal.IsProper := by
  have ends : (run step initial twoStops).map (fun world => world.signals) =
      some [⟨.SIGTERM, some ⟨0, 7, true, false⟩, none⟩, ⟨.SIGTERM, some ⟨1, 8, true, false⟩, none⟩,
        ⟨.SIGKILL, some ⟨1, 8, true, false⟩, some ⟨4000, some 1⟩⟩] := by decide
  have timely : Timely twoStops := timely_iff.mpr (by decide)
  obtain ⟨world, ran, isSignals⟩ := Option.map_eq_some_iff.mp ends
  exact ⟨world, ran, isSignals, (signals_proper ran).mpr timely⟩

/-- The first streamer is stopped and exits at once, and the second is started within
two seconds: the timer of the first kills the second. -/
theorem wrong_streamer :
    ∃ world, run step initial [.click (.spawned 7), .click .failed, .wait 100, .exit 7, .click (.spawned 8),
        .wait 1900, .fire] = some world ∧
      world.signals = [⟨.SIGTERM, some ⟨0, 7, true, false⟩, none⟩,
        ⟨.SIGKILL, some ⟨1, 8, false, false⟩, some ⟨2000, some 0⟩⟩] ∧
        ¬ ∀ signal ∈ world.signals, signal.IsProper := by
  refine ⟨_, rfl, rfl, fun all => ?_⟩
  obtain ⟨child, isChild, wasAsked, _⟩ :=
    all ⟨.SIGKILL, some ⟨1, 8, false, false⟩, some ⟨2000, some 0⟩⟩ (by decide)
  rw [← Option.some.inj isChild] at wasAsked
  cases wasAsked

-- A stop for the second streamer does not help: the timer of the first comes early.
example : ¬ Timely [.click (.spawned 7), .click .failed, .exit 7, .click (.spawned 8), .wait 1500, .click .failed,
    .wait 500, .fire] := by
  rw [timely_iff]
  decide

end MainWindow
end MetaShare
