import MetaShare.Foundation.Transitions
import Mathlib.Data.Finset.Basic
import Mathlib.Order.Interval.Finset.Nat
import Mathlib.Data.List.Perm.Basic

namespace MetaShare

open Transitions

/-!
# The screens of the client

The first activity shows the first monitor and opens a window of its own for each
other one.  Launching a window takes a while, and so does finishing one; the user can
close a window, and the system can create the first activity anew.
-/

/-- A window for another monitor, and whether it has been told to finish. -/
structure MonitorActivity where
  monitorIndex : Nat
  finishing : Bool
  deriving DecidableEq

/-- The fields for the screens, with those of the toolbar. -/
structure MainActivity where
  monitorCount : Nat
  availableMonitorCount : Nat
  launchedSecondaries : Finset Nat
  screenCount : Nat
  maxScreens : Nat
  deriving DecidableEq

namespace MainActivity

def MAX_MONITORS : Nat := 3

def created : MainActivity := ⟨1, MAX_MONITORS, ∅, 1, MAX_MONITORS⟩

/-- What `setScreenCount` does in the toolbar. -/
def setScreenCount (main : MainActivity) (count maximum : Nat) : MainActivity :=
  { main with screenCount := max 1 count, maxScreens := max 1 maximum }

end MainActivity

/-- The first activity, the launches under way, and the windows.  For each monitor it
is recorded how many windows too many there were when it was last taken away, and how
many the user has closed since. -/
structure Screens where
  main : MainActivity
  intents : List Nat
  active : List MonitorActivity
  strays : Nat → Nat
  closed : Nat → Nat

namespace Screens

open MainActivity (MAX_MONITORS)

def start : Screens := ⟨.created, [], [], fun _ => 0, fun _ => 0⟩

/-- The launches of a monitor that are under way. -/
def coming (screens : Screens) (i : Nat) : Nat := screens.intents.count i

/-- The windows of a monitor that have not been told to finish. -/
def showing (screens : Screens) (i : Nat) : Nat :=
  screens.active.countP (fun window => window.monitorIndex == i && !window.finishing)

/-- The windows of monitors beyond the count are told to finish, and what is launched
for one of these is a stray. -/
def setMonitorCount (screens : Screens) (requestedCount : Int) : Screens :=
  let main := screens.main
  let count := (max 1 (min (main.availableMonitorCount : Int) requestedCount)).toNat
  { main := { main with
      monitorCount := count
      launchedSecondaries := (main.launchedSecondaries ∪ Finset.Ico 1 count).filter
        (fun i => i < count) }.setScreenCount
        count main.availableMonitorCount
    intents := screens.intents ++ (List.range' 1 (count - 1)).filter (fun i => i ∉ main.launchedSecondaries)
    active := screens.active.map (fun window =>
      if count ≤ window.monitorIndex then { window with finishing := true } else window)
    strays := fun i => if count ≤ i then screens.coming i else screens.strays i
    closed := fun i => if count ≤ i then 0 else screens.closed i }

def onAvailableMonitors (screens : Screens) (count : Int) : Screens :=
  let available := (max 1 (min (MAX_MONITORS : Int) count)).toNat
  let screens := { screens with main := { screens.main with availableMonitorCount := available } }
  if available < screens.main.monitorCount then screens.setMonitorCount available
  else { screens with main := screens.main.setScreenCount screens.main.monitorCount available }

/-- A window is gone, at its own request or at that of the user. -/
def onDestroy (screens : Screens) (window : MonitorActivity) : Screens :=
  { screens with
    active := screens.active.erase window
    closed := fun i =>
      if window.monitorIndex = i ∧ window.finishing = false then screens.closed i + 1 else screens.closed i }

inductive Action where
  | minus
  | plus
  | availableMonitors (count : Int)
  | create (i : Nat)
  | destroy (window : MonitorActivity)
  | recreate
  deriving DecidableEq

/-- The buttons are enabled only within their limits. -/
def step (screens : Screens) : Action → Option Screens
  | .minus =>
      if 1 < screens.main.screenCount then some (screens.setMonitorCount (screens.main.screenCount - 1)) else none
  | .plus =>
      if screens.main.screenCount < screens.main.maxScreens then
        some (screens.setMonitorCount (screens.main.screenCount + 1))
      else none
  | .availableMonitors count => some (screens.onAvailableMonitors count)
  | .create i =>
      if i ∈ screens.intents then
        some { screens with
          intents := screens.intents.erase i
          active := screens.active ++ [⟨i, false⟩] }
      else none
  | .destroy window => if window ∈ screens.active then some (screens.onDestroy window) else none
  | .recreate =>
      some { screens with
        main := .created
        strays := fun i => screens.coming i + screens.showing i
        closed := fun _ => 0 }

/-! ## The count -/

/-- The count is within its limits, the toolbar shows it, and the monitors below it are
those that were launched. -/
structure Fits (screens : Screens) : Prop where
  least : 1 ≤ screens.main.monitorCount
  most : screens.main.monitorCount ≤ screens.main.availableMonitorCount
  limit : screens.main.availableMonitorCount ≤ MAX_MONITORS
  launched : screens.main.launchedSecondaries = Finset.Ico 1 screens.main.monitorCount
  screenCount : screens.main.screenCount = screens.main.monitorCount
  maxScreens : screens.main.maxScreens = screens.main.availableMonitorCount
  intents : ∀ i ∈ screens.intents, 1 ≤ i ∧ i < MAX_MONITORS
  active : ∀ window ∈ screens.active, 1 ≤ window.monitorIndex ∧ window.monitorIndex < MAX_MONITORS

/-- Every monitor has one window, or the launch of one, apart from what was closed and
from strays. -/
def Accounted (screens : Screens) : Prop :=
  ∀ i, 1 ≤ i → screens.coming i + screens.showing i + screens.closed i =
    (if i < screens.main.monitorCount then 1 else 0) + screens.strays i

section Steps

variable {screens next : Screens}

theorem fits_start : start.Fits where
  least := by decide
  most := by decide
  limit := by decide
  launched := by decide
  screenCount := rfl
  maxScreens := rfl
  intents := List.forall_mem_nil _
  active := List.forall_mem_nil _

theorem Fits.setMonitorCount (available : 1 ≤ screens.main.availableMonitorCount)
    (limit : screens.main.availableMonitorCount ≤ MAX_MONITORS)
    (intents : ∀ i ∈ screens.intents, 1 ≤ i ∧ i < MAX_MONITORS)
    (active : ∀ window ∈ screens.active, 1 ≤ window.monitorIndex ∧ window.monitorIndex < MAX_MONITORS)
    (launched : ∃ count, screens.main.launchedSecondaries = Finset.Ico 1 count) (requestedCount : Int) :
    (screens.setMonitorCount requestedCount).Fits := by
  obtain ⟨before, launched⟩ := launched
  generalize isCount : (max 1 (min (screens.main.availableMonitorCount : Int) requestedCount)).toNat = count
  have least : 1 ≤ count := by omega
  have most : count ≤ screens.main.availableMonitorCount := by omega
  rw [Screens.setMonitorCount]
  simp only [isCount]
  refine ⟨least, most, limit, ?_, ?_, ?_, ?_, ?_⟩
  · ext i
    simp [MainActivity.setScreenCount, launched]
    omega
  · exact max_eq_right least
  · exact max_eq_right available
  · refine List.forall_mem_append.mpr ⟨intents, ?_⟩
    intro i member
    have range := List.mem_range'_1.mp (List.mem_of_mem_filter member)
    omega
  · refine List.forall_mem_map.mpr ?_
    intro window member
    have range := active window member
    split <;> exact range

/-- A monitor that is launched anew gets one launch. -/
theorem count_launches {launched : Finset Nat} {count i : Nat} (positive : 1 ≤ i) :
    ((List.range' 1 (count - 1)).filter (fun i => i ∉ launched)).count i =
      if i < count ∧ i ∉ launched then 1 else 0 := by
  have inside : i ∈ List.range' 1 (count - 1) ↔ i < count := by
    rw [List.mem_range'_1]
    omega
  by_cases absent : i ∈ launched
  · rw [if_neg (fun both => both.2 absent), List.count_eq_zero]
    intro member
    simp only [List.mem_filter, decide_eq_true_eq] at member
    exact member.2 absent
  · rw [List.count_filter (by simpa using absent)]
    by_cases below : i < count
    · rw [if_pos ⟨below, absent⟩]
      exact List.count_eq_one_of_mem List.nodup_range' (inside.mpr below)
    · rw [if_neg (fun both => below both.1)]
      exact List.count_eq_zero_of_not_mem (fun member => below (inside.mp member))

/-- The windows of monitors below the count stay, the others are told to finish. -/
theorem countP_finish (active : List MonitorActivity) (count i : Nat) :
    (active.map (fun window =>
      if count ≤ window.monitorIndex then { window with finishing := true } else window)).countP
        (fun window => window.monitorIndex == i && !window.finishing) =
      if count ≤ i then 0 else active.countP (fun window => window.monitorIndex == i && !window.finishing) := by
  rw [List.countP_map]
  split
  · rename_i away
    apply List.countP_eq_zero.mpr
    intro window _
    by_cases same : window.monitorIndex = i
    · simp [same, away]
    · by_cases beyond : count ≤ window.monitorIndex <;> simp [same, beyond]
  · rename_i near
    apply List.countP_congr
    intro window _
    by_cases beyond : count ≤ window.monitorIndex
    · have other : window.monitorIndex ≠ i := fun same => near (same ▸ beyond)
      simp [beyond, other]
    · simp [beyond]

theorem Accounted.setMonitorCount (accounted : screens.Accounted)
    (launched : screens.main.launchedSecondaries = Finset.Ico 1 screens.main.monitorCount) (requestedCount : Int) :
    (screens.setMonitorCount requestedCount).Accounted := by
  intro i positive
  have before := accounted i positive
  have absent : i ∉ screens.main.launchedSecondaries ↔ screens.main.monitorCount ≤ i := by
    rw [launched, Finset.mem_Ico]
    omega
  rw [Screens.setMonitorCount]
  generalize (max 1 (min (screens.main.availableMonitorCount : Int) requestedCount)).toNat = count
  simp only [coming, showing, MainActivity.setScreenCount, List.count_append, count_launches positive, countP_finish,
    absent]
  rw [coming, showing] at before
  by_cases away : count ≤ i
  · have beyond : ¬i < count := Nat.not_lt.mpr away
    simp [away, beyond]
  · have below : i < count := Nat.lt_of_not_le away
    by_cases new : screens.main.monitorCount ≤ i
    · simp only [if_neg (Nat.not_lt.mpr new)] at before
      simp [away, below, new]
      omega
    · simp only [if_pos (Nat.lt_of_not_le new)] at before
      simp [away, below, new]
      omega

theorem Fits.step (fits : screens.Fits) {action : Action} (stepped : Screens.step screens action = some next) :
    next.Fits := by
  have available : 1 ≤ screens.main.availableMonitorCount := fits.least.trans fits.most
  cases action with
  | minus =>
      obtain ⟨_, rfl⟩ := eq_of_guarded stepped
      exact Fits.setMonitorCount available fits.limit fits.intents fits.active ⟨_, fits.launched⟩ _
  | plus =>
      obtain ⟨_, rfl⟩ := eq_of_guarded stepped
      exact Fits.setMonitorCount available fits.limit fits.intents fits.active ⟨_, fits.launched⟩ _
  | availableMonitors count =>
      cases stepped
      rw [onAvailableMonitors]
      generalize isAvailable : (max 1 (min (MAX_MONITORS : Int) count)).toNat = available
      have three : MAX_MONITORS = 3 := rfl
      have some : 1 ≤ available := by omega
      have few : available ≤ MAX_MONITORS := by omega
      dsimp only
      split
      · exact @Fits.setMonitorCount { screens with main := { screens.main with availableMonitorCount := available } }
          some few fits.intents fits.active ⟨_, fits.launched⟩ _
      · rename_i enough
        refine ⟨fits.least, Nat.not_lt.mp enough, few, fits.launched, ?_, ?_, fits.intents, fits.active⟩
        · exact max_eq_right fits.least
        · exact max_eq_right some
  | create i =>
      obtain ⟨member, rfl⟩ := eq_of_guarded stepped
      refine ⟨fits.least, fits.most, fits.limit, fits.launched, fits.screenCount, fits.maxScreens, ?_, ?_⟩
      · exact fun other among => fits.intents other (List.mem_of_mem_erase among)
      · exact List.forall_mem_append.mpr ⟨fits.active, List.forall_mem_singleton.mpr (fits.intents i member)⟩
  | destroy window =>
      obtain ⟨_, rfl⟩ := eq_of_guarded stepped
      refine ⟨fits.least, fits.most, fits.limit, fits.launched, fits.screenCount, fits.maxScreens, fits.intents, ?_⟩
      exact fun other among => fits.active other (List.mem_of_mem_erase among)
  | recreate =>
      cases stepped
      exact ⟨fits_start.least, fits_start.most, fits_start.limit, fits_start.launched, rfl, rfl, fits.intents,
        fits.active⟩

theorem Accounted.step (accounted : screens.Accounted) (fits : screens.Fits) {action : Action}
    (stepped : Screens.step screens action = some next) : next.Accounted := by
  cases action with
  | minus =>
      obtain ⟨_, rfl⟩ := eq_of_guarded stepped
      exact accounted.setMonitorCount fits.launched _
  | plus =>
      obtain ⟨_, rfl⟩ := eq_of_guarded stepped
      exact accounted.setMonitorCount fits.launched _
  | availableMonitors count =>
      cases stepped
      rw [onAvailableMonitors]
      generalize (max 1 (min (MAX_MONITORS : Int) count)).toNat = available
      have limited : Accounted { screens with main := { screens.main with availableMonitorCount := available } } :=
        accounted
      dsimp only
      split
      · exact limited.setMonitorCount fits.launched _
      · exact accounted
  | create i =>
      obtain ⟨member, rfl⟩ := eq_of_guarded stepped
      intro j positive
      have before := accounted j positive
      have launches := (List.perm_cons_erase member).count_eq j
      rw [List.count_cons] at launches
      have shows : ([⟨i, false⟩] : List MonitorActivity).countP
          (fun window => window.monitorIndex == j && !window.finishing) = if i == j then 1 else 0 := by
        simp [List.countP_singleton]
      simp only [coming, showing] at before
      simp only [coming, showing, List.countP_append, shows]
      omega
  | destroy window =>
      obtain ⟨member, rfl⟩ := eq_of_guarded stepped
      intro j positive
      have before := accounted j positive
      have windows := (List.perm_cons_erase member).countP_eq
        (fun window => window.monitorIndex == j && !window.finishing)
      rw [List.countP_cons] at windows
      simp only [coming, showing] at before
      rw [onDestroy]
      simp only [coming, showing]
      by_cases lost : window.monitorIndex = j ∧ window.finishing = false
      · have counted : (window.monitorIndex == j && !window.finishing) = true := by simpa using lost
        rw [if_pos counted] at windows
        rw [if_pos lost]
        omega
      · have still : ¬(window.monitorIndex == j && !window.finishing) = true := by simpa using lost
        rw [if_neg still] at windows
        rw [if_neg lost]
        omega
  | recreate =>
      cases stepped
      intro i positive
      have beyond : ¬i < MainActivity.created.monitorCount := Nat.not_lt.mpr positive
      simp [beyond, coming, showing]

/-- Once everything has settled, and nothing was closed or is left over, there is one
window for each monitor below the count. -/
theorem Accounted.perm (accounted : screens.Accounted) (fits : screens.Fits)
    (orderly : ∀ i, screens.strays i = 0 ∧ screens.closed i = 0) (settled : screens.intents = [])
    (quiet : ∀ window ∈ screens.active, window.finishing = false) :
    (screens.active.map MonitorActivity.monitorIndex).Perm (List.range' 1 (screens.main.monitorCount - 1)) := by
  apply List.perm_iff_count.mpr
  intro i
  have shown : (screens.active.map MonitorActivity.monitorIndex).count i = screens.showing i := by
    rw [List.count, List.countP_map, showing]
    apply List.countP_congr
    intro window member
    simp [quiet window member]
  by_cases positive : 1 ≤ i
  · have one := accounted i positive
    simp only [orderly i, coming, settled, List.count_nil, Nat.zero_add, Nat.add_zero] at one
    have launches := @count_launches ∅ screens.main.monitorCount i positive
    simp only [Finset.notMem_empty, not_false_eq_true, decide_true, List.filter_true, and_true] at launches
    rw [shown, one, launches]
  · rw [List.count_eq_zero_of_not_mem, List.count_eq_zero_of_not_mem]
    · exact fun member => positive (List.mem_range'_1.mp member).1
    · intro member
      obtain ⟨window, among, rfl⟩ := List.mem_map.mp member
      exact positive (fits.active window among).1

/-- However the count changes, windows come and go and the first activity is created
anew, the count is within its limits, the toolbar shows it, and each monitor has its
window, apart from what was closed and from what was left over. -/
theorem windows_accounted {actions : List Action} (ran : run Screens.step start actions = some screens) :
    screens.Fits ∧ screens.Accounted ∧
      ((∀ i, screens.strays i = 0 ∧ screens.closed i = 0) → screens.intents = [] →
        (∀ window ∈ screens.active, window.finishing = false) →
        (screens.active.map MonitorActivity.monitorIndex).Perm (List.range' 1 (screens.main.monitorCount - 1))) := by
  have preserved : ∀ screens action next, screens.Fits ∧ screens.Accounted →
      Screens.step screens action = some next → next.Fits ∧ next.Accounted :=
    fun _ _ _ holds stepped => ⟨holds.1.step stepped, holds.2.step holds.1 stepped⟩
  have first : start.Accounted := by
    intro i positive
    have beyond : ¬i < 1 := Nat.not_lt.mpr positive
    simp [start, coming, showing, MainActivity.created, beyond]
  obtain ⟨fits, accounted⟩ := run_invariant preserved ⟨fits_start, first⟩ ran
  exact ⟨fits, accounted, accounted.perm fits⟩

end Steps

theorem windows_accounted_sample :
    ∃ screens, run Screens.step start [.plus, .create 1, .plus, .minus, .create 2] = some screens ∧
      screens.main.monitorCount = 2 ∧ screens.strays 2 = 1 ∧
      screens.coming 2 + screens.showing 2 + screens.closed 2 = 1 := by
  have ran : ∃ screens, run Screens.step start [.plus, .create 1, .plus, .minus, .create 2] = some screens ∧
      screens.main.monitorCount = 2 ∧ screens.strays 2 = 1 := ⟨_, rfl, rfl, by decide⟩
  obtain ⟨screens, ran, count, stray⟩ := ran
  have shown := (windows_accounted ran).2.1 2 (by decide)
  rw [count, stray] at shown
  exact ⟨screens, ran, count, stray, shown⟩

end Screens
end MetaShare
