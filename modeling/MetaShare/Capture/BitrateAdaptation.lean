import Mathlib.Data.List.Pairwise
import Mathlib.Algebra.Order.Ring.Rat
import Mathlib.Algebra.Order.Ring.Int
import Mathlib.Tactic.Common
import Mathlib.Tactic.NormNum

namespace MetaShare

/-!
# Adapting the bitrate

The loss that the client reports drives the bitrate of a pipeline: it is cut on
loss, and creeps up again to the configured maximum once the link is clean.
-/

/-- The fields of a pipeline for the adaptation.  Times count nanoseconds. -/
structure Pipeline where
  abrKbps : Int
  abrLastDown : Int
  abrCleanSince : Int
  deriving DecidableEq

namespace Pipeline

def kAbrMinKbps : Int := 2000
def kAbrDownCooldown : Int := 2 * 10 ^ 9
def kAbrGrowAfterClean : Int := 4 * 10 ^ 9

/-- The values of the literals `0.02f` and `0.005f`. -/
def lossy : Rat := 5368709 / 268435456
def clean : Rat := 5368709 / 1073741824

/-- The products with the cut factor and with the growth factor, however they are
rounded. -/
structure Rounding where
  cut : Int → Int
  grow : Int → Int
  cut_le : ∀ kbps, 0 < kbps → cut kbps ≤ kbps
  le_grow : ∀ kbps, 0 < kbps → kbps ≤ grow kbps

structure Report where
  now : Int
  lost : Rat
  deriving DecidableEq

/-- Streaming is set up. -/
def configured (maxKbps now : Int) : Pipeline := ⟨maxKbps, now, now⟩

/-- The second component is the bitrate that the encoder is told, if it changes. -/
def onLossReport (rounding : Rounding) (maxKbps : Int) (pipeline : Pipeline) (report : Report) :
    Pipeline × Option Int :=
  let decided : Pipeline :=
    if lossy < report.lost then
      if kAbrDownCooldown ≤ report.now - pipeline.abrLastDown then
        ⟨max kAbrMinKbps (rounding.cut pipeline.abrKbps), report.now, report.now⟩
      else { pipeline with abrCleanSince := report.now }
    else if report.lost < clean then
      if kAbrGrowAfterClean ≤ report.now - pipeline.abrCleanSince ∧ pipeline.abrKbps < maxKbps then
        { pipeline with
          abrKbps := min maxKbps (rounding.grow pipeline.abrKbps)
          abrCleanSince := report.now }
      else pipeline
    else { pipeline with abrCleanSince := report.now }
  (decided, if decided.abrKbps = pipeline.abrKbps then none else some decided.abrKbps)

/-! ## Histories -/

/-- A report, and the bitrate before and after it. -/
structure Entry where
  report : Report
  before : Int
  after : Int
  deriving DecidableEq

def history (rounding : Rounding) (maxKbps : Int) : Pipeline → List Report → List Entry
  | _, [] => []
  | pipeline, report :: rest =>
      let next := (pipeline.onLossReport rounding maxKbps report).1
      ⟨report, pipeline.abrKbps, next.abrKbps⟩ :: history rounding maxKbps next rest

def Entry.Reduces (entry : Entry) : Prop := entry.after < entry.before

def Entry.Raises (entry : Entry) : Prop := entry.before < entry.after

/-- The bitrate stays between the floor and the maximum, and changes slowly. -/
structure Adapts (maxKbps : Int) (entries : List Entry) : Prop where
  bounded : ∀ entry ∈ entries, min kAbrMinKbps maxKbps ≤ entry.after ∧ entry.after ≤ maxKbps
  cautious : ∀ entry ∈ entries, lossy < entry.report.lost → entry.after ≤ entry.before
  spaced : entries.Pairwise fun earlier later =>
    earlier.Reduces → later.Reduces → kAbrDownCooldown ≤ later.report.now - earlier.report.now
  patient : entries.Pairwise fun earlier later =>
    earlier.Raises ∨ clean ≤ earlier.report.lost → later.Raises →
      kAbrGrowAfterClean ≤ later.report.now - earlier.report.now

/-! ## One report -/

variable {rounding : Rounding} {maxKbps : Int} {pipeline : Pipeline} {report : Report}

/-- What a report does, one case for each outcome. -/
inductive Does (rounding : Rounding) (maxKbps : Int) (pipeline : Pipeline) (report : Report) : Pipeline → Prop where
  | cut (loss : lossy < report.lost) (cool : kAbrDownCooldown ≤ report.now - pipeline.abrLastDown) :
      Does rounding maxKbps pipeline report
        ⟨max kAbrMinKbps (rounding.cut pipeline.abrKbps), report.now, report.now⟩
  | hold (loss : clean ≤ report.lost) :
      Does rounding maxKbps pipeline report { pipeline with abrCleanSince := report.now }
  | grow (quiet : report.lost < clean) (long : kAbrGrowAfterClean ≤ report.now - pipeline.abrCleanSince)
      (below : pipeline.abrKbps < maxKbps) :
      Does rounding maxKbps pipeline report { pipeline with
        abrKbps := min maxKbps (rounding.grow pipeline.abrKbps), abrCleanSince := report.now }
  | keep (quiet : report.lost < clean) : Does rounding maxKbps pipeline report pipeline

theorem clean_lt_lossy : clean < lossy := by
  unfold clean lossy
  norm_num

theorem does_onLossReport (rounding : Rounding) (maxKbps : Int) (pipeline : Pipeline) (report : Report) :
    Does rounding maxKbps pipeline report (pipeline.onLossReport rounding maxKbps report).1 := by
  unfold onLossReport
  dsimp only
  split
  · rename_i loss
    split
    · rename_i cool
      exact .cut loss cool
    · exact .hold (clean_lt_lossy.trans loss).le
  · split
    · rename_i quiet
      split
      · rename_i ready
        exact .grow quiet ready.1 ready.2
      · exact .keep quiet
    · rename_i moderate
      exact .hold (not_lt.mp moderate)

variable {next : Pipeline}

/-- The bitrate stays between the floor and a maximum that is not below it. -/
theorem Does.bounded (does : Does rounding maxKbps pipeline report next) (room : kAbrMinKbps ≤ maxKbps)
    (floor : kAbrMinKbps ≤ pipeline.abrKbps) (ceiling : pipeline.abrKbps ≤ maxKbps) :
    kAbrMinKbps ≤ next.abrKbps ∧ next.abrKbps ≤ maxKbps := by
  have positive : 0 < pipeline.abrKbps := lt_of_lt_of_le (by decide) floor
  cases does with
  | cut =>
      constructor
      · exact le_max_left _ _
      · exact max_le room ((rounding.cut_le _ positive).trans ceiling)
  | hold => exact ⟨floor, ceiling⟩
  | grow =>
      constructor
      · exact le_min room (floor.trans (rounding.le_grow _ positive))
      · exact min_le_left _ _
  | keep => exact ⟨floor, ceiling⟩

/-- On loss the bitrate is not raised. -/
theorem Does.cautious (does : Does rounding maxKbps pipeline report next) (loss : lossy < report.lost)
    (floor : kAbrMinKbps ≤ pipeline.abrKbps) : next.abrKbps ≤ pipeline.abrKbps := by
  have positive : 0 < pipeline.abrKbps := lt_of_lt_of_le (by decide) floor
  have lost : ¬ report.lost < clean := not_lt.mpr (clean_lt_lossy.trans loss).le
  cases does with
  | cut => exact max_le floor (rounding.cut_le _ positive)
  | hold => exact le_refl _
  | grow quiet => exact absurd quiet lost
  | keep => exact le_refl _

/-- A reduction waits for the cooldown, and starts it again. -/
theorem Does.reduces (does : Does rounding maxKbps pipeline report next)
    (floor : kAbrMinKbps ≤ pipeline.abrKbps) (reduces : next.abrKbps < pipeline.abrKbps) :
    kAbrDownCooldown ≤ report.now - pipeline.abrLastDown ∧ next.abrLastDown = report.now := by
  have positive : 0 < pipeline.abrKbps := lt_of_lt_of_le (by decide) floor
  cases does with
  | cut _ cool => exact ⟨cool, rfl⟩
  | hold => exact absurd reduces (lt_irrefl _)
  | grow _ _ below =>
      have grown : pipeline.abrKbps ≤ min maxKbps (rounding.grow pipeline.abrKbps) :=
        le_min below.le (rounding.le_grow _ positive)
      exact absurd reduces (not_lt.mpr grown)
  | keep => exact absurd reduces (lt_irrefl _)

/-- A raise waits until the link has been clean for long enough. -/
theorem Does.raises (does : Does rounding maxKbps pipeline report next)
    (floor : kAbrMinKbps ≤ pipeline.abrKbps) (raises : pipeline.abrKbps < next.abrKbps) :
    kAbrGrowAfterClean ≤ report.now - pipeline.abrCleanSince ∧ next.abrCleanSince = report.now := by
  have positive : 0 < pipeline.abrKbps := lt_of_lt_of_le (by decide) floor
  cases does with
  | cut =>
      have reduced : max kAbrMinKbps (rounding.cut pipeline.abrKbps) ≤ pipeline.abrKbps :=
        max_le floor (rounding.cut_le _ positive)
      exact absurd raises (not_lt.mpr reduced)
  | hold => exact absurd raises (lt_irrefl _)
  | grow _ long => exact ⟨long, rfl⟩
  | keep => exact absurd raises (lt_irrefl _)

/-- Only loss lowers the bitrate. -/
theorem Does.lossy_of_reduces (does : Does rounding maxKbps pipeline report next)
    (floor : kAbrMinKbps ≤ pipeline.abrKbps) (reduces : next.abrKbps < pipeline.abrKbps) : lossy < report.lost := by
  have positive : 0 < pipeline.abrKbps := lt_of_lt_of_le (by decide) floor
  cases does with
  | cut loss => exact loss
  | hold => exact absurd reduces (lt_irrefl _)
  | grow _ _ below =>
      have grown : pipeline.abrKbps ≤ min maxKbps (rounding.grow pipeline.abrKbps) :=
        le_min below.le (rounding.le_grow _ positive)
      exact absurd reduces (not_lt.mpr grown)
  | keep => exact absurd reduces (lt_irrefl _)

/-- Only a clean link raises the bitrate. -/
theorem Does.quiet_of_raises (does : Does rounding maxKbps pipeline report next)
    (floor : kAbrMinKbps ≤ pipeline.abrKbps) (raises : pipeline.abrKbps < next.abrKbps) : report.lost < clean := by
  have positive : 0 < pipeline.abrKbps := lt_of_lt_of_le (by decide) floor
  cases does with
  | cut =>
      have reduced : max kAbrMinKbps (rounding.cut pipeline.abrKbps) ≤ pipeline.abrKbps :=
        max_le floor (rounding.cut_le _ positive)
      exact absurd raises (not_lt.mpr reduced)
  | hold => exact absurd raises (lt_irrefl _)
  | grow quiet => exact quiet
  | keep quiet => exact quiet

/-- After loss the last cut is never longer ago than the cooldown. -/
theorem cool_of_lossy (loss : lossy < report.lost) :
    report.now - (pipeline.onLossReport rounding maxKbps report).1.abrLastDown < kAbrDownCooldown := by
  unfold onLossReport
  dsimp only
  rw [if_pos loss]
  split
  · change report.now - report.now < kAbrDownCooldown
    rw [Int.sub_self]
    decide
  · rename_i warm
    exact not_le.mp warm

theorem Does.lastDown (does : Does rounding maxKbps pipeline report next) :
    pipeline.abrLastDown ≤ next.abrLastDown := by
  cases does with
  | cut _ cool =>
      have later : 0 ≤ report.now - pipeline.abrLastDown := le_trans (by decide) cool
      exact Int.sub_nonneg.mp later
  | _ => exact le_refl _

theorem Does.cleanSince (does : Does rounding maxKbps pipeline report next)
    (past : pipeline.abrCleanSince ≤ report.now) :
    pipeline.abrCleanSince ≤ next.abrCleanSince ∧ next.abrCleanSince ≤ report.now := by
  cases does with
  | keep => exact ⟨le_refl _, past⟩
  | _ => exact ⟨past, le_refl _⟩

/-- A report with loss starts the wait for a clean link again. -/
theorem Does.unclean (does : Does rounding maxKbps pipeline report next) (loss : clean ≤ report.lost) :
    next.abrCleanSince = report.now := by
  cases does with
  | grow quiet => exact absurd quiet (not_lt.mpr loss)
  | keep quiet => exact absurd quiet (not_lt.mpr loss)
  | _ => rfl

/-! ## All reports -/

/-- The bitrate is between the floor and the maximum, and the link has not been
clean since a later time. -/
structure Within (maxKbps now : Int) (pipeline : Pipeline) : Prop where
  floor : kAbrMinKbps ≤ pipeline.abrKbps
  ceiling : pipeline.abrKbps ≤ maxKbps
  past : pipeline.abrCleanSince ≤ now

theorem Within.step {now : Int} (within : pipeline.Within maxKbps now) (room : kAbrMinKbps ≤ maxKbps)
    (later : now ≤ report.now) (does : Does rounding maxKbps pipeline report next) :
    next.Within maxKbps report.now := by
  have bounded := does.bounded room within.floor within.ceiling
  exact ⟨bounded.1, bounded.2, (does.cleanSince (within.past.trans later)).2⟩

/-- The clock never goes back from one report to the next. -/
def Clocked (now : Int) (reports : List Report) : Prop := (now :: reports.map Report.now).Pairwise (· ≤ ·)

theorem Clocked.head {now : Int} {rest : List Report} (clocked : Clocked now (report :: rest)) :
    now ≤ report.now ∧ Clocked report.now rest := by
  obtain ⟨first, others⟩ := List.pairwise_cons.mp clocked
  exact ⟨first report.now List.mem_cons_self, others⟩

theorem bounded_history {reports : List Report} {now : Int} (within : pipeline.Within maxKbps now)
    (room : kAbrMinKbps ≤ maxKbps) (clocked : Clocked now reports) :
    ∀ entry ∈ history rounding maxKbps pipeline reports,
      (kAbrMinKbps ≤ entry.after ∧ entry.after ≤ maxKbps) ∧
        (lossy < entry.report.lost → entry.after ≤ entry.before) := by
  induction reports generalizing pipeline now with
  | nil =>
      intro entry impossible
      cases impossible
  | cons report rest inductionHypothesis =>
      have does := does_onLossReport rounding maxKbps pipeline report
      obtain ⟨later, others⟩ := clocked.head
      intro entry member
      rcases List.mem_cons.mp member with rfl | member
      · exact ⟨does.bounded room within.floor within.ceiling, fun loss => does.cautious loss within.floor⟩
      · exact inductionHypothesis (within.step room later does) others entry member

/-- Reductions wait for the cooldown since the last one. -/
theorem reduces_history {reports : List Report} {now : Int} (within : pipeline.Within maxKbps now)
    (room : kAbrMinKbps ≤ maxKbps) (clocked : Clocked now reports) :
    ∀ entry ∈ history rounding maxKbps pipeline reports, entry.Reduces →
      kAbrDownCooldown ≤ entry.report.now - pipeline.abrLastDown := by
  induction reports generalizing pipeline now with
  | nil =>
      intro entry impossible
      cases impossible
  | cons report rest inductionHypothesis =>
      have does := does_onLossReport rounding maxKbps pipeline report
      obtain ⟨later, others⟩ := clocked.head
      intro entry member reduces
      rcases List.mem_cons.mp member with rfl | member
      · exact (does.reduces within.floor reduces).1
      · have waited := inductionHypothesis (within.step room later does) others entry member reduces
        exact waited.trans (Int.sub_le_sub_left does.lastDown _)

/-- Raises wait since the link is clean. -/
theorem raises_history {reports : List Report} {now : Int} (within : pipeline.Within maxKbps now)
    (room : kAbrMinKbps ≤ maxKbps) (clocked : Clocked now reports) :
    ∀ entry ∈ history rounding maxKbps pipeline reports, entry.Raises →
      kAbrGrowAfterClean ≤ entry.report.now - pipeline.abrCleanSince := by
  induction reports generalizing pipeline now with
  | nil =>
      intro entry impossible
      cases impossible
  | cons report rest inductionHypothesis =>
      have does := does_onLossReport rounding maxKbps pipeline report
      obtain ⟨later, others⟩ := clocked.head
      intro entry member raises
      rcases List.mem_cons.mp member with rfl | member
      · exact (does.raises within.floor raises).1
      · have waited := inductionHypothesis (within.step room later does) others entry member raises
        have since := (does.cleanSince (within.past.trans later)).1
        exact waited.trans (Int.sub_le_sub_left since _)

theorem spaced_history {reports : List Report} {now : Int} (within : pipeline.Within maxKbps now)
    (room : kAbrMinKbps ≤ maxKbps) (clocked : Clocked now reports) :
    (history rounding maxKbps pipeline reports).Pairwise fun earlier later =>
      earlier.Reduces → later.Reduces → kAbrDownCooldown ≤ later.report.now - earlier.report.now := by
  induction reports generalizing pipeline now with
  | nil => exact List.Pairwise.nil
  | cons report rest inductionHypothesis =>
      have does := does_onLossReport rounding maxKbps pipeline report
      obtain ⟨later, others⟩ := clocked.head
      have stays := within.step room later does
      refine List.pairwise_cons.mpr ⟨?_, inductionHypothesis stays others⟩
      intro entry member reduced reduces
      have last : _ = report.now := (does.reduces within.floor reduced).2
      exact last ▸ reduces_history stays room others entry member reduces

theorem patient_history {reports : List Report} {now : Int} (within : pipeline.Within maxKbps now)
    (room : kAbrMinKbps ≤ maxKbps) (clocked : Clocked now reports) :
    (history rounding maxKbps pipeline reports).Pairwise fun earlier later =>
      earlier.Raises ∨ clean ≤ earlier.report.lost → later.Raises →
        kAbrGrowAfterClean ≤ later.report.now - earlier.report.now := by
  induction reports generalizing pipeline now with
  | nil => exact List.Pairwise.nil
  | cons report rest inductionHypothesis =>
      have does := does_onLossReport rounding maxKbps pipeline report
      obtain ⟨later, others⟩ := clocked.head
      have stays := within.step room later does
      refine List.pairwise_cons.mpr ⟨?_, inductionHypothesis stays others⟩
      intro entry member restarted raises
      have since : (pipeline.onLossReport rounding maxKbps report).1.abrCleanSince = report.now := by
        rcases restarted with raised | lost
        · exact (does.raises within.floor raised).2
        · exact does.unclean lost
      exact since ▸ raises_history stays room others entry member raises

theorem Within.adapts {reports : List Report} {now : Int} (within : pipeline.Within maxKbps now)
    (room : kAbrMinKbps ≤ maxKbps) (clocked : Clocked now reports) :
    Adapts maxKbps (history rounding maxKbps pipeline reports) where
  bounded := by
    intro entry member
    rw [min_eq_left room]
    exact (bounded_history within room clocked entry member).1
  cautious := fun entry member => (bounded_history within room clocked entry member).2
  spaced := spaced_history within room clocked
  patient := patient_history within room clocked

/-! ## A maximum below the floor -/

/-- A report takes the cut if it tells of loss and comes late enough. -/
def Cuts (since : Int) (report : Report) : Prop :=
  lossy < report.lost ∧ kAbrDownCooldown ≤ report.now - since

/-- A cut goes up to the floor, whatever the maximum is. -/
theorem floor_of_cuts (cuts : Cuts pipeline.abrLastDown report) :
    kAbrMinKbps ≤ (pipeline.onLossReport rounding maxKbps report).1.abrKbps := by
  unfold onLossReport
  rw [if_pos cuts.1, if_pos cuts.2]
  exact le_max_left _ _

theorem Does.sameLastDown (does : Does rounding maxKbps pipeline report next)
    (stays : ¬ Cuts pipeline.abrLastDown report) : next.abrLastDown = pipeline.abrLastDown := by
  cases does with
  | cut loss cool => exact absurd ⟨loss, cool⟩ stays
  | _ => rfl

/-- At the maximum, only a cut changes the bitrate. -/
theorem Does.sameKbps (does : Does rounding maxKbps pipeline report next)
    (stays : ¬ Cuts pipeline.abrLastDown report) (full : pipeline.abrKbps = maxKbps) : next.abrKbps = maxKbps := by
  cases does with
  | cut loss cool => exact absurd ⟨loss, cool⟩ stays
  | hold => exact full
  | grow _ _ below => exact absurd (full ▸ below) (lt_irrefl _)
  | keep => exact full

/-- The first report that takes the cut is found by its bitrate. -/
theorem cut_history {reports : List Report} (cuts : ∃ report ∈ reports, Cuts pipeline.abrLastDown report) :
    ∃ entry ∈ history rounding maxKbps pipeline reports, kAbrMinKbps ≤ entry.after := by
  induction reports generalizing pipeline with
  | nil =>
      obtain ⟨report, impossible, _⟩ := cuts
      cases impossible
  | cons report rest inductionHypothesis =>
      by_cases now : Cuts pipeline.abrLastDown report
      · exact ⟨_, List.mem_cons_self, floor_of_cuts now⟩
      · have same := (does_onLossReport rounding maxKbps pipeline report).sameLastDown now
        obtain ⟨later, member, cutsLater⟩ := cuts
        rcases List.mem_cons.mp member with rfl | member
        · exact absurd cutsLater now
        · obtain ⟨entry, isEntry, floor⟩ := inductionHypothesis ⟨later, member, same.symm ▸ cutsLater⟩
          exact ⟨entry, List.mem_cons_of_mem _ isEntry, floor⟩

/-- Without a cut the bitrate stays at the maximum. -/
theorem full_history {reports : List Report} (full : pipeline.abrKbps = maxKbps)
    (stays : ∀ report ∈ reports, ¬ Cuts pipeline.abrLastDown report) :
    ∀ entry ∈ history rounding maxKbps pipeline reports, entry.before = maxKbps ∧ entry.after = maxKbps := by
  induction reports generalizing pipeline with
  | nil =>
      intro entry impossible
      cases impossible
  | cons report rest inductionHypothesis =>
      have does := does_onLossReport rounding maxKbps pipeline report
      have now := stays report List.mem_cons_self
      have next := does.sameKbps now full
      intro entry member
      rcases List.mem_cons.mp member with rfl | member
      · exact ⟨full, next⟩
      · refine inductionHypothesis next ?_ entry member
        rw [does.sameLastDown now]
        exact fun later isLater => stays later (List.mem_cons_of_mem _ isLater)

theorem adapts_of_full {entries : List Entry}
    (full : ∀ entry ∈ entries, entry.before = maxKbps ∧ entry.after = maxKbps) : Adapts maxKbps entries where
  bounded := fun entry member => (full entry member).2.symm ▸ ⟨min_le_right _ _, le_refl _⟩
  cautious := fun entry member _ => ((full entry member).2.trans (full entry member).1.symm).le
  spaced := by
    refine List.pairwise_of_forall_mem_list fun earlier member _ _ reduced => ?_
    exact absurd ((full earlier member).2.trans (full earlier member).1.symm) reduced.ne
  patient := by
    refine List.pairwise_of_forall_mem_list fun _ _ later member _ raises => ?_
    exact absurd ((full later member).1.trans (full later member).2.symm) raises.ne

/-- The adaptation keeps its bounds in a history of reports if and only if the floor
is not above the maximum, or no report of loss comes when the cooldown since the
set-up is over. -/
theorem adapts_iff (rounding : Rounding) (maxKbps : Int) {now : Int} {reports : List Report}
    (clocked : Clocked now reports) :
    Adapts maxKbps (history rounding maxKbps (configured maxKbps now) reports) ↔
      kAbrMinKbps ≤ maxKbps ∨
        ∀ report ∈ reports, lossy < report.lost → report.now - now < kAbrDownCooldown := by
  constructor
  · intro adapts
    by_contra neither
    obtain ⟨low, someCut⟩ := not_or.mp neither
    simp only [not_forall, not_lt] at someCut
    obtain ⟨report, member, loss, cool⟩ := someCut
    have cuts : ∃ report ∈ reports, Cuts (configured maxKbps now).abrLastDown report := ⟨report, member, loss, cool⟩
    obtain ⟨entry, isEntry, floor⟩ := cut_history cuts
    exact low (floor.trans (adapts.bounded entry isEntry).2)
  · rintro (room | warm)
    · exact Within.adapts ⟨room, le_refl _, le_refl _⟩ room clocked
    · refine adapts_of_full (full_history rfl ?_)
      rintro report member ⟨loss, cool⟩
      exact absurd (warm report member loss) (not_lt.mpr cool)

/-- Products of exact numbers, cut off behind the point. -/
def truncated : Rounding where
  cut := fun kbps => kbps * 3 / 5
  grow := fun kbps => kbps * 27 / 25
  cut_le := by
    intro kbps positive
    omega
  le_grow := by
    intro kbps positive
    omega

/-- With a maximum of 500 kbps, loss within two seconds of the set-up is harmless. -/
theorem adapts_iff_sample :
    Adapts 500 (history truncated 500 (configured 500 0) [⟨10 ^ 9, 1⟩, ⟨6 * 10 ^ 9, 0⟩]) := by
  have clocked : Clocked 0 [⟨10 ^ 9, 1⟩, ⟨6 * 10 ^ 9, 0⟩] := by
    unfold Clocked
    decide
  apply (adapts_iff truncated 500 clocked).mpr
  refine Or.inr (List.forall_mem_cons.mpr ⟨fun _ => by decide, List.forall_mem_singleton.mpr fun loss => ?_⟩)
  exact absurd loss (by unfold lossy; norm_num)

/-- With a maximum of 500 kbps, a report of loss raises the bitrate to 2000 kbps. -/
theorem not_always_adapts : ¬ ∀ rounding maxKbps, 1 ≤ maxKbps → ∀ now reports, Clocked now reports →
    Adapts maxKbps (history rounding maxKbps (configured maxKbps now) reports) := by
  intro always
  have clocked : Clocked 0 [⟨2 * 10 ^ 9, 1⟩] := by
    unfold Clocked
    decide
  have adapts := always truncated 500 (by decide) 0 [⟨2 * 10 ^ 9, 1⟩] clocked
  have raised : (⟨⟨2 * 10 ^ 9, 1⟩, 500, 2000⟩ : Entry) ∈
      history truncated 500 (configured 500 0) [⟨2 * 10 ^ 9, 1⟩] := by decide +kernel
  exact absurd (adapts.bounded _ raised).2 (by decide)

end Pipeline
end MetaShare
