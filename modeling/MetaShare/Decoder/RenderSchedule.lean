import Mathlib.Algebra.Order.Ring.Int
import Mathlib.Data.List.Basic
import Mathlib.Data.List.Induction
import Mathlib.Tactic.Common

namespace MetaShare

/-!
# When decoded frames are shown

A frame is shown at its place on the timeline of the sender, which an anchor ties
to the clock of the device.  A frame for which there is no such place close to the
present becomes the new anchor.  No frame is shown before its predecessor.  All
times are 64-bit integers.
-/

namespace RenderSchedule

def LEAD_MS : Int64 := 8
def MAX_LEAD_MS : Int64 := 16

/-- What a call is given, and what the clock reads then. -/
structure Call where
  ptsUsec : Int64
  nowNs : Int64
  deriving DecidableEq

end RenderSchedule

/-- The fields of the decoder that are about the timeline. -/
structure RenderSchedule where
  haveAnchor : Bool
  anchorPtsUsec : Int64
  anchorRenderNs : Int64
  lastRenderNs : Int64
  deriving DecidableEq

namespace RenderSchedule

def window : Int64 := MAX_LEAD_MS * 1000000

/-- What `init` and `recover` do to the timeline. -/
def reset (schedule : RenderSchedule) : RenderSchedule := { schedule with haveAnchor := false, lastRenderNs := 0 }

/-- The place of a time stamp on the timeline. -/
def timelineNs (schedule : RenderSchedule) (ptsUsec : Int64) : Int64 :=
  schedule.anchorRenderNs + (ptsUsec - schedule.anchorPtsUsec) * 1000

def onTimeline (schedule : RenderSchedule) (call : Call) : Bool :=
  schedule.haveAnchor && schedule.anchorPtsUsec ≤ call.ptsUsec &&
    !(call.nowNs + window < schedule.timelineNs call.ptsUsec ||
      schedule.timelineNs call.ptsUsec < call.nowNs - window)

/-- The frame becomes the anchor unless it is on the timeline. -/
def anchored (schedule : RenderSchedule) (call : Call) : RenderSchedule :=
  if schedule.onTimeline call then schedule
  else { schedule with anchorPtsUsec := call.ptsUsec, anchorRenderNs := call.nowNs + LEAD_MS * 1000000,
                       haveAnchor := true }

def targetNs (schedule : RenderSchedule) (call : Call) : Int64 :=
  if schedule.onTimeline call then schedule.timelineNs call.ptsUsec else (schedule.anchored call).anchorRenderNs

def floorNs (schedule : RenderSchedule) (call : Call) : Int64 := max call.nowNs (schedule.lastRenderNs + 1)

/-- The frame is lifted by the floor. -/
def lifted (schedule : RenderSchedule) (call : Call) : Bool := schedule.targetNs call < schedule.floorNs call

def scheduleRender (schedule : RenderSchedule) (call : Call) : RenderSchedule × Int64 :=
  let targetNs := if schedule.lifted call then schedule.floorNs call else schedule.targetNs call
  ({ schedule.anchored call with lastRenderNs := targetNs }, targetNs)

/-! ## All calls since a reset -/

/-- A frame that was scheduled, with the number of its anchor, and whether it was
lifted. -/
structure Rendered where
  ptsUsec : Int64
  nowNs : Int64
  renderNs : Int64
  anchor : Nat
  lifted : Bool
  deriving DecidableEq

/-- The calls so far: the schedule, the number of anchors, and the frames. -/
structure Playout where
  schedule : RenderSchedule
  anchors : Nat
  rendered : List Rendered
  deriving DecidableEq

def Playout.next (playout : Playout) (call : Call) : Playout :=
  let anchors := if playout.schedule.onTimeline call then playout.anchors else playout.anchors + 1
  let (schedule, renderNs) := playout.schedule.scheduleRender call
  ⟨schedule, anchors,
    playout.rendered ++ [⟨call.ptsUsec, call.nowNs, renderNs, anchors, playout.schedule.lifted call⟩]⟩

/-- The calls one after another, behind a reset. -/
def play (schedule : RenderSchedule) (calls : List Call) : Playout :=
  calls.foldl Playout.next ⟨schedule.reset, 0, []⟩

/-- Playout moves forward: each frame is shown behind the one before it and not before
its own present, it is held no longer than the window and a nanosecond for each call
before it, and frames of one anchor that are not lifted are as far apart as their
time stamps. -/
structure Forward (rendered : List Rendered) : Prop where
  increasing : rendered.Pairwise (fun earlier later => earlier.renderNs < later.renderNs)
  present : ∀ frame ∈ rendered, frame.nowNs ≤ frame.renderNs
  bounded : ∀ early frame late, rendered = early ++ frame :: late →
    frame.renderNs.toInt ≤ frame.nowNs.toInt + 16000000 + (early.length : Int)
  spaced : ∀ frame ∈ rendered, ∀ other ∈ rendered, frame.anchor = other.anchor →
    frame.lifted = false → other.lifted = false →
      other.renderNs.toInt - frame.renderNs.toInt = (other.ptsUsec.toInt - frame.ptsUsec.toInt) * 1000

/-- What a 64-bit integer can be. -/
def IsLong (value : Int) : Prop := -9223372036854775808 ≤ value ∧ value ≤ 9223372036854775807

/-- The schedule can serve the call: the time behind the last frame is a 64-bit
integer, so is the place of a frame that is put on the timeline, and without a last
frame the zero that stands for it is not ahead of the window. -/
structure Serves (schedule : RenderSchedule) (call : Call) : Prop where
  after : IsLong (schedule.lastRenderNs.toInt + 1)
  placed : schedule.onTimeline call = true →
    IsLong (schedule.anchorRenderNs.toInt + (call.ptsUsec.toInt - schedule.anchorPtsUsec.toInt) * 1000)
  first : schedule.haveAnchor = false → 1 ≤ call.nowNs.toInt + 16000000

/-! ## One call -/

section Arithmetic

theorem isLong_toInt (value : Int64) : IsLong value.toInt :=
  ⟨value.le_toInt, Int.le_of_lt_add_one value.toInt_lt⟩

theorem bmod_of_isLong {value : Int} (long : IsLong value) : value.bmod (2 ^ 64) = value := by
  obtain ⟨low, high⟩ := long
  exact Int.bmod_eq_of_le (by omega) (by omega)

theorem toInt_add_of_isLong {first second : Int64} (long : IsLong (first.toInt + second.toInt)) :
    (first + second).toInt = first.toInt + second.toInt := by
  rw [Int64.toInt_add, bmod_of_isLong long]

/-- What wraps around becomes less. -/
theorem toInt_add_le {first second : Int64} (positive : 0 ≤ second.toInt) :
    (first + second).toInt ≤ first.toInt + second.toInt := by
  by_cases long : IsLong (first.toInt + second.toInt)
  · exact (toInt_add_of_isLong long).le
  · have low := (isLong_toInt first).1
    have high := (isLong_toInt (first + second)).2
    rw [IsLong, not_and_or] at long
    omega

theorem toInt_max_le {first second : Int64} {bound : Int} (left : first.toInt ≤ bound)
    (right : second.toInt ≤ bound) : (max first second).toInt ≤ bound := by
  change (if first ≤ second then second else first).toInt ≤ bound
  split
  · exact right
  · exact left

theorem le_toInt_max (first second : Int64) :
    first.toInt ≤ (max first second).toInt ∧ second.toInt ≤ (max first second).toInt := by
  change first.toInt ≤ (if first ≤ second then second else first).toInt ∧
    second.toInt ≤ (if first ≤ second then second else first).toInt
  split
  · rename_i le
    exact ⟨Int64.le_iff_toInt_le.mp le, le_rfl⟩
  · rename_i not_le
    rw [Int64.le_iff_toInt_le] at not_le
    exact ⟨le_rfl, (Int.not_le.mp not_le).le⟩

end Arithmetic

section Call

variable {schedule : RenderSchedule} {call : Call}

theorem scheduleRender_eq : schedule.scheduleRender call =
    ({ schedule.anchored call with lastRenderNs := (schedule.scheduleRender call).2 },
      if schedule.lifted call then schedule.floorNs call else schedule.targetNs call) := rfl

/-- The frame is not shown before the floor. -/
theorem floor_le : (schedule.floorNs call).toInt ≤ (schedule.scheduleRender call).2.toInt := by
  rw [scheduleRender_eq]
  split
  · exact le_rfl
  · rename_i notLifted
    rw [lifted, decide_eq_true_eq, Int64.lt_iff_toInt_lt, not_lt] at notLifted
    exact notLifted

theorem present_le : call.nowNs ≤ (schedule.scheduleRender call).2 :=
  Int64.le_iff_toInt_le.mpr ((le_toInt_max _ _).1.trans floor_le)

theorem last_lt (after : IsLong (schedule.lastRenderNs.toInt + 1)) :
    schedule.lastRenderNs < (schedule.scheduleRender call).2 := by
  have next : (schedule.lastRenderNs + 1).toInt = schedule.lastRenderNs.toInt + 1 := toInt_add_of_isLong after
  have floor := (le_toInt_max call.nowNs (schedule.lastRenderNs + 1)).2.trans floor_le
  rw [Int64.lt_iff_toInt_lt]
  omega

/-- Neither a place on the timeline nor a new anchor is behind the window. -/
theorem target_le : (schedule.targetNs call).toInt ≤ call.nowNs.toInt + 16000000 := by
  rw [targetNs]
  split
  · rename_i isOn
    have inside : ¬ call.nowNs + window < schedule.timelineNs call.ptsUsec := by
      intro beyond
      simp [onTimeline, beyond] at isOn
    rw [Int64.lt_iff_toInt_lt, not_lt] at inside
    exact inside.trans (toInt_add_le (by decide))
  · rename_i notOn
    rw [anchored, if_neg notOn]
    have lead : (call.nowNs + LEAD_MS * 1000000).toInt ≤ call.nowNs.toInt + 8000000 := toInt_add_le (by decide)
    exact lead.trans (by omega)

theorem render_le {bound : Int} (window : call.nowNs.toInt + 16000000 ≤ bound)
    (last : schedule.lastRenderNs.toInt + 1 ≤ bound) : (schedule.scheduleRender call).2.toInt ≤ bound := by
  rw [scheduleRender_eq]
  split
  · apply toInt_max_le
    · omega
    · exact (toInt_add_le (by decide)).trans last
  · exact target_le.trans window

/-- A frame that is not lifted is shown at its place from the anchor. -/
theorem render_eq (serves : Serves schedule call) (notLifted : schedule.lifted call = false) :
    (schedule.scheduleRender call).2.toInt = (schedule.anchored call).anchorRenderNs.toInt +
      (call.ptsUsec.toInt - (schedule.anchored call).anchorPtsUsec.toInt) * 1000 := by
  rw [scheduleRender_eq, if_neg (by rw [notLifted]; exact Bool.false_ne_true)]
  cases isOn : schedule.onTimeline call with
  | true =>
      have same : schedule.anchored call = schedule := if_pos isOn
      have thousand : (1000 : Int64).toInt = 1000 := by decide
      rw [targetNs, if_pos isOn, same, timelineNs, Int64.toInt_add, Int64.toInt_mul, Int64.toInt_sub, thousand,
        Int.bmod_mul_bmod, Int.add_bmod_bmod, bmod_of_isLong (serves.placed isOn)]
  | false =>
      have anew : (schedule.anchored call).anchorPtsUsec = call.ptsUsec := by
        rw [anchored, if_neg (by rw [isOn]; exact Bool.false_ne_true)]
      rw [targetNs, if_neg (by rw [isOn]; exact Bool.false_ne_true), anew, sub_self, zero_mul, add_zero]

end Call

/-! ## A run of calls -/

/-- What is kept of the frames so far: the last render time is that of the last frame,
and what is on the timeline is at its place from the anchor. -/
structure Kept (playout : Playout) : Prop where
  forward : Forward playout.rendered
  before : ∀ frame ∈ playout.rendered, frame.renderNs ≤ playout.schedule.lastRenderNs
  lead : ∀ now : Int64, (∀ frame ∈ playout.rendered, frame.nowNs ≤ now) →
    (playout.rendered = [] → 1 ≤ now.toInt + 16000000) →
      playout.schedule.lastRenderNs.toInt + 1 ≤ now.toInt + 16000000 + (playout.rendered.length : Int)
  unset : playout.rendered = [] → playout.schedule.haveAnchor = false
  numbered : ∀ frame ∈ playout.rendered, frame.anchor ≤ playout.anchors
  placed : ∀ frame ∈ playout.rendered, frame.anchor = playout.anchors → frame.lifted = false →
    frame.renderNs.toInt = playout.schedule.anchorRenderNs.toInt +
      (frame.ptsUsec.toInt - playout.schedule.anchorPtsUsec.toInt) * 1000

theorem kept_start (schedule : RenderSchedule) : Kept ⟨schedule.reset, 0, []⟩ where
  forward := ⟨List.Pairwise.nil, fun _ impossible => absurd impossible List.not_mem_nil,
    fun early frame late impossible => absurd impossible (by simp),
    fun _ impossible => absurd impossible List.not_mem_nil⟩
  before := fun _ impossible => absurd impossible List.not_mem_nil
  lead := by
    intro now _ first
    have zero : (0 : Int64).toInt = 0 := rfl
    have ahead := first rfl
    change (0 : Int64).toInt + 1 ≤ _
    rw [zero, List.length_nil]
    omega
  unset := fun _ => rfl
  numbered := fun _ impossible => absurd impossible List.not_mem_nil
  placed := fun _ impossible => absurd impossible List.not_mem_nil

/-- The frame of a call. -/
def Playout.frame (playout : Playout) (call : Call) : Rendered :=
  ⟨call.ptsUsec, call.nowNs, (playout.schedule.scheduleRender call).2, (playout.next call).anchors,
    playout.schedule.lifted call⟩

theorem rendered_next (playout : Playout) (call : Call) :
    (playout.next call).rendered = playout.rendered ++ [playout.frame call] := rfl

theorem last_next (playout : Playout) (call : Call) :
    (playout.next call).schedule.lastRenderNs = (playout.frame call).renderNs := rfl

section Next

variable {playout : Playout} {call : Call}

/-- The frames of the anchor that is current behind the call. -/
theorem Kept.placed_next (kept : Kept playout) (serves : Serves playout.schedule call) :
    ∀ frame ∈ (playout.next call).rendered, frame.anchor = (playout.next call).anchors → frame.lifted = false →
      frame.renderNs.toInt = (playout.next call).schedule.anchorRenderNs.toInt +
        (frame.ptsUsec.toInt - (playout.next call).schedule.anchorPtsUsec.toInt) * 1000 := by
  intro frame member isCurrent notLifted
  rw [rendered_next] at member
  rcases List.mem_append.mp member with old | new
  · have number := kept.numbered frame old
    cases isOn : playout.schedule.onTimeline call with
    | true =>
        have same : playout.schedule.anchored call = playout.schedule := if_pos isOn
        have current : (playout.next call).anchors = playout.anchors := if_pos isOn
        have isRender : (playout.next call).schedule.anchorRenderNs =
            (playout.schedule.anchored call).anchorRenderNs := rfl
        have isPts : (playout.next call).schedule.anchorPtsUsec =
            (playout.schedule.anchored call).anchorPtsUsec := rfl
        rw [isRender, isPts, same]
        exact kept.placed frame old (isCurrent.trans current) notLifted
    | false =>
        have current : (playout.next call).anchors = playout.anchors + 1 :=
          if_neg (by rw [isOn]; exact Bool.false_ne_true)
        omega
  · rw [List.mem_singleton.mp new] at notLifted ⊢
    exact render_eq serves notLifted

/-- The new frame is not held longer than the window and a nanosecond for each
earlier one. -/
theorem Kept.bounded_next (kept : Kept playout) (serves : Serves playout.schedule call)
    (monotone : ∀ frame ∈ playout.rendered, frame.nowNs ≤ call.nowNs) :
    (playout.frame call).renderNs.toInt ≤ call.nowNs.toInt + 16000000 + (playout.rendered.length : Int) := by
  apply render_le
  · omega
  · exact kept.lead call.nowNs monotone (fun nothing => serves.first (kept.unset nothing))

theorem Kept.forward_next (kept : Kept playout) (serves : Serves playout.schedule call)
    (monotone : ∀ frame ∈ playout.rendered, frame.nowNs ≤ call.nowNs) : Forward (playout.next call).rendered := by
  have placed := kept.placed_next serves
  rw [rendered_next] at placed ⊢
  refine ⟨?_, ?_, ?_, ?_⟩
  · refine List.pairwise_append.mpr ⟨kept.forward.increasing, List.pairwise_singleton _ _, ?_⟩
    intro earlier old later new
    rw [List.mem_singleton.mp new]
    exact Int64.lt_of_le_of_lt (kept.before earlier old) (last_lt serves.after)
  · intro frame member
    rcases List.mem_append.mp member with old | new
    · exact kept.forward.present frame old
    · rw [List.mem_singleton.mp new]
      exact present_le
  · intro early frame late split
    rcases List.eq_nil_or_concat late with rfl | ⟨rest, last, rfl⟩
    · obtain ⟨rfl, isLast⟩ := List.append_inj' split rfl
      rw [← List.singleton_inj.mp isLast]
      exact kept.bounded_next serves monotone
    · rw [List.concat_eq_append, ← List.cons_append, ← List.append_assoc] at split
      exact kept.forward.bounded early frame rest (List.append_inj' split rfl).1
  · intro frame member other member' sameAnchor notLifted notLifted'
    by_cases current : frame.anchor = (playout.next call).anchors
    · have place := placed frame member current notLifted
      have place' := placed other member' (sameAnchor ▸ current) notLifted'
      omega
    · -- The new frame has the current anchor, so both are older.
      have old : ∀ frame ∈ playout.rendered ++ [playout.frame call],
          frame.anchor ≠ (playout.next call).anchors → frame ∈ playout.rendered := by
        intro frame member apart
        rcases List.mem_append.mp member with old | new
        · exact old
        · rw [List.mem_singleton.mp new] at apart
          exact absurd rfl apart
      exact kept.forward.spaced frame (old frame member current) other
        (old other member' (sameAnchor ▸ current)) sameAnchor notLifted notLifted'

/-- A call that can be served keeps playout moving forward. -/
theorem Kept.next (kept : Kept playout) (serves : Serves playout.schedule call)
    (monotone : ∀ frame ∈ playout.rendered, frame.nowNs ≤ call.nowNs) : Kept (playout.next call) where
  forward := kept.forward_next serves monotone
  before := by
    intro frame member
    rw [last_next]
    rcases List.mem_append.mp member with old | new
    · exact Int64.le_of_lt (Int64.lt_of_le_of_lt (kept.before frame old) (last_lt serves.after))
    · rw [List.mem_singleton.mp new]
      exact Int64.le_refl _
  lead := by
    intro now later _
    have bounded := kept.bounded_next serves monotone
    have reached := Int64.le_iff_toInt_le.mp (later (playout.frame call) (List.mem_append_right _ List.mem_cons_self))
    change call.nowNs.toInt ≤ now.toInt at reached
    rw [last_next, rendered_next, List.length_append, List.length_singleton]
    push_cast
    omega
  unset := fun impossible => absurd impossible (by rw [rendered_next]; simp)
  numbered := by
    intro frame member
    have more : playout.anchors ≤ (playout.next call).anchors := by
      change _ ≤ if playout.schedule.onTimeline call then playout.anchors else playout.anchors + 1
      split <;> omega
    rcases List.mem_append.mp member with old | new
    · exact (kept.numbered frame old).trans more
    · rw [List.mem_singleton.mp new]
      exact le_rfl
  placed := kept.placed_next serves

end Next

theorem play_concat (schedule : RenderSchedule) (calls : List Call) (call : Call) :
    play schedule (calls ++ [call]) = (play schedule calls).next call :=
  List.foldl_concat _ _ _ _

theorem readings_play (schedule : RenderSchedule) (calls : List Call) :
    (play schedule calls).rendered.map Rendered.nowNs = calls.map Call.nowNs := by
  induction calls using List.reverseRecOn with
  | nil => rfl
  | append_singleton calls call inductionHypothesis =>
      rw [play_concat, rendered_next, List.map_append, List.map_append, inductionHypothesis]
      rfl

theorem later_play (schedule : RenderSchedule) {calls : List Call} {call : Call}
    (monotone : (calls ++ [call]).Pairwise (fun earlier later => earlier.nowNs ≤ later.nowNs)) :
    ∀ frame ∈ (play schedule calls).rendered, frame.nowNs ≤ call.nowNs := by
  intro frame member
  have reading := List.mem_map_of_mem (f := Rendered.nowNs) member
  rw [readings_play] at reading
  obtain ⟨earlier, isEarlier, same⟩ := List.mem_map.mp reading
  rw [← same]
  exact (List.pairwise_append.mp monotone).2.2 earlier isEarlier call List.mem_cons_self

theorem kept_play {schedule : RenderSchedule} {calls : List Call}
    (monotone : calls.Pairwise (fun earlier later => earlier.nowNs ≤ later.nowNs))
    (serves : ∀ early call late, calls = early ++ call :: late → Serves (play schedule early).schedule call) :
    Kept (play schedule calls) := by
  induction calls using List.reverseRecOn with
  | nil => exact kept_start schedule
  | append_singleton calls call inductionHypothesis =>
      have before := inductionHypothesis (List.pairwise_append.mp monotone).1 (fun early other late split =>
        serves early other (late ++ [call]) (by rw [split, List.append_assoc, List.cons_append]))
      rw [play_concat]
      exact before.next (serves calls call [] rfl) (later_play schedule monotone)

/-! ## Readings and time stamps of a session -/

/-- A time stamp that RTP can carry, and a reading of a clock that has counted from
zero for less than a hundred years. -/
structure Call.IsUsual (call : Call) : Prop where
  pts : 0 ≤ call.ptsUsec.toInt ∧ call.ptsUsec.toInt ≤ 68719476736
  now : 0 ≤ call.nowNs.toInt ∧ call.nowNs.toInt ≤ 4611686018427387904

/-- The anchor is that of a usual call. -/
def AnchorUsual (schedule : RenderSchedule) : Prop :=
  schedule.haveAnchor = true → 0 ≤ schedule.anchorPtsUsec.toInt ∧
    0 ≤ schedule.anchorRenderNs.toInt ∧ schedule.anchorRenderNs.toInt ≤ 4611686018435387904

theorem anchorUsual_anchored {schedule : RenderSchedule} {call : Call} (anchor : AnchorUsual schedule)
    (usual : call.IsUsual) : AnchorUsual (schedule.anchored call) := by
  obtain ⟨⟨ptsLow, _⟩, nowLow, nowHigh⟩ := usual
  have eight : (LEAD_MS * 1000000).toInt = 8000000 := by decide
  have long : IsLong (call.nowNs.toInt + (LEAD_MS * 1000000).toInt) := by
    rw [eight]
    exact ⟨by omega, by omega⟩
  have lead := toInt_add_of_isLong long
  have low : 0 ≤ (call.nowNs + LEAD_MS * 1000000).toInt := by omega
  have high : (call.nowNs + LEAD_MS * 1000000).toInt ≤ 4611686018435387904 := by omega
  rw [anchored]
  split
  · exact anchor
  · exact fun _ => ⟨ptsLow, low, high⟩

theorem serves_of_usual {playout : Playout} {call : Call} (kept : Kept playout)
    (anchor : AnchorUsual playout.schedule) (few : playout.rendered.length ≤ 1152921504606846976)
      (usual : call.IsUsual)
    (monotone : ∀ frame ∈ playout.rendered, frame.nowNs ≤ call.nowNs) : Serves playout.schedule call := by
  obtain ⟨⟨_, ptsHigh⟩, nowLow, nowHigh⟩ := usual
  constructor
  · have lead := kept.lead call.nowNs monotone (fun _ => by omega)
    have low := (isLong_toInt playout.schedule.lastRenderNs).1
    exact ⟨by omega, by omega⟩
  · intro isOn
    rw [onTimeline, Bool.and_eq_true, Bool.and_eq_true, decide_eq_true_eq, Int64.le_iff_toInt_le] at isOn
    obtain ⟨⟨isAnchored, behind⟩, _⟩ := isOn
    obtain ⟨ptsLow, renderLow, renderHigh⟩ := anchor isAnchored
    exact ⟨by omega, by omega⟩
  · exact fun _ => by omega

/-- In a session every call can be served. -/
theorem serves_usual {schedule : RenderSchedule} {calls : List Call}
    (monotone : calls.Pairwise (fun earlier later => earlier.nowNs ≤ later.nowNs))
    (usual : ∀ call ∈ calls, call.IsUsual) (few : calls.length ≤ 1152921504606846976) :
    ∀ early call late, calls = early ++ call :: late → Serves (play schedule early).schedule call := by
  have length : ∀ calls, (play schedule calls).rendered.length = calls.length := by
    intro calls
    rw [← List.length_map (f := Rendered.nowNs), readings_play, List.length_map]
  suffices kept : ∀ early late, calls = early ++ late →
      Kept (play schedule early) ∧ AnchorUsual (play schedule early).schedule by
    intro early call late split
    obtain ⟨before, anchor⟩ := kept early (call :: late) split
    rw [split, ← List.singleton_append, ← List.append_assoc] at monotone
    refine serves_of_usual before anchor ?_ (usual call (split ▸ List.mem_append_right _ List.mem_cons_self))
      (later_play schedule (List.pairwise_append.mp monotone).1)
    rw [split, List.length_append] at few
    rw [length]
    omega
  intro early
  induction early using List.reverseRecOn with
  | nil => exact fun _ _ => ⟨kept_start schedule, fun impossible => nomatch impossible⟩
  | append_singleton early call inductionHypothesis =>
      intro late split
      obtain ⟨before, anchor⟩ :=
        inductionHypothesis (call :: late) (by rw [split, List.append_assoc, List.singleton_append])
      have isUsual := usual call (split ▸ List.mem_append_left _ (List.mem_append_right _ List.mem_cons_self))
      rw [split] at monotone
      have later := later_play schedule (List.pairwise_append.mp monotone).1
      have serves := serves_of_usual before anchor (by
        rw [split, List.length_append, List.length_append] at few
        rw [length]
        omega) isUsual later
      rw [play_concat]
      exact ⟨before.next serves later, anchorUsual_anchored anchor isUsual⟩

/-! ## Every run -/

/-- Playout moves forward in every run of calls that can all be served. -/
theorem playout_forward {schedule : RenderSchedule} {calls : List Call}
    (monotone : calls.Pairwise (fun earlier later => earlier.nowNs ≤ later.nowNs))
    (serves : ∀ early call late, calls = early ++ call :: late → Serves (play schedule early).schedule call) :
    Forward (play schedule calls).rendered :=
  (kept_play monotone serves).forward

/-- Playout moves forward in every session. -/
theorem playout_usual {schedule : RenderSchedule} {calls : List Call}
    (monotone : calls.Pairwise (fun earlier later => earlier.nowNs ≤ later.nowNs))
    (usual : ∀ call ∈ calls, call.IsUsual) (few : calls.length ≤ 1152921504606846976) :
    Forward (play schedule calls).rendered :=
  playout_forward monotone (serves_usual monotone usual few)

/-- Two frames that are 16 ms apart, and a third whose time stamp is older. -/
theorem playout_usual_sample :
    let calls : List Call := [⟨5000, 1000000000⟩, ⟨21000, 1013000000⟩, ⟨1000, 1030000000⟩]
    (play ⟨false, 0, 0, 0⟩ calls).rendered.map Rendered.renderNs = [1008000000, 1024000000, 1038000000] ∧
      Forward (play ⟨false, 0, 0, 0⟩ calls).rendered := by
  intro calls
  have monotone : calls.Pairwise (fun earlier later => earlier.nowNs ≤ later.nowNs) := by decide
  have usual : ∀ call ∈ calls, call.IsUsual := by
    intro call member
    simp only [calls, List.mem_cons, List.not_mem_nil, or_false] at member
    rcases member with rfl | rfl | rfl <;> exact ⟨by decide, by decide⟩
  exact ⟨by decide, playout_usual monotone usual (by decide)⟩

/-- The clock reads a second before its zero, and the first frame is held for a second.
With time stamps 2 ^ 61 microseconds and 16 ms apart, frames are shown 16 ms apart. -/
theorem held_long :
    let schedule : RenderSchedule := ⟨false, 0, 0, 0⟩
    ((play schedule [⟨0, -1000000000⟩]).rendered = [⟨0, -1000000000, 1, 1, true⟩] ∧
      ¬ Forward (play schedule [⟨0, -1000000000⟩]).rendered) ∧
    ((play schedule [⟨0, 1000000000⟩, ⟨2305843009213709952, 1016000000⟩]).rendered =
        [⟨0, 1000000000, 1008000000, 1, false⟩, ⟨2305843009213709952, 1016000000, 1024000000, 1, false⟩] ∧
      ¬ Forward (play schedule [⟨0, 1000000000⟩, ⟨2305843009213709952, 1016000000⟩]).rendered) := by
  intro schedule
  refine ⟨⟨by decide, fun forward => ?_⟩, by decide, fun forward => ?_⟩
  · have bounded := forward.bounded [] ⟨0, -1000000000, 1, 1, true⟩ [] (by decide)
    exact absurd bounded (by decide)
  · have spaced := forward.spaced ⟨0, 1000000000, 1008000000, 1, false⟩ (by decide)
      ⟨2305843009213709952, 1016000000, 1024000000, 1, false⟩ (by decide) rfl rfl rfl
    exact absurd spaced (by decide)

end RenderSchedule
end MetaShare
