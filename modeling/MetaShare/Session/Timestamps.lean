import MetaShare.Capture.Cadence
import MetaShare.Session.Stream
import Mathlib.Data.Rat.Lemmas
import Mathlib.Algebra.Order.Field.Rat
import Mathlib.Tactic.Linarith
import Mathlib.Tactic.NormNum

namespace MetaShare
namespace Session

open Rtp RtpReceiver

/-!
# Presentation times across the wire

The packetizer turns microseconds into ticks of 90 kHz and keeps 32 bits of them;
the receiver turns the ticks back.  Both divisions round down.  So the receiver's
time is the sender's one less whole wrap periods, to within the length of a tick
and a microsecond, and times that are further apart than a tick stay apart.
-/

/-- How long the ticks take to wrap around, in microseconds. -/
def wrapPeriod : ℚ := 2 ^ 32 * 1000000 / 90000

/-- Full ticks up to a presentation time. -/
def ticks (pts : Nat) : Nat := pts * 90000 / 1000000

/-- How often the ticks have wrapped around. -/
def wraps (pts : Nat) : Nat := ticks pts / 2 ^ 32

/-- A presentation time as the receiver computes it from the stamp of a video
packetizer. -/
def received (base : PacketizerBase) (pts : Int64) : Int := usec 90000 (base.stamp pts).toNat

/-- Presentation times for which the product with the clock rate is exact. -/
def Stampable (pts : Int64) : Prop := 0 ≤ pts ∧ pts.toInt * 90000 < 2 ^ 64

instance (pts : Int64) : Decidable (Stampable pts) := inferInstanceAs (Decidable (_ ∧ _))

/-! ## Ticks -/

theorem ticks_eq (pts : Nat) : ticks pts = 2 ^ 32 * wraps pts + ticks pts % 2 ^ 32 :=
  (Nat.div_add_mod (ticks pts) (2 ^ 32)).symm

/-- Twelve microseconds are more than a tick. -/
theorem ticks_lt {earlier later : Nat} (apart : earlier + 12 ≤ later) : ticks earlier < ticks later := by
  unfold ticks
  omega

theorem ticks_mono {earlier later : Nat} (order : earlier ≤ later) : ticks earlier ≤ ticks later := by
  unfold ticks
  omega

/-- Less than a wrap period, by more than a tick, is less than 2^32 ticks. -/
theorem ticks_within {earlier later : Nat} (near : (later : ℚ) - earlier < wrapPeriod - 12) :
    ticks later < ticks earlier + 2 ^ 32 := by
  have bound : 9 * later + 108 < 9 * earlier + 429496729600 := by
    have scaled : 9 * (later : ℚ) + 108 < 9 * earlier + 429496729600 := by
      rw [wrapPeriod] at near
      linarith
    exact_mod_cast scaled
  unfold ticks
  omega

theorem stamp_toNat {base : PacketizerBase} (video : base.clockRate = kVideoClockRate) {pts : Int64}
    (stampable : Stampable pts) : (base.stamp pts).toNat = ticks pts.toInt.toNat % 2 ^ 32 := by
  obtain ⟨positive, exact⟩ := stampable
  have value : pts.toUInt64.toNat = pts.toInt.toNat := Int64.toNat_toUInt64_of_le positive
  have low : 0 ≤ pts.toInt := Int64.le_iff_toInt_le.mp positive
  have rate : base.clockRate.toUInt64.toNat = 90000 := by rw [video]; rfl
  have million : (1000000 : UInt64).toNat = 1000000 := rfl
  have small : pts.toInt.toNat * 90000 < 2 ^ 64 := by omega
  rw [PacketizerBase.stamp, UInt64.toNat_toUInt32, UInt64.toNat_div, UInt64.toNat_mul, value, rate, million,
    Nat.mod_eq_of_lt small, ticks]

theorem usec_ticks (count : Nat) : usec 90000 count = (count * 100 / 9 : Nat) := by
  rw [usec, Int.tdiv_eq_ediv_of_nonneg (by omega)]
  omega

theorem received_eq {base : PacketizerBase} (video : base.clockRate = kVideoClockRate) {pts : Int64}
    (stampable : Stampable pts) : received base pts = (ticks pts.toInt.toNat % 2 ^ 32 * 100 / 9 : Nat) := by
  rw [received, stamp_toNat video stampable, usec_ticks]

/-! ## The receiver's time -/

/-- The receiver's time is the sender's less whole wrap periods, to within
thirteen microseconds. -/
theorem received_near {base : PacketizerBase} (video : base.clockRate = kVideoClockRate) {pts : Int64}
    (stampable : Stampable pts) :
    (pts.toInt : ℚ) - wraps pts.toInt.toNat * wrapPeriod - 13 < received base pts ∧
      (received base pts : ℚ) ≤ pts.toInt - wraps pts.toInt.toNat * wrapPeriod := by
  have low : 0 ≤ pts.toInt := Int64.le_iff_toInt_le.mp stampable.1
  obtain ⟨count, isCount⟩ := Int.eq_ofNat_of_zero_le low
  rw [received_eq video stampable, isCount, Int.toNat_natCast]
  have split := ticks_eq count
  have total : ticks count * 100 ≤ 9 * count ∧ 9 * count < ticks count * 100 + 100 := by
    unfold ticks
    omega
  generalize ticks count % 2 ^ 32 = rest at split ⊢
  generalize ticks count = all at split total
  generalize wraps count = wrapped at split ⊢
  have bounds : 9 * (rest * 100 / 9) ≤ rest * 100 ∧ rest * 100 < 9 * (rest * 100 / 9) + 9 := by omega
  generalize rest * 100 / 9 = back at bounds ⊢
  have totalRat : (all : ℚ) * 100 ≤ 9 * count ∧ 9 * (count : ℚ) < all * 100 + 100 := by exact_mod_cast total
  have splitRat : (all : ℚ) = 4294967296 * wrapped + rest := by exact_mod_cast split
  have boundsRat : 9 * (back : ℚ) ≤ rest * 100 ∧ (rest : ℚ) * 100 < 9 * back + 9 := by exact_mod_cast bounds
  rw [wrapPeriod]
  push_cast
  constructor <;> linarith [totalRat.1, totalRat.2, boundsRat.1, boundsRat.2]

/-- Between two wraps the receiver's times are in the sender's order. -/
theorem received_mono {base : PacketizerBase} (video : base.clockRate = kVideoClockRate) {earlier later : Int64}
    (first : Stampable earlier) (second : Stampable later) (order : earlier ≤ later)
    (epoch : wraps earlier.toInt.toNat = wraps later.toInt.toNat) :
    received base earlier ≤ received base later := by
  have grown := ticks_mono (Int.toNat_le_toNat (Int64.le_iff_toInt_le.mp order))
  have splitEarlier := ticks_eq earlier.toInt.toNat
  have splitLater := ticks_eq later.toInt.toNat
  rw [received_eq video first, received_eq video second]
  rw [epoch] at splitEarlier
  have rest : ticks earlier.toInt.toNat % 2 ^ 32 ≤ ticks later.toInt.toNat % 2 ^ 32 := by omega
  exact_mod_cast Nat.div_le_div_right (Nat.mul_le_mul_right 100 rest)

/-- Times that are further apart than a tick, and closer than a wrap period by a
tick, stay apart. -/
theorem received_ne {base : PacketizerBase} (video : base.clockRate = kVideoClockRate) {earlier later : Int64}
    (first : Stampable earlier) (second : Stampable later) (apart : earlier.toInt + 12 ≤ later.toInt)
    (near : (later.toInt : ℚ) - earlier.toInt < wrapPeriod - 12) :
    received base earlier ≠ received base later := by
  have low : 0 ≤ earlier.toInt := Int64.le_iff_toInt_le.mp first.1
  obtain ⟨early, isEarly⟩ := Int.eq_ofNat_of_zero_le low
  obtain ⟨late, isLate⟩ := Int.eq_ofNat_of_zero_le (show 0 ≤ later.toInt by omega)
  rw [received_eq video first, received_eq video second]
  rw [isEarly, isLate] at near ⊢
  have strict := ticks_lt (show early + 12 ≤ late by omega)
  have within := ticks_within (by exact_mod_cast near)
  rw [Int.toNat_natCast, Int.toNat_natCast]
  intro same
  have equal : ticks early % 2 ^ 32 * 100 / 9 = ticks late % 2 ^ 32 * 100 / 9 := by exact_mod_cast same
  omega

/-! ## The access units of the capture loop -/

/-- Presentation times of the capture loop, as the packetizer gets them. -/
theorem stampable_ofNat {pts : Nat} (small : pts * 90000 < 2 ^ 64) :
    Stampable (Int64.ofNat pts) ∧ (Int64.ofNat pts).toInt = pts := by
  have value : (Int64.ofNat pts).toInt = pts := Int64.toInt_ofNat_of_lt (by omega)
  refine ⟨⟨Int64.le_iff_toInt_le.mpr ?_, ?_⟩, value⟩
  · rw [value]
    exact Int.natCast_nonneg pts
  · rw [value]
    exact_mod_cast small

/-- A packet of another access unit starts a new frame. -/
theorem changeTimestamp_frame {depack : VideoDepacketizer} {ptsUsec : Int} (different : depack.framePts ≠ ptsUsec) :
    (depack.changeTimestamp ptsUsec).frame = [] ∧ (depack.changeTimestamp ptsUsec).framePts = ptsUsec := by
  rw [VideoDepacketizer.changeTimestamp_of_ne different]
  exact ⟨rfl, rfl⟩

/-- Whatever the codec and the sequence numbers: the receiver's time is the
sender's less whole wrap periods, to within thirteen microseconds; it is monotone
between two wraps; times at least twelve microseconds apart, and less than a wrap
period by twelve microseconds, stay apart; and so the depacketizer starts a new
frame for each of two access units of a capture loop that are so far apart. -/
theorem timestamps_identify (h265 : Bool) (ssrc : UInt32) (seq : UInt16) :
    (∀ pts, Stampable pts →
      (pts.toInt : ℚ) - wraps pts.toInt.toNat * wrapPeriod - 13 < received (packetizer h265 ssrc seq) pts ∧
        (received (packetizer h265 ssrc seq) pts : ℚ) ≤ pts.toInt - wraps pts.toInt.toNat * wrapPeriod) ∧
      (∀ earlier later, Stampable earlier → Stampable later → earlier ≤ later →
        wraps earlier.toInt.toNat = wraps later.toInt.toNat →
          received (packetizer h265 ssrc seq) earlier ≤ received (packetizer h265 ssrc seq) later) ∧
      (∀ earlier later, Stampable earlier → Stampable later → earlier.toInt + 12 ≤ later.toInt →
        (later.toInt : ℚ) - earlier.toInt < wrapPeriod - 12 →
          received (packetizer h265 ssrc seq) earlier ≠ received (packetizer h265 ssrc seq) later) ∧
      ∀ (Frame : Type) (period now : Nat) (actions : List (CaptureLoop.Action Frame)) (loop : CaptureLoop Frame),
        12 ≤ period → Transitions.run (CaptureLoop.step period) (CaptureLoop.begun period now) actions = some loop →
          loop.encoded.Pairwise (fun earlier later => later.pts * 90000 < 2 ^ 64 →
            (later.pts : ℚ) - earlier.pts < wrapPeriod - 12 → ∀ depack : VideoDepacketizer,
              depack.framePts = received (packetizer h265 ssrc seq) (Int64.ofNat earlier.pts) →
                (depack.changeTimestamp (received (packetizer h265 ssrc seq) (Int64.ofNat later.pts))).frame = [] ∧
                  (depack.changeTimestamp
                    (received (packetizer h265 ssrc seq) (Int64.ofNat later.pts))).framePts =
                    received (packetizer h265 ssrc seq) (Int64.ofNat later.pts)) := by
  have video : (packetizer h265 ssrc seq).clockRate = kVideoClockRate := by
    cases h265 <;> rfl
  refine ⟨fun pts stampable => received_near video stampable,
    fun earlier later first second => received_mono video first second,
    fun earlier later first second => received_ne video first second, ?_⟩
  intro Frame period now actions loop long ran
  refine (CaptureLoop.even_cadence (by omega) ran).1.imp ?_
  intro earlier later spaced small near depack same
  have order : earlier.pts ≤ later.pts := (Nat.le_add_right _ _).trans spaced
  obtain ⟨first, isFirst⟩ := stampable_ofNat ((Nat.mul_le_mul_right 90000 order).trans_lt small)
  obtain ⟨second, isSecond⟩ := stampable_ofNat small
  apply changeTimestamp_frame
  rw [same]
  apply received_ne video first second
  · rw [isFirst, isSecond]
    omega
  · rw [isFirst, isSecond]
    exact_mod_cast near

/-- Two frames at 72 Hz, and the end of the first epoch. -/
theorem timestamps_identify_sample :
    received (packetizer true 7 0) 13889 ≠ received (packetizer true 7 0) 27778 ∧
      (received (packetizer true 7 0) 47721858845 : ℚ) ≤
        (47721858845 : Int64).toInt - wraps (47721858845 : Int64).toInt.toNat * wrapPeriod := by
  have times := timestamps_identify true 7 0
  refine ⟨times.2.2.1 13889 27778 (by decide) (by decide) (by decide) ?_, (times.1 47721858845 (by decide)).2⟩
  rw [wrapPeriod, show (27778 : Int64).toInt = 27778 by decide, show (13889 : Int64).toInt = 13889 by decide]
  norm_num

end Session
end MetaShare
