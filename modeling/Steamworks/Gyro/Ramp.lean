import Steamworks.Library.Feedback
import Steamworks.Library.Remainder

/-! The speed ramp that every closed loop of the program steers with: rest when
close enough, a rising speed up to the slope's start, full speed beyond. -/
namespace Steamworks.Gyro

variable {K : Type*} [Field K] [LinearOrder K]

/-- The steering ramp: nothing when close enough, then the minimum speed,
rising to the maximum where the slope starts. -/
def rampSpeed (minSpeed maxSpeed closeEnough slopeStart absError : K) : K :=
  if absError < slopeStart then
    if absError < closeEnough then 0
    else minSpeed + (absError - closeEnough) / (slopeStart - closeEnough) * (maxSpeed - minSpeed)
  else maxSpeed

variable {minSpeed maxSpeed closeEnough slopeStart absError : K}

theorem ramp_close (ordered : closeEnough ≤ slopeStart) (close : absError < closeEnough) :
    rampSpeed minSpeed maxSpeed closeEnough slopeStart absError = 0 := by
  rw [rampSpeed, if_pos (close.trans_le ordered), if_pos close]

variable [IsStrictOrderedRing K]

theorem le_ramp (rising : minSpeed ≤ maxSpeed) (far : closeEnough ≤ absError) :
    minSpeed ≤ rampSpeed minSpeed maxSpeed closeEnough slopeStart absError := by
  unfold rampSpeed
  split_ifs with slope close
  · exact absurd far (not_le.mpr close)
  · have share : 0 ≤ (absError - closeEnough) / (slopeStart - closeEnough) :=
      div_nonneg (by linarith) (by linarith)
    have rise := mul_nonneg share (sub_nonneg.mpr rising)
    linarith
  · exact rising

theorem ramp_pos (moving : 0 < minSpeed) (rising : minSpeed ≤ maxSpeed)
    (far : closeEnough ≤ absError) :
    0 < rampSpeed minSpeed maxSpeed closeEnough slopeStart absError :=
  moving.trans_le (le_ramp rising far)

theorem ramp_nonneg (positive : 0 ≤ minSpeed) (rising : minSpeed ≤ maxSpeed) :
    0 ≤ rampSpeed minSpeed maxSpeed closeEnough slopeStart absError := by
  by_cases far : closeEnough ≤ absError
  · exact positive.trans (le_ramp rising far)
  · unfold rampSpeed
    rw [if_pos (not_le.mp far)]
    split_ifs
    · exact le_refl 0
    · exact positive.trans rising

theorem ramp_le (positive : 0 ≤ minSpeed) (rising : minSpeed ≤ maxSpeed) :
    rampSpeed minSpeed maxSpeed closeEnough slopeStart absError ≤ maxSpeed := by
  unfold rampSpeed
  split_ifs with slope close
  · linarith
  · have share : (absError - closeEnough) / (slopeStart - closeEnough) ≤ 1 := by
      rw [div_le_one (by linarith)]
      linarith
    have rise := mul_le_of_le_one_left (sub_nonneg.mpr rising) share
    linarith
  · exact le_refl maxSpeed

theorem ramp_mono (positive : 0 ≤ minSpeed) (rising : minSpeed ≤ maxSpeed) {further : K}
    (le : absError ≤ further) :
    rampSpeed minSpeed maxSpeed closeEnough slopeStart absError ≤
      rampSpeed minSpeed maxSpeed closeEnough slopeStart further := by
  by_cases slope : further < slopeStart
  · by_cases close : absError < closeEnough
    · have rest : rampSpeed minSpeed maxSpeed closeEnough slopeStart absError = 0 := by
        rw [rampSpeed, if_pos (le.trans_lt slope), if_pos close]
      rw [rest]
      exact ramp_nonneg positive rising
    · have far := not_lt.mp close
      have wide : 0 ≤ slopeStart - closeEnough := by linarith
      rw [rampSpeed, if_pos (le.trans_lt slope), if_neg close, rampSpeed, if_pos slope,
        if_neg (not_lt.mpr (far.trans le))]
      have share := div_le_div_of_nonneg_right (sub_le_sub_right le closeEnough) wide
      have rise := mul_le_mul_of_nonneg_right share (sub_nonneg.mpr rising)
      linarith
  · have full : rampSpeed minSpeed maxSpeed closeEnough slopeStart further = maxSpeed := by
      rw [rampSpeed, if_neg slope]
    rw [full]
    exact ramp_le positive rising

/-- A ramp may start from rest; it rises at once. -/
theorem ramp_rising (positive : 0 ≤ minSpeed) (rising : minSpeed < maxSpeed)
    (ordered : closeEnough ≤ slopeStart) :
    Library.Feedback.Rising (rampSpeed minSpeed maxSpeed closeEnough slopeStart) closeEnough maxSpeed where
  rest away close := ramp_close ordered close
  moving away far := by
    unfold rampSpeed
    split_ifs with slope close
    · exact absurd far close.not_gt
    · have share : 0 < (away - closeEnough) / (slopeStart - closeEnough) :=
        div_pos (sub_pos.mpr far) (sub_pos.mpr (far.trans slope))
      have rise := mul_pos share (sub_pos.mpr rising)
      linarith
    · exact positive.trans_lt rising
  monotone _ _ le := ramp_mono positive rising.le le
  bounded _ := ramp_le positive rising.le

end Steamworks.Gyro
