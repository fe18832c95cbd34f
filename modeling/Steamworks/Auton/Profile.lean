import Steamworks.Auton.Stopping

/-! The speed profile of `Drive`. Beyond the acceleration region it is the ramp
of the other loops, which is safe; the acceleration region is tested first, and
reaches over the target on a short move and on an overshoot. -/
namespace Steamworks.Auton
open Gyro Library.Remainder Swerve Swerve.SwerveDrive

variable {K : Type*} [Field K] [LinearOrder K]

structure DriveConfig.Tuned (config : DriveConfig K) : Prop where
  moving : 0 < config.minSpeed
  rising : config.minSpeed ≤ config.maxSpeed
  acceleration : 0 < config.acceleration
  deacceleration : 0 < config.deacceleration
  closeEnough : 0 < config.closeEnough
  lengths : ∀ segment ∈ config.segments, 0 < segment.distance

namespace Drive
variable [FloorRing K]

/-- The divisors of the branch that is taken, and those of the constructor. -/
structure Defined (c : Drive K) : Prop where
  setpointMax : (kSetpointMax : K) ≠ 0
  acceleration : 2 * c.config.acceleration ≠ 0
  deacceleration : 2 * c.config.deacceleration ≠ 0
  rise : c.accelDonePos < c.absError → c.accelDist ≠ 0
  slope : ¬c.accelDonePos < c.absError → c.absError < c.deaccelDist →
    ¬c.absError < c.config.closeEnough → c.deaccelDist - c.config.closeEnough ≠ 0

/-- The speed is defined and limited, never leads away from the target, and is
zero at it. -/
structure Safe (c : Drive K) : Prop where
  defined : c.Defined
  limited : |c.speed| ≤ c.maxSpeed
  towards : 0 ≤ c.speed * c.error
  still : |c.error| < min c.config.closeEnough c.deaccelDist → c.speed = 0

/-- The distance still to go at these positions, as `error_` will be. -/
def toGo (c : Drive K) (r : Readings K) : K :=
  (c.distance : K) - |(getPosition r.positions : K)|

/-- In the acceleration region the profile falls from the minimum speed as the
distance to go exceeds the whole; it must not have fallen below zero, and must
have reached it where it is to rest. -/
def AcceleratesSafely (c : Drive K) (away : K) : Prop :=
  c.accelDonePos < away →
    (c.maxSpeed - c.minSpeed) * (away - c.distance) ≤ c.minSpeed * c.accelDist ∧
      (away < min c.config.closeEnough c.deaccelDist →
        (c.maxSpeed - c.minSpeed) * (away - c.distance) = c.minSpeed * c.accelDist)

/-- The speed before its sign. -/
def magnitude (c : Drive K) : K :=
  if c.accelDonePos < c.absError then
    c.minSpeed + (c.maxSpeed - c.minSpeed) / c.accelDist * (c.distance - c.absError)
  else rampSpeed c.minSpeed c.maxSpeed c.config.closeEnough c.deaccelDist c.absError

theorem speed_eq (c : Drive K) : c.speed = c.magnitude * (if c.error < 0 then -1 else 1) := rfl

/-- Past the wait, a step sets the errors and drives at the speed they give. -/
theorem execute_waited (p : Platform K) (r : Readings K) {c : Drive K} (d : SwerveDrive K)
    (waited : kZeroCountReq ≤ c.zeroCount) : ∃ next : Drive K,
      c.execute p r d = (next, d.driveField p.libm (p.heading r.driveGyro)
        (next.forwardFactor * next.speed) (next.strafeFactor * next.speed) 0 next.deadZone) ∧
      next.config = c.config ∧ next.error = c.toGo r ∧ next.absError = |c.toGo r| := by
  refine ⟨_, if_neg (not_lt.mpr waited), ?_⟩
  dsimp only
  split_ifs
  · unfold startNextSegment
    cases rest : c.rest <;> exact ⟨rfl, rfl, rfl⟩
  · exact ⟨rfl, rfl, rfl⟩

theorem acceleratesSafely_congr {c next : Drive K} (same : next.config = c.config) (away : K) :
    next.AcceleratesSafely away ↔ c.AcceleratesSafely away := by
  simp only [AcceleratesSafely, accelDonePos, distance, accelDist, deaccelDist, maxSpeed, minSpeed,
    same]

theorem abs_speed (c : Drive K) : |c.speed| = |c.magnitude| := by
  rw [speed_eq]
  split_ifs <;> simp

variable [IsStrictOrderedRing K]

theorem speed_mul_error (c : Drive K) : c.speed * c.error = c.magnitude * |c.error| := by
  rw [speed_eq]
  split_ifs with negative
  · rw [abs_of_neg negative]
    ring
  · rw [abs_of_nonneg (not_lt.mp negative)]
    ring

theorem speed_eq_zero (c : Drive K) : c.speed = 0 ↔ c.magnitude = 0 := by
  rw [← abs_eq_zero, abs_speed, abs_eq_zero]

section
variable {c : Drive K} (tuned : c.config.Tuned)
include tuned

omit [FloorRing K] in
theorem minSpeed_pos : 0 < c.minSpeed := div_pos tuned.moving (by norm_num [kSetpointMax])

omit [FloorRing K] in
theorem speeds_rising : c.minSpeed ≤ c.maxSpeed :=
  div_le_div_of_nonneg_right tuned.rising (by norm_num [kSetpointMax])

omit [FloorRing K] in
theorem accelDist_pos : 0 < c.accelDist := by
  have fast : 0 < c.config.maxSpeed := tuned.moving.trans_le tuned.rising
  have rate := tuned.acceleration
  unfold accelDist
  positivity

theorem distance_nonneg : 0 ≤ c.distance := by
  have lengths := tuned.lengths
  unfold distance
  generalize c.config.segments = segments at lengths
  suffices sums : ∀ sum : ℤ, 0 ≤ sum →
      0 ≤ segments.foldl (fun (sum : ℤ) segment => trunc ((sum : K) + segment.distance)) sum from
    sums 0 le_rfl
  induction segments with
  | nil => exact fun sum nonneg => nonneg
  | cons segment rest ih =>
    intro sum nonneg
    have first := lengths segment List.mem_cons_self
    have start : (0 : K) ≤ sum := by exact_mod_cast nonneg
    apply ih fun other member => lengths other (List.mem_cons_of_mem _ member)
    apply le_trunc
    push_cast
    linarith

theorem defined : c.Defined where
  setpointMax := by norm_num [kSetpointMax]
  acceleration := mul_ne_zero two_ne_zero tuned.acceleration.ne'
  deacceleration := mul_ne_zero two_ne_zero tuned.deacceleration.ne'
  rise _ := (accelDist_pos tuned).ne'
  slope _ slope far := sub_ne_zero.mpr ((not_lt.mp far).trans_lt slope).ne'

theorem accelerating_le (accelerating : c.accelDonePos < c.absError) :
    c.magnitude ≤ c.maxSpeed := by
  have dist := accelDist_pos tuned
  have rise := speeds_rising tuned
  have room : c.distance - c.absError ≤ c.accelDist := by
    rw [accelDonePos] at accelerating
    linarith
  have share : (c.maxSpeed - c.minSpeed) / c.accelDist * (c.distance - c.absError) ≤
      c.maxSpeed - c.minSpeed := by
    rw [div_mul_eq_mul_div, div_le_iff₀ dist]
    exact mul_le_mul_of_nonneg_left room (sub_nonneg.mpr rise)
  rw [magnitude, if_pos accelerating]
  linarith

theorem accelerating_eq (accelerating : c.accelDonePos < c.absError) :
    c.magnitude * c.accelDist = c.minSpeed * c.accelDist -
      (c.maxSpeed - c.minSpeed) * (c.absError - c.distance) := by
  have dist := (accelDist_pos tuned).ne'
  rw [magnitude, if_pos accelerating]
  field_simp
  ring

theorem accelerating_nonneg_iff (accelerating : c.accelDonePos < c.absError) :
    0 ≤ c.magnitude ↔
      (c.maxSpeed - c.minSpeed) * (c.absError - c.distance) ≤ c.minSpeed * c.accelDist := by
  rw [← mul_nonneg_iff_of_pos_right (accelDist_pos tuned), accelerating_eq tuned accelerating,
    sub_nonneg]

theorem accelerating_zero_iff (accelerating : c.accelDonePos < c.absError) :
    c.magnitude = 0 ↔
      (c.maxSpeed - c.minSpeed) * (c.absError - c.distance) = c.minSpeed * c.accelDist := by
  rw [← mul_eq_zero_iff_right (accelDist_pos tuned).ne', accelerating_eq tuned accelerating,
    sub_eq_zero, eq_comm]

/-- At the target itself the profile has not fallen below the minimum speed. -/
theorem accelerating_at_target (there : c.absError = 0) (accelerating : c.accelDonePos < c.absError) :
    0 ≤ c.magnitude := by
  have whole : (0 : K) ≤ c.distance := by exact_mod_cast distance_nonneg tuned
  have rise := sub_nonneg.mpr (speeds_rising tuned)
  rw [accelerating_nonneg_iff tuned accelerating, there]
  calc (c.maxSpeed - c.minSpeed) * (0 - c.distance) ≤ 0 :=
        mul_nonpos_of_nonneg_of_nonpos rise (by linarith)
    _ ≤ c.minSpeed * c.accelDist := (mul_pos (minSpeed_pos tuned) (accelDist_pos tuned)).le

theorem safe_of_ramp (current : c.absError = |c.error|) (done : ¬c.accelDonePos < c.absError) :
    c.Safe := by
  have ramp : c.magnitude =
      rampSpeed c.minSpeed c.maxSpeed c.config.closeEnough c.deaccelDist c.absError := if_neg done
  have slow := (minSpeed_pos tuned).le
  have rising := speeds_rising tuned
  have nonneg : 0 ≤ c.magnitude := by
    rw [ramp]
    exact ramp_nonneg slow rising
  refine ⟨defined tuned, ?_, ?_, ?_⟩
  · rw [abs_speed, abs_of_nonneg nonneg, ramp]
    exact ramp_le slow rising
  · rw [speed_mul_error]
    exact mul_nonneg nonneg (abs_nonneg _)
  · intro close
    obtain ⟨near, slope⟩ := lt_min_iff.mp close
    rw [speed_eq_zero, ramp, current, rampSpeed, if_pos slope, if_pos near]

theorem safe_accelerating_iff (current : c.absError = |c.error|)
    (accelerating : c.accelDonePos < c.absError) :
    c.Safe ↔ 0 ≤ c.magnitude ∧
      (c.absError < min c.config.closeEnough c.deaccelDist → c.magnitude = 0) := by
  have away : 0 ≤ c.absError := current ▸ abs_nonneg _
  constructor
  · rintro ⟨_, _, towards, still⟩
    rw [speed_mul_error, ← current] at towards
    rw [← current, speed_eq_zero] at still
    refine ⟨?_, still⟩
    rcases away.eq_or_lt with there | far
    · exact accelerating_at_target tuned there.symm accelerating
    · exact nonneg_of_mul_nonneg_left towards far
  · rintro ⟨nonneg, still⟩
    refine ⟨defined tuned, ?_, ?_, ?_⟩
    · rw [abs_speed, abs_of_nonneg nonneg]
      exact accelerating_le tuned accelerating
    · rw [speed_mul_error]
      exact mul_nonneg nonneg (abs_nonneg _)
    · rw [← current, speed_eq_zero]
      exact still

theorem safe_iff (current : c.absError = |c.error|) : c.Safe ↔ c.AcceleratesSafely c.absError := by
  by_cases accelerating : c.accelDonePos < c.absError
  · rw [safe_accelerating_iff tuned current accelerating, AcceleratesSafely, imp_iff_right accelerating,
      accelerating_nonneg_iff tuned accelerating, accelerating_zero_iff tuned accelerating]
  · exact iff_of_true (safe_of_ramp tuned current accelerating) fun region => absurd region accelerating

end
end Drive

noncomputable section

/-- Driving out from the hopper, by this many ticks. -/
def driveOut (ticks : ℝ) : DriveConfig ℝ where
  minSpeed := 40
  maxSpeed := 400
  acceleration := 200
  deacceleration := 60
  closeEnough := 25
  segments := [⟨0, ticks⟩]
  nonempty := by simp

def waitedFor (config : DriveConfig ℝ) : Drive ℝ :=
  { Drive.init ⟨config, [], 0, 0, 0, 0, 0, 0, 0⟩ with zeroCount := 4 }

def movedBy (ticks : ℝ) : Readings ℝ := { liftInSight with positions := fun _ => ticks }

theorem driveOut_tuned {ticks : ℝ} (positive : 0 < ticks) : (driveOut ticks).Tuned := by
  constructor <;> norm_num [driveOut, positive]

end
end Steamworks.Auton
