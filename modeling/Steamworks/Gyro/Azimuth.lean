import Steamworks.Gyro.Ramp
import Steamworks.Gyro.Robot

/-! Autonomous turns after zeroing. The turn command steers on the difference of
target and angle without wrapping it, so it takes the short way exactly when
zeroing left no whole turns in the angle. -/
namespace Steamworks.Gyro
open Library.Remainder

variable {K : Type*} [Field K] [LinearOrder K]

/-- The members of the command; an error not yet assigned holds anything. -/
structure GyroAzimuth (K : Type*) where
  target : K
  error : K
  absError : K
  stableCount : ℕ

namespace GyroAzimuth

def kSetpointMax : K := 275
def kMaxSpeed : K := 275 / kSetpointMax
def kMinSpeed : K := 25 / kSetpointMax
def kDeadZone : K := kMinSpeed * 0.1
def kCloseEnough : K := 4
def kSlopeStart : K := 30
def kStableCountReq : ℕ := 3

def init (c : GyroAzimuth K) (gyro : Ahrs K) : GyroAzimuth K :=
  { c with error := c.target - gyro.getAngle, stableCount := 0 }

/-- The azimuth speed given to the drive, with its dead zone. -/
def execute (c : GyroAzimuth K) (gyro : Ahrs K) : GyroAzimuth K × (K × K) :=
  let error := c.target - gyro.getAngle
  let absError := |error|
  let speed := rampSpeed kMinSpeed kMaxSpeed kCloseEnough kSlopeStart absError
  let speed := speed * (if error < 0 then -1 else 1)
  ({ c with error := error, absError := absError }, (speed, kDeadZone))

def isFinished (c : GyroAzimuth K) : GyroAzimuth K × Bool :=
  let stableCount := if c.absError < kCloseEnough then c.stableCount + 1 else 0
  ({ c with stableCount := stableCount }, stableCount == kStableCountReq)

end GyroAzimuth

/-- The rotations that bring the heading to the target with at most a half turn. -/
def Shortest (heading target rotation : K) : Prop :=
  heading + rotation ≡ target [PMOD 360] ∧ |rotation| ≤ 180

/-- A speed that carries out a rotation: its sign, or rest once close enough. -/
def CarriesOut (speed rotation : K) : Prop :=
  (GyroAzimuth.kCloseEnough ≤ |rotation| → 0 < speed * rotation) ∧
    (|rotation| < GyroAzimuth.kCloseEnough → speed = 0)

/-- Started at this angle, the command has at most a half turn to go and turns
along a shortest rotation to its target. -/
def ShortWay (gyro : Ahrs K) (c : GyroAzimuth K) : Prop :=
  let started := c.init gyro
  |started.error| ≤ 180 ∧
    ∃ rotation, Shortest gyro.getAngle c.target rotation ∧
      CarriesOut (started.execute gyro).2.1 rotation

/-- What zeroing is for: the angle reads zero, and a turn to any target within
a half turn goes the short way. -/
structure Zeroed (gyro : Ahrs K) : Prop where
  angle : gyro.getAngle = 0
  turns : ∀ c : GyroAzimuth K, |c.target| ≤ 180 → ShortWay gyro c

variable [IsStrictOrderedRing K]

set_option linter.unusedSectionVars false

theorem execute_carriesOut (c : GyroAzimuth K) (gyro : Ahrs K) :
    CarriesOut (c.execute gyro).2.1 (c.target - gyro.getAngle) := by
  simp only [CarriesOut, GyroAzimuth.execute]
  constructor
  · intro far
    have speed : 0 < rampSpeed (GyroAzimuth.kMinSpeed : K) GyroAzimuth.kMaxSpeed
        GyroAzimuth.kCloseEnough GyroAzimuth.kSlopeStart |c.target - gyro.getAngle| := by
      apply ramp_pos _ _ far <;>
        norm_num [GyroAzimuth.kMinSpeed, GyroAzimuth.kMaxSpeed, GyroAzimuth.kSetpointMax]
    have away : 0 < |c.target - gyro.getAngle| :=
      lt_of_lt_of_le (by norm_num [GyroAzimuth.kCloseEnough]) far
    split_ifs with negative
    · rw [abs_of_neg negative] at speed away ⊢
      nlinarith
    · rw [abs_of_nonneg (not_lt.mp negative)] at speed away ⊢
      rw [mul_one]
      exact mul_pos speed away
  · intro close
    have ordered : (GyroAzimuth.kCloseEnough : K) ≤ GyroAzimuth.kSlopeStart := by
      norm_num [GyroAzimuth.kCloseEnough, GyroAzimuth.kSlopeStart]
    rw [ramp_close ordered close, zero_mul]

theorem shortWay_of_angle {gyro : Ahrs K} (zero : gyro.getAngle = 0) (c : GyroAzimuth K)
    (near : |c.target| ≤ 180) : ShortWay gyro c := by
  have bound : |c.target - gyro.getAngle| ≤ 180 := by rwa [zero, sub_zero]
  refine ⟨bound, c.target - gyro.getAngle, ⟨?_, bound⟩, execute_carriesOut (c.init gyro) gyro⟩
  rw [add_sub_cancel]

variable [FloorRing K]

theorem getAngle_zero (gyro : Ahrs K) : gyro.zero.getAngle = gyro.yaw - fmod gyro.yaw 360 := by
  simp [Ahrs.zero, Ahrs.getAngle, Ahrs.setAngleAdjustment, sub_eq_add_neg]

theorem angle_zero_iff (gyro : Ahrs K) : gyro.zero.getAngle = 0 ↔ |gyro.yaw| < 360 := by
  rw [getAngle_zero, sub_eq_zero, eq_comm, fmod_eq_self_iff (by norm_num)]

/-- A whole turn left in the angle is more than a half turn to any target at zero. -/
theorem turn_left_over (gyro : Ahrs K) (wound : 360 ≤ |gyro.yaw|) : 180 < |gyro.zero.getAngle| := by
  have angle : gyro.zero.getAngle = 360 * (trunc (gyro.yaw / 360) : K) := by
    rw [getAngle_zero, fmod]
    ring
  have nonzero : trunc (gyro.yaw / 360) ≠ 0 := by
    intro none
    have small := (trunc_eq_zero_iff _).mp none
    rw [abs_div, div_lt_one (by norm_num), abs_of_pos (by norm_num : (0 : K) < 360)] at small
    exact absurd small (not_lt.mpr wound)
  have whole : (1 : K) ≤ |(trunc (gyro.yaw / 360) : K)| := by
    exact_mod_cast Int.one_le_abs nonzero
  rw [angle, abs_mul, abs_of_pos (by norm_num : (0 : K) < 360)]
  linarith

/-- Zeroing takes effect exactly when less than a revolution was accumulated. -/
theorem zeroed_iff (gyro : Ahrs K) : Zeroed gyro.zero ↔ |gyro.yaw| < 360 := by
  constructor
  · intro zeroed
    exact (angle_zero_iff gyro).mp zeroed.angle
  · intro small
    have angle := (angle_zero_iff gyro).mpr small
    exact ⟨angle, fun c near => shortWay_of_angle angle c near⟩

theorem shortWay_iff (gyro : Ahrs K) :
    (∀ c : GyroAzimuth K, |c.target| ≤ 180 → ShortWay gyro.zero c) ↔ |gyro.yaw| < 360 := by
  constructor
  · intro turns
    by_contra wound
    have long := turn_left_over gyro (not_lt.mp wound)
    have error := (turns ⟨0, 0, 0, 0⟩ (by norm_num)).1
    rw [GyroAzimuth.init] at error
    dsimp only at error
    rw [zero_sub, abs_neg] at error
    exact absurd error (not_le.mpr long)
  · exact fun small => (zeroed_iff gyro |>.mpr small).turns

theorem zeroing_takes_effect_iff (r : Robot ℝ) :
    (∀ di, Zeroed (r.autonomousInit di).gyro ↔ |r.gyro.yaw| < 360) ∧
      (Zeroed r.zeroGyro.gyro ↔ |r.gyro.yaw| < 360) :=
  ⟨fun _ => zeroed_iff r.gyro, zeroed_iff r.gyro⟩

theorem revolution_survives_zeroing :
    ¬Zeroed (Robot.autonomousInit (Robot.initial (360 : ℝ)) fun _ => true).gyro := by
  intro zeroed
  have angle := (angle_zero_iff _).mp zeroed.angle
  norm_num [Robot.initial] at angle

end Steamworks.Gyro
