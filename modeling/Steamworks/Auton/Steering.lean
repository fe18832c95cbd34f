import Steamworks.Auton.Commands

/-! The steering loops of the autonomous commands as functions of their errors:
four copies of one ramp, with their own constants and signs. What the two send
that turn the robot in place gets past their dead zones. -/
namespace Steamworks.Auton
open Gyro Library.Feedback Swerve Swerve.SwerveDrive

variable {K : Type*} [Field K] [LinearOrder K]

namespace Steering

/-- `GyroAzimuth`, for target less angle. -/
def gyroAzimuth : K → K :=
  towards (rampSpeed GyroAzimuth.kMinSpeed GyroAzimuth.kMaxSpeed GyroAzimuth.kCloseEnough
    GyroAzimuth.kSlopeStart)

/-- `DeadeyeAzimuth`, for the camera's azimuth error. -/
def deadeyeAzimuth : K → K := against DeadeyeAzimuth.speed

/-- `PlaceGear`, for the camera's strafe error less the offset. -/
def placeGearStrafe : K → K :=
  towards (rampSpeed PlaceGear.kStrafeMinSpeed PlaceGear.kStrafeMaxSpeed
    PlaceGear.kStrafeCloseEnough PlaceGear.kStrafeSlopeStart)

/-- `PlaceGear`, for the angle less the one to face the lift at. -/
def placeGearAzimuth : K → K :=
  against (rampSpeed PlaceGear.kAzimuthMinSpeed PlaceGear.kAzimuthMaxSpeed
    PlaceGear.kAzimuthCloseEnough PlaceGear.kAzimuthSlopeStart)

end Steering

open Steering

theorem gyroAzimuth_execute (c : GyroAzimuth K) (gyro : Ahrs K) :
    (c.execute gyro).2 = (gyroAzimuth (c.target - gyro.getAngle), GyroAzimuth.kDeadZone) := rfl

theorem azimuth_calculated (r : Readings K) (c : PlaceGear K) :
    (c.calculateAzimuthSetpoint r).2 = placeGearAzimuth (r.gyro.getAngle - c.azimuthAngle) := rfl

section
variable [FloorRing K]

theorem strafe_calculated {r : Readings K} {c : PlaceGear K} (visible : r.hasTargetStill = true)
    (beyond : PlaceGear.kStrafeEndDistance ≤ c.distance - |(getPosition r.positions : K)|) :
    (c.calculateStrafeSetpoint r).2 = placeGearStrafe ((r.strafeError : K) - PlaceGear.kStrafeOffset) := by
  simp only [PlaceGear.calculateStrafeSetpoint, if_neg (not_lt.mpr beyond), visible]
  rfl

theorem deadeyeAzimuth_execute (p : Platform K) {r : Readings K} (c : DeadeyeAzimuth K)
    (d : SwerveDrive K) (visible : r.hasTarget = true) :
    (c.execute p r d).1.setpoint = deadeyeAzimuth (r.azimuthError : K) ∧
      (c.execute p r d).2 = d.driveField p.libm (p.heading r.driveGyro) 0 0
        (deadeyeAzimuth (r.azimuthError : K)) DeadeyeAzimuth.kDeadZone := by
  simp only [DeadeyeAzimuth.execute, visible]
  exact ⟨rfl, rfl⟩

/-- A turn that gets past the dead zone is sent to the wheels, at any heading. -/
theorem driveField_turning (libm : Libm K) (d : SwerveDrive K) (heading : Heading K)
    {azimuth deadZone : K} (past : deadZone ≤ |azimuth|) :
    d.driveField libm heading 0 0 azimuth deadZone =
      d.sendWheels (d.math.operatorCall libm (driveData 0 0 azimuth) .center) := by
  have forward : rotatedForward heading 0 0 = 0 := by simp [rotatedForward]
  have strafe : rotatedStrafe heading 0 0 = 0 := by simp [rotatedStrafe]
  have turning : ¬isStopping 0 0 azimuth deadZone := fun stopping => past.not_gt stopping.2.2
  unfold driveField
  rw [forward, strafe, ite_self, drive_, if_neg turning]

end

variable [IsStrictOrderedRing K]

/-- The four ramps. -/
theorem gyroAzimuth_rising : Rising (rampSpeed (GyroAzimuth.kMinSpeed : K) GyroAzimuth.kMaxSpeed
    GyroAzimuth.kCloseEnough GyroAzimuth.kSlopeStart) GyroAzimuth.kCloseEnough GyroAzimuth.kMaxSpeed := by
  apply ramp_rising <;>
    norm_num [GyroAzimuth.kMinSpeed, GyroAzimuth.kMaxSpeed, GyroAzimuth.kSetpointMax,
      GyroAzimuth.kCloseEnough, GyroAzimuth.kSlopeStart]

theorem strafe_rising : Rising (rampSpeed (PlaceGear.kStrafeMinSpeed : K) PlaceGear.kStrafeMaxSpeed
    PlaceGear.kStrafeCloseEnough PlaceGear.kStrafeSlopeStart) PlaceGear.kStrafeCloseEnough
      PlaceGear.kStrafeMaxSpeed := by
  apply ramp_rising <;>
    norm_num [PlaceGear.kStrafeMinSpeed, PlaceGear.kStrafeMaxSpeed, PlaceGear.kDriveSpeed,
      PlaceGear.kSetpointMax, PlaceGear.kStrafeCloseEnough, PlaceGear.kStrafeSlopeStart]

theorem azimuth_rising : Rising (rampSpeed (PlaceGear.kAzimuthMinSpeed : K) PlaceGear.kAzimuthMaxSpeed
    PlaceGear.kAzimuthCloseEnough PlaceGear.kAzimuthSlopeStart) PlaceGear.kAzimuthCloseEnough
      PlaceGear.kAzimuthMaxSpeed := by
  apply ramp_rising <;>
    norm_num [PlaceGear.kAzimuthMinSpeed, PlaceGear.kAzimuthMaxSpeed, PlaceGear.kDriveSpeed,
      PlaceGear.kSetpointMax, PlaceGear.kAzimuthCloseEnough, PlaceGear.kAzimuthSlopeStart]

theorem closeEnough_nested : (DeadeyeAzimuth.kCloseEnoughExact : K) < DeadeyeAzimuth.kCloseEnough := by
  norm_num [DeadeyeAzimuth.kCloseEnough, DeadeyeAzimuth.kCloseEnoughExact]

/-- The camera's ramp has a step before it. -/
theorem speed_stepped : (DeadeyeAzimuth.speed : K → K) =
    stepped (rampSpeed DeadeyeAzimuth.kMinSpeed DeadeyeAzimuth.kMaxSpeed DeadeyeAzimuth.kCloseEnough
      DeadeyeAzimuth.kSlopeStart) DeadeyeAzimuth.kCloseEnoughExact DeadeyeAzimuth.kCloseEnough
        DeadeyeAzimuth.kMinSpeedExact := by
  have first : (DeadeyeAzimuth.kCloseEnoughExact : K) < DeadeyeAzimuth.kCloseEnough :=
    closeEnough_nested
  have last : (DeadeyeAzimuth.kCloseEnough : K) < DeadeyeAzimuth.kSlopeStart := by
    norm_num [DeadeyeAzimuth.kCloseEnough, DeadeyeAzimuth.kSlopeStart]
  funext away
  unfold DeadeyeAzimuth.speed stepped rampSpeed
  by_cases inside : away < DeadeyeAzimuth.kSlopeStart
  · rw [if_pos inside, if_pos inside]
    split_ifs <;> rfl
  · rw [if_neg inside, if_neg inside, if_neg, if_neg]
    · linarith
    · linarith

/-- The step is no higher than the ramp it leads to. -/
theorem step_below {away : K} (far : DeadeyeAzimuth.kCloseEnough ≤ away) :
    DeadeyeAzimuth.kMinSpeedExact ≤ rampSpeed (DeadeyeAzimuth.kMinSpeed : K) DeadeyeAzimuth.kMaxSpeed
      DeadeyeAzimuth.kCloseEnough DeadeyeAzimuth.kSlopeStart away := by
  have rising : (DeadeyeAzimuth.kMinSpeed : K) ≤ DeadeyeAzimuth.kMaxSpeed := by
    norm_num [DeadeyeAzimuth.kMinSpeed, DeadeyeAzimuth.kMaxSpeed, DeadeyeAzimuth.kSetpointMax]
  have lower : (DeadeyeAzimuth.kMinSpeedExact : K) ≤ DeadeyeAzimuth.kMinSpeed := by
    norm_num [DeadeyeAzimuth.kMinSpeed, DeadeyeAzimuth.kMinSpeedExact, DeadeyeAzimuth.kSetpointMax]
  exact lower.trans (le_ramp rising far)

theorem deadeyeAzimuth_rising :
    Rising (DeadeyeAzimuth.speed : K → K) DeadeyeAzimuth.kCloseEnoughExact DeadeyeAzimuth.kMaxSpeed := by
  have ramp : Rising (rampSpeed (DeadeyeAzimuth.kMinSpeed : K) DeadeyeAzimuth.kMaxSpeed
      DeadeyeAzimuth.kCloseEnough DeadeyeAzimuth.kSlopeStart) DeadeyeAzimuth.kCloseEnough
        DeadeyeAzimuth.kMaxSpeed := by
    apply ramp_rising <;>
      norm_num [DeadeyeAzimuth.kMinSpeed, DeadeyeAzimuth.kMaxSpeed, DeadeyeAzimuth.kSetpointMax,
        DeadeyeAzimuth.kCloseEnough, DeadeyeAzimuth.kSlopeStart]
  have positive : (0 : K) < DeadeyeAzimuth.kMinSpeedExact := by
    norm_num [DeadeyeAzimuth.kMinSpeedExact, DeadeyeAzimuth.kSetpointMax]
  rw [speed_stepped]
  exact ramp.stepped closeEnough_nested.le positive fun away far => step_below far

theorem gyroAzimuth_past {error : K} (outside : GyroAzimuth.kCloseEnough ≤ |error|) :
    GyroAzimuth.kDeadZone ≤ |gyroAzimuth error| := by
  have rising : (GyroAzimuth.kMinSpeed : K) ≤ GyroAzimuth.kMaxSpeed := by
    norm_num [GyroAzimuth.kMinSpeed, GyroAzimuth.kMaxSpeed, GyroAzimuth.kSetpointMax]
  have tenth : (GyroAzimuth.kDeadZone : K) ≤ GyroAzimuth.kMinSpeed := by
    norm_num [GyroAzimuth.kDeadZone, GyroAzimuth.kMinSpeed, GyroAzimuth.kSetpointMax]
  rw [gyroAzimuth, abs_towards gyroAzimuth_rising.nonneg]
  exact tenth.trans (le_ramp rising outside)

theorem deadeyeAzimuth_past {error : K} (outside : DeadeyeAzimuth.kCloseEnoughExact ≤ |error|) :
    DeadeyeAzimuth.kDeadZone ≤ |deadeyeAzimuth error| := by
  have small : (DeadeyeAzimuth.kDeadZone : K) ≤ DeadeyeAzimuth.kMinSpeedExact := by
    norm_num [DeadeyeAzimuth.kDeadZone, DeadeyeAzimuth.kMinSpeed, DeadeyeAzimuth.kMinSpeedExact,
      DeadeyeAzimuth.kSetpointMax]
  rw [deadeyeAzimuth, abs_against deadeyeAzimuth_rising.nonneg, speed_stepped]
  apply small.trans
  rcases lt_or_ge |error| DeadeyeAzimuth.kCloseEnough with low | high
  · rw [stepped_low outside low]
  · rw [stepped_high closeEnough_nested.le high]
    exact step_below high

/-- The two turns by the gyro, which take their errors with opposite signs. -/
theorem turns_alike (away : K) : 0 ≤ gyroAzimuth away * placeGearAzimuth (-away) ∧
    (GyroAzimuth.kCloseEnough < |away| → PlaceGear.kAzimuthCloseEnough < |away| →
      0 < gyroAzimuth away * placeGearAzimuth (-away)) := by
  have wide : (0 : K) < PlaceGear.kAzimuthCloseEnough := by norm_num [PlaceGear.kAzimuthCloseEnough]
  have flipped : placeGearAzimuth (-away) = towards (rampSpeed PlaceGear.kAzimuthMinSpeed
      PlaceGear.kAzimuthMaxSpeed PlaceGear.kAzimuthCloseEnough PlaceGear.kAzimuthSlopeStart) away := by
    rw [placeGearAzimuth, (law_against azimuth_rising wide).odd, against_eq, neg_neg]
  rw [flipped, gyroAzimuth, towards_mul_towards]
  constructor
  · exact mul_nonneg (gyroAzimuth_rising.nonneg _) (azimuth_rising.nonneg _)
  · intro far further
    exact mul_pos (gyroAzimuth_rising.moving _ far) (azimuth_rising.moving _ further)

/-- What every one of the loops is to be, and what becomes of their setpoints. -/
structure SteersWell (p : Platform ℝ) : Prop where
  gyro : Law (gyroAzimuth : ℝ → ℝ) GyroAzimuth.kCloseEnough GyroAzimuth.kMaxSpeed
  deadeye : Law (deadeyeAzimuth : ℝ → ℝ) DeadeyeAzimuth.kCloseEnoughExact DeadeyeAzimuth.kMaxSpeed
  strafe : Law (placeGearStrafe : ℝ → ℝ) PlaceGear.kStrafeCloseEnough PlaceGear.kStrafeMaxSpeed
  azimuth : Law (placeGearAzimuth : ℝ → ℝ) PlaceGear.kAzimuthCloseEnough PlaceGear.kAzimuthMaxSpeed
  executes_gyro : ∀ (c : GyroAzimuth ℝ) (gyro : Ahrs ℝ),
    (c.execute gyro).2 = (gyroAzimuth (c.target - gyro.getAngle), GyroAzimuth.kDeadZone)
  executes_deadeye : ∀ (c : DeadeyeAzimuth ℝ) (d : SwerveDrive ℝ) (r : Readings ℝ),
    r.hasTarget = true → (c.execute p r d).1.setpoint = deadeyeAzimuth (r.azimuthError : ℝ)
  calculates_strafe : ∀ (c : PlaceGear ℝ) (r : Readings ℝ), r.hasTargetStill = true →
    PlaceGear.kStrafeEndDistance ≤ c.distance - |(getPosition r.positions : ℝ)| →
      (c.calculateStrafeSetpoint r).2 = placeGearStrafe ((r.strafeError : ℝ) - PlaceGear.kStrafeOffset)
  calculates_azimuth : ∀ (c : PlaceGear ℝ) (r : Readings ℝ),
    (c.calculateAzimuthSetpoint r).2 = placeGearAzimuth (r.gyro.getAngle - c.azimuthAngle)
  same_sense : ∀ (c : GyroAzimuth ℝ) (place : PlaceGear ℝ) (r : Readings ℝ),
    c.target = place.azimuthAngle →
      0 ≤ (c.execute r.gyro).2.1 * (place.calculateAzimuthSetpoint r).2 ∧
        (GyroAzimuth.kCloseEnough < |c.target - r.gyro.getAngle| →
          PlaceGear.kAzimuthCloseEnough < |c.target - r.gyro.getAngle| →
            0 < (c.execute r.gyro).2.1 * (place.calculateAzimuthSetpoint r).2)
  gyro_turns : ∀ (c : GyroAzimuth ℝ) (d : SwerveDrive ℝ) (gyroAtEnd : Ahrs ℝ) (r : Readings ℝ),
    GyroAzimuth.kCloseEnough ≤ |c.target - r.gyro.getAngle| →
      ((command p).execute r ⟨.gyroAzimuth c, d, gyroAtEnd⟩).drive =
        d.sendWheels (d.math.operatorCall p.libm
          (driveData 0 0 (gyroAzimuth (c.target - r.gyro.getAngle))) .center)
  deadeye_turns : ∀ (c : DeadeyeAzimuth ℝ) (d : SwerveDrive ℝ) (gyroAtEnd : Ahrs ℝ) (r : Readings ℝ),
    r.hasTarget = true → DeadeyeAzimuth.kCloseEnoughExact ≤ |(r.azimuthError : ℝ)| →
      ((command p).execute r ⟨.deadeyeAzimuth c, d, gyroAtEnd⟩).drive =
        d.sendWheels (d.math.operatorCall p.libm
          (driveData 0 0 (deadeyeAzimuth (r.azimuthError : ℝ))) .center)

/-- All steering ramps are feedback laws that hold at every error. -/
theorem steering_laws (p : Platform ℝ) : SteersWell p where
  gyro := law_towards gyroAzimuth_rising (by norm_num [GyroAzimuth.kCloseEnough])
  deadeye := law_against deadeyeAzimuth_rising (by norm_num [DeadeyeAzimuth.kCloseEnoughExact])
  strafe := law_towards strafe_rising (by norm_num [PlaceGear.kStrafeCloseEnough])
  azimuth := law_against azimuth_rising (by norm_num [PlaceGear.kAzimuthCloseEnough])
  executes_gyro := gyroAzimuth_execute
  executes_deadeye c d r visible := (deadeyeAzimuth_execute p c d visible).1
  calculates_strafe c r visible beyond := strafe_calculated visible beyond
  calculates_azimuth c r := azimuth_calculated r c
  same_sense c place r target := by
    have flipped : r.gyro.getAngle - place.azimuthAngle = -(c.target - r.gyro.getAngle) := by
      rw [target, neg_sub]
    rw [gyroAzimuth_execute, azimuth_calculated, flipped]
    exact turns_alike _
  gyro_turns c d gyroAtEnd r outside :=
    driveField_turning p.libm d (p.heading r.driveGyro) (gyroAzimuth_past outside)
  deadeye_turns c d gyroAtEnd r visible outside := by
    have sent := (deadeyeAzimuth_execute p c d visible).2
    rw [driveField_turning p.libm d _ (deadeyeAzimuth_past outside)] at sent
    exact sent

end Steamworks.Auton
