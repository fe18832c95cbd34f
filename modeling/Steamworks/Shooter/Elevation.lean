import Steamworks.Gyro.Ramp
import Steamworks.Library.Run
import Steamworks.Shooter.Wheel

/-! The shooter's elevation and `GetAngle`, the loop that steers it by the
camera's centerline error. Errors are whole pixels, which the ramp takes to a
whole number or at least 1/112 off one: rounding in double does not change the
int it is cut to, so the ramp is computed exactly. -/
namespace Steamworks.Shooter
open Library.Remainder Library.Run Steamworks.Gyro

def kElevationIncrement : ℤ := 25

namespace ShooterElevation

def incrementElevation (s : ShooterElevation) : ShooterElevation :=
  s.setElevation (s.elevationSetpoint + kElevationIncrement)

def decrementElevation (s : ShooterElevation) : ShooterElevation :=
  s.setElevation (s.elevationSetpoint - kElevationIncrement)

end ShooterElevation

structure GetAngle where
  hasTarget : Bool
  error : ℚ
  absError : ℚ
  delta : ℚ
  setpoint : ℤ
  stableCount : ℕ

namespace GetAngle

def kMaxSpeed : ℚ := 70
def kMinSpeed : ℚ := 1
def kCloseEnough : ℚ := 3
def kSlopeStart : ℚ := 115
def kStableCountReq : ℕ := 3

def init (c : GetAngle) (centerlineError : ℤ) : GetAngle :=
  { c with error := centerlineError, stableCount := 0 }

def execute (c : GetAngle) (elevation : ShooterElevation) (hasTarget : Bool)
    (centerlineError : ℤ) : GetAngle × ShooterElevation :=
  if !hasTarget then ({ c with hasTarget := hasTarget }, elevation)
  else
    let error : ℚ := centerlineError
    let absError := |error|
    let delta := rampSpeed kMinSpeed kMaxSpeed kCloseEnough kSlopeStart absError
    let delta := delta * (if error < 0 then -1 else 1)
    let setpoint := elevation.elevationSetpoint + trunc delta
    ({ c with hasTarget, error, absError, delta, setpoint }, elevation.setElevation setpoint)

def isFinished (c : GetAngle) (hasTarget : Bool) : GetAngle × Bool :=
  if !hasTarget then (c, false)
  else
    let stableCount := if c.absError < kCloseEnough then c.stableCount + 1 else 0
    ({ c with stableCount }, stableCount == kStableCountReq)

end GetAngle

/-- The subsystem and the command, with a member not yet assigned holding
anything. -/
structure Ranging where
  elevation : ShooterElevation
  command : GetAngle

inductive ElevationEvent where
  | setElevation (elevation : ℤ)
  | incrementElevation
  | decrementElevation
  | init (centerlineError : ℤ)
  | execute (hasTarget : Bool) (centerlineError : ℤ)
  | isFinished (hasTarget : Bool)

def Ranging.step (r : Ranging) : ElevationEvent → Ranging
  | .setElevation elevation => { r with elevation := r.elevation.setElevation elevation }
  | .incrementElevation => { r with elevation := r.elevation.incrementElevation }
  | .decrementElevation => { r with elevation := r.elevation.decrementElevation }
  | .init centerlineError => { r with command := r.command.init centerlineError }
  | .execute hasTarget centerlineError =>
      let next := r.command.execute r.elevation hasTarget centerlineError
      ⟨next.2, next.1⟩
  | .isFinished hasTarget => { r with command := (r.command.isFinished hasTarget).1 }

/-- What one tick with this error adds to the setpoint. -/
def angleDelta (centerlineError : ℤ) : ℤ :=
  trunc (rampSpeed GetAngle.kMinSpeed GetAngle.kMaxSpeed GetAngle.kCloseEnough
    GetAngle.kSlopeStart |(centerlineError : ℚ)| * (if (centerlineError : ℚ) < 0 then -1 else 1))

theorem limitElevation_eq (elevation : ℤ) :
    limitElevation elevation = max 0 (min elevation 6000) := by
  unfold limitElevation kMinElevation kMaxElevation
  split_ifs <;> omega

theorem limitElevation_range (elevation : ℤ) :
    0 ≤ limitElevation elevation ∧ limitElevation elevation ≤ 6000 := by
  rw [limitElevation_eq]
  omega

/-- The size of a step: the ramp between 1 and 70, cut to whole ticks. -/
def angleStep (pixels : ℤ) : ℤ :=
  ⌊rampSpeed GetAngle.kMinSpeed GetAngle.kMaxSpeed GetAngle.kCloseEnough GetAngle.kSlopeStart
    (pixels : ℚ)⌋

theorem speeds_rise : GetAngle.kMinSpeed ≤ GetAngle.kMaxSpeed := by
  norm_num [GetAngle.kMinSpeed, GetAngle.kMaxSpeed]

theorem minSpeed_nonneg : 0 ≤ GetAngle.kMinSpeed := by
  norm_num [GetAngle.kMinSpeed]

theorem angleStep_close {pixels : ℤ} (close : pixels < 3) : angleStep pixels = 0 := by
  have near : (pixels : ℚ) < GetAngle.kCloseEnough := by
    rw [GetAngle.kCloseEnough]
    exact_mod_cast close
  rw [angleStep, ramp_close (by norm_num [GetAngle.kCloseEnough, GetAngle.kSlopeStart]) near,
    Int.floor_zero]

theorem one_le_angleStep {pixels : ℤ} (far : 3 ≤ pixels) : 1 ≤ angleStep pixels := by
  have away : GetAngle.kCloseEnough ≤ (pixels : ℚ) := by
    rw [GetAngle.kCloseEnough]
    exact_mod_cast far
  have least : (1 : ℚ) ≤ rampSpeed GetAngle.kMinSpeed GetAngle.kMaxSpeed GetAngle.kCloseEnough
      GetAngle.kSlopeStart (pixels : ℚ) := le_ramp speeds_rise away
  apply Int.le_floor.mpr
  exact_mod_cast least

theorem angleStep_le (pixels : ℤ) : angleStep pixels ≤ 70 := by
  have cut : (angleStep pixels : ℚ) ≤ 70 :=
    (Int.floor_le _).trans (ramp_le minSpeed_nonneg speeds_rise)
  exact_mod_cast cut

theorem angleStep_nonneg (pixels : ℤ) : 0 ≤ angleStep pixels :=
  Int.floor_nonneg.mpr (ramp_nonneg minSpeed_nonneg speeds_rise)

theorem angleStep_mono {pixels further : ℤ} (le : pixels ≤ further) :
    angleStep pixels ≤ angleStep further := by
  apply Int.floor_mono
  apply ramp_mono minSpeed_nonneg speeds_rise
  exact_mod_cast le

theorem angleDelta_of_nonneg {error : ℤ} (right : 0 ≤ error) :
    angleDelta error = angleStep |error| := by
  have sign : ¬(error : ℚ) < 0 := by
    rw [not_lt]
    exact_mod_cast right
  rw [angleDelta, if_neg sign, mul_one,
    trunc_of_nonneg (ramp_nonneg minSpeed_nonneg speeds_rise), angleStep, Int.cast_abs]

theorem angleDelta_of_neg {error : ℤ} (left : error < 0) :
    angleDelta error = -angleStep |error| := by
  have sign : (error : ℚ) < 0 := by exact_mod_cast left
  rw [angleDelta, if_pos sign, mul_neg, mul_one, trunc_neg,
    trunc_of_nonneg (ramp_nonneg minSpeed_nonneg speeds_rise), angleStep, Int.cast_abs]

theorem abs_angleDelta (error : ℤ) : |angleDelta error| = angleStep |error| := by
  by_cases left : error < 0
  · rw [angleDelta_of_neg left, abs_neg, abs_of_nonneg (angleStep_nonneg _)]
  · rw [angleDelta_of_nonneg (not_lt.mp left), abs_of_nonneg (angleStep_nonneg _)]

/-- A step that rests inside the tolerance, moves toward the error outside it
by 1 to 70 ticks, and never less for a larger error. -/
structure Steers (d : ℤ → ℤ) : Prop where
  rests : ∀ error, |error| < 3 → d error = 0
  right : ∀ error, 3 ≤ error → 0 < d error
  left : ∀ error, error ≤ -3 → d error < 0
  least : ∀ error, 3 ≤ |error| → 1 ≤ |d error|
  most : ∀ error, |d error| ≤ 70
  monotone : ∀ error further, |error| ≤ |further| → |d error| ≤ |d further|

theorem angleDelta_steers : Steers angleDelta where
  rests error close := by
    rw [← abs_eq_zero, abs_angleDelta, angleStep_close close]
  right error far := by
    have step := one_le_angleStep (far.trans (le_abs_self error))
    rw [angleDelta_of_nonneg (by omega)]
    omega
  left error far := by
    have away : 3 ≤ |error| := by
      rw [abs_of_neg (by omega)]
      omega
    have step := one_le_angleStep away
    rw [angleDelta_of_neg (by omega)]
    omega
  least error far := by
    rw [abs_angleDelta]
    exact one_le_angleStep far
  most error := by
    rw [abs_angleDelta]
    exact angleStep_le |error|
  monotone error further le := by
    rw [abs_angleDelta, abs_angleDelta]
    exact angleStep_mono le

theorem execute_target (c : GetAngle) (elevation : ShooterElevation) (error : ℤ) :
    (c.execute elevation true error).2 =
      elevation.setElevation (elevation.elevationSetpoint + angleDelta error) := rfl

/-- The setpoint and every value ever sent lie in the mechanical range. -/
structure Confined (s : ShooterElevation) : Prop where
  setpoint : s.elevationSetpoint ∈ Set.Icc 0 6000
  sent : ∀ command ∈ s.talon.sent, ∃ value ∈ Set.Icc 0 6000, command = .set value

theorem setElevation_confined {s : ShooterElevation} (confined : Confined s) (elevation : ℤ) :
    Confined (s.setElevation elevation) where
  setpoint := limitElevation_range elevation
  sent command member := by
    rcases List.mem_cons.mp member with rfl | earlier
    · exact ⟨limitElevation elevation, limitElevation_range elevation, rfl⟩
    · exact confined.sent command earlier

theorem step_confined (r : Ranging) (e : ElevationEvent) (confined : Confined r.elevation) :
    Confined (r.step e).elevation := by
  cases e with
  | setElevation elevation => exact setElevation_confined confined elevation
  | incrementElevation => exact setElevation_confined confined _
  | decrementElevation => exact setElevation_confined confined _
  | init centerlineError => exact confined
  | execute hasTarget centerlineError =>
    cases hasTarget with
    | false => exact confined
    | true => exact setElevation_confined confined _
  | isFinished hasTarget => exact confined

/-- What a `GetAngle` tick does to the setpoint, when it steps by `d`. -/
def TickSteps (d : ℤ → ℤ) (r : Ranging) : ElevationEvent → Prop
  | .execute true centerlineError =>
      (r.step (.execute true centerlineError)).elevation.elevationSetpoint =
        max 0 (min (r.elevation.elevationSetpoint + d centerlineError) 6000)
  | .execute false centerlineError =>
      (r.step (.execute false centerlineError)).elevation.elevationSetpoint =
        r.elevation.elevationSetpoint
  | _ => True

theorem tickSteps_angleDelta (r : Ranging) (e : ElevationEvent) : TickSteps angleDelta r e := by
  cases e with
  | execute hasTarget centerlineError =>
    cases hasTarget with
    | false => rfl
    | true =>
      change (r.command.execute r.elevation true centerlineError).2.elevationSetpoint = _
      rw [execute_target]
      exact limitElevation_eq _
  | _ => trivial

theorem elevation_confined_and_steered (command : GetAngle) (events : List ElevationEvent) :
    Confined (run Ranging.step ⟨{}, command⟩ events).elevation ∧
      ∃ d, Steers d ∧ Along Ranging.step (TickSteps d) ⟨{}, command⟩ events := by
  constructor
  · have fresh : Confined {} := ⟨⟨le_refl 0, by norm_num⟩, fun command member => by cases member⟩
    exact run_invariant step_confined fresh events
  · exact ⟨angleDelta, angleDelta_steers, along_of_forall tickSteps_angleDelta events⟩

end Steamworks.Shooter
