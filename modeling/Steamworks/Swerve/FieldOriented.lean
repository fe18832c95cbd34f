import Steamworks.Swerve.DriveProofs

/-! Field-oriented driving in the plane. Each wheel is sent the demanded vector
under one common cut; about the robot's centre the rotational parts cancel, so
the mean velocity is the stick's translation, seen from the field. -/
namespace Steamworks.Swerve.SwerveDrive
open Library.Remainder Library.Polar Library.Run Swerve.SwerveMath

/-- The demand as an arrow (strafe, forward) of the robot's frame. -/
noncomputable def demandArrow (m : SwerveMath ℝ) (dd : DriveData ℝ) (rp : RotationPoint) (i : Fin 4) : ℝ × ℝ :=
  ((m.demand dd rp i).x, (m.demand dd rp i).y)

/-- The part of a wheel's demand that turns the robot. -/
noncomputable def rotationArrow (m : SwerveMath ℝ) (rp : RotationPoint) (azimuth : ℝ) (i : Fin 4) : ℝ × ℝ :=
  ((m.rotationVectors rp i).x * azimuth, (m.rotationVectors rp i).y * azimuth)

noncomputable def commandedVelocity (out : DriveData ℝ) (i : Fin 4) : ℝ × ℝ :=
  vector (out.wheelAngle i) (out.wheelSpeed i)

noncomputable def meanVelocity (out : DriveData ℝ) : ℝ × ℝ :=
  (1 / 4 : ℝ) • ∑ i, commandedVelocity out i

/-- From the robot's frame back to the field's. -/
noncomputable def toField (heading : Heading ℝ) (v : ℝ × ℝ) : ℝ × ℝ :=
  (v.1 * heading.cosRad + v.2 * heading.sinRad, v.2 * heading.cosRad - v.1 * heading.sinRad)

/-- The heading of the arc tangent and the length of the square root are the
polar data of the demand itself. -/
theorem vector_demand (m : SwerveMath ℝ) (dd : DriveData ℝ) (rp : RotationPoint) (i : Fin 4) :
    vector (m.demandHeading Libm.real dd rp i) (m.demandMag Libm.real dd rp i) =
      demandArrow m dd rp i := by
  rw [demandHeading, wheelHeading, vector_modEq (fmod_modEq _ _)]
  exact vector_of_arg _ _

theorem commandedVelocity_operatorCall (m : SwerveMath ℝ) (consistent : m.Consistent)
    (dd : DriveData ℝ) (rp : RotationPoint) (i : Fin 4) :
    commandedVelocity (m.operatorCall Libm.real dd rp).2 i =
      (1 / max 1 (maxWheelMag (m.demandMag Libm.real dd rp))) • demandArrow m dd rp i := by
  rw [commandedVelocity, (operatorCall_denotes Libm.real m consistent dd rp i).vector_eq, vector_scale,
    vector_demand]

theorem hypot_centerOffset (libm : Libm ℝ) (width length : ℝ) (i : Fin 4) :
    libm.hypot (wheelOffset width length ⟨0, 0⟩ i).x (wheelOffset width length ⟨0, 0⟩ i).y =
      libm.sqrt (width * width / 4 + length * length / 4) := by
  unfold Libm.hypot
  congr 1
  fin_cases i <;> simp only [wheelOffset, cordMultipliers] <;> simp <;> ring

theorem sum_centerVectors (libm : Libm ℝ) (width length : ℝ) :
    ∑ i, (calcRotationVectors libm width length ⟨0, 0⟩ i).x = 0 ∧
      ∑ i, (calcRotationVectors libm width length ⟨0, 0⟩ i).y = 0 := by
  let radius := libm.sqrt (width * width / 4 + length * length / 4)
  have scaled (i : Fin 4) : calcRotationVectors libm width length ⟨0, 0⟩ i =
      ⟨-(wheelOffset width length ⟨0, 0⟩ i).y / radius,
        (wheelOffset width length ⟨0, 0⟩ i).x / radius⟩ := by
    rw [calcRotationVectors, hypot_centerOffset]
  simp only [scaled, Fin.sum_univ_four, wheelOffset, cordMultipliers]
  constructor
  · simp
    ring
  · simp
    ring

theorem sum_rotationArrow (g : Geometry ℝ) (m : SwerveMath ℝ)
    (vectors : m.rotationVectors = g.rotationVectors Libm.real) (azimuth : ℝ) :
    ∑ i, rotationArrow m .center azimuth i = 0 := by
  obtain ⟨x, y⟩ := sum_centerVectors Libm.real g.wheelbaseWidth g.wheelbaseLength
  apply Prod.ext
  · rw [Prod.fst_sum]
    simp only [rotationArrow, vectors, Geometry.rotationVectors, ← Finset.sum_mul, x, zero_mul,
      Prod.fst_zero]
  · rw [Prod.snd_sum]
    simp only [rotationArrow, vectors, Geometry.rotationVectors, ← Finset.sum_mul, y, zero_mul,
      Prod.snd_zero]

theorem demandArrow_driveData (m : SwerveMath ℝ) (forward strafe azimuth : ℝ) (i : Fin 4) :
    demandArrow m (driveData forward strafe azimuth) .center i =
      (strafe, forward) + rotationArrow m .center azimuth i := rfl

theorem mean_of_cancelling {arrows rest : Fin 4 → ℝ × ℝ} {k : ℝ} {common : ℝ × ℝ}
    (parts : ∀ i, arrows i = k • (common + rest i)) (cancel : ∑ i, rest i = 0) :
    (1 / 4 : ℝ) • ∑ i, arrows i = k • common := by
  simp only [parts, ← Finset.smul_sum, Finset.sum_add_distrib, cancel, add_zero, Finset.sum_const,
    Finset.card_univ, Fintype.card_fin]
  module

theorem toField_rotated (heading : Heading ℝ) (forward strafe k : ℝ) :
    toField heading (k • (rotatedStrafe heading forward strafe,
      rotatedForward heading forward strafe)) = (k * strafe, k * forward) := by
  have unit := heading.unit
  simp only [toField, rotatedStrafe, rotatedForward, Prod.smul_mk, smul_eq_mul, Prod.mk.injEq]
  constructor
  · linear_combination k * strafe * unit
  · linear_combination k * forward * unit

theorem driveField_moving (libm : Libm ℝ) (d : SwerveDrive ℝ) (heading : Heading ℝ)
    (forward strafe azimuth deadZone : ℝ) (enabled : d.gyroDisabled = false)
    (moving : ¬isStopping (rotatedForward heading forward strafe)
      (rotatedStrafe heading forward strafe) azimuth deadZone) :
    d.driveField libm heading forward strafe azimuth deadZone =
      d.sendWheels (d.math.operatorCall libm (driveData (rotatedForward heading forward strafe)
        (rotatedStrafe heading forward strafe) azimuth) .center) := by
  simp only [driveField, enabled, Bool.false_eq_true, if_false, drive_, if_neg moving]

/-- In every reachable state the wheels are sent velocities whose mean, seen
from the field, is the stick's translation under one cut `k`; each is that
translation plus a rotational part, and these cancel. -/
theorem field_oriented (g : Geometry ℝ) (calls : List (Call ℝ)) (d : SwerveDrive ℝ)
    (reachable : d.math = run (SwerveMath.step Libm.real) (g.swerveMath Libm.real) calls)
    (enabled : d.gyroDisabled = false) (heading : Heading ℝ)
    (forward strafe azimuth deadZone : ℝ)
    (moving : ¬isStopping (rotatedForward heading forward strafe)
      (rotatedStrafe heading forward strafe) azimuth deadZone) :
    let next := d.driveField Libm.real heading forward strafe azimuth deadZone
    let out := (d.math.operatorCall Libm.real (driveData (rotatedForward heading forward strafe)
      (rotatedStrafe heading forward strafe) azimuth) .center).2
    (∀ i, (next.azimuth i).last = some (.set (azimuthTicks (out.wheelAngle i))) ∧
      (next.drive i).last = some (.set (out.wheelSpeed i * d.driveScaleFactor))) ∧
    ∃ k : ℝ, 0 < k ∧ k ≤ 1 ∧
      toField heading (meanVelocity out) = (k * strafe, k * forward) ∧
      (∀ i, commandedVelocity out i = k • ((rotatedStrafe heading forward strafe,
        rotatedForward heading forward strafe) + rotationArrow d.math .center azimuth i)) ∧
      ∑ i, k • rotationArrow d.math .center azimuth i = 0 := by
  intro next out
  have consistent : d.math.Consistent := reachable ▸ run_consistent Libm.real g calls
  have vectors : d.math.rotationVectors = g.rotationVectors Libm.real := by
    rw [reachable]
    exact run_frame (step_rotationVectors Libm.real) (g.swerveMath Libm.real) calls
  let dd := driveData (rotatedForward heading forward strafe)
    (rotatedStrafe heading forward strafe) azimuth
  let largest := maxWheelMag (d.math.demandMag Libm.real dd .center)
  have cut : 1 ≤ max 1 largest := le_max_left _ _
  have velocity : ∀ i, commandedVelocity out i = (1 / max 1 largest) •
      ((rotatedStrafe heading forward strafe, rotatedForward heading forward strafe) +
        rotationArrow d.math .center azimuth i) := fun i => by
    rw [commandedVelocity_operatorCall d.math consistent dd .center i, demandArrow_driveData]
  have cancel := sum_rotationArrow g d.math vectors azimuth
  refine ⟨fun i => ?_, 1 / max 1 largest, ?_, ?_, ?_, velocity, ?_⟩
  · have sent := driveField_moving Libm.real d heading forward strafe azimuth deadZone enabled moving
    change (((d.driveField Libm.real heading forward strafe azimuth deadZone).azimuth i).last = _) ∧
      ((d.driveField Libm.real heading forward strafe azimuth deadZone).drive i).last = _
    rw [sent]
    exact ⟨rfl, rfl⟩
  · exact one_div_pos.mpr (one_pos.trans_le cut)
  · exact (div_le_one (one_pos.trans_le cut)).mpr cut
  · rw [meanVelocity, mean_of_cancelling velocity cancel, toField_rotated]
  · rw [← Finset.smul_sum, cancel, smul_zero]

/-- Turned by the angle of a 3-4-5 triangle. -/
noncomputable def aslant : Heading ℝ := ⟨0.6, 0.8, by norm_num⟩

/-- Driven ahead first, with the robot turned and turning further. -/
theorem field_oriented_aslant :
    let d := atPowerOn.driveField Libm.real ahead 1 0 0 0.05
    let out := (d.math.operatorCall Libm.real (driveData (rotatedForward aslant 1 0.5)
      (rotatedStrafe aslant 1 0.5) 0.25) .center).2
    ∃ k : ℝ, 0 < k ∧ k ≤ 1 ∧ toField aslant (meanVelocity out) = (k * 0.5, k * 1) := by
  intro d out
  have earlier : ¬isStopping (rotatedForward ahead (1 : ℝ) 0) (rotatedStrafe ahead 1 0) 0 0.05 := by
    rintro ⟨slow, _⟩
    norm_num [rotatedForward, ahead] at slow
  have driven : d = atPowerOn.sendWheels (atPowerOn.math.operatorCall Libm.real
      (driveData (rotatedForward ahead 1 0) (rotatedStrafe ahead 1 0) 0) .center) :=
    driveField_moving Libm.real atPowerOn ahead 1 0 0 0.05 rfl earlier
  have moving : ¬isStopping (rotatedForward aslant (1 : ℝ) 0.5) (rotatedStrafe aslant 1 0.5) 0.25
      0.05 := by
    rintro ⟨slow, _⟩
    norm_num [rotatedForward, aslant, abs_of_pos] at slow
  obtain ⟨_, k, positive, atMostOne, mean, _⟩ :=
    field_oriented Geometry.competition [.operator (driveData (rotatedForward ahead 1 0)
      (rotatedStrafe ahead 1 0) 0) .center] d (by rw [driven]; rfl) (by rw [driven]; rfl) aslant 1 0.5
      0.25 0.05 moving
  exact ⟨k, positive, atMostOne, mean⟩

end Steamworks.Swerve.SwerveDrive
