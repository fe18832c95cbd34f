import Steamworks.Swerve.Rigid

/-! The brake: every wheel is turned towards the robot's centre, so that no two
neighbours roll the same way. A motion of the robot that all four wheels can
follow by rolling would have to be none at all. -/
namespace Steamworks.Swerve.SwerveDrive
open Library.Remainder Library.Polar Library.Planar Library.Run Swerve.SwerveMath

/-- The setpoints of the wheels that point ahead of and behind the robot's right
side, up to half turns. -/
def brakeSetpoint : Fin 4 → ℤ := ![2617, 3527, 2617, 3527]

/-- The operations that write no azimuth Talon. -/
def Op.leavesAzimuth : Op ℝ → Bool
  | .driveAzimuthAutonomous _ | .setDrive _ | .zeroPosition | .setGyroDisabled _
  | .setDriveMode _ _ => true
  | _ => false

/-- A wheel at an azimuth setpoint only rolls along its heading. -/
def Rolls (setpoint : ℝ) (velocity : ℝ × ℝ) : Prop :=
  ∃ speed, velocity = vector (setpoint * 180 / 2048) speed

/-- What a brake setpoint is off a right angle, in radians. -/
noncomputable def brakeAngle : ℝ := 455 * 180 / 2048 * (Real.pi / 180)

theorem brakeAngle_pos : 0 < brakeAngle := by
  have positive := Real.pi_pos
  rw [brakeAngle]
  positivity

theorem brakeAngle_lt : brakeAngle < Real.pi / 2 := by
  have positive := Real.pi_pos
  rw [brakeAngle]
  linarith

theorem cos_brakeAngle_pos : 0 < Real.cos brakeAngle :=
  Real.cos_pos_of_mem_Ioo ⟨by linarith [brakeAngle_pos, Real.pi_pos], brakeAngle_lt⟩

theorem sin_brakeAngle_pos : 0 < Real.sin brakeAngle :=
  Real.sin_pos_of_pos_of_lt_pi brakeAngle_pos (by linarith [brakeAngle_lt, Real.pi_pos])

/-- Along half turns of the azimuth a wheel keeps its line. -/
theorem rolls_half_turns {setpoint : ℝ} {velocity : ℝ × ℝ} (k : ℤ)
    (rolls : Rolls (setpoint + 2048 * k) velocity) : Rolls setpoint velocity := by
  obtain ⟨speed, rfl⟩ := rolls
  have turned : (setpoint + 2048 * k) * 180 / 2048 = setpoint * 180 / 2048 + k * 180 := by ring
  rw [turned]
  obtain ⟨n, rfl | rfl⟩ := Int.even_or_odd' k
  · refine ⟨speed, (vector_modEq (modEq_iff_exists.mpr ⟨n, ?_⟩) speed).symm⟩
    push_cast
    ring
  · refine ⟨-speed, ?_⟩
    have odd : setpoint * 180 / 2048 + 180 ≡
        setpoint * 180 / 2048 + ((2 * n + 1 : ℤ) : ℝ) * 180 [PMOD 360] :=
      modEq_iff_exists.mpr ⟨n, by push_cast; ring⟩
    rw [← vector_modEq odd speed, ← vector_half_turn (setpoint * 180 / 2048) (-speed), neg_neg]

theorem rolls_ahead {velocity : ℝ × ℝ} (rolls : Rolls 3527 velocity) :
    ∃ speed, velocity = (speed * Real.cos brakeAngle, speed * Real.sin brakeAngle) := by
  obtain ⟨speed, rfl⟩ := rolls
  have turned : (3527 : ℝ) * 180 / 2048 * (Real.pi / 180) =
      brakeAngle - Real.pi / 2 + 2 * Real.pi := by
    rw [brakeAngle]
    ring
  refine ⟨speed, ?_⟩
  rw [vector, turned, Real.sin_add_two_pi, Real.cos_add_two_pi, Real.sin_sub_pi_div_two,
    Real.cos_sub_pi_div_two, neg_neg]

theorem rolls_behind {velocity : ℝ × ℝ} (rolls : Rolls 2617 velocity) :
    ∃ speed, velocity = (speed * Real.cos brakeAngle, speed * -Real.sin brakeAngle) := by
  obtain ⟨speed, rfl⟩ := rolls
  have turned : (2617 : ℝ) * 180 / 2048 * (Real.pi / 180) =
      -brakeAngle - Real.pi / 2 + 2 * Real.pi := by
    rw [brakeAngle]
    ring
  refine ⟨speed, ?_⟩
  rw [vector, turned, Real.sin_add_two_pi, Real.cos_add_two_pi, Real.sin_sub_pi_div_two,
    Real.cos_sub_pi_div_two, neg_neg, Real.cos_neg, Real.sin_neg]

/-- Wheels on crossed lines through the corners of a rectangle: along the sides
neighbours would have to roll alike and against each other, and the diagonal
lets a wheel and its opposite not roll at all. -/
theorem crossed_locked {width length c s : ℝ} (widthPos : 0 < width) (lengthPos : 0 < length)
    (cosPos : 0 < c) (sinPos : 0 < s) {velocity : Fin 4 → ℝ × ℝ}
    (rigid : Rigid (wheelPosition width length) velocity) {speed : Fin 4 → ℝ}
    (crossed : ∀ i, velocity i = (speed i * c, speed i * (![-s, s, -s, s] i))) :
    velocity = 0 := by
  have front := rigid 0 1
  have right := rigid 1 2
  have rear := rigid 2 3
  have diagonal := rigid 0 2
  simp only [crossed, dot, wheelPosition, cordMultipliers, Matrix.cons_val, Prod.fst_sub,
    Prod.snd_sub] at front right rear diagonal
  have alike : speed 0 = speed 1 := by
    have product : (speed 1 - speed 0) * (c * width) = 0 := by linarith
    have zero := (mul_eq_zero.mp product).resolve_right (by positivity)
    linarith
  have against : speed 2 = -speed 1 := by
    have product : (speed 1 + speed 2) * (s * length) = 0 := by linarith
    have zero := (mul_eq_zero.mp product).resolve_right (by positivity)
    linarith
  have last : speed 3 = speed 2 := by
    have product : (speed 2 - speed 3) * (c * width) = 0 := by linarith
    have zero := (mul_eq_zero.mp product).resolve_right (by positivity)
    linarith
  have still : speed 1 = 0 := by
    rw [alike, against] at diagonal
    have product : speed 1 * (2 * (c * width + s * length)) = 0 := by linarith
    exact (mul_eq_zero.mp product).resolve_right (by positivity)
  have none_rolls : ∀ i, speed i = 0 := by
    intro i
    fin_cases i
    · exact alike.trans still
    · exact still
    · exact against.trans (by rw [still, neg_zero])
    · exact last.trans (against.trans (by rw [still, neg_zero]))
  funext i
  rw [crossed i, none_rolls i, zero_mul, zero_mul]
  rfl

/-- The brake's heading of a wheel. -/
noncomputable def brakeHeading : Fin 4 → ℝ := ![230, 310, 230, 310]

theorem wheelHeading_brakeAngles (i : Fin 4) :
    wheelHeading ((brakeData : DriveData ℝ).wheelAngle i) = brakeHeading i := by
  have near : ∀ angle : ℝ, |angle| ≤ 40 → wheelHeading angle = angle + 270 := by
    intro angle small
    obtain ⟨low, high⟩ := abs_le.mp small
    refine (fmod_eq_self_iff (by norm_num) _).mpr ?_
    rw [abs_lt]
    constructor <;> linarith
  rw [near]
  · fin_cases i <;> norm_num [brakeData, DriveData.wheelAngle, brakeHeading]
  · fin_cases i <;> norm_num [brakeData, DriveData.wheelAngle]

/-- A tick count that is off a whole number by a ninth rounds to it. -/
theorem roundAway_ninth {a : ℝ} {n : ℤ} (near : |a - n| ≤ 1 / 9) : roundAway a = n := by
  have error := roundAway_error a
  have close : |(roundAway a : ℝ) - n| < 1 := by
    calc |(roundAway a : ℝ) - n| ≤ |(roundAway a : ℝ) - a| + |a - n| := abs_sub_le _ _ _
      _ < 1 := by linarith
  have whole : |roundAway a - n| < 1 := by exact_mod_cast close
  have zero := Int.abs_lt_one_iff.mp whole
  linarith

theorem half_turns_of_consistent {wheel : Wheel ℝ} (consistent : wheel.Consistent) :
    ∃ k : ℤ, wheel.angle = wheel.anglePast + 180 * k := by
  obtain ⟨n, whole⟩ := modEq_iff_exists.mp consistent.aligned
  cases flipped : wheel.magNegated with
  | false =>
    refine ⟨-(2 * n), ?_⟩
    rw [flipped] at whole
    simp only [Bool.false_eq_true, if_false] at whole
    push_cast
    linarith
  | true =>
    refine ⟨1 - 2 * n, ?_⟩
    rw [flipped] at whole
    simp only [if_true] at whole
    push_cast
    linarith

/-- The brake turns each wheel to its heading, or against it. -/
theorem braked_angle {d : SwerveDrive ℝ} (consistent : d.math.Consistent) (i : Fin 4) :
    ∃ k : ℤ, (d.math.getBrakeAzimuth brakeData).2.wheelAngle i = brakeHeading i + 180 * k := by
  have turned : (d.math.getBrakeAzimuth brakeData).2.wheelAngle i =
      ((d.math.wheels i).turn (wheelHeading ((brakeData : DriveData ℝ).wheelAngle i))).angle := by
    fin_cases i <;> rfl
  have range : -180 < (brakeData : DriveData ℝ).wheelAngle i := (brakeAngles.range i).1
  have lower := wheelHeading_lower range
  have upper := wheelHeading_upper range
  obtain ⟨k, angle⟩ := half_turns_of_consistent (turn_consistent lower upper (consistent i))
  rw [turn_anglePast _ lower upper, wheelHeading_brakeAngles] at angle
  rw [turned, wheelHeading_brakeAngles]
  exact ⟨k, angle⟩

/-- Whatever the wheels did before, the brake sends its setpoints up to half
turns of each wheel. -/
theorem setBrake_setpoint {d : SwerveDrive ℝ} (consistent : d.math.Consistent) (i : Fin 4) :
    ∃ k : ℤ, (d.setBrake.azimuth i).setpoint = brakeSetpoint i + 2048 * k := by
  obtain ⟨k, angle⟩ := braked_angle consistent i
  refine ⟨k, ?_⟩
  have sent : (d.setBrake.azimuth i).setpoint =
      azimuthTicks ((d.math.getBrakeAzimuth brakeData).2.wheelAngle i) := rfl
  have near : |(brakeHeading i + 180 * k) * 2048 / 180 - ((brakeSetpoint i + 2048 * k : ℤ) : ℝ)| ≤
      1 / 9 := by
    push_cast
    have split : (brakeHeading i + 180 * k) * 2048 / 180 - ((brakeSetpoint i : ℝ) + 2048 * k) =
        brakeHeading i * 2048 / 180 - brakeSetpoint i := by ring
    rw [split]
    fin_cases i <;> norm_num [brakeHeading, brakeSetpoint, abs_le]
  rw [sent, angle, azimuthTicks, roundAway_ninth near]
  push_cast
  ring

theorem azimuth_of_leaves {libm : Libm ℝ} (d : SwerveDrive ℝ) {op : Op ℝ}
    (leaves : op.leavesAzimuth = true) : (step libm d op).azimuth = d.azimuth := by
  cases op with
  | driveAzimuthAutonomous | setDrive | zeroPosition | setGyroDisabled | setDriveMode => rfl
  | _ => cases leaves

theorem run_azimuth {libm : Libm ℝ} (d : SwerveDrive ℝ) {later : List (Op ℝ)}
    (leaves : ∀ op ∈ later, op.leavesAzimuth = true) :
    (run (step libm) d later).azimuth = d.azimuth := by
  induction later generalizing d with
  | nil => rfl
  | cons op rest ih =>
    rw [run_cons, ih _ fun op member => leaves op (List.mem_cons_of_mem _ member),
      azimuth_of_leaves d (leaves op List.mem_cons_self)]

theorem run_math_consistent (libm : Libm ℝ) (g : Geometry ℝ) (deadZone driveScaleFactor : ℝ)
    (ops : List (Op ℝ)) :
    (run (step libm) (initial libm g deadZone driveScaleFactor) ops).math.Consistent := by
  have linked := run_linked libm g deadZone driveScaleFactor ops
  have same : (run (track libm) (.initial (initial libm g deadZone driveScaleFactor)) ops).drive =
      run (step libm) (initial libm g deadZone driveScaleFactor) ops :=
    run_track_drive _ ops
  rw [← same]
  exact linked.consistent

theorem rolls_zero (setpoint : ℝ) : Rolls setpoint 0 := by
  refine ⟨0, ?_⟩
  rw [vector, zero_mul, zero_mul]
  rfl

/-- The brake holds: after any operations and `SetBrake`, until an azimuth is
written again, the only motion of the robot in which every wheel rolls along its
heading is to stand still, whatever the wheelbase. -/
theorem brake_locks (libm : Libm ℝ) (g : Geometry ℝ) (deadZone driveScaleFactor : ℝ)
    (ops later : List (Op ℝ)) (leaves : ∀ op ∈ later, op.leavesAzimuth = true)
    (velocity : Fin 4 → ℝ × ℝ) :
    let braked := run (step libm) (initial libm g deadZone driveScaleFactor)
      (ops ++ .setBrake :: later)
    Rigid (wheelPosition g.wheelbaseWidth g.wheelbaseLength) velocity ∧
        (∀ i, Rolls (braked.azimuth i).setpoint (velocity i)) ↔ velocity = 0 := by
  intro braked
  constructor
  · rintro ⟨rigid, rolls⟩
    have consistent := run_math_consistent libm g deadZone driveScaleFactor ops
    have azimuth : braked.azimuth =
        (run (step libm) (initial libm g deadZone driveScaleFactor) ops).setBrake.azimuth := by
      rw [show braked = _ from run_append _ _ _, run_cons, run_azimuth _ leaves]
      rfl
    have lines : ∀ i, Rolls (brakeSetpoint i) (velocity i) := by
      intro i
      obtain ⟨k, setpoint⟩ := setBrake_setpoint consistent i
      have rolling := rolls i
      rw [azimuth, setpoint] at rolling
      exact rolls_half_turns k rolling
    have crossed : ∀ i, ∃ speed, velocity i = (speed * Real.cos brakeAngle,
        speed * (![-Real.sin brakeAngle, Real.sin brakeAngle, -Real.sin brakeAngle,
          Real.sin brakeAngle] i)) := by
      intro i
      have line := lines i
      fin_cases i
      · exact rolls_behind line
      · exact rolls_ahead line
      · exact rolls_behind line
      · exact rolls_ahead line
    choose speed along using crossed
    exact crossed_locked g.width_pos g.length_pos cos_brakeAngle_pos sin_brakeAngle_pos rigid along
  · rintro rfl
    refine ⟨fun i j => ?_, fun i => rolls_zero _⟩
    simp [dot]

/-- Braked on the way ahead, the motors switched off: it does not slide ahead. -/
theorem brake_locks_ahead :
    let braked := run (step Libm.real) (initial Libm.real Geometry.competition 0.08 12)
      ([forward] ++ .setBrake :: [.setDrive 0])
    Rigid (wheelPosition Geometry.competition.wheelbaseWidth Geometry.competition.wheelbaseLength)
        (fun _ => (0, 1)) ∧
      (∀ i, Rolls (braked.azimuth i).setpoint (0, 1)) ↔ (fun _ : Fin 4 => ((0, 1) : ℝ × ℝ)) = 0 :=
  brake_locks Libm.real Geometry.competition 0.08 12 [forward] [.setDrive 0]
    (by simp [Op.leavesAzimuth]) _

end Steamworks.Swerve.SwerveDrive
