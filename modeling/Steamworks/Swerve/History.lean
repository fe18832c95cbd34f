import Steamworks.Swerve.FieldOriented

/-! Restoring the wheel history from the angles last sent. `SetWheelAngles` writes
the recorded headings alone, and an angle is the opposite of its heading when the
wheel drives backwards; nor does it bring every angle into the period. -/
namespace Steamworks.Swerve.SwerveMath
open Library.Remainder Library.Polar Library.Run SwerveDrive

/-- The inputs of a call of `operator()`. -/
abbrev Demand (K : Type*) := DriveData K × RotationPoint

section
variable {K : Type*} [Field K] [LinearOrder K] [FloorRing K] (libm : Libm K)

def operate (m : SwerveMath K) (d : Demand K) : SwerveMath K := (m.operatorCall libm d.1 d.2).1

end

/-- The wheels' velocities after each of these calls. -/
noncomputable def velocities : SwerveMath ℝ → List (Demand ℝ) → List (Fin 4 → ℝ × ℝ)
  | _, [] => []
  | m, d :: rest =>
    commandedVelocity (m.operatorCall Libm.real d.1 d.2).2 :: velocities (operate Libm.real m d) rest

def InRange (m : SwerveMath ℝ) : Prop :=
  ∀ i, 0 ≤ (m.wheels i).anglePast ∧ (m.wheels i).anglePast < 360

/-- Restoring the angles of this output changes no later velocity, and leaves
the recorded headings in their period. -/
structure Harmless (m : SwerveMath ℝ) (out : DriveData ℝ) : Prop where
  velocities : ∀ later, velocities (m.setWheelAngles out) later = velocities m later
  inRange : ∀ later, InRange (run (operate Libm.real) (m.setWheelAngles out) later)

/-- Every wheel's history is off by a half turn or by nothing. -/
def Reversed (negated : Fin 4 → Bool) (m : SwerveMath ℝ) : Prop :=
  ∀ i, (m.wheels i).Off (if negated i then 180 else 0)

variable {m n : SwerveMath ℝ} {negated : Fin 4 → Bool}

theorem reversed_operate (reversed : Reversed negated m) (d : Demand ℝ) :
    Reversed negated (operate Libm.real m d) :=
  fun i => step_off Libm.real (reversed i) (.operator d.1 d.2)

theorem Consistent.reversed (consistent : m.Consistent) : Reversed (fun _ => false) m :=
  fun i => (consistent i).off

/-- The demanded velocity of a wheel under the common cut. -/
noncomputable def demanded (m : SwerveMath ℝ) (d : Demand ℝ) (i : Fin 4) : ℝ × ℝ :=
  (1 / max 1 (maxWheelMag (m.demandMag Libm.real d.1 d.2))) • demandArrow m d.1 d.2 i

theorem demanded_congr (same : n.rotationVectors = m.rotationVectors) (d : Demand ℝ) :
    demanded n d = demanded m d := by
  have mags : n.demandMag Libm.real d.1 d.2 = m.demandMag Libm.real d.1 d.2 := by
    funext i
    simp only [demandMag, demand, same]
  funext i
  simp only [demanded, mags, demandArrow, demand, same]

/-- A wheel whose history is off by a half turn drives the other way. -/
theorem velocity_reversed (reversed : Reversed negated m) (d : Demand ℝ) (i : Fin 4) :
    commandedVelocity (m.operatorCall Libm.real d.1 d.2).2 i =
      if negated i then -demanded m d i else demanded m d i := by
  have denoted := (operatorCall_off Libm.real (reversed i) d.1 d.2).vector_eq
  rw [commandedVelocity, denoted, demanded, ← vector_demand, ← vector_scale]
  cases negated i with
  | false => rw [if_neg Bool.false_ne_true, if_neg Bool.false_ne_true, add_zero]
  | true => rw [if_pos rfl, if_pos rfl, vector_opposite]

theorem velocities_reversed (consistent : m.Consistent) (reversed : Reversed negated n)
    (same : n.rotationVectors = m.rotationVectors) (later : List (Demand ℝ)) :
    velocities n later =
      (velocities m later).map fun v i => if negated i then -v i else v i := by
  induction later generalizing m n with
  | nil => rfl
  | cons d rest ih =>
    have next := ih (m := operate Libm.real m d) (n := operate Libm.real n d)
      (step_consistent Libm.real m (.operator d.1 d.2) consistent) (reversed_operate reversed d) same
    rw [velocities, velocities, List.map_cons, next]
    congr 1
    funext i
    rw [velocity_reversed reversed, velocity_reversed consistent.reversed, demanded_congr same]
    rfl

/-- The output's angles are those of the wheels, so what they restore is off by
a half turn where the speed was negated. -/
theorem restored_reversed {out : DriveData ℝ}
    (angles : ∀ i, out.wheelAngle i = (m.wheels i).angle) :
    Reversed (fun i => (m.wheels i).magNegated) (m.setWheelAngles out) := by
  intro i
  obtain ⟨k, wrapped⟩ := modEq_iff_exists.mp (fmod_modEq (out.wheelAngle i + 360) (360 : ℝ))
  refine modEq_iff_exists.mpr ?_
  change ∃ n : ℤ, fmod (out.wheelAngle i + 360) 360 + (if (m.wheels i).magNegated then 180 else 0) +
    (if (m.wheels i).magNegated then 180 else 0) = (m.wheels i).angle + n * 360
  rw [angles] at wrapped ⊢
  split_ifs
  · exact ⟨2 - k, by push_cast; linarith⟩
  · exact ⟨1 - k, by push_cast; linarith⟩

/-- Straight ahead every wheel moves, whatever the rotation vectors. -/
noncomputable def ahead : Demand ℝ := (driveData 1 0 0, .center)

theorem ahead_moves (m : SwerveMath ℝ) (i : Fin 4) : demanded m ahead i ≠ 0 := by
  have cut : (1 : ℝ) / max 1 (maxWheelMag (m.demandMag Libm.real ahead.1 ahead.2)) ≠ 0 :=
    one_div_ne_zero (one_pos.trans_le (le_max_left _ _)).ne'
  apply smul_ne_zero cut
  intro still
  have forward := congrArg Prod.snd still
  norm_num [demandArrow, demand, ahead, driveData] at forward

/-- Every call records the heading it demands. -/
theorem operate_inRange (m : SwerveMath ℝ) (d : Demand ℝ) : InRange (operate Libm.real m d) := by
  intro i
  have range := (call_range Libm.real m (.operator d.1 d.2) i).1
  have recorded := step_anglePast Libm.real m (.operator d.1 d.2) i
  change ((operate Libm.real m d).wheels i).anglePast = _ at recorded
  rw [recorded]
  exact ⟨wheelHeading_lower range, wheelHeading_upper range⟩

section
variable {out : DriveData ℝ} (consistent : m.Consistent)
  (angles : ∀ i, out.wheelAngle i = (m.wheels i).angle)
include consistent angles

theorem velocities_kept_iff :
    (∀ later, velocities (m.setWheelAngles out) later = velocities m later) ↔
      ∀ i, (m.wheels i).magNegated = false := by
  have reversed := restored_reversed angles
  constructor
  · intro kept i
    by_contra backwards
    have turned := velocities_reversed consistent reversed rfl [ahead]
    rw [kept] at turned
    simp only [velocities, List.map_cons, List.map_nil, List.cons.injEq, and_true] at turned
    have wheel := congrFun turned i
    rw [if_pos (Bool.eq_true_of_not_eq_false backwards), velocity_reversed consistent.reversed,
      if_neg Bool.false_ne_true] at wheel
    exact ahead_moves m i (self_eq_neg.mp wheel)
  · intro forwards later
    rw [velocities_reversed consistent reversed rfl]
    simp [forwards]

end

theorem inRange_iff {out : DriveData ℝ} (angles : ∀ i, out.wheelAngle i = (m.wheels i).angle) :
    (∀ later, InRange (run (operate Libm.real) (m.setWheelAngles out) later)) ↔
    ∀ i, -360 ≤ (m.wheels i).angle ∨ ∃ n : ℤ, (m.wheels i).angle = n * 360 := by
  have kept (restored : InRange (m.setWheelAngles out)) (later : List (Demand ℝ)) :
      InRange (run (operate Libm.real) (m.setWheelAngles out) later) :=
    run_invariant (fun before d _ => operate_inRange before d) restored later
  have inside (i : Fin 4) : (0 ≤ fmod (out.wheelAngle i + 360) 360 ∧
      fmod (out.wheelAngle i + 360) 360 < 360) ↔
        -360 ≤ (m.wheels i).angle ∨ ∃ n : ℤ, (m.wheels i).angle = n * 360 := by
    rw [fmod_inside_iff (by norm_num), angles]
    apply or_congr
    · constructor <;> intro bound <;> linarith
    · constructor
      · rintro ⟨n, whole⟩
        exact ⟨n - 1, by push_cast; linarith⟩
      · rintro ⟨n, whole⟩
        exact ⟨n + 1, by push_cast; linarith⟩
  constructor
  · intro always i
    exact (inside i).mp (always [] i)
  · intro bounds
    exact kept fun i => (inside i).mpr (bounds i)

theorem run_operate_consistent (vectors : RotationPoint → Fin 4 → Vector2f ℝ)
    (calls : List (Demand ℝ)) : (run (operate Libm.real) (initial vectors) calls).Consistent :=
  run_invariant (fun m d consistent => step_consistent Libm.real m (.operator d.1 d.2) consistent)
    (SwerveMath.initial_consistent vectors) calls

/-- After any calls, restoring what the last one returned is harmless exactly
when no wheel drives backwards and no angle is more than a turn below zero,
unless by whole turns. -/
theorem restoring_harmless_iff (vectors : RotationPoint → Fin 4 → Vector2f ℝ)
    (calls : List (Demand ℝ)) (last : Demand ℝ) :
    let before := run (operate Libm.real) (initial vectors) calls
    let returned := before.operatorCall Libm.real last.1 last.2
    Harmless returned.1 returned.2 ↔ ∀ i, (returned.1.wheels i).magNegated = false ∧
      (-360 ≤ (returned.1.wheels i).angle ∨ ∃ n : ℤ, (returned.1.wheels i).angle = n * 360) := by
  intro before returned
  have consistent : returned.1.Consistent :=
    step_consistent Libm.real before (.operator last.1 last.2) (run_operate_consistent vectors calls)
  have angles : ∀ i, returned.2.wheelAngle i = (returned.1.wheels i).angle :=
    wheelAngle_operatorCall Libm.real before last.1 last.2
  rw [forall_and, ← velocities_kept_iff consistent angles, ← inRange_iff angles]
  constructor
  · intro harmless
    exact ⟨harmless.velocities, harmless.inRange⟩
  · rintro ⟨kept, inside⟩
    exact ⟨kept, inside⟩

/-- A call that moves the robot without turning it. -/
noncomputable def moving (forward strafe : ℝ) : Demand ℝ := (driveData forward strafe 0, .center)

/-- The wheels' heading for such a move. -/
noncomputable def towardsHeading (forward strafe : ℝ) : ℝ :=
  wheelHeading (toDegrees (Complex.arg ⟨strafe, forward⟩))

theorem operate_moving (m : SwerveMath ℝ) (forward strafe : ℝ) (i : Fin 4) :
    (operate Libm.real m (moving forward strafe)).wheels i =
      (m.wheels i).turn (towardsHeading forward strafe) := by
  have heading : m.demandHeading Libm.real (driveData forward strafe 0) .center i =
      towardsHeading forward strafe := by
    simp only [demandHeading, demand, driveData, mul_zero, add_zero]
    rfl
  rw [← heading]
  rfl

theorem towardsHeading_eq (degrees : ℝ) {forward strafe radians heading : ℝ}
    (angle : Complex.arg ⟨strafe, forward⟩ = radians) (scaled : radians = degrees * (Real.pi / 180))
    (wrapped : wheelHeading degrees = heading) : towardsHeading forward strafe = heading := by
  have cut : toDegrees radians = degrees := by
    have := Real.pi_ne_zero
    rw [scaled, toDegrees]
    field_simp
    ring
  rw [towardsHeading, angle, cut, wrapped]

theorem towards_ahead : towardsHeading 1 0 = 0 :=
  towardsHeading_eq 90 Complex.arg_I (by ring) (by norm_num [wheelHeading, fmod, trunc])

theorem towards_right : towardsHeading 0 1 = 270 :=
  towardsHeading_eq 0 Complex.arg_one (by ring) (by norm_num [wheelHeading, fmod, trunc])

theorem towards_back : towardsHeading (-1) 0 = 180 := by
  have direction : (⟨0, -1⟩ : ℂ) = -Complex.I := by apply Complex.ext <;> simp
  exact towardsHeading_eq (-90) (direction ▸ Complex.arg_neg_I) (by ring)
    (by norm_num [wheelHeading, fmod, trunc])

theorem towards_left : towardsHeading 0 (-1) = 90 := by
  have direction : (⟨-1, 0⟩ : ℂ) = -1 := by apply Complex.ext <;> simp
  exact towardsHeading_eq 180 (direction ▸ Complex.arg_neg_one) (by ring)
    (by norm_num [wheelHeading, fmod, trunc])

/-- A quarter turn down, past zero or not. -/
theorem turn_quarter (wheel : Wheel ℝ) {heading : ℝ} (lower : 0 ≤ heading) (upper : heading < 360)
    (quarter : heading - wheel.anglePast = -90 ∨ heading - wheel.anglePast = 270) :
    wheel.turn heading = ⟨wheel.angle - 90, heading, wheel.magNegated⟩ := by
  have smart : smartAngleChange (heading - wheel.anglePast) = -90 := by
    rcases quarter with raw | raw <;> rw [raw] <;> norm_num [smartAngleChange, sign, abs_of_neg]
  have near : |smartAngleChange (heading - wheel.anglePast)| ≤ 90 := by
    rw [smart]
    norm_num
  rw [turn_near wheel lower upper near, smart, sub_eq_add_neg]

theorem backed_wheel (vectors : RotationPoint → Fin 4 → Vector2f ℝ) (i : Fin 4) :
    (operate Libm.real (initial vectors) (moving (-1) 0)).wheels i = ⟨0, 180, true⟩ := by
  have smart : smartAngleChange (180 - 0 : ℝ) = -180 := by norm_num [smartAngleChange, sign]
  have far : smartAngleChange (180 - 0 : ℝ) < -90 := by
    rw [smart]
    norm_num
  rw [operate_moving, towards_back]
  calc Wheel.turn ⟨0, 0, false⟩ 180
      = ⟨0 + smartAngleChange (180 - 0) + 180, 180, true⟩ :=
        turn_left ⟨0, 0, false⟩ (by norm_num) (by norm_num) far
    _ = ⟨0, 180, true⟩ := by
        rw [smart]
        norm_num

/-- Right, back, left, ahead and right again. -/
theorem circled_wheel (vectors : RotationPoint → Fin 4 → Vector2f ℝ) (i : Fin 4) :
    (run (operate Libm.real) (initial vectors)
      [moving 0 1, moving (-1) 0, moving 0 (-1), moving 1 0, moving 0 1]).wheels i =
        ⟨-450, 270, false⟩ := by
  have start : (initial vectors).wheels i = ⟨0, 0, false⟩ := rfl
  simp only [run_cons, run_nil, operate_moving, towards_ahead, towards_right, towards_back,
    towards_left, start]
  rw [turn_quarter ⟨0, 0, false⟩ (by norm_num) (by norm_num) (by norm_num),
    turn_quarter ⟨0 - 90, 270, false⟩ (by norm_num) (by norm_num) (by norm_num),
    turn_quarter ⟨0 - 90 - 90, 180, false⟩ (by norm_num) (by norm_num) (by norm_num),
    turn_quarter ⟨0 - 90 - 90 - 90, 90, false⟩ (by norm_num) (by norm_num) (by norm_num),
    turn_quarter ⟨0 - 90 - 90 - 90 - 90, 0, false⟩ (by norm_num) (by norm_num) (by norm_num)]
  norm_num

/-- Backing up, and five quarter turns of the direction. -/
theorem restoring_harms :
    let start := initial (Geometry.competition.rotationVectors Libm.real)
    let backed := start.operatorCall Libm.real (moving (-1) 0).1 (moving (-1) 0).2
    let circled := (run (operate Libm.real) start
      [moving 0 1, moving (-1) 0, moving 0 (-1), moving 1 0]).operatorCall Libm.real (moving 0 1).1
        (moving 0 1).2
    ¬Harmless backed.1 backed.2 ∧ ¬Harmless circled.1 circled.2 := by
  intro start backed circled
  constructor
  · intro harmless
    have consistent : backed.1.Consistent := step_consistent Libm.real start
      (.operator (moving (-1) 0).1 (moving (-1) 0).2) (SwerveMath.initial_consistent _)
    have forwards := (velocities_kept_iff consistent
      (wheelAngle_operatorCall Libm.real start (moving (-1) 0).1 (moving (-1) 0).2)).mp harmless.velocities 0
    have wheel : backed.1.wheels 0 = ⟨0, 180, true⟩ := backed_wheel _ 0
    rw [wheel] at forwards
    cases forwards
  · intro harmless
    have wheel : circled.1.wheels 0 = ⟨-450, 270, false⟩ := circled_wheel _ 0
    have bound := (inRange_iff (wheelAngle_operatorCall Libm.real _ (moving 0 1).1 (moving 0 1).2)).mp
      harmless.inRange 0
    change -360 ≤ (circled.1.wheels 0).angle ∨ ∃ n : ℤ, (circled.1.wheels 0).angle = n * 360 at bound
    rw [wheel] at bound
    rcases bound with above | ⟨n, whole⟩
    · norm_num at above
    · have scaled : n * 4 = -5 := by
        have exact_ : (n : ℝ) * 4 = -5 := by linarith
        exact_mod_cast exact_
      omega

end Steamworks.Swerve.SwerveMath
