import Steamworks.Library.Planar
import Steamworks.Swerve.FieldOriented

/-! Whether the wheels demand one motion of the robot. The rotation vectors are
normalised one by one, so every wheel turns about the point at a rate of one over
its distance: a rigid rotation about the centre and about no other point. -/
namespace Steamworks.Swerve
open Library.Planar SwerveMath SwerveDrive

/-- The settings as they are configured, the rotation point anywhere. -/
def wheelbaseTable (width length : ℝ) (point : Vector2f ℝ) : SidewinderTable ℝ :=
  ⟨some ⟨width, length, point.x, point.y⟩⟩

def rotationCord (point : Vector2f ℝ) : RotationPoint → Vector2f ℝ
  | .center => ⟨0, 0⟩
  | .shooter => point

noncomputable def wheelPosition (width length : ℝ) (i : Fin 4) : ℝ × ℝ :=
  (width * (cordMultipliers i).x / 2, length * (cordMultipliers i).y / 2)

/-- The divisor of a wheel's rotation vector. -/
noncomputable def wheelDistance (width length : ℝ) (point : Vector2f ℝ) (i : Fin 4) : ℝ :=
  Libm.real.hypot (wheelOffset width length point i).x (wheelOffset width length point i).y

/-- The demands are defined and belong to one rigid motion; without translation
they turn the robot about the point. -/
structure DrivesRigidly (width length : ℝ) (point : Vector2f ℝ) (dd : DriveData ℝ)
    (demand : Fin 4 → ℝ × ℝ) : Prop where
  defined : ∀ i, wheelDistance width length point i ≠ 0
  rigid : Rigid (wheelPosition width length) demand
  turns : dd.fwd = 0 → dd.str = 0 →
    ∀ i, dot (demand i) (wheelPosition width length i - (point.x, point.y)) = 0
  sense : dd.fwd = 0 → dd.str = 0 → ∀ i j,
    SignType.sign (cross (wheelPosition width length i - (point.x, point.y)) (demand i)) =
      SignType.sign (cross (wheelPosition width length j - (point.x, point.y)) (demand j))

section
variable {width length : ℝ} {point : Vector2f ℝ}

theorem loaded_vectors {vectors : RotationPoint → Fin 4 → Vector2f ℝ}
    (loaded : loadConfigSettings Libm.real (some (wheelbaseTable width length point)) = .ok vectors)
    (rp : RotationPoint) :
    vectors rp = calcRotationVectors Libm.real width length (rotationCord point rp) := by
  have same := Except.ok.inj loaded
  rw [← same]
  cases rp <;> rfl

theorem wheelDistance_eq (i : Fin 4) : wheelDistance width length point i =
    Real.sqrt (dot (wheelPosition width length i - (point.x, point.y))
      (wheelPosition width length i - (point.x, point.y))) := by
  change Real.sqrt _ = Real.sqrt _
  congr 1
  simp only [dot, wheelOffset, wheelPosition, Prod.fst_sub, Prod.snd_sub]
  ring

theorem dot_self_nonneg (u : ℝ × ℝ) : 0 ≤ dot u u :=
  add_nonneg (mul_self_nonneg _) (mul_self_nonneg _)

theorem wheelDistance_eq_iff (i j : Fin 4) :
    wheelDistance width length point i = wheelDistance width length point j ↔
      dot (wheelPosition width length i - (point.x, point.y))
          (wheelPosition width length i - (point.x, point.y)) =
        dot (wheelPosition width length j - (point.x, point.y))
          (wheelPosition width length j - (point.x, point.y)) := by
  rw [wheelDistance_eq, wheelDistance_eq, Real.sqrt_inj (dot_self_nonneg _) (dot_self_nonneg _)]

/-- Every wheel turns about the point at a rate of one over its distance. -/
theorem demandArrow_eq {m : SwerveMath ℝ} {rp : RotationPoint}
    (vectors : m.rotationVectors rp = calcRotationVectors Libm.real width length point)
    (dd : DriveData ℝ) :
    demandArrow m dd rp = swirl (dd.str, dd.fwd) (point.x, point.y)
      (fun i => -(dd.rcw / wheelDistance width length point i)) (wheelPosition width length) := by
  funext i
  simp only [demandArrow, demand, vectors, calcRotationVectors, swirl, perp, wheelOffset,
    wheelPosition, wheelDistance]
  ext <;> simp <;> ring

theorem same_distance_or_in_line {m : SwerveMath ℝ} {rp : RotationPoint}
    (vectors : m.rotationVectors rp = calcRotationVectors Libm.real width length point)
    {dd : DriveData ℝ} (turning : dd.rcw ≠ 0)
    (defined : ∀ i, wheelDistance width length point i ≠ 0)
    (rigid : Rigid (wheelPosition width length) (demandArrow m dd rp)) (i j : Fin 4) :
    dot (wheelPosition width length i - (point.x, point.y))
          (wheelPosition width length i - (point.x, point.y)) =
        dot (wheelPosition width length j - (point.x, point.y))
          (wheelPosition width length j - (point.x, point.y)) ∨
      cross (wheelPosition width length j - (point.x, point.y))
        (wheelPosition width length i - (point.x, point.y)) = 0 := by
  rw [demandArrow_eq vectors dd, rigid_swirl_iff] at rigid
  rcases rigid i j with sameRate | inLine
  · left
    rw [neg_inj, div_eq_div_iff (defined i) (defined j), mul_right_inj' turning] at sameRate
    exact (wheelDistance_eq_iff i j).mp sameRate.symm
  · exact .inr inLine

/-- Of two points mirrored in an axis, another one is as far from both only on
that axis, and in line with both only beside them. -/
theorem on_axis_or_beside {s t a b : ℝ} (apart : s ≠ 0)
    (pair : (s - a) * (s - a) + (t - b) * (t - b) = (-s - a) * (-s - a) + (t - b) * (t - b) ∨
      (s - a) * (t - b) = (-s - a) * (t - b)) : a = 0 ∨ b = t := by
  rcases pair with same | inLine
  · left
    have product : s * a = 0 := by linarith
    exact (mul_eq_zero.mp product).resolve_left apart
  · right
    have product : s * (t - b) = 0 := by linarith
    linarith [(mul_eq_zero.mp product).resolve_left apart]

/-- The four sides of the wheelbase leave no point but the centre. -/
theorem point_of_rigid (widthPos : 0 < width) (lengthPos : 0 < length)
    {m : SwerveMath ℝ} {rp : RotationPoint}
    (vectors : m.rotationVectors rp = calcRotationVectors Libm.real width length point)
    {dd : DriveData ℝ} (turning : dd.rcw ≠ 0)
    (defined : ∀ i, wheelDistance width length point i ≠ 0)
    (rigid : Rigid (wheelPosition width length) (demandArrow m dd rp)) : point = ⟨0, 0⟩ := by
  have pair := same_distance_or_in_line vectors turning defined rigid
  simp only [dot, cross, wheelPosition, cordMultipliers, Prod.fst_sub, Prod.snd_sub] at pair
  have wide : width / 2 ≠ 0 := by positivity
  have long : length / 2 ≠ 0 := by positivity
  have front : point.x = 0 ∨ point.y = length / 2 := by
    apply on_axis_or_beside wide
    refine (pair 1 0).imp (fun same => ?_) fun inLine => ?_
    · simpa [neg_div] using same
    · simp at inLine
      linarith
  have rear : point.x = 0 ∨ point.y = -(length / 2) := by
    apply on_axis_or_beside wide
    refine (pair 2 3).imp (fun same => ?_) fun inLine => ?_
    · simpa [neg_div] using same
    · simp at inLine
      linarith
  have right : point.y = 0 ∨ point.x = width / 2 := by
    apply on_axis_or_beside long
    refine (pair 1 2).imp (fun same => ?_) fun inLine => ?_
    · simp at same
      linarith
    · simp at inLine
      linarith
  have left : point.y = 0 ∨ point.x = -(width / 2) := by
    apply on_axis_or_beside long
    refine (pair 0 3).imp (fun same => ?_) fun inLine => ?_
    · simp at same
      linarith
    · simp at inLine
      linarith
  have x_zero : point.x = 0 := by
    rcases front with zero | ahead
    · exact zero
    · exact rear.resolve_right fun behind => by linarith
  have y_zero : point.y = 0 := by
    rcases right with zero | beside
    · exact zero
    · exact left.resolve_right fun across => by linarith
  exact Vector2f.ext x_zero y_zero

theorem center_distance (i j : Fin 4) :
    wheelDistance width length ⟨0, 0⟩ i = wheelDistance width length ⟨0, 0⟩ j := by
  rw [wheelDistance, wheelDistance, hypot_centerOffset, hypot_centerOffset]

theorem wheelDistance_ne_zero_iff (i : Fin 4) :
    wheelDistance width length point i ≠ 0 ↔ wheelOffset width length point i ≠ ⟨0, 0⟩ := by
  change Real.sqrt _ ≠ 0 ↔ _
  rw [not_iff_not, Real.sqrt_eq_zero (add_nonneg (mul_self_nonneg _) (mul_self_nonneg _)),
    mul_self_add_mul_self_eq_zero, Vector2f.ext_iff]

theorem center_off_wheels (widthPos : 0 < width) (i : Fin 4) :
    wheelOffset width length ⟨0, 0⟩ i ≠ ⟨0, 0⟩ := by
  intro zero
  have x := congrArg Vector2f.x zero
  fin_cases i <;> simp [wheelOffset, cordMultipliers] at x <;> linarith

/-- Wherever the demands are defined, a pure rotation is about the point. -/
theorem turns_about {m : SwerveMath ℝ} {rp : RotationPoint}
    (vectors : m.rotationVectors rp = calcRotationVectors Libm.real width length point)
    (dd : DriveData ℝ) (fwd : dd.fwd = 0) (str : dd.str = 0)
    (defined : ∀ i, wheelDistance width length point i ≠ 0) (i : Fin 4) :
    dot (demandArrow m dd rp i) (wheelPosition width length i - (point.x, point.y)) = 0 ∧
      SignType.sign (cross (wheelPosition width length i - (point.x, point.y))
        (demandArrow m dd rp i)) = SignType.sign (-dd.rcw) := by
  have demanded : demandArrow m dd rp i = -(dd.rcw / wheelDistance width length point i) •
      perp (wheelPosition width length i - (point.x, point.y)) := by
    rw [demandArrow_eq vectors dd, swirl, fwd, str]
    exact zero_add _
  rw [demanded]
  constructor
  · rw [dot_smul, dot_perp_self, mul_zero]
  · have square : dot (wheelPosition width length i - (point.x, point.y))
        (wheelPosition width length i - (point.x, point.y)) =
          wheelDistance width length point i * wheelDistance width length point i := by
      rw [wheelDistance_eq, Real.mul_self_sqrt (dot_self_nonneg _)]
    have positive : 0 < wheelDistance width length point i :=
      lt_of_le_of_ne (Libm.real.sqrt_nonneg _) (defined i).symm
    have turned : -(dd.rcw / wheelDistance width length point i) *
        (wheelDistance width length point i * wheelDistance width length point i) =
          -dd.rcw * wheelDistance width length point i := by
      field_simp
    rw [cross_smul_perp, square, turned, sign_mul, sign_pos positive, mul_one]

/-- The demands are one rigid motion about the rotation point if and only if that
is the robot's centre, or no rotation is demanded and no wheel is on it. -/
theorem drives_rigidly_iff (widthPos : 0 < width) (lengthPos : 0 < length) {m : SwerveMath ℝ}
    (loaded : loadConfigSettings Libm.real (some (wheelbaseTable width length point)) =
      .ok m.rotationVectors) (rp : RotationPoint) (dd : DriveData ℝ) :
    DrivesRigidly width length (rotationCord point rp) dd (demandArrow m dd rp) ↔
      rotationCord point rp = ⟨0, 0⟩ ∨
        dd.rcw = 0 ∧ ∀ i, wheelOffset width length (rotationCord point rp) i ≠ ⟨0, 0⟩ := by
  have vectors := loaded_vectors loaded rp
  constructor
  · intro rigidly
    by_cases turning : dd.rcw = 0
    · exact .inr ⟨turning, fun i => (wheelDistance_ne_zero_iff i).mp (rigidly.defined i)⟩
    · exact .inl (point_of_rigid widthPos lengthPos vectors turning rigidly.defined rigidly.rigid)
  · intro condition
    have defined : ∀ i, wheelDistance width length (rotationCord point rp) i ≠ 0 := by
      intro i
      rw [wheelDistance_ne_zero_iff]
      rcases condition with center | ⟨_, apart⟩
      · rw [center]
        exact center_off_wheels widthPos i
      · exact apart i
    have turns := fun fwd str => turns_about vectors dd fwd str defined
    refine ⟨defined, ?_, fun fwd str i => (turns fwd str i).1,
      fun fwd str i j => (turns fwd str i).2.trans (turns fwd str j).2.symm⟩
    rw [demandArrow_eq vectors dd, rigid_swirl_iff]
    intro i j
    left
    rcases condition with center | ⟨still, _⟩
    · rw [center, center_distance i j]
    · simp [still]

end

noncomputable def turningAbout (width length : ℝ) (point : Vector2f ℝ) : SwerveMath ℝ :=
  .initial fun rp => calcRotationVectors Libm.real width length (rotationCord point rp)

theorem turningAbout_loaded (width length : ℝ) (point : Vector2f ℝ) :
    loadConfigSettings Libm.real (some (wheelbaseTable width length point)) =
      .ok (turningAbout width length point).rotationVectors := by
  rw [turningAbout, SwerveMath.initial]
  simp only [loadConfigSettings, required, wheelbaseTable, bind, Except.bind, pure, Except.pure,
    Except.ok.injEq]
  funext rp
  cases rp <;> rfl

def spinning : DriveData ℝ := ⟨0, 0, 1, 0, 0, 0, 0, 0, 0, 0, 0⟩

/-- The robot's own settings, with its shooter's point at the centre. -/
theorem drives_rigidly_competition : DrivesRigidly 26.4375 22.5 ⟨0, 0⟩ spinning
    (demandArrow (turningAbout 26.4375 22.5 ⟨0, 0⟩) spinning .shooter) :=
  (drives_rigidly_iff (by norm_num) (by norm_num) (turningAbout_loaded _ _ _) .shooter spinning).mpr
    (.inl rfl)

/-- A square wheelbase turned about its right front wheel, and about a point
ahead of it. -/
theorem off_center_not_rigid :
    (¬DrivesRigidly 2 2 ⟨1, 1⟩ spinning (demandArrow (turningAbout 2 2 ⟨1, 1⟩) spinning .shooter)) ∧
      ¬DrivesRigidly 2 2 ⟨0, 3⟩ spinning
        (demandArrow (turningAbout 2 2 ⟨0, 3⟩) spinning .shooter) := by
  constructor
  · intro rigidly
    apply (wheelDistance_ne_zero_iff 1).mp (rigidly.defined 1)
    simp [wheelOffset, cordMultipliers]
  · intro rigidly
    have center : (⟨0, 3⟩ : Vector2f ℝ) = ⟨0, 0⟩ :=
      point_of_rigid two_pos two_pos rfl one_ne_zero rigidly.defined rigidly.rigid
    have y := congrArg Vector2f.y center
    norm_num at y

end Steamworks.Swerve
