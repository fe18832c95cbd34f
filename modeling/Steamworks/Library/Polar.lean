import Steamworks.Library.Remainder

/-! Planar vectors as a heading in degrees and a signed length. A length may be
reversed against a half turn of the heading, and headings count modulo a turn;
`Denotes` is that equality, `vector` its meaning in the plane. -/
namespace Library.Polar
open Library.Remainder

section
variable {K : Type*} [Field K]

/-- A signed length along an unbounded angle is the vector with the given
heading and length. -/
def Denotes (angle speed heading magnitude : K) : Prop :=
  (angle ≡ heading [PMOD 360] ∧ speed = magnitude) ∨
    (angle ≡ heading + 180 [PMOD 360] ∧ speed = -magnitude)

theorem Denotes.scale (h : Denotes angle speed heading (magnitude : K)) (k : K) :
    Denotes angle (speed * k) heading (magnitude * k) := by
  rcases h with ⟨same, rfl⟩ | ⟨opposite, rfl⟩
  · exact .inl ⟨same, rfl⟩
  · exact .inr ⟨opposite, neg_mul _ _⟩

/-- A flag that reverses both the heading and the length changes nothing. -/
theorem denotes_of_flag {negated : Bool} {magnitude : K}
    (aligned : angle ≡ heading + (if negated then 180 else 0) [PMOD 360]) :
    Denotes angle (if negated then magnitude * -1 else magnitude) heading magnitude := by
  cases negated with
  | false => exact .inl ⟨by simpa using aligned, by simp⟩
  | true => exact .inr ⟨by simpa using aligned, by simp⟩

end

/-- The plane vector of a signed length along an angle counted from the second
axis toward the negative first axis. -/
noncomputable def vector (angle speed : ℝ) : ℝ × ℝ :=
  (speed * -Real.sin (angle * (Real.pi / 180)), speed * Real.cos (angle * (Real.pi / 180)))

theorem vector_modEq {a b : ℝ} (same : a ≡ b [PMOD 360]) (speed : ℝ) :
    vector a speed = vector b speed := by
  obtain ⟨n, rfl⟩ := modEq_iff_exists.mp same
  have turn : (a + n * 360) * (Real.pi / 180) = a * (Real.pi / 180) + n * (2 * Real.pi) := by ring
  simp only [vector, turn, Real.sin_add_int_mul_two_pi, Real.cos_add_int_mul_two_pi]

theorem vector_half_turn (angle speed : ℝ) : vector (angle + 180) (-speed) = vector angle speed := by
  have half : (angle + 180) * (Real.pi / 180) = angle * (Real.pi / 180) + Real.pi := by ring
  simp only [vector, half, Real.sin_add_pi, Real.cos_add_pi]
  ring_nf

theorem vector_opposite (angle speed : ℝ) : vector (angle + 180) speed = -vector angle speed := by
  have turned := vector_half_turn angle (-speed)
  rw [neg_neg] at turned
  rw [turned, vector, vector, neg_mul, neg_mul, Prod.neg_mk]

theorem vector_scale (angle speed k : ℝ) : vector angle (speed * k) = k • vector angle speed := by
  simp only [vector, Prod.smul_mk, smul_eq_mul]
  ring_nf

/-- Three quarters of a turn past the mathematical angle, the axes agree. -/
theorem vector_of_radians (radians length : ℝ) :
    vector (radians * 360 / (2 * Real.pi) + 270) length =
      (length * Real.cos radians, length * Real.sin radians) := by
  have turned : (radians * 360 / (2 * Real.pi) + 270) * (Real.pi / 180) =
      radians - Real.pi / 2 + 2 * Real.pi := by
    have := Real.pi_ne_zero
    field_simp
    ring
  simp only [vector, turned, Real.sin_add_two_pi, Real.cos_add_two_pi, Real.sin_sub_pi_div_two,
    Real.cos_sub_pi_div_two, neg_neg]

theorem vector_of_arg (x y : ℝ) :
    vector (Complex.arg ⟨x, y⟩ * 360 / (2 * Real.pi) + 270) (Real.sqrt (x * x + y * y)) = (x, y) := by
  have length : Real.sqrt (x * x + y * y) = ‖(⟨x, y⟩ : ℂ)‖ := by
    rw [Complex.norm_def, Complex.normSq_apply]
  rw [vector_of_radians, length, Complex.norm_mul_cos_arg, Complex.norm_mul_sin_arg]

theorem Denotes.vector_eq (h : Denotes angle speed heading magnitude) :
    vector angle speed = vector heading magnitude := by
  rcases h with ⟨same, rfl⟩ | ⟨opposite, rfl⟩
  · exact vector_modEq same _
  · rw [vector_modEq opposite, vector_half_turn]

end Library.Polar
