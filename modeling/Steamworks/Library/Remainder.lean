import Mathlib

/-! Truncation, truncated remainder and rounding of exact numbers, as C's
library defines them: the integer part goes toward zero, the remainder keeps
the sign of its dividend, halves round away from zero. The carrier is any
ordered field with a floor, so the definitions run on rationals and are
reasoned about on reals. -/
namespace Library.Remainder

-- Named, so that the numerals of a turn and its parts, of speeds and of sizes in
-- a field `K` rest on the same facts in every module.
instance atLeastTwo_two : Nat.AtLeastTwo 2 := inferInstance
instance atLeastTwo_four : Nat.AtLeastTwo 4 := inferInstance
instance atLeastTwo_quarter : Nat.AtLeastTwo 90 := inferInstance
instance atLeastTwo_half : Nat.AtLeastTwo 180 := inferInstance
instance atLeastTwo_full : Nat.AtLeastTwo 360 := inferInstance
instance atLeastTwo_setpointMax : Nat.AtLeastTwo 275 := inferInstance
instance atLeastTwo_exact : Nat.AtLeastTwo 8 := inferInstance
instance atLeastTwo_foot : Nat.AtLeastTwo 12 := inferInstance
instance atLeastTwo_driveMax : Nat.AtLeastTwo 400 := inferInstance
instance atLeastTwo_few : Nat.AtLeastTwo 3 := inferInstance
instance atLeastTwo_ten : Nat.AtLeastTwo 10 := inferInstance
instance atLeastTwo_slow : Nat.AtLeastTwo 25 := inferInstance
instance atLeastTwo_brake : Nat.AtLeastTwo 40 := inferInstance
instance atLeastTwo_third : Nat.AtLeastTwo 60 := inferInstance
instance atLeastTwo_area : Nat.AtLeastTwo 300 := inferInstance
instance atLeastTwo_halfTurn : Nat.AtLeastTwo 2048 := inferInstance
instance atLeastTwo_fifteen : Nat.AtLeastTwo 15 := inferInstance
instance atLeastTwo_nine : Nat.AtLeastTwo 9 := inferInstance
instance atLeastTwo_eighth : Nat.AtLeastTwo 45 := inferInstance
instance atLeastTwo_eighty : Nat.AtLeastTwo 80 := inferInstance

variable {K : Type*} [Field K] [LinearOrder K]

def sign (a : K) : ℤ := if a = 0 then 0 else if 0 < a then 1 else -1

theorem sign_of_pos (h : 0 < (a : K)) : sign a = 1 := by
  simp [sign, h.ne', h]

theorem sign_of_neg (h : (a : K) < 0) : sign a = -1 := by
  simp [sign, h.ne, h.le]

variable [FloorRing K]

/-- The integer part, toward zero. -/
def trunc (a : K) : ℤ := if 0 ≤ a then ⌊a⌋ else ⌈a⌉

/-- The remainder of the truncated quotient. -/
def fmod (a b : K) : K := a - b * trunc (a / b)

/-- The nearest integer, halves away from zero. -/
def roundAway (a : K) : ℤ := if 0 ≤ a then ⌊a + 1 / 2⌋ else ⌈a - 1 / 2⌉

theorem trunc_of_nonneg (h : 0 ≤ (a : K)) : trunc a = ⌊a⌋ := if_pos h

omit [LinearOrder K] [FloorRing K] in
theorem modEq_iff_exists {p : K} : a ≡ b [PMOD p] ↔ ∃ n : ℤ, b = a + n * p := by
  rw [AddCommGroup.modEq_iff_zsmul]
  constructor
  · rintro ⟨n, difference⟩
    exact ⟨n, by rw [zsmul_eq_mul] at difference; linear_combination -difference⟩
  · rintro ⟨n, same⟩
    exact ⟨n, by rw [zsmul_eq_mul, same]; ring⟩

theorem fmod_modEq (a b : K) : fmod a b ≡ a [PMOD b] :=
  modEq_iff_exists.mpr ⟨trunc (a / b), by simp only [fmod]; ring⟩

variable [IsStrictOrderedRing K]

theorem trunc_eq_zero_iff (a : K) : trunc a = 0 ↔ |a| < 1 := by
  unfold trunc
  split_ifs with h
  · rw [Int.floor_eq_zero_iff, abs_of_nonneg h, Set.mem_Ico]
    exact and_iff_right h
  · have negative := not_le.mp h
    rw [Int.ceil_eq_zero_iff, abs_of_neg negative, Set.mem_Ioc]
    constructor
    · rintro ⟨lower, _⟩
      linarith
    · intro bound
      exact ⟨by linarith, negative.le⟩

theorem trunc_neg (a : K) : trunc (-a) = -trunc a := by
  unfold trunc
  rcases lt_trichotomy 0 a with positive | zero | negative
  · rw [if_neg (by linarith), if_pos positive.le, Int.ceil_neg]
  · simp [← zero]
  · rw [if_pos (by linarith), if_neg (by linarith), Int.floor_neg]

theorem trunc_le {n : ℤ} (h : (a : K) ≤ n) : trunc a ≤ n := by
  unfold trunc
  split_ifs
  · exact_mod_cast (Int.floor_le a).trans h
  · exact Int.ceil_le.mpr h

theorem le_trunc {n : ℤ} (h : (n : K) ≤ a) : n ≤ trunc a := by
  unfold trunc
  split_ifs
  · exact Int.le_floor.mpr h
  · exact_mod_cast h.trans (Int.le_ceil a)

theorem fmod_nonneg (positive : 0 < (b : K)) (h : 0 ≤ a) : 0 ≤ fmod a b := by
  have quotient := Int.floor_le (a / b)
  rw [le_div_iff₀ positive] at quotient
  rw [fmod, trunc_of_nonneg (div_nonneg h positive.le)]
  linarith

theorem fmod_lt (positive : 0 < (b : K)) (h : 0 ≤ a) : fmod a b < b := by
  have quotient := Int.lt_floor_add_one (a / b)
  rw [div_lt_iff₀ positive] at quotient
  rw [fmod, trunc_of_nonneg (div_nonneg h positive.le)]
  linarith

theorem fmod_eq_self_iff (positive : 0 < (b : K)) (a : K) : fmod a b = a ↔ |a| < b := by
  have scaled : |a / b| < 1 ↔ |a| < b := by
    rw [abs_div, abs_of_pos positive, div_lt_one positive]
  rw [← scaled, ← trunc_eq_zero_iff, fmod, sub_eq_self, mul_eq_zero, Int.cast_eq_zero]
  exact or_iff_right positive.ne'

theorem eq_of_modEq (lowerA : 0 ≤ (a : K)) (upperA : a < p) (lowerB : 0 ≤ b) (upperB : b < p)
    (same : a ≡ b [PMOD p]) : a = b := by
  obtain ⟨n, difference⟩ := modEq_iff_exists.mp same
  have positive : 0 < p := by linarith
  have low : (-1 : K) < n := by
    by_contra outside
    have := mul_le_mul_of_nonneg_right (not_lt.mp outside) positive.le
    linarith
  have high : (n : K) < 1 := by
    by_contra outside
    have := mul_le_mul_of_nonneg_right (not_lt.mp outside) positive.le
    linarith
  have zero : n = 0 := by
    have h₁ : (-1 : ℤ) < n := by exact_mod_cast low
    have h₂ : n < 1 := by exact_mod_cast high
    omega
  rw [difference, zero, Int.cast_zero, zero_mul, add_zero]

/-- The remainder of a nonnegative number is the representative in the period. -/
theorem fmod_eq_of_modEq (nonneg : 0 ≤ (a : K)) (lower : 0 ≤ r) (upper : r < p)
    (same : r ≡ a [PMOD p]) : fmod a p = r := by
  have positive : 0 < p := lower.trans_lt upper
  exact eq_of_modEq (fmod_nonneg positive nonneg) (fmod_lt positive nonneg) lower upper
    ((fmod_modEq a p).trans same.symm)

theorem trunc_intCast (n : ℤ) : trunc (n : K) = n := le_antisymm (trunc_le le_rfl) (le_trunc le_rfl)

theorem fmod_neg (a b : K) : fmod (-a) b = -fmod a b := by
  rw [fmod, neg_div, trunc_neg, fmod]
  push_cast
  ring

/-- Of the negative numbers only the multiples have their remainder in the period. -/
theorem fmod_inside_iff (positive : 0 < (b : K)) (a : K) :
    (0 ≤ fmod a b ∧ fmod a b < b) ↔ 0 ≤ a ∨ ∃ n : ℤ, a = n * b := by
  constructor
  · rintro ⟨lower, _⟩
    rcases le_or_gt 0 a with nonneg | negative
    · exact .inl nonneg
    · have opposite := fmod_nonneg positive (neg_pos.mpr negative).le
      rw [fmod_neg] at opposite
      have zero : fmod a b = 0 := le_antisymm (neg_nonneg.mp opposite) lower
      rw [fmod, sub_eq_zero, mul_comm] at zero
      exact .inr ⟨_, zero⟩
  · rintro (nonneg | ⟨n, rfl⟩)
    · exact ⟨fmod_nonneg positive nonneg, fmod_lt positive nonneg⟩
    · have zero : fmod (n * b) b = 0 := by
        rw [fmod, mul_div_cancel_right₀ _ positive.ne', trunc_intCast, mul_comm, sub_self]
      rw [zero]
      exact ⟨le_rfl, positive⟩

theorem abs_sub_trunc_lt (a : K) : |a - trunc a| < 1 := by
  unfold trunc
  split_ifs
  · have lower := Int.floor_le a
    have upper := Int.lt_floor_add_one a
    rw [abs_lt]
    constructor <;> linarith
  · have lower := Int.le_ceil a
    have upper := Int.ceil_lt_add_one a
    rw [abs_lt]
    constructor <;> linarith

theorem roundAway_error (a : K) : |(roundAway a : K) - a| ≤ 1 / 2 := by
  unfold roundAway
  split_ifs
  · have lower := Int.floor_le (a + 1 / 2)
    have upper := Int.lt_floor_add_one (a + 1 / 2)
    rw [abs_le]
    constructor <;> linarith
  · have lower := Int.le_ceil (a - 1 / 2)
    have upper := Int.ceil_lt_add_one (a - 1 / 2)
    rw [abs_le]
    constructor <;> linarith

@[simp] theorem roundAway_zero : roundAway (0 : K) = 0 := by
  have half : ⌊(1 / 2 : K)⌋ = 0 := by
    rw [Int.floor_eq_zero_iff]
    norm_num
  simp only [roundAway, le_refl, if_true, zero_add, half]

theorem roundAway_sub_le (a b : K) :
    |(roundAway a : K) - roundAway b| ≤ |a - b| + 1 := by
  have first := abs_le.mp (roundAway_error a)
  have second := abs_le.mp (roundAway_error b)
  have distance := abs_le.mp (le_refl |a - b|)
  rw [abs_le]
  constructor <;> linarith

end Library.Remainder
