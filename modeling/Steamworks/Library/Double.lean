import Mathlib

/-! Doubles among the numbers of a field: 53 bits in units of a power of two, and a
sum rounded to the nearest one, to the even one between two. There is no largest
double here. -/
namespace Library.Double

variable {K : Type*} [Field K] [LinearOrder K] [FloorRing K]

/-- The nearest whole number, the even one of two that are as near. -/
def nearest (x : K) : ℤ :=
  let down := ⌊x⌋
  if x - down < 1 / 2 then down
  else if 1 / 2 < x - down then down + 1
  else if down % 2 = 0 then down else down + 1

/-- The unit in which a number of this size is counted, as a power of two. -/
def unitOf (x : K) : ℤ := max (Int.log 2 |x| - 52) (-1074)

def round (x : K) : K := nearest (x / 2 ^ unitOf x) * 2 ^ unitOf x

def add (x y : K) : K := round (x + y)

omit [LinearOrder K] [FloorRing K] in
def IsDouble (x : K) : Prop :=
  ∃ (m e : ℤ), |m| < 2 ^ 53 ∧ -1074 ≤ e ∧ x = m * 2 ^ e

@[simp] theorem nearest_intCast [IsStrictOrderedRing K] (n : ℤ) : nearest (n : K) = n := by
  simp [nearest]

variable [IsStrictOrderedRing K] {x y : K} {m e n : ℤ}

theorem nearest_near (x : K) : (nearest x : K) - 1 / 2 ≤ x ∧ x ≤ nearest x + 1 / 2 := by
  have below := Int.floor_le x
  have above := Int.lt_floor_add_one x
  unfold nearest
  dsimp only
  split_ifs <;> push_cast <;> constructor <;> linarith

theorem lt_nearest (above : (n : K) + 1 / 2 < x) : n < nearest x := by
  have near := (nearest_near x).2
  have real : (n : K) < nearest x := by linarith
  exact_mod_cast real

theorem le_nearest (above : (n : K) ≤ x) : n ≤ nearest x := by
  have near := (nearest_near x).2
  have real : (n : K) < (nearest x + 1 : ℤ) := by
    push_cast
    linarith
  have whole : n < nearest x + 1 := by exact_mod_cast real
  omega

theorem nearest_le (below : x ≤ n) : nearest x ≤ n := by
  have near := (nearest_near x).1
  have real : ((nearest x : ℤ) : K) < (n + 1 : ℤ) := by
    push_cast
    linarith
  have whole : nearest x < n + 1 := by exact_mod_cast real
  omega

omit [FloorRing K] in
theorem two_zpow_pos (e : ℤ) : (0 : K) < 2 ^ e := zpow_pos two_pos e

omit [FloorRing K] in
theorem two_zpow_add (d e : ℤ) : (2 : K) ^ (d + e) = 2 ^ d * 2 ^ e := zpow_add₀ two_ne_zero d e

omit [FloorRing K] in
/-- Counted in a unit, a number is counted in every smaller one. -/
theorem exists_smaller_unit (m : ℤ) {d e : ℤ} (smaller : d ≤ e) :
    ∃ n : ℤ, (m : K) * 2 ^ e = n * 2 ^ d := by
  obtain ⟨more, rfl⟩ := Int.le.dest smaller
  refine ⟨m * 2 ^ more, ?_⟩
  rw [add_comm, two_zpow_add, zpow_natCast]
  push_cast
  ring

theorem lt_unitOf (x : K) : |x| < 2 ^ (unitOf x + 53) := by
  have size : Int.log 2 |x| + 1 ≤ unitOf x + 53 := by
    have := le_max_left (Int.log 2 |x| - 52) (-1074)
    rw [unitOf]
    omega
  calc |x| < 2 ^ (Int.log 2 |x| + 1) := by
        exact_mod_cast Int.lt_zpow_succ_log_self (R := K) one_lt_two |x|
    _ ≤ 2 ^ (unitOf x + 53) := zpow_le_zpow_right₀ one_le_two size

theorem unitOf_le (nonzero : x ≠ 0) (fits : |x| < 2 ^ (e + 53)) (normal : -1074 ≤ e) :
    unitOf x ≤ e := by
  have size : Int.log 2 |x| < e + 53 :=
    (Int.lt_zpow_iff_log_lt one_lt_two (abs_pos.mpr nonzero)).mp (by exact_mod_cast fits)
  exact max_le (by omega) normal

theorem unitOf_eq (normal : -1074 ≤ e) (large : 2 ^ (e + 52) ≤ |x|) (small : |x| < 2 ^ (e + 53)) :
    unitOf x = e := by
  have positive : 0 < |x| := (two_zpow_pos _).trans_le large
  have size : e + 52 ≤ Int.log 2 |x| :=
    (Int.zpow_le_iff_le_log one_lt_two positive).mp (by exact_mod_cast large)
  apply le_antisymm (unitOf_le (abs_pos.mp positive) small normal)
  exact le_max_of_le_left (by omega)

theorem le_of_unitOf (nonzero : x ≠ 0) (large : -1074 < unitOf x) : 2 ^ (unitOf x + 52) ≤ |x| := by
  have size : unitOf x + 52 = Int.log 2 |x| := by
    rw [unitOf] at large ⊢
    omega
  rw [size]
  exact_mod_cast Int.zpow_log_le_self (R := K) one_lt_two (abs_pos.mpr nonzero)

theorem round_of_multiple (counted : x = n * 2 ^ unitOf x) : round x = x := by
  have quotient : x / 2 ^ unitOf x = n := (div_eq_iff (two_zpow_pos _).ne').mpr counted
  rw [round, quotient, nearest_intCast, ← counted]

theorem IsDouble.counted (double : IsDouble x) : ∃ n : ℤ, x = n * 2 ^ unitOf x := by
  obtain ⟨m, e, fits, normal, same⟩ := double
  by_cases zero : x = 0
  · exact ⟨0, by rw [zero, Int.cast_zero, zero_mul]⟩
  · have size : |x| < 2 ^ (e + 53) := by
      have real : |(m : K)| < 2 ^ (53 : ℤ) := by exact_mod_cast fits
      rw [same, abs_mul, abs_of_pos (two_zpow_pos (K := K) e), add_comm, two_zpow_add]
      exact mul_lt_mul_of_pos_right real (two_zpow_pos e)
    obtain ⟨n, counted⟩ := exists_smaller_unit (K := K) m (unitOf_le zero size normal)
    exact ⟨n, same.trans counted⟩

theorem round_of_isDouble (double : IsDouble x) : round x = x := by
  obtain ⟨n, counted⟩ := double.counted
  exact round_of_multiple counted

/-- What is rounded is a double; it may be rounded up to the next power of two. -/
theorem isDouble_round (x : K) : IsDouble (round x) := by
  have size : |x / 2 ^ unitOf x| < ((2 ^ 53 : ℤ) : K) := by
    rw [abs_div, abs_of_pos (two_zpow_pos (K := K) (unitOf x)), div_lt_iff₀ (two_zpow_pos _)]
    have limit := lt_unitOf x
    rw [add_comm, two_zpow_add] at limit
    exact_mod_cast limit
  obtain ⟨lower, upper⟩ := abs_lt.mp size
  have least : -2 ^ 53 ≤ nearest (x / 2 ^ unitOf x) := by
    apply le_nearest
    exact_mod_cast lower.le
  have most : nearest (x / 2 ^ unitOf x) ≤ 2 ^ 53 := nearest_le upper.le
  have normal : -1074 ≤ unitOf x := le_max_right _ _
  rcases (abs_le.mpr ⟨least, most⟩).lt_or_eq with fits | full
  · exact ⟨_, unitOf x, fits, normal, rfl⟩
  · obtain ⟨half, even⟩ : ∃ half, nearest (x / 2 ^ unitOf x) = 2 * half := by
      have same : |nearest (x / 2 ^ unitOf x)| = |2 ^ 53| := full.trans (abs_of_nonneg (by norm_num)).symm
      rcases abs_eq_abs.mp same with up | down
      · exact ⟨2 ^ 52, up⟩
      · exact ⟨-2 ^ 52, down⟩
    refine ⟨half, unitOf x + 1, ?_, by omega, ?_⟩
    · rw [even, abs_mul] at full
      norm_num at full ⊢
      omega
    · rw [round, even, two_zpow_add]
      push_cast
      ring

/-- A double over a whole number that is at least half the sum is over it by half
a unit of the sum. -/
theorem IsDouble.half_unit_above {whole : ℤ} (double : IsDouble x) (above : (whole : K) < x)
    (positive : 0 < y) (half : y ≤ 2 * x) (fine : unitOf y ≤ 0) :
    (whole : K) + 2 ^ (unitOf y - 1) ≤ x := by
  obtain ⟨n, counted⟩ := double.counted
  have smaller : unitOf y - 1 ≤ unitOf x := by
    have fits : |y| < 2 ^ (unitOf x + 1 + 53) := by
      have limit := lt_unitOf x
      have up : (2 : K) ^ (unitOf x + 1 + 53) = 2 * 2 ^ (unitOf x + 53) := by
        rw [add_right_comm, two_zpow_add, zpow_one, mul_comm]
      rw [abs_of_pos positive, up]
      linarith [le_abs_self x]
    have normal : -1074 ≤ unitOf x := le_max_right _ _
    have := unitOf_le positive.ne' fits (by omega)
    omega
  obtain ⟨k, fineX⟩ := exists_smaller_unit (K := K) n smaller
  obtain ⟨w, fineW⟩ := exists_smaller_unit (K := K) whole (show unitOf y - 1 ≤ 0 by omega)
  rw [zpow_zero, mul_one] at fineW
  rw [counted, fineX, fineW] at above ⊢
  have unit := two_zpow_pos (K := K) (unitOf y - 1)
  have less : w < k := by exact_mod_cast lt_of_mul_lt_mul_right above unit.le
  have next : (w : K) + 1 ≤ k := by exact_mod_cast less
  calc (w : K) * 2 ^ (unitOf y - 1) + 2 ^ (unitOf y - 1) = (w + 1) * 2 ^ (unitOf y - 1) := by ring
    _ ≤ k * 2 ^ (unitOf y - 1) := mul_le_mul_of_nonneg_right next unit.le

/-- What is over a whole number by more than half a unit is rounded to more than it. -/
theorem lt_round {whole : ℤ} (fine : unitOf x ≤ 0) (gap : (whole : K) + 2 ^ (unitOf x - 1) < x) :
    (whole : K) < round x := by
  have unit := two_zpow_pos (K := K) (unitOf x)
  obtain ⟨w, counted⟩ := exists_smaller_unit (K := K) whole fine
  rw [zpow_zero, mul_one] at counted
  have halved : (2 : K) ^ (unitOf x - 1) = 2 ^ unitOf x / 2 := by
    rw [sub_eq_add_neg, two_zpow_add]
    norm_num
    ring
  have above : (w : K) + 1 / 2 < x / 2 ^ unitOf x := by
    rw [lt_div_iff₀ unit]
    calc ((w : K) + 1 / 2) * 2 ^ unitOf x = whole + 2 ^ (unitOf x - 1) := by
          rw [counted, halved]
          ring
      _ < x := gap
  rw [round, counted]
  exact mul_lt_mul_of_pos_right (by exact_mod_cast lt_nearest above) unit

/-- What is not counted in fractions is rounded to something large. -/
theorem le_round (positive : 0 < x) (coarse : 0 < unitOf x) : 2 ^ 53 ≤ round x := by
  have large := le_of_unitOf positive.ne' (by omega)
  rw [abs_of_pos positive, add_comm, two_zpow_add] at large
  have full : (2 ^ 52 : ℤ) ≤ nearest (x / 2 ^ unitOf x) := by
    apply le_nearest
    rw [le_div_iff₀ (two_zpow_pos _)]
    exact_mod_cast large
  have two : (2 : K) ≤ 2 ^ unitOf x := by
    calc (2 : K) = 2 ^ (1 : ℤ) := (zpow_one 2).symm
      _ ≤ 2 ^ unitOf x := zpow_le_zpow_right₀ one_le_two (by omega)
  calc (2 ^ 53 : K) = ((2 ^ 52 : ℤ) : K) * 2 := by norm_num
    _ ≤ nearest (x / 2 ^ unitOf x) * 2 ^ unitOf x := by
      apply mul_le_mul _ two two_pos.le
      · exact_mod_cast le_trans (by norm_num) full
      · exact_mod_cast full

/-- Rounding does not bring a sum of doubles down to whole numbers below them. -/
theorem lt_add {a b : ℤ} (first : IsDouble x) (second : IsDouble y) (nonnegA : 0 ≤ a)
    (nonnegB : 0 ≤ b) (below : (a : K) < x) (beneath : (b : K) < y) (few : a + b < 2 ^ 53) :
    ((a + b : ℤ) : K) < add x y := by
  have positiveX : 0 < x := lt_of_le_of_lt (by exact_mod_cast nonnegA) below
  have positiveY : 0 < y := lt_of_le_of_lt (by exact_mod_cast nonnegB) beneath
  have positive : 0 < x + y := add_pos positiveX positiveY
  rcases le_or_gt (unitOf (x + y)) 0 with fine | coarse
  · apply lt_round fine
    push_cast
    -- the larger of the two is at least half the sum
    rcases le_total x y with less | more
    · have := second.half_unit_above beneath positive (by linarith) fine
      linarith
    · have := first.half_unit_above below positive (by linarith) fine
      linarith
  · calc ((a + b : ℤ) : K) < 2 ^ 53 := by exact_mod_cast few
      _ ≤ add x y := le_round positive coarse

end Library.Double
