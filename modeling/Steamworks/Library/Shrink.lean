import Mathlib

/-! Shrinking: a number is brought towards zero by a fixed amount, and those that
are not farther away than that become zero. -/
namespace Library.Shrink

variable {K : Type*} [AddCommGroup K] [LinearOrder K] [IsOrderedAddMonoid K]

/-- What is left of the number beyond the amount, on either side. -/
def shrink (d x : K) : K := max (x - d) 0 + min (x + d) 0

variable {d x y : K}

theorem shrink_neg (d x : K) : shrink d (-x) = -shrink d x := by
  have above : max (-x - d) 0 = -min (x + d) 0 := by
    rw [← max_neg_neg, neg_add', neg_zero]
  have below : min (-x + d) 0 = -max (x - d) 0 := by
    rw [← min_neg_neg, neg_sub, neg_zero, neg_add_eq_sub]
  rw [shrink, shrink, above, below, neg_add, add_comm]

theorem shrink_monotone (d : K) : Monotone (shrink d) := by
  intro x y le
  exact add_le_add (max_le_max_right 0 (sub_le_sub_right le d))
    (min_le_min_right 0 (add_le_add_left le d))

/-- Past the amount it is taken off. -/
theorem shrink_of_le (nonneg : 0 ≤ d) (le : d ≤ x) : shrink d x = x - d := by
  rw [shrink, max_eq_left (sub_nonneg.mpr le), min_eq_right (add_nonneg (nonneg.trans le) nonneg),
    add_zero]

theorem shrink_of_le_neg (nonneg : 0 ≤ d) (le : x ≤ -d) : shrink d x = x + d := by
  have flipped := shrink_of_le nonneg (le_neg_of_le_neg le)
  rw [shrink_neg, neg_eq_iff_eq_neg] at flipped
  rw [flipped, neg_sub, sub_neg_eq_add, add_comm]

theorem shrink_of_abs_le (le : |x| ≤ d) : shrink d x = 0 := by
  obtain ⟨low, high⟩ := abs_le.mp le
  have up : 0 ≤ x + d := neg_le_iff_add_nonneg.mp low
  rw [shrink, max_eq_right (sub_nonpos.mpr high), min_eq_right up, add_zero]

theorem shrink_strictMonoOn (nonneg : 0 ≤ d) : StrictMonoOn (shrink d) (Set.Ici d) := by
  intro x first y second less
  rw [shrink_of_le nonneg first, shrink_of_le nonneg second]
  exact sub_lt_sub_right less d

theorem continuous_shrink [TopologicalSpace K] [OrderTopology K] (d : K) :
    Continuous (shrink d) :=
  ((continuous_id.sub continuous_const).max continuous_const).add
    ((continuous_id.add continuous_const).min continuous_const)

end Library.Shrink
