import Steamworks.Library.Remainder

/-! Sums whose running sum is cut to a whole number at every term, toward zero.
Above zero a term loses its fraction; below, a fractional term gains what its
fraction lacks of one. -/
namespace Library.Curtailed
open Library.Remainder

variable {K : Type*} [Field K] [LinearOrder K] [FloorRing K]

/-- The running sum after these terms. -/
def curtail (sum : ℤ) : List K → ℤ
  | [] => sum
  | x :: rest => curtail (trunc ((sum : K) + x)) rest

/-- Where the running sum is stored in a range, there is none outside. -/
def curtail? (fits : ℤ → Prop) [DecidablePred fits] (sum : ℤ) : List K → Option ℤ
  | [] => some sum
  | x :: rest =>
    if fits (trunc ((sum : K) + x)) then curtail? fits (trunc ((sum : K) + x)) rest else none

/-- The fractional terms at which the running sum is below zero. -/
def belowZero (sum : ℤ) : List K → ℕ
  | [] => 0
  | x :: rest =>
    (if (sum : K) + x < 0 ∧ Int.fract x ≠ 0 then 1 else 0) + belowZero (trunc ((sum : K) + x)) rest

variable [IsStrictOrderedRing K]

theorem trunc_add_eq (sum : ℤ) (x : K) : (trunc ((sum : K) + x) : K) + Int.fract x =
    sum + x + ((if (sum : K) + x < 0 ∧ Int.fract x ≠ 0 then 1 else 0 : ℕ) : K) := by
  have parts := Int.floor_add_fract x
  unfold trunc
  by_cases below : (sum : K) + x < 0
  · rw [if_neg (not_le.mpr below), Int.ceil_intCast_add]
    by_cases whole : Int.fract x = 0
    · have same : (⌈x⌉ : K) = x := by
        rw [whole, add_zero] at parts
        rw [← parts, Int.ceil_intCast]
      rw [if_neg (fun both => both.2 whole), whole]
      push_cast
      linarith
    · have up := Int.ceil_eq_add_one_sub_fract whole
      rw [if_pos ⟨below, whole⟩]
      push_cast
      linarith
  · rw [if_pos (not_lt.mp below), if_neg (fun both => below both.1), Int.floor_intCast_add]
    push_cast
    linarith

/-- By induction on the terms: what they lose are their fractions. -/
theorem curtail_add_fracts (sum : ℤ) (xs : List K) :
    (curtail sum xs : K) + (xs.map Int.fract).sum = sum + xs.sum + belowZero sum xs := by
  induction xs generalizing sum with
  | nil => simp [curtail, belowZero]
  | cons x rest ih =>
    have later := ih (trunc ((sum : K) + x))
    have now := trunc_add_eq sum x
    rw [curtail, belowZero, List.map_cons, List.sum_cons, List.sum_cons]
    push_cast at now ⊢
    linarith

/-- The cut sum is exact when the fractions amount to one for each fractional
term that leaves it below zero. -/
theorem curtail_eq_sum_iff (xs : List K) :
    (curtail 0 xs : K) = xs.sum ↔ (xs.map Int.fract).sum = belowZero 0 xs := by
  have balance := curtail_add_fracts 0 xs
  rw [Int.cast_zero, zero_add] at balance
  constructor
  · intro exact_
    linarith
  · intro fracts
    linarith

theorem belowZero_of_nonneg {xs : List K} (nonneg : ∀ x ∈ xs, 0 ≤ x) (sum : ℤ) (start : 0 ≤ sum) :
    belowZero sum xs = 0 := by
  induction xs generalizing sum with
  | nil => rfl
  | cons x rest ih =>
    have whole : (0 : K) ≤ sum := by exact_mod_cast start
    have above : 0 ≤ (sum : K) + x := add_nonneg whole (nonneg x List.mem_cons_self)
    have next : 0 ≤ trunc ((sum : K) + x) := le_trunc (by rwa [Int.cast_zero])
    rw [belowZero, if_neg (fun both => both.1.not_ge above), zero_add]
    exact ih (fun y member => nonneg y (List.mem_cons_of_mem x member)) _ next

theorem sum_fracts_eq_zero_iff (xs : List K) :
    (xs.map Int.fract).sum = 0 ↔ ∀ x ∈ xs, Int.fract x = 0 := by
  constructor
  · intro none x member
    have nonneg : ∀ y ∈ xs.map Int.fract, 0 ≤ y := by
      rw [List.forall_mem_map]
      exact fun y _ => Int.fract_nonneg y
    exact List.all_zero_of_le_zero_le_of_sum_eq_zero nonneg none (List.mem_map_of_mem member)
  · intro whole
    apply List.sum_eq_zero
    rw [List.forall_mem_map]
    exact whole

/-- Of terms that are not negative, the cut sum is exact only if all are whole. -/
theorem curtail_eq_sum_of_nonneg {xs : List K} (nonneg : ∀ x ∈ xs, 0 ≤ x) :
    (curtail 0 xs : K) = xs.sum ↔ ∀ x ∈ xs, Int.fract x = 0 := by
  rw [curtail_eq_sum_iff, belowZero_of_nonneg nonneg 0 le_rfl, Nat.cast_zero, sum_fracts_eq_zero_iff]

section Range
variable {fits : ℤ → Prop} [DecidablePred fits]

omit [IsStrictOrderedRing K] in
/-- It is there when the running sum is in the range after every term. -/
theorem curtail?_eq_some_iff {sum n : ℤ} (start : fits sum) (xs : List K) :
    curtail? fits sum xs = some n ↔
      curtail sum xs = n ∧ ∀ front, front <+: xs → fits (curtail sum front) := by
  induction xs generalizing sum with
  | nil => simp [curtail?, curtail, start]
  | cons x rest ih =>
    rw [curtail?, curtail]
    by_cases inside : fits (trunc ((sum : K) + x))
    · rw [if_pos inside, ih inside]
      refine and_congr_right fun _ => ?_
      simp only [List.prefix_cons_iff, or_imp, forall_and, forall_eq, forall_exists_index, and_imp,
        curtail, start, true_and]
      constructor
      · rintro all front tail rfl short
        exact all tail short
      · intro all front short
        exact all _ front rfl short
    · rw [if_neg inside]
      refine iff_of_false (Option.some_ne_none n).symm fun both => inside ?_
      exact both.2 [x] (List.prefix_cons_inj x |>.mpr List.nil_prefix)

end Range

/-- Of whole terms that are not negative, no running sum exceeds the last. -/
theorem curtail_prefix_of_whole {xs front : List K} (nonneg : ∀ x ∈ xs, 0 ≤ x)
    (whole : ∀ x ∈ xs, Int.fract x = 0) (short : front <+: xs) :
    0 ≤ curtail 0 front ∧ (curtail 0 front : K) ≤ xs.sum := by
  obtain ⟨back, rfl⟩ := short
  have front_nonneg : ∀ x ∈ front, 0 ≤ x := fun x member => nonneg x (List.mem_append_left back member)
  have back_nonneg : ∀ x ∈ back, 0 ≤ x := fun x member => nonneg x (List.mem_append_right front member)
  have same := (curtail_eq_sum_of_nonneg front_nonneg).mpr fun x member =>
    whole x (List.mem_append_left back member)
  have lower := List.sum_nonneg front_nonneg
  have more := List.sum_nonneg back_nonneg
  rw [← same] at lower
  rw [List.sum_append, same]
  exact ⟨by exact_mod_cast lower, by linarith⟩

end Library.Curtailed
