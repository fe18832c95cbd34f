import Mathlib

/-! Feedback laws: a setpoint is a size that the error's size decides, with the
sign of the error or the opposite one. What holds of the sizes carries over. -/
namespace Library.Feedback

variable {K : Type*} [Field K] [LinearOrder K]

/-- The size of an error's setpoint, signed like the error. -/
def towards (size : K → K) (error : K) : K := size |error| * (if error < 0 then -1 else 1)

/-- Signed unlike the error. -/
def against (size : K → K) (error : K) : K := size |error| * (if error < 0 then 1 else -1)

/-- Nothing within the tolerance and something beyond it, never falling, and at
most the maximum. -/
structure Rising (size : K → K) (tolerance maximum : K) : Prop where
  rest : ∀ away, away < tolerance → size away = 0
  moving : ∀ away, tolerance < away → 0 < size away
  monotone : Monotone size
  bounded : ∀ away, size away ≤ maximum

/-- Only the size of the error counts for that of the setpoint, and the sign
flips with it. -/
structure Law (law : K → K) (tolerance maximum : K) : Prop where
  bounded : ∀ error, |law error| ≤ maximum
  rising : ∀ error further, |error| ≤ |further| → |law error| ≤ |law further|
  odd : Function.Odd law
  rest : ∀ error, |error| < tolerance → law error = 0
  moving : ∀ error, tolerance < |error| → law error ≠ 0

theorem against_eq (size : K → K) (error : K) : against size error = -towards size error := by
  unfold against towards
  split_ifs <;> ring

/-- A size with a constant one put before it, from a smaller tolerance on. -/
def stepped (size : K → K) (tolerance first height away : K) : K :=
  if away < tolerance then 0 else if away < first then height else size away

variable {size law : K → K} {tolerance maximum first height away : K}

theorem stepped_close (close : away < tolerance) : stepped size tolerance first height away = 0 :=
  if_pos close

theorem stepped_low (outside : tolerance ≤ away) (low : away < first) :
    stepped size tolerance first height away = height := by
  rw [stepped, if_neg (not_lt.mpr outside), if_pos low]

theorem stepped_high (wider : tolerance ≤ first) (high : first ≤ away) :
    stepped size tolerance first height away = size away := by
  rw [stepped, if_neg (not_lt.mpr (wider.trans high)), if_neg (not_lt.mpr high)]

/-- The constant must not be higher than what follows. -/
theorem Rising.stepped {lowest : K} (rising : Rising size lowest maximum) (wider : tolerance ≤ first)
    (positive : 0 < height) (below : ∀ away, first ≤ away → height ≤ size away) :
    Rising (stepped size tolerance first height) tolerance maximum where
  rest away close := stepped_close close
  moving away far := by
    rcases lt_or_ge away first with low | high
    · rw [stepped_low far.le low]
      exact positive
    · rw [stepped_high wider high]
      exact positive.trans_le (below away high)
  monotone near far le := by
    have least (outside : tolerance ≤ far) : height ≤ Feedback.stepped size tolerance first height far := by
      rcases lt_or_ge far first with low | high
      · rw [stepped_low outside low]
      · rw [stepped_high wider high]
        exact below far high
    rcases lt_or_ge near tolerance with close | outside
    · rw [stepped_close close]
      rcases lt_or_ge far tolerance with close' | outside'
      · rw [stepped_close close']
      · exact positive.le.trans (least outside')
    · rcases lt_or_ge near first with low | high
      · rw [stepped_low outside low]
        exact least (outside.trans le)
      · rw [stepped_high wider high, stepped_high wider (high.trans le)]
        exact rising.monotone le
  bounded away := by
    have least : height ≤ maximum := (below first le_rfl).trans (rising.bounded first)
    rcases lt_or_ge away tolerance with close | outside
    · rw [stepped_close close]
      exact positive.le.trans least
    · rcases lt_or_ge away first with low | high
      · rw [stepped_low outside low]
        exact least
      · rw [stepped_high wider high]
        exact rising.bounded away

variable [IsStrictOrderedRing K]

theorem Rising.nonneg (rising : Rising size tolerance maximum) (away : K) : 0 ≤ size away := by
  have near : min away (tolerance - 1) < tolerance := min_lt_of_right_lt (sub_one_lt tolerance)
  rw [← rising.rest _ near]
  exact rising.monotone (min_le_left _ _)

theorem abs_towards (nonneg : ∀ away, 0 ≤ size away) (error : K) : |towards size error| = size |error| := by
  unfold towards
  split_ifs
  · rw [mul_neg_one, abs_neg, abs_of_nonneg (nonneg _)]
  · rw [mul_one, abs_of_nonneg (nonneg _)]

theorem abs_against (nonneg : ∀ away, 0 ≤ size away) (error : K) : |against size error| = size |error| := by
  rw [against_eq, abs_neg, abs_towards nonneg]

omit [IsStrictOrderedRing K] in
/-- Two setpoints towards one error have its sign both. -/
theorem towards_mul_towards (size other : K → K) (error : K) :
    towards size error * towards other error = size |error| * other |error| := by
  unfold towards
  split_ifs <;> ring

theorem towards_odd (rest : size 0 = 0) : Function.Odd (towards size) := by
  intro error
  unfold towards
  rw [abs_neg]
  rcases lt_trichotomy error 0 with negative | rfl | positive
  · rw [if_pos negative, if_neg (neg_pos.mpr negative).le.not_gt]
    ring
  · simp [rest]
  · rw [if_pos (neg_neg_of_pos positive), if_neg positive.le.not_gt]
    ring

theorem law_towards (rising : Rising size tolerance maximum) (wide : 0 < tolerance) :
    Law (towards size) tolerance maximum where
  bounded error := by
    rw [abs_towards rising.nonneg]
    exact rising.bounded _
  rising error further le := by
    rw [abs_towards rising.nonneg, abs_towards rising.nonneg]
    exact rising.monotone le
  odd := towards_odd (rising.rest 0 wide)
  rest error near := by rw [towards, rising.rest _ near, zero_mul]
  moving error far := by
    rw [← abs_ne_zero, abs_towards rising.nonneg]
    exact (rising.moving _ far).ne'

theorem law_against (rising : Rising size tolerance maximum) (wide : 0 < tolerance) :
    Law (against size) tolerance maximum := by
  have same : against size = -towards size := funext (against_eq size)
  have law := law_towards rising wide
  rw [same]
  constructor
  · intro error
    rw [Pi.neg_apply, abs_neg]
    exact law.bounded error
  · intro error further le
    rw [Pi.neg_apply, Pi.neg_apply, abs_neg, abs_neg]
    exact law.rising error further le
  · intro error
    rw [Pi.neg_apply, Pi.neg_apply, law.odd error]
  · intro error near
    rw [Pi.neg_apply, law.rest error near, neg_zero]
  · intro error far
    rw [Pi.neg_apply]
    exact neg_ne_zero.mpr (law.moving error far)

end Library.Feedback
