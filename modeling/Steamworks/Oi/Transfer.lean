import Steamworks.Library.Shrink
import Steamworks.Swerve.TeleOp

/-! The transfer function of a joystick axis: the curve of what is left of the
stick beyond the dead zone. -/
namespace Steamworks.Oi
open Library.Shrink Swerve

/-- What a transfer function of a stick with a dead zone is to be, from stop to
stop. -/
structure Proper (deadzone : ℝ) (f : ℝ → ℝ) : Prop where
  odd : ∀ x ∈ Set.Icc (-1) 1, f (-x) = -f x
  monotone : MonotoneOn f (Set.Icc (-1) 1)
  continuous : ContinuousOn f (Set.Icc (-1) 1)
  joint : f deadzone = 0 ∧ f (-deadzone) = 0
  zero_iff : ∀ x ∈ Set.Icc (-1) 1, f x = 0 ↔ |x| ≤ deadzone
  grows : ∀ x ∈ Set.Icc (-1 : ℝ) 1, ∀ y ∈ Set.Icc (-1 : ℝ) 1,
    deadzone ≤ |x| → |x| < |y| → |f x| < |f y|
  right : StrictMonoOn f (Set.Icc deadzone 1)
  left : StrictMonoOn f (Set.Icc (-1) (-deadzone))
  full : f 1 = 1 ∧ f (-1) = -1
  range : Set.MapsTo f (Set.Icc (-1) 1) (Set.Icc (-1) 1)

variable (e : Expo ℝ)

theorem operatorCall_eq (x : ℝ) : e.operatorCall x = e.curve (shrink e.deadzone x) := by
  have nonneg := e.deadzone_range.1
  unfold Expo.operatorCall
  split_ifs with inside right
  · rw [shrink_of_abs_le inside.le, e.curve_zero]
  · rw [abs_of_pos right] at inside
    rw [shrink_of_le nonneg (not_lt.mp inside)]
  · rw [abs_of_nonpos (not_lt.mp right)] at inside
    rw [shrink_of_le_neg nonneg (le_neg_of_le_neg (not_lt.mp inside))]

theorem operatorCall_neg (x : ℝ) : e.operatorCall (-x) = -e.operatorCall x := by
  rw [operatorCall_eq, operatorCall_eq, shrink_neg, e.curve_neg]

theorem operatorCall_monotone : Monotone e.operatorCall := by
  intro x y le
  rw [operatorCall_eq, operatorCall_eq]
  exact e.curve_strictMono.monotone (shrink_monotone e.deadzone le)

theorem continuous_curve : Continuous e.curve := by
  unfold Expo.curve
  fun_prop

theorem continuous_operatorCall : Continuous e.operatorCall := by
  have composed : e.operatorCall = e.curve ∘ shrink e.deadzone := funext (operatorCall_eq e)
  rw [composed]
  exact (continuous_curve e).comp (continuous_shrink e.deadzone)

theorem operatorCall_strictMonoOn : StrictMonoOn e.operatorCall (Set.Ici e.deadzone) := by
  intro x first y second less
  rw [operatorCall_eq, operatorCall_eq]
  exact e.curve_strictMono (shrink_strictMonoOn e.deadzone_range.1 first second less)

theorem operatorCall_one : e.operatorCall 1 = 1 := by
  rw [operatorCall_eq, shrink_of_le e.deadzone_range.1 e.deadzone_range.2.le, e.curve_full]

theorem proper_operatorCall : Proper e.deadzone e.operatorCall := by
  have nonneg := e.deadzone_range.1
  have one := operatorCall_one e
  refine ⟨fun x _ => operatorCall_neg e x, (operatorCall_monotone e).monotoneOn _,
    (continuous_operatorCall e).continuousOn, ⟨?_, ?_⟩, fun x _ => e.operatorCall_eq_zero_iff x, ?_,
    ?_, ?_, ⟨one, ?_⟩, ?_⟩
  · rw [e.operatorCall_eq_zero_iff, abs_of_nonneg nonneg]
  · rw [e.operatorCall_eq_zero_iff, abs_neg, abs_of_nonneg nonneg]
  · intro x _ y _ past less
    exact e.operatorCall_grows (past.trans_lt less) less
  · exact (operatorCall_strictMonoOn e).mono Set.Icc_subset_Ici_self
  · intro x first y second less
    have flipped := operatorCall_strictMonoOn e (le_neg_of_le_neg second.2) (le_neg_of_le_neg first.2)
      (neg_lt_neg less)
    rw [operatorCall_neg, operatorCall_neg] at flipped
    exact neg_lt_neg_iff.mp flipped
  · rw [operatorCall_neg, one]
  · intro x inside
    exact abs_le.mp (e.operatorCall_le_one x (abs_le.mpr inside))

/-- The constructor accepts what is in the ranges and nothing else. -/
theorem new_ok_iff (deadzone scale : ℝ) : (∃ e, Expo.new deadzone scale = .ok e) ↔
    (0 ≤ deadzone ∧ deadzone < 1) ∧ 0 ≤ scale ∧ scale ≤ 1 := by
  constructor
  · rintro ⟨e, accepted⟩
    unfold Expo.new at accepted
    split_ifs at accepted with deadzoneBad scaleBad
    obtain rfl := Except.ok.inj accepted
    exact ⟨by simpa [not_or] using deadzoneBad, by simpa [not_or] using scaleBad⟩
  · rintro ⟨inDeadzone, inScale⟩
    exact ⟨_, Expo.new_ok ⟨deadzone, scale, inDeadzone, inScale⟩⟩

theorem new_eq {deadzone scale : ℝ} {e : Expo ℝ} (accepted : Expo.new deadzone scale = .ok e) :
    e.deadzone = deadzone ∧ e.scale = scale := by
  unfold Expo.new at accepted
  split_ifs at accepted
  obtain rfl := Except.ok.inj accepted
  exact ⟨rfl, rfl⟩

/-- For any settings: they are accepted exactly in their ranges, and then the
denominator is not zero and the function is a proper transfer function. -/
theorem transfer_proper (deadzone scale : ℝ) :
    ((∃ e, Expo.new deadzone scale = .ok e) ↔
        (0 ≤ deadzone ∧ deadzone < 1) ∧ 0 ≤ scale ∧ scale ≤ 1) ∧
      ∀ e, Expo.new deadzone scale = .ok e →
        scale * (1 - deadzone) ^ 3 + (1 - scale) * (1 - deadzone) ≠ 0 ∧
          Proper deadzone e.operatorCall := by
  refine ⟨new_ok_iff deadzone scale, fun e accepted => ?_⟩
  obtain ⟨rfl, rfl⟩ := new_eq accepted
  refine ⟨?_, proper_operatorCall e⟩
  have positive := e.offset_pos
  rw [Expo.offset, one_div_pos] at positive
  exact positive.ne'

/-- The settings of the sticks in the competition config. -/
theorem transfer_proper_shipped :
    ∃ e, Expo.new (0.08 : ℝ) 0.75 = .ok e ∧ Proper 0.08 e.operatorCall := by
  obtain ⟨e, accepted⟩ := (transfer_proper 0.08 0.75).1.mpr (by norm_num)
  exact ⟨e, accepted, ((transfer_proper 0.08 0.75).2 e accepted).2⟩

end Steamworks.Oi
