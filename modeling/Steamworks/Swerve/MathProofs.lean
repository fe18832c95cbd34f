import Steamworks.Library.Polar
import Steamworks.Library.Run
import Steamworks.Swerve.Math

/-! Inverse kinematics over whole runs. One wheel's history stays consistent
through every turn: the wrapped heading is the one just demanded, and the
unbounded output angle names it up to the recorded flip. -/
namespace Steamworks.Swerve
open Library.Remainder Library.Polar Library.Run

set_option linter.unusedSectionVars false

variable {K : Type*} [Field K] [LinearOrder K] [IsStrictOrderedRing K]

theorem smartAngleChange_cases {raw : K} (bound : |raw| < 360) :
    (smartAngleChange raw = raw ∧ |raw| < 180) ∨
      (smartAngleChange raw = raw - 360 ∧ 180 ≤ raw) ∨
      (smartAngleChange raw = raw + 360 ∧ raw ≤ -180) := by
  have complement : |-(sign raw : K) * (360 - |raw|)| = 360 - |raw| ∨ raw = 0 := by
    rcases lt_trichotomy raw 0 with negative | zero | positive
    · left
      rw [sign_of_neg negative, Int.cast_neg, Int.cast_one, neg_neg, one_mul,
        abs_of_pos (sub_pos.mpr bound)]
    · exact .inr zero
    · left
      rw [sign_of_pos positive, Int.cast_one, neg_one_mul, abs_neg, abs_of_pos (sub_pos.mpr bound)]
  unfold smartAngleChange
  dsimp only
  rcases complement with length | rfl
  · rw [length]
    split_ifs with short
    · exact .inl ⟨rfl, by linarith⟩
    · right
      have long : 180 ≤ |raw| := by linarith
      rcases le_abs.mp long with positive | negative
      · left
        have h : 0 < raw := by linarith
        rw [sign_of_pos h, abs_of_pos h, Int.cast_one]
        exact ⟨by ring, positive⟩
      · right
        have h : raw < 0 := by linarith
        rw [sign_of_neg h, abs_of_neg h, Int.cast_neg, Int.cast_one]
        exact ⟨by ring, by linarith⟩
  · left
    simp

/-- Whichever turn is chosen, it is the change of heading up to one whole turn. -/
theorem smartAngleChange_whole (raw : K) :
    ∃ k : ℤ, -1 ≤ k ∧ k ≤ 1 ∧ raw = smartAngleChange raw + k * 360 := by
  have other : ∃ k : ℤ, -1 ≤ k ∧ k ≤ 1 ∧ raw = -(sign raw : K) * (360 - |raw|) + k * 360 := by
    rcases lt_trichotomy raw 0 with negative | rfl | positive
    · refine ⟨-1, by norm_num, by norm_num, ?_⟩
      rw [sign_of_neg negative, abs_of_neg negative]
      push_cast
      ring
    · exact ⟨0, by norm_num, by norm_num, by simp [sign]⟩
    · refine ⟨1, by norm_num, by norm_num, ?_⟩
      rw [sign_of_pos positive, abs_of_pos positive]
      push_cast
      ring
  unfold smartAngleChange
  dsimp only
  split_ifs
  · exact ⟨0, by norm_num, by norm_num, by simp⟩
  · exact other

/-- The history of a wheel: the heading is in its period, and the output angle
is that heading, turned half way round when the speed is negated. -/
structure Wheel.Consistent (wheel : Wheel K) : Prop where
  lower : 0 ≤ wheel.anglePast
  upper : wheel.anglePast < 360
  aligned : wheel.angle ≡ wheel.anglePast + (if wheel.magNegated then 180 else 0) [PMOD 360]

theorem initial_consistent : (⟨0, 0, false⟩ : Wheel K).Consistent :=
  ⟨le_refl _, by norm_num, by simp⟩

/-- Whatever the history holds, the output angle is off by this much from what
it records. -/
def Wheel.Off (wheel : Wheel K) (offset : K) : Prop :=
  wheel.angle ≡ wheel.anglePast + (if wheel.magNegated then 180 else 0) + offset [PMOD 360]

theorem Wheel.Consistent.off {wheel : Wheel K} (consistent : wheel.Consistent) : wheel.Off 0 := by
  rw [Wheel.Off, add_zero]
  exact consistent.aligned

/-- Down by a half turn, the offset is the flipped one up to whole turns. -/
theorem half_flip (negated : Bool) : ∃ j : ℤ,
    (if negated then 180 else 0 : K) - 180 = (if !negated then 180 else 0) + j * 360 := by
  cases negated with
  | false => exact ⟨-1, by norm_num⟩
  | true => exact ⟨0, by norm_num⟩

section Turn
variable {heading : K} (wheel : Wheel K) (lower : 0 ≤ heading) (upper : heading < 360)
include lower upper

section
variable [FloorRing K]

theorem wrapped_heading :
    fmod (wheel.anglePast + smartAngleChange (heading - wheel.anglePast) + 360) 360 = heading := by
  obtain ⟨k, _, few, whole⟩ := smartAngleChange_whole (heading - wheel.anglePast)
  have few : (k : K) ≤ 1 := by exact_mod_cast few
  apply fmod_eq_of_modEq _ lower upper
  · exact modEq_iff_exists.mpr ⟨1 - k, by push_cast; linear_combination -whole⟩
  · linarith

theorem turn_right (far : 90 < smartAngleChange (heading - wheel.anglePast)) :
    wheel.turn heading = ⟨wheel.angle + smartAngleChange (heading - wheel.anglePast) - 180,
      heading, !wheel.magNegated⟩ := by
  simp only [Wheel.turn, wrapped_heading wheel lower upper]
  rw [if_pos far]

theorem turn_left (far : smartAngleChange (heading - wheel.anglePast) < -90) :
    wheel.turn heading = ⟨wheel.angle + smartAngleChange (heading - wheel.anglePast) + 180,
      heading, !wheel.magNegated⟩ := by
  have other : ¬90 < smartAngleChange (heading - wheel.anglePast) := by linarith
  simp only [Wheel.turn, wrapped_heading wheel lower upper]
  rw [if_neg other, if_pos far]

theorem turn_near (near : |smartAngleChange (heading - wheel.anglePast)| ≤ 90) :
    wheel.turn heading = ⟨wheel.angle + smartAngleChange (heading - wheel.anglePast),
      heading, wheel.magNegated⟩ := by
  obtain ⟨left, right⟩ := abs_le.mp near
  simp only [Wheel.turn, wrapped_heading wheel lower upper]
  rw [if_neg (not_lt.mpr right), if_neg (not_lt.mpr left)]

/-- What one turn does, by the three ranges of the chosen change. -/
theorem turn_cases :
    (wheel.turn heading = ⟨wheel.angle + smartAngleChange (heading - wheel.anglePast) - 180,
        heading, !wheel.magNegated⟩ ∧ 90 < smartAngleChange (heading - wheel.anglePast)) ∨
      (wheel.turn heading = ⟨wheel.angle + smartAngleChange (heading - wheel.anglePast) + 180,
        heading, !wheel.magNegated⟩ ∧ smartAngleChange (heading - wheel.anglePast) < -90) ∨
      (wheel.turn heading = ⟨wheel.angle + smartAngleChange (heading - wheel.anglePast),
        heading, wheel.magNegated⟩ ∧ |smartAngleChange (heading - wheel.anglePast)| ≤ 90) := by
  rcases le_or_gt |smartAngleChange (heading - wheel.anglePast)| 90 with near | far
  · exact .inr (.inr ⟨turn_near wheel lower upper near, near⟩)
  · rcases lt_abs.mp far with right | left
    · exact .inl ⟨turn_right wheel lower upper right, right⟩
    · have left := lt_neg.mp left
      exact .inr (.inl ⟨turn_left wheel lower upper left, left⟩)

theorem turn_anglePast : (wheel.turn heading).anglePast = heading := by
  rcases turn_cases wheel lower upper with ⟨turn, _⟩ | ⟨turn, _⟩ | ⟨turn, _⟩ <;> rw [turn]

/-- A flip takes as much from the angle as from the recorded offset, up to whole
turns. -/
theorem turn_off {offset : K} (off : wheel.Off offset) : (wheel.turn heading).Off offset := by
  obtain ⟨n, aligned⟩ := modEq_iff_exists.mp off
  obtain ⟨k, _, _, whole⟩ := smartAngleChange_whole (heading - wheel.anglePast)
  obtain ⟨j, flipped⟩ := half_flip (K := K) wheel.magNegated
  rcases turn_cases wheel lower upper with ⟨turn, _⟩ | ⟨turn, _⟩ | ⟨turn, _⟩ <;> rw [turn]
  · have down : heading + (if !wheel.magNegated then 180 else 0) + offset =
        wheel.angle + smartAngleChange (heading - wheel.anglePast) - 180 + (n + k - j : ℤ) * 360 := by
      push_cast
      linear_combination aligned + whole - flipped
    exact modEq_iff_exists.mpr ⟨_, down⟩
  · have up : heading + (if !wheel.magNegated then 180 else 0) + offset =
        wheel.angle + smartAngleChange (heading - wheel.anglePast) + 180 + (n + k - j - 1 : ℤ) * 360 := by
      push_cast
      linear_combination aligned + whole - flipped
    exact modEq_iff_exists.mpr ⟨_, up⟩
  · have same : heading + (if wheel.magNegated then 180 else 0) + offset =
        wheel.angle + smartAngleChange (heading - wheel.anglePast) + (n + k : ℤ) * 360 := by
      push_cast
      linear_combination aligned + whole
    exact modEq_iff_exists.mpr ⟨_, same⟩

end

variable {wheel} (consistent : wheel.Consistent)
include consistent

theorem raw_bound : |heading - wheel.anglePast| < 360 := by
  have := consistent.lower
  have := consistent.upper
  rw [abs_lt]
  constructor <;> linarith

/-- From a heading in its period the chosen turn is at most a half turn. -/
theorem smart_turn : |smartAngleChange (heading - wheel.anglePast)| ≤ 180 := by
  have bound := raw_bound lower upper consistent
  have chosen := smartAngleChange_cases bound
  rw [abs_lt] at bound
  rcases chosen with ⟨turn, short⟩ | ⟨turn, long⟩ | ⟨turn, long⟩ <;> rw [turn]
  · exact short.le
  · rw [abs_le]
    constructor <;> linarith
  · rw [abs_le]
    constructor <;> linarith

variable [FloorRing K]

/-- A flip trades the part of the turn beyond a quarter for a half turn. -/
theorem turn_small : |(wheel.turn heading).angle - wheel.angle| ≤ 90 := by
  have halfTurn := abs_le.mp (smart_turn lower upper consistent)
  rcases turn_cases wheel lower upper with ⟨turn, far⟩ | ⟨turn, far⟩ | ⟨turn, near⟩ <;>
    rw [turn]
  · dsimp only
    rw [abs_le]
    constructor <;> linarith
  · dsimp only
    rw [abs_le]
    constructor <;> linarith
  · simpa only [add_sub_cancel_left] using near

theorem turn_consistent : (wheel.turn heading).Consistent := by
  have past := turn_anglePast wheel lower upper
  have off := turn_off wheel lower upper consistent.off
  rw [Wheel.Off, add_zero] at off
  exact ⟨past.symm ▸ lower, past.symm ▸ upper, off⟩

end Turn

variable [FloorRing K] (libm : Libm K)

theorem wheelHeading_lower {angle : K} (range : -180 < angle) : 0 ≤ wheelHeading angle :=
  fmod_nonneg (by norm_num) (by linarith)

theorem wheelHeading_upper {angle : K} (range : -180 < angle) : wheelHeading angle < 360 :=
  fmod_lt (by norm_num) (by linarith)

namespace SwerveMath

def Consistent (m : SwerveMath K) : Prop := ∀ i, (m.wheels i).Consistent

/-- Both operations turn each wheel to the heading of the angle they demand. -/
theorem step_wheel (m : SwerveMath K) (call : Call K) (i : Fin 4) :
    (step libm m call).wheels i = (m.wheels i).turn (wheelHeading (call.angle libm m i)) := by
  cases call <;> rfl

theorem call_range (m : SwerveMath K) (call : Call K) (i : Fin 4) :
    -180 < call.angle libm m i ∧ call.angle libm m i ≤ 180 := by
  cases call with
  | operator dd rp => exact libm.atan2_range _ _
  | brake angles => exact angles.range i

theorem step_rotationVectors (m : SwerveMath K) (call : Call K) :
    (step libm m call).rotationVectors = m.rotationVectors := by
  cases call <;> rfl

theorem step_consistent (m : SwerveMath K) (call : Call K) (consistent : m.Consistent) :
    (step libm m call).Consistent := by
  intro i
  have range := (call_range libm m call i).1
  rw [step_wheel]
  exact turn_consistent (wheelHeading_lower range) (wheelHeading_upper range) (consistent i)

theorem initial_consistent (vectors : RotationPoint → Fin 4 → Vector2f K) :
    (initial vectors).Consistent := fun _ => Swerve.initial_consistent

theorem run_consistent (g : Geometry K) (calls : List (Call K)) :
    (run (step libm) (g.swerveMath libm) calls).Consistent :=
  run_invariant (step_consistent libm) (initial_consistent _) calls

theorem step_anglePast (m : SwerveMath K) (call : Call K) (i : Fin 4) :
    ((step libm m call).wheels i).anglePast = wheelHeading (call.angle libm m i) := by
  have range := (call_range libm m call i).1
  rw [step_wheel]
  exact turn_anglePast _ (wheelHeading_lower range) (wheelHeading_upper range)

theorem step_small (m : SwerveMath K) (call : Call K) (consistent : m.Consistent) (i : Fin 4) :
    |((step libm m call).wheels i).angle - (m.wheels i).angle| ≤ 90 := by
  have range := (call_range libm m call i).1
  rw [step_wheel]
  exact turn_small (wheelHeading_lower range) (wheelHeading_upper range) (consistent i)

theorem wheelAngle_operatorCall (m : SwerveMath K) (dd : DriveData K) (rp : RotationPoint)
    (i : Fin 4) :
    (m.operatorCall libm dd rp).2.wheelAngle i = ((m.operatorCall libm dd rp).1.wheels i).angle := by
  fin_cases i <;> rfl

theorem wheelSpeed_operatorCall (m : SwerveMath K) (dd : DriveData K) (rp : RotationPoint)
    (i : Fin 4) :
    (m.operatorCall libm dd rp).2.wheelSpeed i = signedMags
      (fun i => ((m.operatorCall libm dd rp).1.wheels i).magNegated) (m.demandMag libm dd rp) i := by
  fin_cases i <;> rfl

theorem maxWheelMag_eq (mags : Fin 4 → K) :
    maxWheelMag mags = max (max (max (max 0 (mags 0)) (mags 1)) (mags 2)) (mags 3) := by
  have keep : ∀ a b : K, (if a < b then b else a) = max a b := fun a b => (max_def_lt a b).symm
  simp only [maxWheelMag, keep]
  rfl

theorem maxWheelMag_greatest (mags : Fin 4 → K) (nonneg : ∀ i, 0 ≤ mags i) :
    IsGreatest (Set.range mags) (maxWheelMag mags) := by
  rw [maxWheelMag_eq, max_eq_right (nonneg 0)]
  constructor
  · rcases max_choice (max (max (mags 0) (mags 1)) (mags 2)) (mags 3) with third | last
    · rw [third]
      rcases max_choice (max (mags 0) (mags 1)) (mags 2) with second | last
      · rw [second]
        rcases max_choice (mags 0) (mags 1) with first | last
        · exact ⟨0, first.symm⟩
        · exact ⟨1, last.symm⟩
      · exact ⟨2, last.symm⟩
    · exact ⟨3, last.symm⟩
  · rintro _ ⟨i, rfl⟩
    fin_cases i <;> simp

theorem signedMags_eq (negated : Fin 4 → Bool) (mags : Fin 4 → K) (i : Fin 4) :
    signedMags negated mags i =
      (if negated i then mags i * -1 else mags i) * (1 / max 1 (maxWheelMag mags)) := by
  by_cases fast : 1 < maxWheelMag mags
  · simp only [signedMags, if_pos fast, max_eq_right fast.le, mul_one_div]
  · simp only [signedMags, if_neg fast, max_eq_left (not_lt.mp fast), div_one, mul_one]

theorem demandMag_nonneg (m : SwerveMath K) (dd : DriveData K) (rp : RotationPoint) (i : Fin 4) :
    0 ≤ m.demandMag libm dd rp i := libm.sqrt_nonneg _

theorem step_off {m : SwerveMath K} {offset : K} {i : Fin 4} (off : (m.wheels i).Off offset)
    (call : Call K) : ((step libm m call).wheels i).Off offset := by
  have range := (call_range libm m call i).1
  rw [step_wheel]
  exact turn_off _ (wheelHeading_lower range) (wheelHeading_upper range) off

/-- The output of `operator()` for a wheel: the demanded vector, cut by one
factor, and off by as much as its history. -/
theorem operatorCall_off {m : SwerveMath K} {offset : K} {i : Fin 4} (off : (m.wheels i).Off offset)
    (dd : DriveData K) (rp : RotationPoint) :
    Denotes ((m.operatorCall libm dd rp).2.wheelAngle i) ((m.operatorCall libm dd rp).2.wheelSpeed i)
      (m.demandHeading libm dd rp i + offset)
      (m.demandMag libm dd rp i * (1 / max 1 (maxWheelMag (m.demandMag libm dd rp)))) := by
  have aligned := step_off libm off (.operator dd rp)
  rw [Wheel.Off, step_anglePast libm m (.operator dd rp) i, add_right_comm] at aligned
  rw [wheelAngle_operatorCall, wheelSpeed_operatorCall, signedMags_eq]
  exact (denotes_of_flag aligned).scale _

/-- In a consistent state, the demanded vectors. -/
theorem operatorCall_denotes (m : SwerveMath K) (consistent : m.Consistent) (dd : DriveData K)
    (rp : RotationPoint) (i : Fin 4) :
    Denotes ((m.operatorCall libm dd rp).2.wheelAngle i) ((m.operatorCall libm dd rp).2.wheelSpeed i)
      (m.demandHeading libm dd rp i)
      (m.demandMag libm dd rp i * (1 / max 1 (maxWheelMag (m.demandMag libm dd rp)))) := by
  have denoted := operatorCall_off libm (consistent i).off dd rp
  rwa [add_zero] at denoted

theorem operatorCall_speed_le (m : SwerveMath K) (dd : DriveData K) (rp : RotationPoint)
    (i : Fin 4) : |(m.operatorCall libm dd rp).2.wheelSpeed i| ≤ 1 := by
  have nonneg := demandMag_nonneg libm m dd rp i
  have greatest := (maxWheelMag_greatest _ (demandMag_nonneg libm m dd rp)).2 ⟨i, rfl⟩
  have unsigned : ∀ negated : Bool, |if negated then m.demandMag libm dd rp i * -1
      else m.demandMag libm dd rp i| = m.demandMag libm dd rp i := by
    intro negated
    cases negated <;> simp [abs_of_nonneg nonneg]
  have bound : m.demandMag libm dd rp i ≤ max 1 (maxWheelMag (m.demandMag libm dd rp)) :=
    greatest.trans (le_max_right _ _)
  have positive : 0 < max 1 (maxWheelMag (m.demandMag libm dd rp)) :=
    one_pos.trans_le (le_max_left _ _)
  rw [wheelSpeed_operatorCall, signedMags_eq, abs_mul, unsigned, abs_of_pos (one_div_pos.mpr positive),
    mul_one_div]
  exact (div_le_one positive).mpr bound

/-- After every call of every run the wrapped heading is the demanded one, the
output angle names it up to the flip, it moved by at most a quarter turn, and
the outputs of `operator()` are the demanded vectors under one common cut. -/
theorem kinematics_realised (libm : Libm K) (g : Geometry K) (calls : List (Call K))
    (call : Call K) :
    let before := run (step libm) (g.swerveMath libm) calls
    let after := step libm before call
    (∀ i, 0 ≤ (after.wheels i).anglePast ∧ (after.wheels i).anglePast < 360 ∧
      (after.wheels i).anglePast ≡ call.angle libm before i + 270 [PMOD 360]) ∧
    (∀ i, (after.wheels i).angle ≡
      (after.wheels i).anglePast + (if (after.wheels i).magNegated then 180 else 0) [PMOD 360]) ∧
    (∀ dd rp, call = .operator dd rp →
      let out := (before.operatorCall libm dd rp).2
      ∃ largest, IsGreatest (Set.range (before.demandMag libm dd rp)) largest ∧
        ∀ i, Denotes (out.wheelAngle i) (out.wheelSpeed i) (after.wheels i).anglePast
            (before.demandMag libm dd rp i * (1 / max 1 largest)) ∧ |out.wheelSpeed i| ≤ 1) ∧
    (∀ i, |(after.wheels i).angle - (before.wheels i).angle| ≤ 90) := by
  intro before after
  have consistent : before.Consistent := run_consistent libm g calls
  have next : after.Consistent := step_consistent libm before call consistent
  refine ⟨fun i => ⟨(next i).lower, (next i).upper, ?_⟩, fun i => (next i).aligned, ?_,
    step_small libm before call consistent⟩
  · rw [step_anglePast libm before call i]
    exact fmod_modEq _ _
  · rintro dd rp rfl out
    refine ⟨_, maxWheelMag_greatest _ (demandMag_nonneg libm before dd rp), fun i => ?_⟩
    rw [step_anglePast libm before _ i]
    exact ⟨operatorCall_denotes libm before consistent dd rp i, operatorCall_speed_le libm before dd rp i⟩

/-- Full ahead, then back and to the right. -/
def maneuver : List (Call ℝ) :=
  [.operator ⟨1, 0, 0, 0, 0, 0, 0, 0, 0, 0, 0⟩ .center,
    .operator ⟨-0.5, 0.5, 0, 0, 0, 0, 0, 0, 0, 0, 0⟩ .center]

def leftTurning : DriveData ℝ := ⟨0, -1, 0.5, 0, 0, 0, 0, 0, 0, 0, 0⟩

theorem kinematics_realised_turning :
    let before := run (step Libm.real) (Geometry.competition.swerveMath Libm.real) maneuver
    let out := (before.operatorCall Libm.real leftTurning .shooter).2
    let after := step Libm.real before (.operator leftTurning .shooter)
    ∃ largest,
      IsGreatest (Set.range (before.demandMag Libm.real leftTurning .shooter)) largest ∧
        ∀ i, Denotes (out.wheelAngle i) (out.wheelSpeed i) (after.wheels i).anglePast
            (before.demandMag Libm.real leftTurning .shooter i * (1 / max 1 largest)) ∧
          |out.wheelSpeed i| ≤ 1 ∧ |(after.wheels i).angle - (before.wheels i).angle| ≤ 90 := by
  intro before out after
  obtain ⟨_, _, outputs, turn⟩ := kinematics_realised Libm.real Geometry.competition maneuver
    (.operator leftTurning .shooter)
  obtain ⟨largest, greatest, denotes⟩ := outputs leftTurning .shooter rfl
  exact ⟨largest, greatest, fun i => ⟨(denotes i).1, (denotes i).2, turn i⟩⟩

end SwerveMath

end Steamworks.Swerve
