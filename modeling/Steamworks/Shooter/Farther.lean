import Steamworks.Shooter.Solution
import Steamworks.Shooter.Table

/-! A target that is seen lower is farther away, and is never given a shorter
range or a slower wheel: from the elevation through the slope, the correction
and the rounding to the row of the firing table, nothing turns the order round. -/
namespace Steamworks.Shooter
open Library.Remainder

section Range
variable {K : Type*} [Field K] [LinearOrder K] [IsStrictOrderedRing K]

theorem correctRange_monotone : Monotone (correctRange : K → K) := by
  intro near far nearer
  have slope : ∀ range : K, range + 3 * (1 - (240 - range) / (240 - 168)) =
      range + (range - 168) / 24 := by
    intro range
    ring
  unfold correctRange
  rw [slope, slope]
  split_ifs with near168 far168 far168
  · linarith
  · exact absurd (near168.trans nearer) far168
  · linarith
  · exact nearer

variable [FloorRing K]

theorem roundAway_monotone : Monotone (roundAway : K → ℤ) := by
  intro a b le
  unfold roundAway
  split_ifs with nonneg nonneg' nonneg'
  · exact Int.floor_mono (by linarith)
  · exact absurd (nonneg.trans le) nonneg'
  · have below : ⌈a - 1 / 2⌉ ≤ 0 := Int.ceil_le.mpr (by push_cast; linarith)
    have above : 0 ≤ ⌊b + 1 / 2⌋ := Int.floor_nonneg.mpr (by linarith)
    exact below.trans above
  · exact Int.ceil_mono (by linarith)

omit [IsStrictOrderedRing K] in
/-- A solution is made of the row at the index of its range. -/
theorem solved {m : Trigonometry K} {b : Ballistics K} {table : SolutionTable K}
    {centerlineElevation : ℤ} {s t : Solution K}
    (solved : calculateSolution m b table centerlineElevation s = some (t, true)) :
    ∃ uncorrected row, uncorrectedRange m b centerlineElevation = some uncorrected ∧
      table.row (roundAway (correctRange uncorrected) - table.rangeOffset) = some row ∧
      t = Solution.ofRow b (correctRange uncorrected) row := by
  unfold calculateSolution at solved
  obtain ⟨uncorrected, measured, solved⟩ := Option.bind_eq_some_iff.mp solved
  obtain ⟨index, looked, solved⟩ := Option.bind_eq_some_iff.mp solved
  unfold rangeLookup at looked
  split_ifs at looked with fits
  obtain rfl := Option.some.inj looked
  dsimp only at solved
  split_ifs at solved with outside
  · cases solved
  · obtain ⟨row, present, made⟩ := Option.map_eq_some_iff.mp solved
    cases made
    exact ⟨uncorrected, row, measured, present, rfl⟩

end Range

noncomputable section
variable {b : Ballistics ℝ} {table : SolutionTable ℝ} {near far : ℤ}

/-- The columns that set the wheel speed are those of the firing table. -/
def OfSheet (table : SolutionTable ℝ) : Prop :=
  table.data.map (fun row => (row.speed, row.inDelta)) =
    shooterData.map fun row => ((row.speed : ℝ) / 10 ^ 17, (row.inDelta : ℝ) / 10 ^ 17)

def rowSpeed (rangeInDelta : ℝ) (row : ℝ × ℝ) : ℝ := row.1 + rangeInDelta * row.2

/-- From row to row the speed rises, also with any correction between these two. -/
theorem shooterData_rises : shooterData.IsChain fun row next =>
    row.speed + 13 * next.inDelta ≤ next.speed + 13 * row.inDelta ∧
      row.speed + 89 * row.inDelta ≤ next.speed + 89 * next.inDelta := by
  decide +kernel

theorem rowSpeed_rises {rangeInDelta : ℝ} (least : -13 ≤ rangeInDelta) (most : rangeInDelta ≤ 89) :
    (shooterData.map fun row =>
      rowSpeed rangeInDelta ((row.speed : ℝ) / 10 ^ 17, (row.inDelta : ℝ) / 10 ^ 17)).Pairwise
        (· ≤ ·) := by
  rw [← List.isChain_iff_pairwise, List.isChain_map]
  apply shooterData_rises.imp
  rintro row next ⟨down, up⟩
  have down : (row.speed : ℝ) + 13 * next.inDelta ≤ next.speed + 13 * row.inDelta := by
    exact_mod_cast down
  have up : (row.speed : ℝ) + 89 * row.inDelta ≤ next.speed + 89 * next.inDelta := by
    exact_mod_cast up
  have rises : (row.speed : ℝ) + rangeInDelta * row.inDelta ≤
      next.speed + rangeInDelta * next.inDelta := by
    rcases le_total (row.inDelta : ℝ) next.inDelta with more | less
    · nlinarith [mul_le_mul_of_nonneg_right least (sub_nonneg.mpr more)]
    · nlinarith [mul_le_mul_of_nonneg_right most (sub_nonneg.mpr less)]
  unfold rowSpeed
  have scale : ∀ speed delta : ℝ, speed / 10 ^ 17 + rangeInDelta * (delta / 10 ^ 17) =
      (speed + rangeInDelta * delta) / 10 ^ 17 := by
    intro speed delta
    ring
  rw [scale, scale]
  gcongr

/-- Farther down the table no row has a slower speed. -/
theorem row_rises (sheet : OfSheet table) (least : -13 ≤ b.rangeInDelta)
    (most : b.rangeInDelta ≤ 89) {i j : ℤ} (le : i ≤ j) {row next : SolutionRow ℝ}
    (first : table.row i = some row) (second : table.row j = some next) :
    row.speed + b.rangeInDelta * row.inDelta ≤ next.speed + b.rangeInDelta * next.inDelta := by
  have rises := rowSpeed_rises least most
  rw [show shooterData.map _ = table.data.map fun row =>
      rowSpeed b.rangeInDelta (row.speed, row.inDelta) by
    have mapped := congrArg (List.map (rowSpeed b.rangeInDelta)) sheet
    simpa only [List.map_map, Function.comp_def] using mapped.symm] at rises
  unfold SolutionTable.row at first second
  split_ifs at first with nonneg
  split_ifs at second with nonneg'
  obtain ⟨inside, rfl⟩ := List.getElem?_eq_some_iff.mp first
  obtain ⟨inside', rfl⟩ := List.getElem?_eq_some_iff.mp second
  have order : i.toNat ≤ j.toNat := Int.toNat_le_toNat le
  rcases order.lt_or_eq with before | same
  · have pair := List.pairwise_iff_getElem.mp rises i.toNat j.toNat (by simpa) (by simpa) before
    simpa only [List.getElem_map, rowSpeed] using pair
  · simp only [same, le_refl]

/-- The camera looks up at the target, and not straight up. -/
def LooksUp (b : Ballistics ℝ) (centerlineElevation : ℤ) : Prop :=
  0 < aimingAngle .real b centerlineElevation ∧
    aimingAngle .real b centerlineElevation < Real.pi / 2

theorem aimingAngle_antitone (rate : 0 ≤ b.degreesPerTick) (lower : near ≤ far) :
    aimingAngle .real b far ≤ aimingAngle .real b near := by
  have ticks : (near : ℝ) ≤ far := by exact_mod_cast lower
  have raised : (near : ℝ) * b.degreesPerTick ≤ far * b.degreesPerTick :=
    mul_le_mul_of_nonneg_right ticks rate
  simp only [aimingAngle, Trigonometry.real]
  apply div_le_div_of_nonneg_right _ (by norm_num)
  apply mul_le_mul_of_nonneg_right _ Real.pi_pos.le
  linarith

/-- A smaller angle to a target that is above the camera is a longer way to it. -/
theorem uncorrectedRange_monotone (above : b.cameraHeight ≤ b.centerlineHeight)
    (rate : 0 ≤ b.degreesPerTick) (lower : near ≤ far) (nearUp : LooksUp b near)
    (farUp : LooksUp b far) {short long : ℝ}
    (nearRange : uncorrectedRange .real b near = some short)
    (farRange : uncorrectedRange .real b far = some long) : short ≤ long := by
  have flat : 0 < Real.tan (aimingAngle .real b far) :=
    Real.tan_pos_of_pos_of_lt_pi_div_two farUp.1 farUp.2
  have slope : Real.tan (aimingAngle .real b far) ≤ Real.tan (aimingAngle .real b near) := by
    have half := Real.pi_pos
    apply Real.strictMonoOn_tan.monotoneOn
    · exact ⟨by linarith [farUp.1], farUp.2⟩
    · exact ⟨by linarith [nearUp.1], nearUp.2⟩
    · exact aimingAngle_antitone rate lower
  unfold uncorrectedRange at nearRange farRange
  split_ifs at nearRange farRange
  obtain rfl := Option.some.inj nearRange
  obtain rfl := Option.some.inj farRange
  have height : 0 ≤ b.centerlineHeight - b.cameraHeight := sub_nonneg.mpr above
  have steep := div_le_div_of_nonneg_left height flat slope
  exact add_le_add_left steep 10

/-- Of two solutions the one found at the higher shooter, which sees the target
lower, has the longer range, and the wheel turns no slower. -/
theorem farther_never_slower (sheet : OfSheet table) (least : -13 ≤ b.rangeInDelta)
    (most : b.rangeInDelta ≤ 89) (above : b.cameraHeight ≤ b.centerlineHeight)
    (rate : 0 ≤ b.degreesPerTick) (higher : near ≤ far) (nearUp : LooksUp b near)
    (farUp : LooksUp b far) {s t s' t' : Solution ℝ}
    (nearSolved : calculateSolution .real b table near s = some (s', true))
    (farSolved : calculateSolution .real b table far t = some (t', true)) :
    s'.range ≤ t'.range ∧ s'.wheelSpeed ≤ t'.wheelSpeed := by
  obtain ⟨short, row, nearRange, nearRow, rfl⟩ := solved nearSolved
  obtain ⟨long, next, farRange, farRow, rfl⟩ := solved farSolved
  have uncorrected : short ≤ long :=
    uncorrectedRange_monotone above rate higher nearUp farUp nearRange farRange
  have corrected : correctRange short ≤ correctRange long := correctRange_monotone uncorrected
  have index := sub_le_sub_right (roundAway_monotone corrected) table.rangeOffset
  exact ⟨corrected, row_rises sheet least most index nearRow farRow⟩

/-- A camera that looks up half a right angle, and a third of one a tick later. -/
def twoTicks : Ballistics ℝ where
  elevationZeroAngle := 0
  centerlineHeight := 80
  cameraHeight := 0
  cameraAngle := 45
  degreesPerTick := 15
  rangeInDelta := 9

def sheet : SolutionTable ℝ where
  data := shooterData.map fun row => ⟨0, 0, row.speed / 10 ^ 17, 0, row.inDelta / 10 ^ 17⟩
  rangeOffset := 72

theorem sheet_solves {centerlineElevation : ℤ} {uncorrected : ℝ} {inches : ℤ}
    (measured : uncorrectedRange .real twoTicks centerlineElevation = some uncorrected)
    (rounded : roundAway (correctRange uncorrected) = inches)
    (least : 72 ≤ inches) (most : inches ≤ 240) (s : Solution ℝ) :
    ∃ t, calculateSolution .real twoTicks sheet centerlineElevation s = some (t, true) := by
  have size : sheet.size = 169 := by
    rw [SolutionTable.size, sheet, List.length_map]
    rfl
  obtain ⟨row, present⟩ := row_eq_some sheet (show 0 ≤ inches - 72 by omega) (by omega)
  have lookup : rangeLookup sheet.rangeOffset (correctRange uncorrected) = some (inches - 72) := by
    rw [rangeLookup, rounded]
    exact if_pos ⟨⟨by omega, by omega⟩, ⟨by change _ ≤ inches - 72; omega,
      by change inches - 72 < _; omega⟩⟩
  refine ⟨.ofRow twoTicks (correctRange uncorrected) row, ?_⟩
  rw [calculateSolution_defined measured lookup, if_neg (by omega), present]
  rfl

/-- At half a right angle the range is 90 inches, and at a third of one 149. -/
theorem farther_never_slower_twoTicks : ∃ s t : Solution ℝ,
    calculateSolution .real twoTicks sheet 0 ⟨0, 0, 0, 0, 0⟩ = some (s, true) ∧
      calculateSolution .real twoTicks sheet 1 ⟨0, 0, 0, 0, 0⟩ = some (t, true) ∧
      s.range ≤ t.range ∧ s.wheelSpeed ≤ t.wheelSpeed := by
  have pi := Real.pi_pos
  have half : aimingAngle .real twoTicks 0 = Real.pi / 4 := by
    simp only [aimingAngle, twoTicks, Trigonometry.real]
    ring
  have third : aimingAngle .real twoTicks 1 = Real.pi / 6 := by
    simp only [aimingAngle, twoTicks, Trigonometry.real]
    push_cast
    ring
  have root : 0 < √3 := by positivity
  have near : uncorrectedRange .real twoTicks 0 = some 90 := by
    have slope : Trigonometry.real.tan (Real.pi / 4) = 1 := Real.tan_pi_div_four
    rw [uncorrectedRange, half, slope, if_neg one_ne_zero]
    norm_num [twoTicks]
  have far : uncorrectedRange .real twoTicks 1 = some (80 * √3 + 10) := by
    have slope : Trigonometry.real.tan (Real.pi / 6) = 1 / √3 := Real.tan_pi_div_six
    rw [uncorrectedRange, third, slope, if_neg (by positivity)]
    simp [twoTicks]
  have rootLow : (1.732 : ℝ) ≤ √3 := Real.le_sqrt_of_sq_le (by norm_num)
  have rootHigh : √3 ≤ 1.733 := Real.sqrt_le_iff.mpr (by norm_num)
  have nearRounded : roundAway (correctRange (90 : ℝ)) = 90 := by
    norm_num [correctRange, roundAway, Int.floor_eq_iff]
  have farRounded : roundAway (correctRange (80 * √3 + 10)) = 149 := by
    have short : ¬(168 ≤ 80 * √3 + 10) := by linarith
    have positive : 0 ≤ 80 * √3 + 10 := by positivity
    rw [correctRange, if_neg short, roundAway, if_pos positive, Int.floor_eq_iff]
    constructor <;> push_cast <;> linarith
  obtain ⟨s, nearSolved⟩ := sheet_solves near nearRounded (by norm_num) (by norm_num) ⟨0, 0, 0, 0, 0⟩
  obtain ⟨t, farSolved⟩ := sheet_solves far farRounded (by norm_num) (by norm_num) ⟨0, 0, 0, 0, 0⟩
  have ofSheet : OfSheet sheet := by
    rw [OfSheet, sheet, List.map_map]
    rfl
  refine ⟨s, t, nearSolved, farSolved, ?_⟩
  apply farther_never_slower ofSheet _ _ _ _ zero_le_one _ _ nearSolved farSolved
  · norm_num [twoTicks]
  · norm_num [twoTicks]
  · norm_num [twoTicks]
  · norm_num [twoTicks]
  · rw [LooksUp, half]
    constructor <;> linarith
  · rw [LooksUp, third]
    constructor <;> linarith

end

end Steamworks.Shooter
