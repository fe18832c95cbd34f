import Steamworks.Library.Remainder

/-! The shooter solution: the range from the camera's elevation, corrected where
shots were observed to fall short, looked up in the generated firing table. The
lookup's guard lets the index just past the table through, and the range is
stored before it is known to be in the table. -/
namespace Steamworks.Shooter
open Library.Remainder

variable {K : Type*} [Field K]

/-- A row of `shooter_data`, in the order of the sheet's columns. -/
structure SolutionRow (K : Type*) where
  azimuth : K
  elevation : K
  speed : K
  hopper : K
  inDelta : K

/-- What the generator emits of a sheet; the size is the number of rows. -/
structure SolutionTable (K : Type*) where
  data : List (SolutionRow K)
  rangeOffset : ℤ

def SolutionTable.size (table : SolutionTable K) : ℤ := table.data.length

/-- The row at an index, if there is one. -/
def SolutionTable.row (table : SolutionTable K) (index : ℤ) : Option (SolutionRow K) :=
  if 0 ≤ index then table.data[index.toNat]? else none

/-- The configured members. -/
structure Ballistics (K : Type*) where
  elevationZeroAngle : K
  centerlineHeight : K
  cameraHeight : K
  cameraAngle : K
  degreesPerTick : K
  rangeInDelta : K

structure Solution (K : Type*) where
  elevation : K
  wheelSpeed : K
  hopperVoltage : K
  range : K
  azimuthOffset : K

/-- `tan` and `M_PI`. -/
structure Trigonometry (K : Type*) where
  tan : K → K
  pi : K

def aimingAngle (m : Trigonometry K) (b : Ballistics K) (centerlineElevation : ℤ) : K :=
  let shooterAngle := b.elevationZeroAngle + centerlineElevation * b.degreesPerTick
  (b.cameraAngle - shooterAngle) * m.pi / 180

def inInt (i : ℤ) : Prop := -2 ^ 31 ≤ i ∧ i < 2 ^ 31

instance (i : ℤ) : Decidable (inInt i) := inferInstanceAs (Decidable (_ ∧ _))

variable [LinearOrder K]

/-- From the front of the target to the center of the boiler; without a slope
there is no range. -/
def uncorrectedRange (m : Trigonometry K) (b : Ballistics K) (centerlineElevation : ℤ) : Option K :=
  if m.tan (aimingAngle m b centerlineElevation) = 0 then none
  else some ((b.centerlineHeight - b.cameraHeight) / m.tan (aimingAngle m b centerlineElevation) + 10)

def correctRange (range : K) : K :=
  if 168 ≤ range then range + 3 * (1 - (240 - range) / (240 - 168)) else range

variable [FloorRing K]

/-- Neither the cast to `int` nor the difference is defined outside its range. -/
def rangeLookup (rangeOffset : ℤ) (range : K) : Option ℤ :=
  if inInt (roundAway range) ∧ inInt (roundAway range - rangeOffset)
  then some (roundAway range - rangeOffset) else none

def Solution.ofRow (b : Ballistics K) (range : K) (row : SolutionRow K) : Solution K where
  elevation := row.elevation
  hopperVoltage := row.hopper
  azimuthOffset := row.azimuth
  wheelSpeed := row.speed + b.rangeInDelta * row.inDelta
  range := range

/-- The members after the call and its result; nothing where it is undefined,
as it is to read past the table. -/
def calculateSolution (m : Trigonometry K) (b : Ballistics K) (table : SolutionTable K)
    (centerlineElevation : ℤ) (s : Solution K) : Option (Solution K × Bool) :=
  (uncorrectedRange m b centerlineElevation).bind fun uncorrected =>
    let s := { s with range := correctRange uncorrected }
    (rangeLookup table.rangeOffset s.range).bind fun lookup =>
      if lookup < 0 ∨ table.size < lookup then some (s, false)
      else (table.row lookup).map fun row => (Solution.ofRow b s.range row, true)

/-- A solution is taken whole from the row of the corrected range, or there is
no such row and nothing changes. -/
def AllOrNothing (m : Trigonometry K) (b : Ballistics K) (table : SolutionTable K)
    (centerlineElevation : ℤ) (s : Solution K) : Prop :=
  ∃ range, (uncorrectedRange m b centerlineElevation).map correctRange = some range ∧
    calculateSolution m b table centerlineElevation s =
      match table.row (roundAway range - table.rangeOffset) with
      | some row => some (Solution.ofRow b range row, true)
      | none => some (s, false)

/-- The range's index fits an `int`; it is in the table, or it is outside and not
just past it, and the range is already the stored one. -/
def CoveredAt (table : SolutionTable K) (s : Solution K) (range : K) : Prop :=
  inInt (roundAway range) ∧ inInt (roundAway range - table.rangeOffset) ∧
    let index := roundAway range - table.rangeOffset
    (0 ≤ index ∧ index < table.size) ∨ ((index < 0 ∨ table.size < index) ∧ range = s.range)

/-- There is a range, and it is covered. -/
def Covered (m : Trigonometry K) (b : Ballistics K) (table : SolutionTable K)
    (centerlineElevation : ℤ) (s : Solution K) : Prop :=
  ∃ range, (uncorrectedRange m b centerlineElevation).map correctRange = some range ∧
    CoveredAt table s range

section
omit [Field K] [LinearOrder K] [FloorRing K]

theorem row_eq_none (table : SolutionTable K) {index : ℤ} (outside : index < 0 ∨ table.size ≤ index) :
    table.row index = none := by
  unfold SolutionTable.size at outside
  unfold SolutionTable.row
  split_ifs with nonneg
  · exact List.getElem?_eq_none_iff.mpr (by omega)
  · rfl

theorem row_eq_some (table : SolutionTable K) {index : ℤ} (nonneg : 0 ≤ index)
    (inside : index < table.size) : ∃ row, table.row index = some row := by
  unfold SolutionTable.size at inside
  rw [SolutionTable.row, if_pos nonneg]
  exact ⟨_, List.getElem?_eq_getElem (by omega)⟩

theorem with_range_eq_iff (s : Solution K) (range : K) :
    { s with range := range } = s ↔ range = s.range := by
  cases s
  simp

end

/-- The call once there is a range and its index is defined. -/
theorem calculateSolution_defined {m : Trigonometry K} {b : Ballistics K} {uncorrected : K}
    {centerlineElevation : ℤ} (measured : uncorrectedRange m b centerlineElevation = some uncorrected)
    {table : SolutionTable K} {index : ℤ}
    (lookup : rangeLookup table.rangeOffset (correctRange uncorrected) = some index) (s : Solution K) :
    calculateSolution m b table centerlineElevation s =
      if index < 0 ∨ table.size < index then
        some ({ s with range := correctRange uncorrected }, false)
      else (table.row index).map fun row => (Solution.ofRow b (correctRange uncorrected) row, true) := by
  simp only [calculateSolution, measured, lookup, Option.bind_some]

omit [LinearOrder K] [FloorRing K] in
/-- The outcome at a defined index, by where it lies. -/
theorem outcome_iff (table : SolutionTable K) (b : Ballistics K) (range : K) (s : Solution K)
    (index : ℤ) :
    (if index < 0 ∨ table.size < index then some ({ s with range := range }, false)
      else (table.row index).map fun row => (Solution.ofRow b range row, true)) =
        (match table.row index with
          | some row => some (Solution.ofRow b range row, true)
          | none => some (s, false)) ↔
      (0 ≤ index ∧ index < table.size) ∨ ((index < 0 ∨ table.size < index) ∧ range = s.range) := by
  by_cases missed : index < 0 ∨ table.size < index
  · have absent := row_eq_none table (missed.imp_right le_of_lt)
    have elsewhere : ¬(0 ≤ index ∧ index < table.size) := by omega
    simp [absent, missed, elsewhere, with_range_eq_iff]
  · rw [if_neg missed]
    rcases not_or.mp missed with ⟨low, high⟩
    rcases (not_lt.mp high).lt_or_eq with inside | past
    · obtain ⟨row, present⟩ := row_eq_some table (not_lt.mp low) inside
      rw [present]
      exact iff_of_true rfl (.inl ⟨not_lt.mp low, inside⟩)
    · have absent := row_eq_none table (.inr past.ge)
      have elsewhere : ¬(0 ≤ index ∧ index < table.size) := by omega
      simp [absent, missed, elsewhere]

theorem allOrNothing_measured {m : Trigonometry K} {b : Ballistics K} {uncorrected : K}
    {centerlineElevation : ℤ} (measured : uncorrectedRange m b centerlineElevation = some uncorrected)
    (table : SolutionTable K) (s : Solution K) :
    AllOrNothing m b table centerlineElevation s ↔
      CoveredAt table s (correctRange uncorrected) := by
  simp only [AllOrNothing, measured, Option.map_some, Option.some.injEq, exists_eq_left']
  by_cases fits : inInt (roundAway (correctRange uncorrected)) ∧
      inInt (roundAway (correctRange uncorrected) - table.rangeOffset)
  · rw [calculateSolution_defined measured (if_pos fits), outcome_iff, CoveredAt, and_iff_right fits.1,
      and_iff_right fits.2]
  · have overflow : calculateSolution m b table centerlineElevation s = none := by
      simp only [calculateSolution, measured, rangeLookup, if_neg fits, Option.bind_some,
        Option.bind_none]
    rw [overflow]
    refine iff_of_false ?_ fun covered => fits ⟨covered.1, covered.2.1⟩
    cases table.row (roundAway (correctRange uncorrected) - table.rangeOffset) <;> simp

/-- A call is all or nothing if and only if the range's index is in the table,
or outside it, other than just past its end, with the range already stored. -/
theorem all_or_nothing_iff (m : Trigonometry K) (b : Ballistics K) (table : SolutionTable K)
    (centerlineElevation : ℤ) (s : Solution K) :
    AllOrNothing m b table centerlineElevation s ↔ Covered m b table centerlineElevation s := by
  cases measured : uncorrectedRange m b centerlineElevation with
  | none => simp [AllOrNothing, Covered, measured]
  | some uncorrected =>
    rw [allOrNothing_measured measured, Covered, measured]
    simp

noncomputable section

def Trigonometry.real : Trigonometry ℝ := ⟨Real.tan, Real.pi⟩

/-- A camera that looks up half a right angle at a target this much above it. -/
def lookingUp (height : ℝ) : Ballistics ℝ where
  elevationZeroAngle := 0
  centerlineHeight := height
  cameraHeight := 0
  cameraAngle := 45
  degreesPerTick := 0
  rangeInDelta := 0

/-- A row an inch, from 72 to 240. -/
def inchTable : SolutionTable ℝ := ⟨List.replicate 169 ⟨0, 0, 0, 0, 0⟩, 72⟩

theorem uncorrectedRange_lookingUp (height : ℝ) :
    uncorrectedRange .real (lookingUp height) 0 = some (height + 10) := by
  have angle : aimingAngle .real (lookingUp height) 0 = Real.pi / 4 := by
    simp only [aimingAngle, lookingUp, Trigonometry.real]
    ring
  have slope : Real.tan (Real.pi / 4) = 1 := Real.tan_pi_div_four
  rw [uncorrectedRange, angle]
  simp [Trigonometry.real, slope, lookingUp]

/-- One inch past the table the row after its last is read; out of its reach the
stored range changes all the same. -/
theorem solution_not_all_or_nothing :
    ¬AllOrNothing .real (lookingUp 228) inchTable 0 ⟨0, 0, 0, 0, 0⟩ ∧
      ¬AllOrNothing .real (lookingUp 30) inchTable 0 ⟨0, 0, 0, 0, 0⟩ := by
  have size : inchTable.size = 169 := congrArg Nat.cast List.length_replicate
  have offset : inchTable.rangeOffset = 72 := rfl
  constructor
  · have past : roundAway (correctRange (228 + 10 : ℝ)) = 241 := by
      norm_num [correctRange, roundAway, Int.floor_eq_iff]
    rw [allOrNothing_measured (uncorrectedRange_lookingUp 228), CoveredAt, past, size, offset]
    norm_num
  · have short : correctRange (30 + 10 : ℝ) = 40 := by norm_num [correctRange]
    have whole : roundAway (40 : ℝ) = 40 := by norm_num [roundAway, Int.floor_eq_iff]
    rw [allOrNothing_measured (uncorrectedRange_lookingUp 30), CoveredAt, short, whole, size,
      offset]
    norm_num

end
end Steamworks.Shooter
