import Steamworks.Library.Activation
import Steamworks.Library.Streak
import Steamworks.Talon

/-! Releasing the gear: the clamp opens, the pivot is driven down, and once its
encoder settled it is zeroed. Both exits of the command go through `End`. -/
namespace Steamworks.Gear
open Library.Activation Library.Streak

inductive Clamp where
  | stage
  | release
  | stow
  | shut

/-- The gear loader, with a count of the calls that zeroed its pivot encoder. -/
structure GearLoader where
  pivot : Talon ℤ := {}
  clamp : Clamp := .stow
  zeroings : ℕ := 0

namespace GearLoader

def kGearZeroPosition : ℤ := -60

def clampRelease (g : GearLoader) : GearLoader := { g with clamp := .release }

def clampShut (g : GearLoader) : GearLoader := { g with clamp := .shut }

def setPivotPosition (g : GearLoader) (pos : ℤ) : GearLoader := { g with pivot := g.pivot.set pos }

def setPivotEncoderZero (g : GearLoader) : GearLoader :=
  { g with pivot := g.pivot.setPosition kGearZeroPosition, zeroings := g.zeroings + 1 }

end GearLoader

def kCloseEnough : ℤ := 3
def kStableCountReq : ℕ := 10

structure ReleaseGear where
  gear : GearLoader
  stableCount : ℕ
  pivotPos : ℤ

def Close (before after : ℤ) : Prop := |before - after| ≤ kCloseEnough

instance : DecidableRel Close := fun _ _ => inferInstanceAs (Decidable (_ ≤ _))

namespace ReleaseGear

def init (c : ReleaseGear) : ReleaseGear where
  gear := c.gear.clampRelease.setPivotPosition (-800)
  stableCount := 0
  pivotPos := 0

def isFinished (pos : ℤ) (c : ReleaseGear) : ReleaseGear × Bool :=
  let stableCount := if Close c.pivotPos pos then c.stableCount + 1 else 0
  if stableCount = kStableCountReq then ({ c with stableCount := stableCount }, true)
  else ({ c with stableCount := stableCount, pivotPos := pos }, false)

def finish (c : ReleaseGear) : ReleaseGear :=
  { c with gear := c.gear.setPivotEncoderZero.clampShut.setPivotPosition 0 }

/-- The input of a step is the encoder reading its `IsFinished` takes. -/
def command : Command ReleaseGear ℤ where
  init _ := init
  execute _ c := c
  isFinished := isFinished
  finish := finish
  interrupted := finish

end ReleaseGear

/-- Ten readings were taken and each of the last ten is close to the next. -/
def Settled (readings : List ℤ) : Prop :=
  kStableCountReq ≤ readings.length ∧ (readings.rtake kStableCountReq).IsChain Close

variable {readings : List ℤ} {s t : ReleaseGear} {first : ℤ}

/-- The two outcomes of a step: the count is reached, or the reading is kept to
compare with the next. -/
theorem isFinished_cases (pos : ℤ) (c : ReleaseGear) :
    let stable := (advance Close (c.pivotPos, c.stableCount) pos).2
    (stable = kStableCountReq ∧ c.isFinished pos = ({ c with stableCount := stable }, true)) ∨
      (stable ≠ kStableCountReq ∧
        c.isFinished pos = ({ c with stableCount := stable, pivotPos := pos }, false)) := by
  intro stable
  by_cases reached : stable = kStableCountReq
  · exact .inl ⟨reached, if_pos reached⟩
  · exact .inr ⟨reached, if_neg reached⟩

/-- While the command runs its members count the close readings, from zero, and
the encoder keeps its zero. -/
structure Counting (start : ReleaseGear) (readings : List ℤ) (c : ReleaseGear) : Prop where
  counted : (c.pivotPos, c.stableCount) = count Close 0 readings
  zeroings : c.gear.zeroings = start.gear.zeroings

theorem ticks_counting (ticks : Ticks ReleaseGear.command first s readings t) :
    Counting s readings t := by
  apply ticks.invariant
  · exact ⟨rfl, rfl⟩
  · intro earlier before pos after counting unfinished
    change before.isFinished pos = (after, false) at unfinished
    rcases isFinished_cases pos before with ⟨_, step⟩ | ⟨_, step⟩
    · rw [step] at unfinished
      cases unfinished
    · rw [step] at unfinished
      cases unfinished
      constructor
      · rw [count_concat, ← counting.counted]
        rfl
      · exact counting.zeroings

/-- The last ten readings are close exactly when nine comparisons in a row
succeeded, the first of all not counting: it is with a constant. -/
theorem settled_iff (readings : List ℤ) :
    Settled readings ↔ 10 ≤ readings.length ∧ 9 ≤ (count Close 0 readings).2 := by
  rw [le_count_iff, Settled, kStableCountReq]
  apply and_congr_right
  intro long
  have inside : ((0 : ℤ) :: readings).rtake (9 + 1) = readings.rtake 10 := by
    obtain ⟨more, length⟩ := Nat.exists_eq_add_of_le long
    rw [List.rtake, List.rtake, List.length_cons, length]
    rw [show 10 + more + 1 - (9 + 1) = more + 1 by omega, show 10 + more - 10 = more by omega,
      List.drop_succ_cons]
  rw [inside]
  exact (and_iff_right (by omega)).symm

/-- The command finishes only on ten successes in a row. -/
theorem finished_count (ends : Ends ReleaseGear.command first s readings .finished t) :
    (count Close 0 readings).2 = 10 ∧ t.gear.zeroings = s.gear.zeroings := by
  cases ends with
  | @finished earlier before _ pos ticks finished =>
    have counting := ticks_counting ticks
    change before.isFinished pos = (t, true) at finished
    rcases isFinished_cases pos before with ⟨reached, step⟩ | ⟨_, step⟩
    · rw [step] at finished
      cases finished
      rw [count_concat, ← counting.counted]
      exact ⟨reached, counting.zeroings⟩
    · rw [step] at finished
      cases finished

theorem close_zeroings (ending : Ending) (c : ReleaseGear) :
    (ReleaseGear.command.close ending c).gear.zeroings = c.gear.zeroings + 1 := by
  cases ending <;> rfl

/-- Over every activation, the encoder is zeroed only after the pivot settled
if and only if the command finished by itself, or it was interrupted when ten
readings had been taken and the last nine were each close to the one before. -/
theorem zeroed_settled_iff (ending : Ending)
    (ends : Ends ReleaseGear.command first s readings ending t) :
    ((ReleaseGear.command.close ending t).gear.zeroings ≠ s.gear.zeroings → Settled readings) ↔
      ending = .finished ∨ (10 ≤ readings.length ∧ 9 ≤ (count Close 0 readings).2) := by
  have zeroed : t.gear.zeroings = s.gear.zeroings →
      (ReleaseGear.command.close ending t).gear.zeroings ≠ s.gear.zeroings := by
    intro kept
    rw [close_zeroings, kept]
    omega
  cases ending with
  | finished =>
    obtain ⟨stable, kept⟩ := finished_count ends
    have enough := (le_count_iff Close 0 readings 10).mp stable.ge
    refine iff_of_true (fun _ => (settled_iff readings).mpr ⟨enough.1, ?_⟩) (.inl rfl)
    omega
  | interrupted =>
    cases ends with
    | interrupted ticks =>
      have counting := ticks_counting ticks
      rw [← settled_iff]
      constructor
      · intro only
        exact .inr (only (zeroed counting.zeroings))
      · rintro (finished | settled) _
        · contradiction
        · exact settled

theorem ticks_still (start : ReleaseGear) {n : ℕ} (early : n < 10) :
    Ticks ReleaseGear.command 0 start (List.replicate n 0)
      { start.init with stableCount := n } := by
  induction n with
  | zero => exact .init
  | succ n ih =>
    rw [List.replicate_succ']
    apply (ih (by omega)).next
    have unreached : n + 1 ≠ kStableCountReq := by
      rw [kStableCountReq]
      omega
    exact if_neg unreached

/-- Interrupted after its first reading, the command zeroes the encoder. -/
theorem interrupted_before_settling :
    let start : ReleaseGear := ⟨{}, 0, 0⟩
    ∃ t, Ends ReleaseGear.command 0 start [0] .interrupted t ∧
      (ReleaseGear.command.close .interrupted t).gear.zeroings ≠ start.gear.zeroings ∧
      ¬Settled [0] := by
  intro start
  have ticks : Ticks ReleaseGear.command 0 start [0] { start.init with stableCount := 1 } :=
    ticks_still start (n := 1) (by omega)
  refine ⟨_, .interrupted ticks, ?_, ?_⟩
  · rw [close_zeroings]
    exact Nat.succ_ne_self _
  · rintro ⟨taken, _⟩
    contradiction

theorem zeroed_settled_still :
    let start : ReleaseGear := ⟨{}, 0, 0⟩
    let ended : ReleaseGear := { start.init with stableCount := 10 }
    (ReleaseGear.command.close .finished ended).gear.zeroings ≠ start.gear.zeroings →
      Settled (List.replicate 10 0) := by
  intro start ended
  have ends : Ends ReleaseGear.command 0 start (List.replicate 9 0 ++ [0]) .finished ended :=
    .finished (ticks_still start (by omega)) rfl
  exact (zeroed_settled_iff .finished ends).mpr (.inl rfl)

end Steamworks.Gear
