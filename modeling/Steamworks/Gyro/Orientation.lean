import Steamworks.Gyro.Robot

/-! The starting-orientation offset over every order of mode changes. Each
entry into teleop adds `gyro_offset_` to the adjustment once more, and only a
recognised autonomous mode assigns that member. -/
namespace Steamworks.Gyro
open Library.Run

set_option linter.unusedSectionVars false

variable {K : Type*} [Field K] [LinearOrder K] [IsStrictOrderedRing K] [FloorRing K]

/-- A run with what teleop should find: the adjustment the latest zeroing made,
with that routine's offset; whether that zeroing was a recognised autonomous
mode; and how often teleop was entered since. -/
structure Tracked (K : Type*) where
  robot : Robot K
  oriented : K
  recognised : Bool
  teleops : ℕ

def Tracked.initial (yaw : K) : Tracked K := ⟨.initial yaw, 0, false, 0⟩

def track (t : Tracked K) (event : Event K) : Tracked K :=
  let robot := step t.robot event
  match event with
  | .autonomousInit di =>
      let offset := autonGyroOffset (getAutonMode di).toNat
      ⟨robot, robot.gyro.adjustment + offset.getD 0, offset.isSome, 0⟩
  | .zeroGyro => ⟨robot, robot.gyro.adjustment, false, 0⟩
  | .teleopInit => { t with robot := robot, teleops := t.teleops + 1 }
  | .disabledInit | .turn _ => { t with robot := robot }

/-- Entering teleop leaves the adjustment of the latest zeroing with its
routine's offset applied once. -/
def AppliedOnce (t : Tracked K) (event : Event K) : Prop :=
  event = .teleopInit → (track t event).robot.gyro.adjustment = t.oriented

/-- Teleop is entered with no offset to add, or for the first time since a
recognised autonomous mode. -/
def FirstTeleop (t : Tracked K) (event : Event K) : Prop :=
  event = .teleopInit → t.robot.gyroOffset = 0 ∨ (t.recognised = true ∧ t.teleops = 0)

/-- The adjustment is the zeroing's, plus the offset for every teleop since. -/
def Tracked.Accounted (t : Tracked K) : Prop :=
  t.robot.gyro.adjustment + (if t.recognised then t.robot.gyroOffset else 0) =
    t.oriented + t.teleops * t.robot.gyroOffset

theorem initial_accounted (yaw : K) : (Tracked.initial yaw).Accounted := by
  simp [Tracked.Accounted, Tracked.initial, Robot.initial]

theorem track_accounted (t : Tracked K) (event : Event K) (accounted : t.Accounted) :
    (track t event).Accounted := by
  unfold Tracked.Accounted at accounted ⊢
  cases event with
  | autonomousInit di =>
    cases offset : autonGyroOffset (K := K) (getAutonMode di).toNat with
    | none => simp [track, step, offset]
    | some value => simp [track, step, Robot.autonomousInit, offset]
  | teleopInit =>
    have after : (track t .teleopInit).robot.gyro.adjustment =
        t.robot.gyro.adjustment + t.robot.gyroOffset := rfl
    have count : ((track t .teleopInit).teleops : K) = t.teleops + 1 := Nat.cast_succ _
    have same : (track t .teleopInit).robot.gyroOffset = t.robot.gyroOffset := rfl
    rw [after, count, same]
    change _ + (if t.recognised then t.robot.gyroOffset else 0) = t.oriented + _
    rw [add_right_comm, accounted]
    ring
  | zeroGyro => simp [track, step]
  | disabledInit => exact accounted
  | turn yaw => exact accounted

/-- One entry into teleop is right exactly when the offsets added since the
zeroing amount to the one that was due. -/
theorem appliedOnce_iff (t : Tracked K) (event : Event K) (accounted : t.Accounted) :
    AppliedOnce t event ↔ FirstTeleop t event := by
  apply forall_congr'
  rintro rfl
  unfold Tracked.Accounted at accounted
  have after : (track t .teleopInit).robot.gyro.adjustment =
      t.robot.gyro.adjustment + t.robot.gyroOffset := rfl
  rw [after]
  cases recognised : t.recognised with
  | false =>
    rw [recognised, if_neg Bool.false_ne_true, add_zero] at accounted
    have total : t.robot.gyro.adjustment + t.robot.gyroOffset =
        t.oriented + (t.teleops + 1 : ℕ) * t.robot.gyroOffset := by
      rw [accounted, Nat.cast_add, Nat.cast_one]
      ring
    rw [total, add_eq_left, mul_eq_zero, Nat.cast_eq_zero]
    simp
  | true =>
    rw [recognised, if_pos rfl] at accounted
    rw [accounted, add_eq_left, mul_eq_zero, Nat.cast_eq_zero]
    exact or_comm.trans (or_congr_right (by simp))

/-- Over every run, the offset is applied exactly once at every entry into
teleop if and only if every entry is the first since a recognised autonomous
mode or has no offset to add. -/
theorem offset_applied_once_iff (yaw : ℝ) (events : List (Event ℝ)) :
    Along track AppliedOnce (.initial yaw) events ↔
      Along track FirstTeleop (.initial yaw) events :=
  along_congr (fun t event accounted _ => track_accounted t event accounted) appliedOnce_iff
    (initial_accounted yaw) events

def modeOne (i : ℕ) : Bool := i != 0

example : getAutonMode modeOne = 1 := by decide

/-- Entering teleop twice after the first routine turns the field by another
quarter. -/
theorem second_teleop_offsets_again :
    ¬Along track AppliedOnce (.initial (0 : ℝ))
      [.autonomousInit modeOne, .teleopInit, .teleopInit] := by
  intro applied
  have offset : autonGyroOffset (K := ℝ) (getAutonMode modeOne).toNat = some (-90) := rfl
  obtain ⟨_, _, second, _⟩ := applied
  have again := second rfl
  simp [Tracked.initial, track, step, Robot.autonomousInit, Robot.teleopInit, Ahrs.setAngleAdjustment, offset]
    at again

end Steamworks.Gyro
