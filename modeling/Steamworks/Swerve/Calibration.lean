import Steamworks.Startup.EncoderZero
import Steamworks.Startup.TalonSettings
import Steamworks.Swerve.Math

/-! The azimuth calibration: what the absolute encoders show when the wheels are
lined up goes to a file, and from the file the relative encoders are set at every
start of the robot. Wheels are indexed as in `SwerveDrive::Wheel`. -/
namespace Steamworks.Swerve
open Library.Run Library.Encoder Startup

/-- `& 0xFFF` takes one turn of an azimuth encoder. -/
def ticksPerTurn : ℤ := 4096

namespace Calibration

/-- Both encoders of every azimuth, the file (`none` when it is missing or cannot
be parsed), and whether the robot program runs. -/
structure Robot where
  wheels : Fin 4 → Shaft
  file : Option Table
  running : Bool

/-- The file's contents. The timestamp is left out: reading it only logs it. -/
def entries (mark : Fin 4 → ℤ) : Table :=
  [("lf", .integer (mark 1)), ("rf", .integer (mark 0)), ("lr", .integer (mark 2)),
   ("rr", .integer (mark 3))]

def writeAzimuthCalibration (robot : Robot) : Robot :=
  { robot with file := some (entries fun i => (robot.wheels i).within ticksPerTurn) }

/-- The entries are taken in the order lf, rf, lr, rr before any Talon is set; one
that is missing counts as 0. -/
def calibrationData (cal : Table) : Creation (Fin 4 → ℤ) := do
  let lf := (← cal.getInt "lf").getD 0
  let rf := (← cal.getInt "rf").getD 0
  let lr := (← cal.getInt "lr").getD 0
  let rr := (← cal.getInt "rr").getD 0
  pure ![rf, lf, lr, rr]

/-- What nothing catches ends the program: a file that cannot be opened or
parsed, or an entry that is no `int`. -/
def readAzimuthCalibration (robot : Robot) : Robot :=
  match robot.file with
  | none => { robot with running := false }
  | some cal =>
    match (calibrationData cal).run.run' false with
    | .error _ => { robot with running := false }
    | .ok zero =>
      { robot with wheels := fun i => (robot.wheels i).align ticksPerTurn 1 (zero i) }

/-- The wheels are turned by the motors or by hand, and the relative encoders, reversed
or not, count it; the power comes back with any relative count and any whole turn, and
the constructor reads the file; the commands write and read it. -/
inductive Event where
  | turn (amount : Fin 4 → ℤ)
  | powerUp (turns position : Fin 4 → ℤ)
  | write
  | read

def step (encoderReversed : Bool) (robot : Robot) : Event → Robot
  | .turn amount =>
      { robot with wheels := fun i => (robot.wheels i).turn (countDirection encoderReversed) (amount i) }
  | .powerUp turns position =>
      readAzimuthCalibration
        { robot with wheels := fun i => (robot.wheels i).restart (turns i) (position i), running := true }
  | .write => if robot.running then writeAzimuthCalibration robot else robot
  | .read => if robot.running then readAzimuthCalibration robot else robot

/-- The events in which the relative encoders are set. -/
def Event.sets : Event → Prop
  | .powerUp _ _ | .read => True
  | _ => False

/-- The file holds what the absolute encoders show at the angles `zero`. -/
structure Holds (zero : Fin 4 → ℤ) (robot : Robot) : Prop where
  running : robot.running = true
  file : ∃ mark : Fin 4 → ℤ, robot.file = some (entries mark) ∧
    (∀ i, 0 ≤ mark i ∧ mark i < ticksPerTurn) ∧
    ∀ i, (robot.wheels i).Marks ticksPerTurn (zero i) (mark i)

/-- Every wheel counts from its angle `zero`, in the encoders' direction. -/
def Counts (encoderReversed : Bool) (zero : Fin 4 → ℤ) (robot : Robot) : Prop :=
  ∀ i, (robot.wheels i).Aligned ticksPerTurn (countDirection encoderReversed) (zero i)

/-- After `WriteAzimuthCalibration`, and through any turning of the wheels and any
losses of power, once the encoders were set again each counts, up to whole turns,
from where its wheel stood when the file was written. -/
def Survives (encoderReversed : Bool) : Prop :=
  ∀ (robot : Robot) (later : List Event), robot.running = true → .write ∉ later →
    (∃ e ∈ later, e.sets) →
      Counts encoderReversed (fun i => (robot.wheels i).angle)
        (run (step encoderReversed) robot (.write :: later))

section
variable {robot : Robot} {zero mark : Fin 4 → ℤ} {encoderReversed : Bool}

theorem getInt_of_lookup {cal : Table} {key : String} {value : ℤ}
    (entry : cal.lookup key = some (.integer value)) (low : 0 ≤ value) (high : value < ticksPerTurn) :
    cal.getInt key = pure (some value) := by
  have inside : ¬value < -2 ^ 31 ∧ ¬2 ^ 31 - 1 < value := by
    rw [ticksPerTurn] at high
    constructor <;> omega
  rw [Table.getInt, Table.getWithin, Table.getInteger, entry]
  simp only
  rw [if_neg inside.1, if_neg inside.2]

/-- What was written is read back. -/
theorem calibrationData_entries (bounds : ∀ i, 0 ≤ mark i ∧ mark i < ticksPerTurn) :
    calibrationData (entries mark) = pure mark := by
  have four : ![mark 0, mark 1, mark 2, mark 3] = mark := by
    funext i
    fin_cases i <;> rfl
  rw [calibrationData, getInt_of_lookup rfl (bounds 1).1 (bounds 1).2,
    getInt_of_lookup rfl (bounds 0).1 (bounds 0).2, getInt_of_lookup rfl (bounds 2).1 (bounds 2).2,
    getInt_of_lookup rfl (bounds 3).1 (bounds 3).2]
  simp only [pure_bind, Option.getD_some]
  rw [four]

theorem Holds.write (running : robot.running = true) :
    Holds (fun i => (robot.wheels i).angle) (writeAzimuthCalibration robot) := by
  refine ⟨running, fun i => (robot.wheels i).within ticksPerTurn, rfl, fun i => ?_, fun i => ?_⟩
  · exact ⟨Shaft.within_nonneg (by decide), Shaft.within_lt (by decide)⟩
  · exact (robot.wheels i).marks_within ticksPerTurn

/-- With the file in place nothing is thrown, and every wheel is set as if its
encoder counted with the absolute one. -/
theorem Holds.read (holds : Holds zero robot) :
    Holds zero (readAzimuthCalibration robot) ∧ Counts false zero (readAzimuthCalibration robot) := by
  obtain ⟨running, mark, file, bounds, marks⟩ := holds
  have set : readAzimuthCalibration robot =
      { robot with wheels := fun i => (robot.wheels i).align ticksPerTurn 1 (mark i) } := by
    rw [readAzimuthCalibration, file]
    simp only [calibrationData_entries bounds]
    rfl
  rw [set]
  exact ⟨⟨running, mark, file, bounds, marks⟩, fun i => (marks i).aligned⟩

theorem Holds.restart (holds : Holds zero robot) (turns position : Fin 4 → ℤ) :
    Holds zero { robot with
      wheels := fun i => (robot.wheels i).restart (turns i) (position i), running := true } := by
  obtain ⟨_, mark, file, bounds, marks⟩ := holds
  exact ⟨rfl, mark, file, bounds, marks⟩

theorem Holds.step (holds : Holds zero robot) {e : Event} (unwritten : e ≠ .write) :
    Holds zero (step encoderReversed robot e) ∧
      (e.sets → Counts false zero (step encoderReversed robot e)) := by
  cases e with
  | turn amount =>
    obtain ⟨running, mark, file, bounds, marks⟩ := holds
    exact ⟨⟨running, mark, file, bounds, marks⟩, False.elim⟩
  | powerUp turns position =>
    obtain ⟨kept, counts⟩ := (holds.restart turns position).read
    exact ⟨kept, fun _ => counts⟩
  | write => exact absurd rfl unwritten
  | read =>
    rw [Calibration.step, if_pos holds.running]
    exact ⟨holds.read.1, fun _ => holds.read.2⟩

theorem Counts.step (counts : Counts false zero robot) (holds : Holds zero robot) {e : Event}
    (unwritten : e ≠ .write) : Counts false zero (step false robot e) := by
  cases e with
  | turn amount => exact fun i => (counts i).turn (amount i)
  | powerUp turns position => exact (holds.step unwritten).2 trivial
  | write => exact absurd rfl unwritten
  | read => exact (holds.step unwritten).2 trivial

/-- From a calibration on, while no other is made, the file keeps it. -/
theorem Holds.kept (holds : Holds zero robot) {later : List Event} (unwritten : .write ∉ later) :
    Holds zero (run (Calibration.step encoderReversed) robot later) := by
  induction later generalizing robot with
  | nil => exact holds
  | cons e rest ih =>
    have first : e ≠ .write := fun same => unwritten (same ▸ List.mem_cons_self)
    exact ih (holds.step first).1 fun member => unwritten (List.mem_cons_of_mem e member)

/-- Once encoders that are not reversed were set from it, they stay so. -/
theorem Holds.run_counts (holds : Holds zero robot) {later : List Event}
    (unwritten : .write ∉ later) (set : Counts false zero robot ∨ ∃ e ∈ later, e.sets) :
    Counts false zero (run (Calibration.step false) robot later) := by
  induction later generalizing robot with
  | nil =>
    obtain counts | ⟨e, member, _⟩ := set
    · exact counts
    · exact absurd member List.not_mem_nil
  | cons e rest ih =>
    have first : e ≠ .write := fun same => unwritten (same ▸ List.mem_cons_self)
    obtain ⟨kept, counted⟩ : Holds zero (Calibration.step false robot e) ∧
        (e.sets → Counts false zero (Calibration.step false robot e)) := holds.step first
    refine ih kept (fun member => unwritten (List.mem_cons_of_mem e member)) ?_
    obtain counts | ⟨f, member, sets⟩ := set
    · exact .inl (counts.step holds first)
    · obtain rfl | later := List.mem_cons.mp member
      · exact .inl (counted sets)
      · exact .inr ⟨f, later, sets⟩

theorem step_write (running : robot.running = true) :
    Calibration.step encoderReversed robot .write = writeAzimuthCalibration robot := by
  rw [Calibration.step, if_pos running]

end

/-- Reversed, the encoders read a tick as one to the other side. -/
theorem not_survives_reversed : ¬Survives true := by
  intro survives
  have read := survives ⟨fun _ => ⟨0, 0, 0, 0⟩, none, true⟩ [.turn fun _ => 1, .read] rfl (by simp)
    ⟨.read, by simp, trivial⟩ 0
  have off : ticksPerTurn ∣ -1 * (1 - 0) - 1 * (1 - 0) := read.dvd
  exact absurd off (by decide)

end Calibration
end Steamworks.Swerve
