import Steamworks.PitTest.Tests

/-! One step of the pit test: it runs the first test that is not over. Every test
is built from the same few changes, so what none of them disturbs, it keeps. -/
namespace Steamworks.PitTest

def HealthCheck.check (h : HealthCheck) : Test → Input → HealthCheck
  | .driveMotors, input => h.checkDriveMotors input
  | .azimuthMotors, input => h.checkAzimuthMotors input
  | .azimuthEncoders, input => h.checkAzimuthEncoders input
  | .shooterWheelMotor, input => h.checkShooterWheelMotor input
  | .elevationEncoder, input => h.checkElevationEncoder input
  | .hopperMotor, input => h.checkHopperMotor input
  | .intakeMotor, input => h.checkIntakeMotor input
  | .gearIntakeMotor, input => h.checkGearIntakeMotor input
  | .climberMasterMotor, input => h.checkClimberMasterMotor input
  | .climberSlaveMotor, input => h.checkClimberSlaveMotor input

/-- The order in which `Execute` asks for a test that is not over. -/
def Test.order : List Test :=
  [.driveMotors, .azimuthMotors, .azimuthEncoders, .shooterWheelMotor, .elevationEncoder,
    .hopperMotor, .intakeMotor, .gearIntakeMotor, .climberMasterMotor, .climberSlaveMotor]

theorem Test.mem_order (test : Test) : test ∈ Test.order := by
  cases test <;> decide

def HealthCheck.running (h : HealthCheck) : Option Test :=
  Test.order.find? fun test => !h.atEnd test

theorem elim_find?_cons (asks : α → Bool) (a : α) (rest : List α) (none : β) (some : α → β) :
    ((a :: rest).find? asks).elim none some =
      if asks a then some a else (rest.find? asks).elim none some := by
  cases asked : asks a <;> simp [asked]

theorem execute_running (h : HealthCheck) (input : Input) :
    h.execute input = h.running.elim { h with isFinished := true } (h.check · input) := by
  simp only [HealthCheck.running, Test.order, elim_find?_cons]
  rfl

theorem running_atEnd {h : HealthCheck} {test : Test} (running : h.running = some test) :
    h.atEnd test = false := by
  have waits := List.find?_some running
  simpa using waits

/-- A step runs one test that is not over, or finds them all over. -/
theorem execute_cases (h : HealthCheck) (input : Input) :
    (∃ test, h.atEnd test = false ∧ h.execute input = h.check test input) ∨
      ((∀ test, h.atEnd test = true) ∧ h.execute input = { h with isFinished := true }) := by
  rw [execute_running]
  cases running : h.running with
  | some test => exact .inl ⟨test, running_atEnd running, rfl⟩
  | none =>
    refine .inr ⟨fun test => ?_, rfl⟩
    have ended := List.find?_eq_none.mp running test test.mem_order
    simpa using ended

/-- What a test does before each setpoint and at the end of its table. -/
def Test.prepare : Test → HealthCheck → HealthCheck
  | .climberMasterMotor, h => h.configNeutralMode .climberSlave .coast
  | .climberSlaveMotor, h => h.configNeutralMode .climberMaster .coast
  | _, h => h

def Test.close : Test → HealthCheck → HealthCheck
  | .shooterWheelMotor, h => { h with stopWheelStarted := true }
  | .hopperMotor, h => h.stop .hopper
  | .intakeMotor, h => h.stop .intake
  | .gearIntakeMotor, h => h.stop .gearIntake
  | .climberMasterMotor, h => (h.stop .climberMaster).configNeutralMode .climberSlave .brake
  | .climberSlaveMotor, h => (h.stop .climberSlave).configNeutralMode .climberMaster .brake
  | _, h => h

structure Undisturbed (test : Test) (holds : HealthCheck → Prop) : Prop where
  send : ∀ h, holds h → holds (h.sendSetpoint test)
  dereference : ∀ (h : HealthCheck) times, holds h → holds (h.dereference test times)
  advance : ∀ h, holds h → holds (h.advance test)
  prepare : ∀ h, holds h → holds (test.prepare h)
  close : ∀ h, holds h → holds (test.close h)
  wrap : ∀ h input, holds h → holds (h.wrapAzimuths input)
  bookkeeping : ∀ (h : HealthCheck) count isTransitioning start, holds h →
    holds { h with count := count, isTransitioning := isTransitioning, start := start }

section Keeps
variable {h : HealthCheck} {test : Test} {holds : HealthCheck → Prop}
  (kept : Undisturbed test holds) (input : Input) (before : holds h)
include kept before

theorem checkWheels_keeps : holds (h.checkWheels test input) := by
  unfold HealthCheck.checkWheels
  split_ifs
  · exact before
  · exact kept.bookkeeping h _ h.isTransitioning h.start before
  · exact kept.send _ (kept.bookkeeping _ _ _ _ (kept.advance _ (kept.dereference h 4 before)))
  · exact kept.send h before

theorem checkEncoder_keeps (warmUp : ℚ) (logged : ℕ) :
    holds (h.checkEncoder test warmUp logged input) := by
  unfold HealthCheck.checkEncoder
  split_ifs
  · exact kept.send h before
  · exact kept.bookkeeping _ _ _ _ (kept.advance _ (kept.dereference h logged before))

theorem checkMotor_keeps (warmUp : ℚ) :
    holds (h.checkMotor test warmUp test.prepare test.close input) := by
  unfold HealthCheck.checkMotor
  split_ifs
  · exact kept.send _ (kept.prepare h before)
  · exact before
  · exact kept.bookkeeping h _ h.isTransitioning h.start before
  · dsimp only
    apply kept.bookkeeping
    have advanced := kept.advance _ (kept.dereference h 1 before)
    split_ifs
    · exact kept.close _ advanced
    · exact advanced

theorem check_keeps : holds (h.check test input) := by
  cases test with
  | driveMotors => exact checkWheels_keeps kept input before
  | azimuthMotors => exact checkWheels_keeps kept input before
  | azimuthEncoders =>
    change holds (h.checkAzimuthEncoders input)
    unfold HealthCheck.checkAzimuthEncoders
    dsimp only
    split_ifs
    · exact checkEncoder_keeps kept input
        (kept.bookkeeping _ _ false _ (kept.wrap h input before)) _ _
    · exact checkEncoder_keeps kept input before _ _
  | elevationEncoder =>
    exact checkEncoder_keeps kept input (kept.bookkeeping h h.count false h.start before) _ _
  | shooterWheelMotor => exact checkMotor_keeps kept input before _
  | hopperMotor => exact checkMotor_keeps kept input before _
  | intakeMotor => exact checkMotor_keeps kept input before _
  | gearIntakeMotor => exact checkMotor_keeps kept input before _
  | climberMasterMotor => exact checkMotor_keeps kept input before _
  | climberSlaveMotor => exact checkMotor_keeps kept input before _

end Keeps

end Steamworks.PitTest
