import Steamworks.PitTest.Steps

/-! What the pit test leaves running. The drive test sends setpoints and never a
stop, so the drive wheels keep turning however the command ends; every later
motor is stopped by its own test, once that test came to its end. -/
namespace Steamworks.PitTest
open Library.Activation

namespace HealthCheck
variable {h : HealthCheck} {input : Input} {m : Motor} {test : Test}

theorem talon_update (motors : Motor → Bool)
    (change : Motor → Talon (Option ℚ) → Talon (Option ℚ)) :
    (h.update motors change).talon m = if motors m then change m (h.talon m) else h.talon m := rfl

theorem sent_setAzimuthTestModeEnabled (enabled : Bool) :
    ((h.setAzimuthTestModeEnabled enabled).talon m).sent = (h.talon m).sent := by
  rw [setAzimuthTestModeEnabled, talon_update]
  split_ifs <;> rfl

theorem drive_undisturbed (other : test ≠ .driveMotors) (wheel : Fin 4) (t : Talon (Option ℚ)) :
    Undisturbed test fun h => h.talon (.drive wheel) = t where
  send _ same := by cases test <;> first | contradiction | exact same
  dereference _ _ same := same
  advance _ same := same
  prepare _ same := by cases test <;> exact same
  close _ same := by cases test <;> exact same
  wrap _ _ same := same
  bookkeeping _ _ _ _ same := same

/-- Once the drive test is over, no step touches a drive wheel. -/
theorem execute_drive (ended : h.atEnd .driveMotors = true) (wheel : Fin 4) :
    (h.execute input).talon (.drive wheel) = h.talon (.drive wheel) := by
  rcases execute_cases h input with ⟨test, running, step⟩ | ⟨_, step⟩
  · have other : test ≠ .driveMotors := by
      rintro rfl
      exact Bool.false_ne_true (running.symm.trans ended)
    rw [step]
    exact check_keeps (drive_undisturbed other wheel _) input rfl
  · rw [step]

theorem execute_driveTest (running : h.atEnd .driveMotors = false) :
    h.execute input = h.checkDriveMotors input := by
  rw [execute, running]
  rfl

/-- The wheel was last sent a setpoint, and not zero. -/
def Turning (h : HealthCheck) : Prop :=
  ∀ wheel, ∃ value, (h.talon (.drive wheel)).last = some (.set value) ∧ value ≠ some 0

/-- No entry of the drive table, nor what lies behind it, is a stop. -/
theorem driveTable_ne_zero (n : ℕ) : Test.driveMotors.table[n]? ≠ some 0 := by
  intro stops
  have member := List.mem_of_getElem? stops
  norm_num [Test.table] at member

theorem sendSetpoint_turning : (h.sendSetpoint .driveMotors).Turning :=
  fun _ => ⟨_, rfl, driveTable_ne_zero _⟩

theorem execute_turning (turning : h.Turning) : (h.execute input).Turning := by
  cases ended : h.atEnd .driveMotors with
  | true =>
    intro wheel
    rw [execute_drive ended]
    exact turning wheel
  | false =>
    rw [execute_driveTest ended, checkDriveMotors, checkWheels]
    split_ifs
    · exact turning
    · exact turning
    · exact sendSetpoint_turning
    · exact sendSetpoint_turning

end HealthCheck

/-- Every step found the first warm-up over, and the timer's period passed in at
most as many of them as there are measurements to take. -/
def Quiet (start : ℚ) (inputs : List Input) : Prop :=
  (∀ input ∈ inputs, kWarmUpTime < input.now - start) ∧
    inputs.countP (·.hasPeriodPassed) ≤ kCountReq

theorem quiet_concat (start : ℚ) (inputs : List Input) (input : Input) :
    Quiet start (inputs ++ [input]) ↔
      ((∀ input ∈ inputs, kWarmUpTime < input.now - start) ∧ kWarmUpTime < input.now - start) ∧
        inputs.countP (·.hasPeriodPassed) + (if input.hasPeriodPassed then 1 else 0) ≤
          kCountReq := by
  simp only [Quiet, List.forall_mem_append, List.forall_mem_singleton, List.countP_append,
    List.countP_singleton]

theorem quiet_of_concat {start : ℚ} {inputs : List Input} {input : Input}
    (quiet : Quiet start (inputs ++ [input])) : Quiet start inputs := by
  obtain ⟨⟨warm, _⟩, measured⟩ := (quiet_concat start inputs input).mp quiet
  exact ⟨warm, (Nat.le_add_right _ _).trans measured⟩

def AtRest (t : Talon (Option ℚ)) : Prop :=
  t.last = none ∨ t.last = some (.set (some 0)) ∨ t.last = some .stopMotor

def Braked (h : HealthCheck) : Prop :=
  (h.talon .climberMaster).neutralMode = .brake ∧ (h.talon .climberSlave).neutralMode = .brake

/-- What the command is to leave behind. -/
structure Left (h : HealthCheck) : Prop where
  drive : ∀ wheel, AtRest (h.talon (.drive wheel))
  shooterWheel : AtRest (h.talon .shooterWheel) ∨ h.stopWheelStarted = true
  hopper : AtRest (h.talon .hopper)
  intake : AtRest (h.talon .intake)
  gearIntake : AtRest (h.talon .gearIntake)
  climberMaster : AtRest (h.talon .climberMaster)
  climberSlave : AtRest (h.talon .climberSlave)
  brake : Braked h

/-- Nothing was sent yet: the drive test has only been taking measurements. -/
structure Waiting (before : HealthCheck) (start : ℚ) (inputs : List Input) (h : HealthCheck) :
    Prop where
  quiet : Quiet start inputs
  iter : h.iter .driveMotors = 0
  count : h.count = inputs.countP (·.hasPeriodPassed)
  start : h.start = start
  sent : ∀ m, (h.talon m).sent = []
  neutralMode : ∀ m, (h.talon m).neutralMode = (before.talon m).neutralMode

section Activation
variable {before h : HealthCheck} {first : Input} {inputs : List Input} {start : ℚ}

theorem init_waiting (before : HealthCheck) (first : Input) :
    Waiting before first.prepareNow [] (HealthCheck.command.init first before.unrecorded) where
  quiet := ⟨by simp, by simp⟩
  iter := rfl
  count := rfl
  start := rfl
  sent m := by cases m <;> rfl
  neutralMode m := by cases m <;> rfl

/-- A step of the drive test waits, measures, or sends a setpoint. -/
theorem step_waiting (waiting : Waiting before start inputs h) (input : Input) :
    Waiting before start (inputs ++ [input]) (h.execute input) ∨
      (¬Quiet start (inputs ++ [input]) ∧ (h.execute input).Turning) := by
  obtain ⟨⟨warm, measured⟩, iter, count, rfl, sent, neutralMode⟩ := waiting
  have running : h.atEnd .driveMotors = false := by
    rw [HealthCheck.atEnd, iter]
    rfl
  have concat := quiet_concat h.start inputs input
  rw [HealthCheck.execute_driveTest running, HealthCheck.checkDriveMotors,
    HealthCheck.checkWheels]
  split_ifs with heated waits more
  · left
    have none : input.hasPeriodPassed = false := by simpa using waits
    rw [none] at concat
    refine ⟨concat.mpr ⟨⟨warm, heated⟩, measured⟩, iter, ?_, rfl, sent, neutralMode⟩
    simp [count, none]
  · left
    have passed : input.hasPeriodPassed = true := by simpa using waits
    rw [passed] at concat
    refine ⟨concat.mpr ⟨⟨warm, heated⟩, ?_⟩, iter, ?_, rfl, sent, neutralMode⟩
    · rw [if_pos rfl, ← count]
      exact more
    · simp [count, passed]
  · right
    have passed : input.hasPeriodPassed = true := by simpa using waits
    rw [passed, if_pos rfl] at concat
    refine ⟨?_, HealthCheck.sendSetpoint_turning⟩
    intro quiet
    have few := (concat.mp quiet).2
    omega
  · right
    refine ⟨?_, HealthCheck.sendSetpoint_turning⟩
    intro quiet
    exact heated (concat.mp quiet).1.2

/-- In every state of an activation, either nothing was sent yet or the drive
wheels are turning. -/
theorem ends_waiting_or_turning
    (ends : Ends HealthCheck.command first before.unrecorded inputs ending h) :
    Waiting before first.prepareNow inputs h ∨
      (¬Quiet first.prepareNow inputs ∧ h.Turning) := by
  apply ends.invariant
  · exact .inl (init_waiting before first)
  · rintro earlier t input (waiting | ⟨loud, turning⟩)
    · exact step_waiting waiting input
    · exact .inr ⟨fun quiet => loud (quiet_of_concat quiet), HealthCheck.execute_turning turning⟩

theorem close_eq (ending : Ending) (h : HealthCheck) :
    HealthCheck.command.close ending h = h.finish := by
  cases ending <;> rfl

theorem finish_last (h : HealthCheck) (m : Motor) :
    (h.finish.talon m).last = (h.talon m).last := by
  rw [HealthCheck.finish]
  exact Talon.last_eq_of_sent (HealthCheck.sent_setAzimuthTestModeEnabled false)

theorem waiting_left_iff (waiting : Waiting before start inputs h) :
    Left h.finish ↔ Braked before := by
  have rest : ∀ m, AtRest (h.finish.talon m) := by
    intro m
    left
    rw [finish_last, Talon.last, waiting.sent]
    rfl
  have brake : Braked h.finish ↔ Braked before := by
    rw [Braked, Braked, ← waiting.neutralMode, ← waiting.neutralMode]
    rfl
  constructor
  · intro left
    exact brake.mp left.brake
  · intro braked
    exact ⟨fun _ => rest _, .inl (rest _), rest _, rest _, rest _, rest _, rest _,
      brake.mpr braked⟩

theorem turning_not_left (turning : h.Turning) : ¬Left h.finish := by
  intro left
  obtain ⟨value, last, moves⟩ := turning 0
  have rest := left.drive 0
  rw [AtRest, finish_last, last] at rest
  rcases rest with none | stopped | stopped
  · cases none
  · cases stopped
    exact moves rfl
  · cases stopped

/-- Over every activation, the motors are left stopped if and only if it ended
before the drive test sent its first setpoint, and the climbers were in brake
mode before it. -/
theorem motors_left_stopped_iff
    (ends : Ends HealthCheck.command first before.unrecorded inputs ending h) :
    Left (HealthCheck.command.close ending h) ↔
      Quiet first.prepareNow inputs ∧ Braked before := by
  rw [close_eq]
  rcases ends_waiting_or_turning ends with waiting | ⟨loud, turning⟩
  · rw [waiting_left_iff waiting, and_iff_right waiting.quiet]
  · exact iff_of_false (turning_not_left turning) fun stays => loud stays.1

end Activation

def readingAt (now : ℚ) : Input := ⟨now, false, now, fun _ => 0⟩

theorem interrupted_leaves_drive_on :
    ∃ h, Ends HealthCheck.command (readingAt 0) (HealthCheck.idle .voltage).unrecorded
        [readingAt 0] .interrupted h ∧
      ¬Left (HealthCheck.command.close .interrupted h) := by
  let begun := HealthCheck.command.init (readingAt 0) (HealthCheck.idle .voltage).unrecorded
  have early : ¬kWarmUpTime < (readingAt 0).now - begun.start := by
    change ¬(2 : ℚ) < 0 - 0
    norm_num
  have sends : begun.execute (readingAt 0) = begun.sendSetpoint .driveMotors := by
    rw [HealthCheck.execute_driveTest rfl, HealthCheck.checkDriveMotors, HealthCheck.checkWheels,
      if_neg early]
  have step : HealthCheck.command.tick (readingAt 0) begun =
      (begun.sendSetpoint .driveMotors, false) := by
    change (begun.execute (readingAt 0), (begun.execute (readingAt 0)).isFinished) = _
    rw [sends]
    rfl
  refine ⟨_, .interrupted (.next .init step), ?_⟩
  rw [close_eq]
  exact turning_not_left HealthCheck.sendSetpoint_turning

/-- Interrupted while it is still measuring, it leaves everything stopped. -/
theorem motors_left_stopped_waiting :
    let begun := HealthCheck.command.init (readingAt 0) (HealthCheck.idle .voltage).unrecorded
    Left (HealthCheck.command.close .interrupted (begun.execute (readingAt 3))) := by
  intro begun
  have heated : kWarmUpTime < (readingAt 3).now - begun.start := by
    change (2 : ℚ) < 3 - 0
    norm_num
  have waits : begun.execute (readingAt 3) = begun := by
    rw [HealthCheck.execute_driveTest rfl, HealthCheck.checkDriveMotors, HealthCheck.checkWheels,
      if_pos heated]
    rfl
  have step : HealthCheck.command.tick (readingAt 3) begun =
      (begun.execute (readingAt 3), false) := by
    change (begun.execute (readingAt 3), (begun.execute (readingAt 3)).isFinished) = _
    rw [waits]
    rfl
  apply (motors_left_stopped_iff (.interrupted (.next .init step))).mpr
  refine ⟨⟨?_, ?_⟩, rfl, rfl⟩
  · intro input member
    rw [List.mem_singleton.mp member]
    exact heated
  · simp [readingAt]

end Steamworks.PitTest
