import Steamworks.PitTest.Steps

/-! A pit test that runs to its end. Each test of a single motor stops it when
its table is used up, and no other test sends that motor anything. -/
namespace Steamworks.PitTest
open Library.Activation

def Stopped (h : HealthCheck) : Test → Prop
  | .shooterWheelMotor => h.stopWheelStarted = true
  | .hopperMotor => (h.talon .hopper).last = some (.set (some 0))
  | .intakeMotor => (h.talon .intake).last = some (.set (some 0))
  | .gearIntakeMotor => (h.talon .gearIntake).last = some (.set (some 0))
  | .climberMasterMotor => (h.talon .climberMaster).last = some (.set (some 0)) ∧
      (h.talon .climberSlave).neutralMode = .brake
  | .climberSlaveMotor => (h.talon .climberSlave).last = some (.set (some 0)) ∧
      (h.talon .climberMaster).neutralMode = .brake
  | _ => True

theorem iter_undisturbed {test other : Test} (different : other ≠ test) (n : ℕ) :
    Undisturbed test fun h => h.iter other = n where
  send _ same := same
  dereference _ _ same := same
  advance h same := (Function.update_of_ne different _ _).trans same
  prepare _ same := by cases test <;> exact same
  close _ same := by cases test <;> exact same
  wrap _ _ same := same
  bookkeeping _ _ _ _ same := same

theorem isFinished_undisturbed (test : Test) (b : Bool) :
    Undisturbed test fun h => h.isFinished = b where
  send _ same := same
  dereference _ _ same := same
  advance _ same := same
  prepare _ same := by cases test <;> exact same
  close _ same := by cases test <;> exact same
  wrap _ _ same := same
  bookkeeping _ _ _ _ same := same

theorem stopped_undisturbed {test other : Test} (different : other ≠ test) :
    Undisturbed test (Stopped · other) where
  send h stopped := by
    cases other <;> cases test <;> first | contradiction | exact stopped
  dereference _ _ stopped := by cases other <;> exact stopped
  advance _ stopped := by cases other <;> exact stopped
  prepare _ stopped := by
    cases other <;> cases test <;> first | contradiction | exact stopped
  close _ stopped := by
    cases other <;> cases test <;> first | contradiction | exact stopped
  wrap _ _ stopped := by cases other <;> exact stopped
  bookkeeping _ _ _ _ stopped := by cases other <;> exact stopped

section Ends
variable {h before : HealthCheck} {test : Test} {input first : Input} {inputs : List Input}

/-- A test of a single motor that comes to its end has just stopped the motor. -/
theorem checkMotor_ends {warmUp : ℚ} (running : h.atEnd test = false)
    (ended : (h.checkMotor test warmUp test.prepare test.close input).atEnd test = true) :
    ∃ g : HealthCheck, h.checkMotor test warmUp test.prepare test.close input =
      (test.close g).prepareTest input.prepareNow := by
  have still : ∀ g : HealthCheck, g.iter test = h.iter test → g.atEnd test = true → False := by
    intro g same gone
    rw [HealthCheck.atEnd, same] at gone
    exact absurd gone (Bool.eq_false_iff.mp running)
  unfold HealthCheck.checkMotor at ended ⊢
  split_ifs at ended ⊢ with heating
  · refine (still _ ?_ ended).elim
    cases test <;> rfl
  · exact (still _ rfl ended).elim
  · exact (still _ rfl ended).elim
  · dsimp only at ended ⊢
    split_ifs at ended ⊢ with last
    · exact ⟨_, rfl⟩
    · exact absurd ended last

theorem close_stopped (g : HealthCheck) (now : ℚ) :
    Stopped ((test.close g).prepareTest now) test := by
  cases test <;> trivial

theorem check_stopped (running : h.atEnd test = false)
    (ended : (h.check test input).atEnd test = true) : Stopped (h.check test input) test := by
  have single : ∀ warmUp,
      h.check test input = h.checkMotor test warmUp test.prepare test.close input →
        Stopped (h.check test input) test := by
    intro warmUp motor
    rw [motor] at ended ⊢
    obtain ⟨g, closed⟩ := checkMotor_ends running ended
    rw [closed]
    exact close_stopped g _
  cases test with
  | driveMotors => trivial
  | azimuthMotors => trivial
  | azimuthEncoders => trivial
  | elevationEncoder => trivial
  | shooterWheelMotor => exact single _ rfl
  | hopperMotor => exact single _ rfl
  | intakeMotor => exact single _ rfl
  | gearIntakeMotor => exact single _ rfl
  | climberMasterMotor => exact single _ rfl
  | climberSlaveMotor => exact single _ rfl

/-- Tests that are over left their motor stopped, and the command is not
finished before they all are. -/
structure Progress (h : HealthCheck) : Prop where
  stopped : ∀ test, h.atEnd test = true → Stopped h test
  finished : h.isFinished = true → ∀ test, h.atEnd test = true

theorem init_progress (first : Input) (before : HealthCheck) :
    Progress (HealthCheck.command.init first before) where
  stopped test ended := by
    cases test <;> exact absurd ended Bool.false_ne_true
  finished ended := absurd ended Bool.false_ne_true

theorem step_progress (progress : Progress h) (input : Input) : Progress (h.execute input) := by
  rcases execute_cases h input with ⟨test, running, step⟩ | ⟨allOver, step⟩
  · rw [step]
    constructor
    · intro other ended
      by_cases same : other = test
      · subst same
        exact check_stopped running ended
      · have iter : (h.check test input).iter other = h.iter other :=
          check_keeps (iter_undisturbed same _) input rfl
        rw [HealthCheck.atEnd, iter] at ended
        exact check_keeps (stopped_undisturbed same) input (progress.stopped other ended)
    · intro finished
      have kept : (h.check test input).isFinished = h.isFinished :=
        check_keeps (isFinished_undisturbed test _) input rfl
      rw [kept] at finished
      exact absurd (progress.finished finished test) (Bool.eq_false_iff.mp running)
  · rw [step]
    constructor
    · intro test ended
      have stopped := progress.stopped test ended
      cases test <;> exact stopped
    · intro _ test
      exact allOver test

theorem ends_progress {ending : Ending}
    (ends : Ends HealthCheck.command first before inputs ending h) : Progress h := by
  apply ends.invariant
  · exact init_progress first before
  · intro earlier t input progress
    exact step_progress progress input

/-- The command finishes only when every test is over. -/
theorem finished_atEnd (ends : Ends HealthCheck.command first before inputs .finished h)
    (test : Test) : h.atEnd test = true := by
  have progress := ends_progress ends
  cases ends with
  | finished _ last =>
    rw [Command.tick, HealthCheck.command, Prod.mk.injEq] at last
    obtain ⟨rfl, finished⟩ := last
    exact progress.finished finished test

/-- A pit test that runs to its end leaves the motor of every test but the
drive wheels' and the azimuths' stopped, and the climbers in brake mode. -/
theorem finished_stopped (ends : Ends HealthCheck.command first before inputs .finished h)
    (test : Test) : Stopped (HealthCheck.command.close .finished h) test := by
  have stopped := (ends_progress ends).stopped test (finished_atEnd ends test)
  cases test <;> exact stopped

end Ends
end Steamworks.PitTest
