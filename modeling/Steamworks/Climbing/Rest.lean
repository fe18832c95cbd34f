import Steamworks.Climbing.Commands

/-! The climber comes to rest. The run that sees a button come up starts
`StopClimb` before anything a finished command starts, and it refuses to be
interrupted, so whatever was chained behind it is dropped; the next run stops
the motors and leaves nothing behind. -/
namespace Steamworks.Climbing
open Library.Run Library.Scheduler

set_option linter.unusedSectionVars false

variable {K : Type*} [Field K] [LinearOrder K] [FloorRing K]

theorem instant_of_uninterruptible (command : ClimberCommand)
    (refuses : (command.behaviour (K := K)).interruptible = false) :
    (command.behaviour (K := K)).Instant := by
  cases command with
  | captureRope => contradiction
  | startClimb => contradiction
  | finishClimb => exact fun _ _ => rfl
  | override => exact fun _ _ => rfl
  | stopClimb => exact fun _ _ => rfl

def Climber.stopCommand (c : Climber K) : MotorCommand K :=
  if c.isRatchet then .set c.settings.ratchetVoltage else .stopMotor

structure Climber.Stopped (c : Climber K) : Prop where
  isRunning : c.isRunning = false
  last : ∀ talon ∈ [c.master, c.slave], talon.last = none ∨ talon.last = some c.stopCommand

theorem stop_stopped (c : Climber K) : c.stop.Stopped := by
  cases ratchet : c.isRatchet with
  | false =>
    constructor
    · simp [Climber.stop, ratchet]
    · intro talon member
      right
      simp only [Climber.stop, ratchet, Bool.false_eq_true, if_false, List.mem_cons,
        List.not_mem_nil, or_false] at member
      rcases member with rfl | rfl <;> simp [Climber.stopCommand, Climber.stop, ratchet]
  | true =>
    constructor
    · simp [Climber.stop, Climber.setBoth, ratchet]
    · intro talon member
      right
      simp only [Climber.stop, Climber.setBoth, ratchet, if_true, List.mem_cons,
        List.not_mem_nil, or_false] at member
      rcases member with rfl | rfl <;> simp [Climber.stopCommand, Climber.stop, Climber.setBoth,
        ratchet]

structure Robot.AtRest (r : Robot K) : Prop where
  current : r.scheduler.current = none
  queue : r.scheduler.queue = []
  stopped : r.scheduler.resource.Stopped

def Robot.Released (r : Robot K) : Prop := ∀ button, r.lastHeld button = false

/-- At the end of every run nothing is queued, and with both buttons up the
climber is at rest or about to be stopped. -/
structure Robot.Settling (r : Robot K) : Prop where
  queue : r.scheduler.queue = []
  released : r.Released → r.AtRest ∨ r.scheduler.current = some (.stopClimb, false)

theorem initial_atRest (settings : Settings K) : (initial settings).AtRest where
  current := rfl
  queue := rfl
  stopped := ⟨rfl, by simp [initial, Talon.last]⟩

theorem initial_settling (settings : Settings K) : (initial settings).Settling :=
  ⟨rfl, fun _ => .inl (initial_atRest settings)⟩

/-- With both buttons up, either none was down before or `StopClimb` is first. -/
theorem started_released (last now : Button → Bool) (released : ∀ button, now button = false) :
    (∀ button, last button = false) ∨
      ∃ rest, started assignGamepadButtons last now = .stopClimb :: rest := by
  cases climber : last .climber with
  | false =>
    cases reverse : last .intakeReverse with
    | false =>
      left
      intro button
      cases button <;> assumption
    | true =>
      right
      exact ⟨[], by simp [started, assignGamepadButtons, Edge.occurs, climber, reverse, released]⟩
  | true =>
    right
    cases reverse : last .intakeReverse with
    | false =>
      exact ⟨[], by simp [started, assignGamepadButtons, Edge.occurs, climber, reverse, released]⟩
    | true =>
      exact ⟨[.stopClimb],
        by simp [started, assignGamepadButtons, Edge.occurs, climber, reverse, released]⟩

section Step
variable {r : Robot K} {input : Input K} (settling : r.Settling)
  (released : ∀ button, input.held button = false)
include settling released

/-- Two runs with the buttons up: nothing is started, and the second stops. -/
theorem step_atRest (before : r.Released) : (step r input).AtRest := by
  have none : started assignGamepadButtons r.lastHeld input.held = [] := by
    have steady : r.lastHeld = input.held := by
      funext button
      rw [before button, released button]
    rw [steady]
    exact started_of_steady assignGamepadButtons input.held
  have stepped : (step r input).scheduler =
      schedule ClimberCommand.behaviour [] input.sensors r.scheduler := by
    rw [step, none]
  rcases settling.released before with rest | holds
  · have idle := schedule_idle ClimberCommand.behaviour input.sensors settling.queue rest.current
    exact ⟨by rw [stepped, idle]; exact rest.current, by rw [stepped, idle]; exact rest.queue,
      by rw [stepped, idle]; exact rest.stopped⟩
  · have stops := schedule_instant input.sensors settling.queue holds
      (instant_of_uninterruptible .stopClimb rfl) rfl
    exact ⟨by rw [stepped, stops], by rw [stepped, stops],
      by rw [stepped, stops]; exact stop_stopped _⟩

theorem step_released : (step r input).AtRest ∨
    (step r input).scheduler.current = some (.stopClimb, false) := by
  rcases started_released r.lastHeld input.held released with before | ⟨rest, first⟩
  · exact .inl (step_atRest settling released before)
  · right
    rw [step, first]
    exact schedule_first instant_of_uninterruptible settling.queue rfl rest

end Step

theorem step_settling (r : Robot K) (input : Input K) (settling : r.Settling) :
    (step r input).Settling :=
  ⟨rfl, fun released => step_released settling released⟩

theorem run_settling (settings : Settings K) (inputs : List (Input K)) :
    (run step (initial settings) inputs).Settling :=
  run_invariant step_settling (initial_settling settings) inputs

theorem run_atRest (settings : Settings K) (inputs : List (Input K))
    (released : ∀ input ∈ inputs.rtake 2, ∀ button, input.held button = false) :
    (run step (initial settings) inputs).AtRest := by
  rcases inputs.eq_nil_or_concat' with rfl | ⟨front, input, rfl⟩
  · exact initial_atRest settings
  · rw [run_concat]
    rw [List.rtake_concat_succ] at released
    apply step_atRest (run_settling settings front) (released input (by simp))
    rcases front.eq_nil_or_concat' with rfl | ⟨earlier, previous, rfl⟩
    · exact fun _ => rfl
    · rw [run_concat]
      rw [List.rtake_concat_succ] at released
      exact released previous (by simp)

/-- Over every sequence of button states, currents and positions: at the end
of a run in which no button is held, nor was in the two runs before, no climber
command is active or queued, the climber is not running, and the last command
to its Talons, if any, is the one that stops them. -/
theorem climber_at_rest (settings : Settings K) (inputs : List (Input K))
    (released : ∀ input ∈ inputs.rtake 3, ∀ button, input.held button = false) :
    let r := run step (initial settings) inputs
    r.scheduler.current = none ∧ r.scheduler.queue = [] ∧
      r.scheduler.resource.isRunning = false ∧
      ∀ talon ∈ [r.scheduler.resource.master, r.scheduler.resource.slave],
        talon.last = none ∨ talon.last = some r.scheduler.resource.stopCommand := by
  intro r
  have rest : r.AtRest := by
    apply run_atRest settings inputs
    intro input member
    apply released
    exact (List.drop_sublist_drop_left inputs (by omega)).subset member
  exact ⟨rest.current, rest.queue, rest.stopped.isRunning, rest.stopped.last⟩

def runWith (climberHeld : Bool) : Input ℚ where
  held button := climberHeld && button == .climber
  sensors := ⟨20, 20, 0⟩

theorem climber_at_rest_pressed :
    let settings : Settings ℚ := ⟨4, 11.5, 40, 6, 1, 15, 10, 3000⟩
    let r := run step (initial settings)
      [runWith true, runWith true, runWith false, runWith false, runWith false]
    r.scheduler.current = none ∧ r.scheduler.resource.isRunning = false := by
  intro settings r
  obtain ⟨current, _, isRunning, _⟩ := climber_at_rest settings
    [runWith true, runWith true, runWith false, runWith false, runWith false] (by
      intro input member button
      have up : input ∈ [runWith false, runWith false, runWith false] := member
      simp only [List.mem_cons, List.not_mem_nil, or_false, or_self] at up
      rw [up]
      rfl)
  exact ⟨current, isRunning⟩

end Steamworks.Climbing
