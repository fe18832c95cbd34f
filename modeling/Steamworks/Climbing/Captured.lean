import Steamworks.Climbing.Rest

/-! The climber through a whole match. That the rope is captured, that the
encoder was zeroed and that stopping holds the rope come at one moment and last;
what the Talons were told always fits. -/
namespace Steamworks.Climbing
open Library.Run Library.Scheduler

set_option linter.unusedSectionVars false

variable {K : Type*} [Field K] [LinearOrder K] [FloorRing K]

/-- What a Talon was told last: while the climber runs one of its voltages, with
the current limit that goes with it, and else to stop. -/
def Climber.Drives (c : Climber K) (talon : Talon K) : Prop :=
  if c.isRunning then
    talon.last = some (.set c.settings.captureVoltage) ∨
      (talon.last = some (.set c.settings.climbVoltage) ∧
        talon.currentLimit = some c.settings.climbCurrent) ∨
      (talon.last = some (.set c.settings.finishVoltage) ∧
        talon.currentLimit = some c.settings.finishCurrent)
  else talon.last = some c.stopCommand ∨ (talon.last = none ∧ c.captured = false)

/-- The ramp of the capture is on while `CaptureRope` runs and at no other time. -/
structure Climber.Fits (c : Climber K) (current : Option (ClimberCommand × Bool))
    (talon : Talon K) : Prop where
  drives : c.Drives talon
  ramp : talon.voltageRampRate = some 8 ↔ current = some (.captureRope, true)

/-- The climber and the command that holds it, if it was stepped yet. -/
structure Orderly (c : Climber K) (current : Option (ClimberCommand × Bool)) : Prop where
  ratchet : c.isRatchet = c.captured
  zeroed : c.isZeroed = c.captured
  position : c.slave.position = if c.captured then some 0 else none
  together : c.slave.sent = c.master.sent
  master : c.Fits current c.master
  slave : c.Fits current c.slave
  capturing : current = some (.captureRope, true) → c.isRunning = true

theorem orderly_initial (settings : Settings K) :
    Orderly (initial settings).scheduler.resource none := by
  have fits : (initial settings).scheduler.resource.Fits none ({} : Talon K) :=
    ⟨.inr ⟨rfl, rfl⟩, by simp⟩
  exact ⟨rfl, rfl, rfl, rfl, fits, fits, nofun⟩

variable {c : Climber K} {current other : Option (ClimberCommand × Bool)} {talon : Talon K}

theorem Climber.Fits.change (fits : c.Fits current talon)
    (before : current ≠ some (.captureRope, true)) (after : other ≠ some (.captureRope, true)) :
    c.Fits other talon :=
  ⟨fits.drives, iff_of_false (fun fast => before (fits.ramp.mp fast)) after⟩

/-- All holders but `CaptureRope` stepped are alike. -/
theorem Orderly.change (orderly : Orderly c current) (before : current ≠ some (.captureRope, true))
    (after : other ≠ some (.captureRope, true)) : Orderly c other :=
  { orderly with
    master := orderly.master.change before after
    slave := orderly.slave.change before after
    capturing := fun capturing => absurd capturing after }

section Operations
variable (orderly : Orderly c current) (holder : current ≠ some (.captureRope, true))
include orderly holder

theorem startClimb_orderly : Orderly c.startClimb current where
  ratchet := orderly.ratchet
  zeroed := orderly.zeroed
  position := orderly.position
  together := congrArg (List.cons (MotorCommand.set c.settings.climbVoltage)) orderly.together
  master := ⟨.inr (.inl ⟨rfl, rfl⟩), orderly.master.ramp⟩
  slave := ⟨.inr (.inl ⟨rfl, rfl⟩), orderly.slave.ramp⟩
  capturing _ := rfl

theorem startFinish_orderly : Orderly (c.setFinishModeEnabled true).startFinish current where
  ratchet := orderly.ratchet
  zeroed := orderly.zeroed
  position := orderly.position
  together := congrArg (List.cons (MotorCommand.set c.settings.finishVoltage)) orderly.together
  master := ⟨.inr (.inr ⟨rfl, rfl⟩), orderly.master.ramp⟩
  slave := ⟨.inr (.inr ⟨rfl, rfl⟩), orderly.slave.ramp⟩
  capturing _ := rfl

theorem stop_orderly : Orderly c.stop current := by
  have ratchet := orderly.ratchet
  obtain ⟨settings, master, slave, captured, isRunning, isZeroed, isRatchet, zeroCount⟩ := c
  cases isRatchet with
  | true =>
    exact
      { ratchet := ratchet
        zeroed := orderly.zeroed
        position := orderly.position
        together := congrArg (List.cons (MotorCommand.set settings.ratchetVoltage)) orderly.together
        master := ⟨.inl rfl, orderly.master.ramp⟩
        slave := ⟨.inl rfl, orderly.slave.ramp⟩
        capturing := fun capturing => absurd capturing holder }
  | false =>
    exact
      { ratchet := ratchet
        zeroed := orderly.zeroed
        position := orderly.position
        together := congrArg (List.cons MotorCommand.stopMotor) orderly.together
        master := ⟨.inl rfl, orderly.master.ramp⟩
        slave := ⟨.inl rfl, orderly.slave.ramp⟩
        capturing := fun capturing => absurd capturing holder }

end Operations

theorem startCapture_orderly (orderly : Orderly c current) :
    Orderly (c.setCaptureModeEnabled true).startCapture (some (.captureRope, true)) where
  ratchet := orderly.ratchet
  zeroed := orderly.zeroed
  position := orderly.position
  together := congrArg (List.cons (MotorCommand.set c.settings.captureVoltage)) orderly.together
  master := ⟨.inl rfl, iff_of_true rfl rfl⟩
  slave := ⟨.inl rfl, iff_of_true rfl rfl⟩
  capturing _ := rfl

/-- However capturing ends, the ramp is off. -/
theorem endCapture_orderly (orderly : Orderly c current) :
    Orderly (c.setCaptureModeEnabled false) none := by
  have slow : (some 0 : Option K) ≠ some 8 := by simp
  exact
    { ratchet := orderly.ratchet
      zeroed := orderly.zeroed
      position := orderly.position
      together := orderly.together
      master := ⟨orderly.master.drives, iff_of_false slow nofun⟩
      slave := ⟨orderly.slave.drives, iff_of_false slow nofun⟩
      capturing := nofun }

/-- The rope was captured before, it pulls now, or it does not. -/
theorem isCaptured_cases (c : Climber K) (sensors : Sensors K) :
    (c.captured = true ∧ c.isCaptured sensors = (c, true)) ∨
      (c.captured = false ∧ c.isCaptured sensors = ({ c.zeroPosition with captured := true }, true)) ∨
      (c.captured = false ∧ c.isCaptured sensors = (c, false)) := by
  unfold Climber.isCaptured
  cases c.captured with
  | true => exact .inl ⟨rfl, rfl⟩
  | false =>
    right
    simp only [Bool.false_eq_true, if_false]
    split_ifs with pulls
    · exact .inl ⟨trivial, rfl⟩
    · exact .inr ⟨trivial, rfl⟩

/-- A climber that runs does what it was told, captured or not. -/
theorem Climber.Fits.running {d : Climber K} (fits : c.Fits current talon)
    (running : c.isRunning = true) (still : d.isRunning = true)
    (settings : d.settings = c.settings) {same : Talon K} (last : same.last = talon.last)
    (limit : same.currentLimit = talon.currentLimit)
    (rate : same.voltageRampRate = talon.voltageRampRate) : d.Fits current same := by
  constructor
  · have drives := fits.drives
    unfold Climber.Drives at drives ⊢
    rw [if_pos running] at drives
    rw [if_pos still, settings, last, limit]
    exact drives
  · rw [rate]
    exact fits.ramp

/-- As the rope pulls the encoder is zeroed, and stopping holds from now on. -/
theorem capture_orderly (orderly : Orderly c (some (.captureRope, true))) (free : c.captured = false) :
    Orderly ({ c.zeroPosition with captured := true }.setRatchetModeEnabled true)
      (some (.captureRope, true)) := by
  have running := orderly.capturing rfl
  have zeroed : c.zeroPosition =
      { c with slave := c.slave.setPosition 0, isZeroed := true } := by
    rw [Climber.zeroPosition, if_neg]
    rw [orderly.zeroed, free]
    exact Bool.false_ne_true
  rw [zeroed]
  exact
    { ratchet := rfl
      zeroed := rfl
      position := rfl
      together := orderly.together
      master := by
        apply orderly.master.running running
        exacts [running, rfl, rfl, rfl, rfl]
      slave := by
        apply orderly.slave.running running
        exacts [running, rfl, rfl, rfl, rfl]
      capturing := fun _ => running }

theorem isCaptured_orderly (orderly : Orderly c (some (.captureRope, true))) (sensors : Sensors K)
    (finished : (c.isCaptured sensors).2 = true) :
    Orderly ((c.isCaptured sensors).1.setRatchetModeEnabled true) (some (.captureRope, true)) := by
  rcases isCaptured_cases c sensors with ⟨captured, polled⟩ | ⟨free, polled⟩ | ⟨_, polled⟩
  · rw [polled]
    have same : c.setRatchetModeEnabled true = c := by
      rw [Climber.setRatchetModeEnabled, ← orderly.ratchet.trans captured]
    exact same ▸ orderly
  · rw [polled]
    exact capture_orderly orderly free
  · rw [polled] at finished
    cases finished

theorem isCaptured_unfinished {sensors : Sensors K} (unfinished : (c.isCaptured sensors).2 = false) :
    (c.isCaptured sensors).1 = c := by
  rcases isCaptured_cases c sensors with ⟨_, polled⟩ | ⟨_, polled⟩ | ⟨_, polled⟩
  · rw [polled] at unfinished
    cases unfinished
  · rw [polled] at unfinished
    cases unfinished
  · rw [polled]

theorem shouldClimbFinish_orderly (orderly : Orderly c current) (sensors : Sensors K) :
    Orderly (c.shouldClimbFinish sensors).1 current := by
  unfold Climber.shouldClimbFinish
  split_ifs
  · exact { orderly with master := ⟨orderly.master.drives, orderly.master.ramp⟩
                         slave := ⟨orderly.slave.drives, orderly.slave.ramp⟩ }
  · exact orderly

/-- A command that is stepped was set up, now or before. -/
theorem init_orderly (command : ClimberCommand) (initialized : Bool) (input : Sensors K)
    (orderly : Orderly c (some (command, initialized))) :
    Orderly (if initialized then c else command.behaviour.init input c) (some (command, true)) := by
  cases initialized with
  | true => exact orderly
  | false =>
    have other : ∀ d : ClimberCommand, some (d, false) ≠ some (ClimberCommand.captureRope, true) :=
      nofun
    cases command with
    | captureRope => exact startCapture_orderly orderly
    | startClimb => exact (startClimb_orderly orderly (other _)).change (other _) nofun
    | finishClimb => exact (startFinish_orderly orderly (other _)).change (other _) nofun
    | override => exact (startClimb_orderly orderly (other _)).change (other _) nofun
    | stopClimb => exact (stop_orderly orderly (other _)).change (other _) nofun

theorem orderly_preserved :
    Preserved (ClimberCommand.behaviour (K := K)) (Orderly (K := K)) where
  taken c command orderly := orderly.change nofun nofun
  goes c command initialized input orderly unfinished := by
    have ready := init_orderly command initialized input orderly
    cases command with
    | captureRope =>
      change Orderly (Climber.isCaptured _ _).1 _
      rw [isCaptured_unfinished unfinished]
      exact ready
    | startClimb => exact shouldClimbFinish_orderly ready input
    | finishClimb | override | stopClimb => cases unfinished
  ends c command initialized input orderly finished := by
    have ready := init_orderly command initialized input orderly
    cases command with
    | captureRope => exact endCapture_orderly (isCaptured_orderly ready input finished)
    | startClimb => exact (shouldClimbFinish_orderly ready input).change nofun nofun
    | finishClimb | override | stopClimb => exact ready.change nofun nofun
  interrupted c command initialized orderly interruptible := by
    cases command with
    | captureRope => exact endCapture_orderly orderly
    | startClimb | finishClimb => exact orderly.change nofun nofun
    | override | stopClimb => cases interruptible

theorem init_captured (command : ClimberCommand) (input : Sensors K) (c : Climber K) :
    (command.behaviour.init input c).captured = c.captured := by
  cases command with
  | stopClimb =>
    change c.stop.captured = c.captured
    simp only [Climber.stop]
    split_ifs <;> rfl
  | captureRope | startClimb | finishClimb | override => rfl

theorem shouldClimbFinish_captured (c : Climber K) (sensors : Sensors K) :
    (c.shouldClimbFinish sensors).1.captured = c.captured := by
  unfold Climber.shouldClimbFinish
  split_ifs <;> rfl

theorem run_captured (command : ClimberCommand) (input : Sensors K) (initialized : Bool)
    (captured : c.captured = true) :
    (command.behaviour.run input initialized c).1.captured = true := by
  have ready : (if initialized then c else command.behaviour.init input c).captured = true := by
    split_ifs
    · exact captured
    · exact (init_captured command input c).trans captured
  cases command with
  | captureRope =>
    rcases isCaptured_cases _ input with ⟨_, polled⟩ | ⟨free, _⟩ | ⟨free, _⟩
    · exact (congrArg (fun polled => polled.1.captured) polled).trans ready
    · exact Bool.noConfusion (ready.symm.trans free)
    · exact Bool.noConfusion (ready.symm.trans free)
  | startClimb =>
    exact (shouldClimbFinish_captured _ input).trans ready
  | finishClimb | override | stopClimb => exact ready

theorem captured_preserved :
    Preserved (ClimberCommand.behaviour (K := K)) fun c _ => c.captured = true where
  taken _ _ captured := captured
  goes _ command initialized input captured _ := run_captured command input initialized captured
  ends _ command initialized input captured _ := by
    cases command <;> exact run_captured _ input initialized captured
  interrupted _ command _ captured _ := by
    cases command <;> exact captured

/-- Once the rope is captured, a Talon is told a voltage, never to stop. -/
theorem Orderly.held (orderly : Orderly c current) (captured : c.captured = true)
    (fits : c.Fits current talon) : ∃ voltage, talon.last = some (.set voltage) ∧
      voltage ∈ [c.settings.captureVoltage, c.settings.climbVoltage, c.settings.finishVoltage,
        c.settings.ratchetVoltage] := by
  have drives := fits.drives
  unfold Climber.Drives at drives
  split_ifs at drives
  · rcases drives with capture | ⟨climb, _⟩ | ⟨finish, _⟩
    · exact ⟨_, capture, by simp⟩
    · exact ⟨_, climb, by simp⟩
    · exact ⟨_, finish, by simp⟩
  · rcases drives with stops | ⟨_, free⟩
    · rw [Climber.stopCommand, if_pos (orderly.ratchet.trans captured)] at stops
      exact ⟨_, stops, by simp⟩
    · rw [captured] at free
      cases free

/-- What a run of the scheduler leaves of the climber. -/
structure Keeps (r : Robot K) (input : Input K) : Prop where
  orderly : Orderly (step r input).scheduler.resource (step r input).scheduler.current
  captured : r.scheduler.resource.captured = true →
    (step r input).scheduler.resource.captured = true
  held : (step r input).scheduler.resource.captured = true →
    let c := (step r input).scheduler.resource
    ∀ talon ∈ [c.master, c.slave], ∃ voltage, talon.last = some (.set voltage) ∧
      voltage ∈ [c.settings.captureVoltage, c.settings.climbVoltage, c.settings.finishVoltage,
        c.settings.ratchetVoltage]

theorem step_orderly {r : Robot K}
    (orderly : Orderly r.scheduler.resource r.scheduler.current) (input : Input K) :
    Orderly (step r input).scheduler.resource (step r input).scheduler.current :=
  orderly_preserved.schedule orderly _ input.sensors

/-- Over every match, whatever the buttons and the sensors do: the rope once
captured stays so, held by the motors, and what they were told fits. -/
theorem climber_keeps (settings : Settings K) (inputs : List (Input K)) :
    Along step Keeps (initial settings) inputs := by
  apply along_of_invariant (I := fun r => Orderly r.scheduler.resource r.scheduler.current)
  · exact fun r input orderly => step_orderly orderly input
  · intro r input orderly
    have after := step_orderly orderly input
    refine ⟨after, fun captured => ?_, fun captured => ?_⟩
    · exact captured_preserved.schedule captured _ input.sensors
    · intro c talon member
      simp only [List.mem_cons, List.not_mem_nil, or_false] at member
      rcases member with rfl | rfl
      · exact after.held captured after.master
      · exact after.held captured after.slave
  · exact orderly_initial settings

end Steamworks.Climbing
