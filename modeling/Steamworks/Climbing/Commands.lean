import Steamworks.Library.Remainder
import Steamworks.Library.Run
import Steamworks.Library.Scheduler
import Steamworks.Talon

/-! The rope climber: its subsystem, the commands that require it and the two
buttons that start them. Both Talons always receive the same voltages. -/
namespace Steamworks.Climbing
open Library.Remainder Library.Scheduler

variable {K : Type*}

structure Settings (K : Type*) where
  captureVoltage : K
  climbVoltage : K
  climbCurrent : K
  finishVoltage : K
  ratchetVoltage : K
  captureCurrent : K
  finishCurrent : K
  climbDistance : ℤ

structure Climber (K : Type*) where
  settings : Settings K
  master : Talon K
  slave : Talon K
  captured : Bool
  isRunning : Bool
  isZeroed : Bool
  isRatchet : Bool
  zeroCount : ℕ

/-- What the Talons report during one run of the scheduler. -/
structure Sensors (K : Type*) where
  masterCurrent : K
  slaveCurrent : K
  slavePosition : K

def kZeroCountReq : ℕ := 3

namespace Climber

def setBoth (c : Climber K) (voltage : K) : Climber K :=
  { c with master := c.master.set voltage, slave := c.slave.set voltage }

def setCaptureModeEnabled [OfNat K 8] [OfNat K 0] (c : Climber K) (enabled : Bool) : Climber K :=
  let rate : K := if enabled then 8 else 0
  { c with master := c.master.setVoltageRampRate rate
           slave := c.slave.setVoltageRampRate rate }

def setRatchetModeEnabled (c : Climber K) (enabled : Bool) : Climber K :=
  { c with isRatchet := enabled }

def setCurrentLimits (c : Climber K) (amps : K) : Climber K :=
  { c with master := c.master.setCurrentLimit amps, slave := c.slave.setCurrentLimit amps }

def setFinishModeEnabled (c : Climber K) (enabled : Bool) : Climber K :=
  if enabled then c.setCurrentLimits c.settings.finishCurrent else c

def startCapture (c : Climber K) : Climber K :=
  { c.setBoth c.settings.captureVoltage with isRunning := true }

def startClimb (c : Climber K) : Climber K :=
  { (c.setBoth c.settings.climbVoltage).setCurrentLimits c.settings.climbCurrent with
    isRunning := true }

def startFinish (c : Climber K) : Climber K :=
  { c.setBoth c.settings.finishVoltage with isRunning := true }

def stop (c : Climber K) : Climber K :=
  let c := { c with isRunning := false }
  if c.isRatchet then c.setBoth c.settings.ratchetVoltage
  else { c with master := c.master.stopMotor, slave := c.slave.stopMotor }

variable [Field K] [LinearOrder K]

def zeroPosition (c : Climber K) : Climber K :=
  if c.isZeroed then c else { c with slave := c.slave.setPosition 0, isZeroed := true }

/-- Once the rope pulled, it stays captured. -/
def isCaptured (c : Climber K) (sensors : Sensors K) : Climber K × Bool :=
  if c.captured then (c, true)
  else if c.settings.captureCurrent < (sensors.masterCurrent + sensors.slaveCurrent) / 2 then
    ({ c.zeroPosition with captured := true }, true)
  else (c, false)

variable [FloorRing K]

/-- The first calls wait for the zeroed position to take. -/
def shouldClimbFinish (c : Climber K) (sensors : Sensors K) : Climber K × Bool :=
  if c.zeroCount < kZeroCountReq then ({ c with zeroCount := c.zeroCount + 1 }, false)
  else (c, c.settings.climbDistance < trunc sensors.slavePosition)

end Climber

inductive ClimberCommand where
  | captureRope
  | startClimb
  | finishClimb
  | override
  | stopClimb
  deriving DecidableEq

/-- An instant command: all it does is in `Initialize`. -/
def instantCommand (interruptible : Bool) (init : Climber K → Climber K) :
    Behaviour (Climber K) (Sensors K) ClimberCommand where
  interruptible := interruptible
  init _ := init
  execute _ c := c
  isFinished _ c := (c, true)
  finish c := c
  interrupted c := c
  starts := []

variable [Field K] [LinearOrder K] [FloorRing K]

def ClimberCommand.behaviour :
    ClimberCommand → Behaviour (Climber K) (Sensors K) ClimberCommand
  | .captureRope =>
      { interruptible := true
        init := fun _ c => (c.setCaptureModeEnabled true).startCapture
        execute := fun _ c => c
        isFinished := fun sensors c => c.isCaptured sensors
        finish := fun c => (c.setCaptureModeEnabled false).setRatchetModeEnabled true
        interrupted := fun c => c.setCaptureModeEnabled false
        starts := [.startClimb] }
  | .startClimb =>
      { interruptible := true
        init := fun _ c => c.startClimb
        execute := fun _ c => c
        isFinished := fun sensors c => c.shouldClimbFinish sensors
        finish := fun c => c
        interrupted := fun c => c
        starts := [.finishClimb] }
  | .finishClimb => instantCommand true fun c => (c.setFinishModeEnabled true).startFinish
  | .override => instantCommand false Climber.startClimb
  | .stopClimb => instantCommand false Climber.stop

inductive Button where
  | climber
  | intakeReverse
  deriving DecidableEq

/-- The climber part of `AssignGamepadButtons`, in order of registration. -/
def assignGamepadButtons : List (Trigger Button ClimberCommand) :=
  [⟨.climber, .pressed, .captureRope⟩, ⟨.climber, .released, .stopClimb⟩,
    ⟨.intakeReverse, .pressed, .override⟩, ⟨.intakeReverse, .released, .stopClimb⟩]

structure Input (K : Type*) where
  held : Button → Bool
  sensors : Sensors K

structure Robot (K : Type*) where
  scheduler : State (Climber K) ClimberCommand
  lastHeld : Button → Bool

def step (r : Robot K) (input : Input K) : Robot K where
  scheduler := schedule ClimberCommand.behaviour
    (started assignGamepadButtons r.lastHeld input.held) input.sensors r.scheduler
  lastHeld := input.held

def initial (settings : Settings K) : Robot K where
  scheduler := ⟨⟨settings, {}, {}, false, false, false, false, 0⟩, none, []⟩
  lastHeld _ := false

end Steamworks.Climbing
