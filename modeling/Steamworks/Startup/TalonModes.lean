import Steamworks.Startup.TalonSettings
import Steamworks.Talon

/-! What settings write to a Talon. `Configure` is meant for once, `SetMode` for
every change of mode; each kind of settings writes its own part, and leaves the
parts of the other kinds as they were. -/
namespace Steamworks.Startup

/-- Written by `Configure`. -/
structure Setup where
  profileSlot : ℤ
  feedbackDevice : ℤ
  neutralMode : ℤ
  limitMode : ℤ
  sensorDirection : Bool
  inverted : Bool
  deriving DecidableEq

/-- Written by every `SetMode`. -/
structure Limits where
  currentLimit : ℤ
  currentLimitEnabled : Bool
  voltageRampRate : ℚ
  deriving DecidableEq

/-- Written by the modes with a closed loop. -/
structure ClosedLoop where
  p : ℚ
  i : ℚ
  d : ℚ
  f : ℚ
  iZone : ℤ
  allowableClosedLoopError : ℤ
  peakOutputVoltageForward : ℚ
  peakOutputVoltageReverse : ℚ
  nominalOutputVoltageForward : ℚ
  nominalOutputVoltageReverse : ℚ
  closeLoopRampRate : ℚ
  deriving DecidableEq

/-- Written by motion magic. -/
structure MotionMagic where
  acceleration : ℚ
  cruiseVelocity : ℚ
  deriving DecidableEq

/-- What was written to a Talon; `none` is as it comes. -/
structure Registers where
  controlMode : ControlMode := .voltage
  setup : Option Setup := none
  limits : Option Limits := none
  closedLoop : Option ClosedLoop := none
  motionMagic : Option MotionMagic := none

def Settings.setup (s : Settings) : Setup :=
  ⟨0, s.feedbackDevice, s.neutralMode, s.limitMode, s.encoderReversed, s.outputReversed⟩

def Settings.limits (s : Settings) : Limits :=
  ⟨s.currentLimit, 0 < s.currentLimit, s.voltageRampRate⟩

def PIDSettings.closedLoop (s : PIDSettings) : ClosedLoop :=
  ⟨s.p, s.i, s.d, s.f, s.iZone, s.allowableClosedLoopError, s.peakOutputVoltageForward,
    s.peakOutputVoltageReverse, s.nominalOutputVoltageForward, s.nominalOutputVoltageReverse,
    s.closeLoopRampRate⟩

def Settings.configure (s : Settings) (talon : Registers) : Registers :=
  { talon with setup := some s.setup }

def Settings.setMode (s : Settings) (talon : Registers) : Registers :=
  { talon with limits := some s.limits }

def PIDSettings.setMode (s : PIDSettings) (talon : Registers) : Registers :=
  { s.toSettings.setMode talon with closedLoop := some s.closedLoop }

namespace TalonSettings

def base : TalonSettings → Settings
  | .voltage s => s
  | .position s | .velocity s => s.toSettings
  | .motionMagic s => s.toSettings

def mode : TalonSettings → ControlMode
  | .voltage _ => .voltage
  | .position _ => .position
  | .velocity _ => .velocity
  | .motionMagic _ => .motionMagic

def setControlMode (mode : ControlMode) (talon : Registers) : Registers :=
  { talon with controlMode := mode }

/-- The virtual `SetMode`: the control mode first, then the classes' own parts. -/
def setMode (settings : TalonSettings) (talon : Registers) : Registers :=
  let talon := setControlMode settings.mode talon
  match settings with
  | .voltage s => s.setMode talon
  | .position s | .velocity s => s.setMode talon
  | .motionMagic s =>
    { s.toPIDSettings.setMode talon with motionMagic := some ⟨s.acceleration, s.cruiseVelocity⟩ }

def init (settings : TalonSettings) (talon : Registers) : Registers :=
  settings.setMode (settings.base.configure talon)

/-- The closed loop that settings bring, if they have one. -/
def closedLoop : TalonSettings → Option ClosedLoop
  | .voltage _ => none
  | .position s | .velocity s => some s.closedLoop
  | .motionMagic s => some s.closedLoop

/-- -1 stands for none; asking for it throws. -/
def getSetpointMax (settings : TalonSettings) : Option ℚ :=
  if settings.base.setpointMax = -1 then none else some settings.base.setpointMax

section
variable (settings : TalonSettings) (talon : Registers)

@[simp] theorem controlMode_setMode : (settings.setMode talon).controlMode = settings.mode := by
  cases settings <;> rfl

@[simp] theorem setup_setMode : (settings.setMode talon).setup = talon.setup := by
  cases settings <;> rfl

@[simp] theorem limits_setMode : (settings.setMode talon).limits = some settings.base.limits := by
  cases settings <;> rfl

theorem closedLoop_setMode :
    (settings.setMode talon).closedLoop = settings.closedLoop.or talon.closedLoop := by
  cases settings <;> rfl

@[simp] theorem setup_init : (settings.init talon).setup = some settings.base.setup := by
  rw [init, setup_setMode, Settings.configure]

@[simp] theorem controlMode_init :
    (settings.init talon).controlMode = settings.mode := by
  rw [init, controlMode_setMode]

end
end TalonSettings
end Steamworks.Startup
