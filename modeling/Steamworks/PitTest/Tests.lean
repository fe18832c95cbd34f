import Steamworks.Library.Activation
import Steamworks.Library.Remainder
import Steamworks.Talon

/-! The pit test of every motor: ten tests in a row, each with a table of
setpoints and an iterator into it. A setpoint read at the end of its table is
whatever lies behind it, here `none`. -/
namespace Steamworks.PitTest
open Library.Activation Library.Remainder

inductive Motor where
  | drive (wheel : Fin 4)
  | azimuth (wheel : Fin 4)
  | shooterWheel
  | shooterElevation
  | hopper
  | intake
  | gearIntake
  | climberMaster
  | climberSlave
  deriving DecidableEq

inductive Test where
  | driveMotors
  | azimuthMotors
  | azimuthEncoders
  | shooterWheelMotor
  | elevationEncoder
  | hopperMotor
  | intakeMotor
  | gearIntakeMotor
  | climberMasterMotor
  | climberSlaveMotor
  deriving DecidableEq

def Test.table : Test → List ℚ
  | .driveMotors => [2, 11.5]
  | .azimuthMotors => [6]
  | .azimuthEncoders => [0]
  | .shooterWheelMotor => [450, 500]
  | .elevationEncoder => [0, 100, 2000, 3000, 4000, 3000, 2000, 1000, 0]
  | .hopperMotor => [4, 8, 11.5]
  | .intakeMotor => [11.5]
  | .gearIntakeMotor => [6, 11.5]
  | .climberMasterMotor => [4, 11.5]
  | .climberSlaveMotor => [4, 11.5]

def Test.drives : Test → Motor → Bool
  | .driveMotors, .drive _ => true
  | .azimuthMotors, .azimuth _ => true
  | .azimuthEncoders, .azimuth _ => true
  | .shooterWheelMotor, .shooterWheel => true
  | .elevationEncoder, .shooterElevation => true
  | .hopperMotor, .hopper => true
  | .intakeMotor, .intake => true
  | .gearIntakeMotor, .gearIntake => true
  | .climberMasterMotor, .climberMaster => true
  | .climberSlaveMotor, .climberSlave => true
  | _, _ => false

/-- The motors it drives. -/
def Test.motors : Test → ℕ
  | .driveMotors | .azimuthMotors | .azimuthEncoders => 4
  | .shooterWheelMotor | .elevationEncoder | .hopperMotor | .intakeMotor | .gearIntakeMotor
  | .climberMasterMotor | .climberSlaveMotor => 1

/-- An iterator that was dereferenced, and where it stood. -/
structure Read where
  test : Test
  position : ℕ

def Read.Inside (r : Read) : Prop := r.position < r.test.table.length

def Read.value (r : Read) : Option ℚ := r.test.table[r.position]?

def kCountReq : ℕ := 50
def kWarmUpTime : ℚ := 2

/-- The members that steer the tests, the Talons, the mode of the drive's
settings, and whether a `StopShooterWheel` was started. Not of the program: which
iterators were dereferenced, newest first. -/
structure HealthCheck where
  iter : Test → ℕ
  count : ℕ
  isTransitioning : Bool
  start : ℚ
  isFinished : Bool
  talon : Motor → Talon (Option ℚ)
  driveSettings : ControlMode
  stopWheelStarted : Bool
  dereferenced : List Read

/-- What one step reads: the clock, whether the timer's period passed, the clock
again when a test is prepared, and the azimuth positions. -/
structure Input where
  now : ℚ
  hasPeriodPassed : Bool
  prepareNow : ℚ
  azimuthGet : Fin 4 → ℚ

namespace HealthCheck

def update (h : HealthCheck) (motors : Motor → Bool)
    (change : Motor → Talon (Option ℚ) → Talon (Option ℚ)) : HealthCheck :=
  { h with talon := fun m => if motors m then change m (h.talon m) else h.talon m }

def one (m : Motor) : Motor → Bool := fun other => other == m

def drives : Motor → Bool
  | .drive _ => true
  | _ => false

def azimuths : Motor → Bool
  | .azimuth _ => true
  | _ => false

def setAzimuthTestModeEnabled (h : HealthCheck) (enabled : Bool) : HealthCheck :=
  h.update azimuths fun _ t => t.setControlMode (if enabled then .voltage else .position)

def configNeutralMode (h : HealthCheck) (m : Motor) (mode : NeutralMode) : HealthCheck :=
  h.update (one m) fun _ t => t.configNeutralMode mode

def stop (h : HealthCheck) (m : Motor) : HealthCheck := h.update (one m) fun _ t => t.set (some 0)

def atEnd (h : HealthCheck) (test : Test) : Bool := h.iter test == test.table.length

def advance (h : HealthCheck) (test : Test) : HealthCheck :=
  { h with iter := Function.update h.iter test (h.iter test + 1) }

def read (h : HealthCheck) (test : Test) : Read := ⟨test, h.iter test⟩

def dereference (h : HealthCheck) (test : Test) (times : ℕ) : HealthCheck :=
  { h with dereferenced := List.replicate times (h.read test) ++ h.dereferenced }

/-- `Set(*iter)`, once a motor. -/
def sendSetpoint (h : HealthCheck) (test : Test) : HealthCheck :=
  (h.dereference test test.motors).update test.drives fun _ t => t.set (h.read test).value

def prepareTest (h : HealthCheck) (now : ℚ) : HealthCheck :=
  { h with count := 0, isTransitioning := true, start := now }

def init (input : Input) (h : HealthCheck) : HealthCheck :=
  let h := h.update drives fun _ t => t.setControlMode h.driveSettings
  let h := h.setAzimuthTestModeEnabled true
  let h := { h with iter := fun _ => 0, isFinished := false }
  h.prepareTest input.prepareNow

/-- `CheckDriveMotors` and `CheckAzimuthMotors`: a finished measurement is logged with
its setpoint, once a wheel, and goes on to send the next one, also when there is none. -/
def checkWheels (test : Test) (input : Input) (h : HealthCheck) : HealthCheck :=
  if kWarmUpTime < input.now - h.start then
    if !input.hasPeriodPassed then h
    else if h.count < kCountReq then { h with count := h.count + 1 }
    else (((h.dereference test 4).advance test).prepareTest input.prepareNow).sendSetpoint test
  else h.sendSetpoint test

/-- The tests of a single motor, which stop it at the end of their table. -/
def checkMotor (test : Test) (warmUp : ℚ) (prepare close : HealthCheck → HealthCheck)
    (input : Input) (h : HealthCheck) : HealthCheck :=
  if input.now - h.start < warmUp then (prepare h).sendSetpoint test
  else if !input.hasPeriodPassed then h
  else if h.count < kCountReq then { h with count := h.count + 1 }
  else
    let h := (h.dereference test 1).advance test
    let h := if h.atEnd test then close h else h
    h.prepareTest input.prepareNow

/-- The azimuths' log has zeros where the elevation's has the setpoint. -/
def checkEncoder (test : Test) (warmUp : ℚ) (logged : ℕ) (input : Input) (h : HealthCheck) :
    HealthCheck :=
  if input.now - h.start < warmUp then h.sendSetpoint test
  else ((h.dereference test logged).advance test).prepareTest input.prepareNow

def checkDriveMotors : Input → HealthCheck → HealthCheck := checkWheels .driveMotors

def checkAzimuthMotors : Input → HealthCheck → HealthCheck := checkWheels .azimuthMotors

/-- Azimuth positions are brought back into one turn first. -/
def wrapAzimuths (input : Input) (h : HealthCheck) : HealthCheck :=
  (h.setAzimuthTestModeEnabled false).update azimuths fun
    | .azimuth wheel, t => t.setPosition (some ((trunc (input.azimuthGet wheel) % 4096 : ℤ) : ℚ))
    | _, t => t

def checkAzimuthEncoders (input : Input) (h : HealthCheck) : HealthCheck :=
  let h := if h.isTransitioning then { h.wrapAzimuths input with isTransitioning := false } else h
  checkEncoder .azimuthEncoders (kWarmUpTime + 2) 0 input h

def checkShooterWheelMotor : Input → HealthCheck → HealthCheck :=
  checkMotor .shooterWheelMotor kWarmUpTime id fun h => { h with stopWheelStarted := true }

def checkElevationEncoder (input : Input) (h : HealthCheck) : HealthCheck :=
  checkEncoder .elevationEncoder (kWarmUpTime - 1) 1 input { h with isTransitioning := false }

def checkHopperMotor : Input → HealthCheck → HealthCheck :=
  checkMotor .hopperMotor kWarmUpTime id (·.stop .hopper)

def checkIntakeMotor : Input → HealthCheck → HealthCheck :=
  checkMotor .intakeMotor kWarmUpTime id (·.stop .intake)

def checkGearIntakeMotor : Input → HealthCheck → HealthCheck :=
  checkMotor .gearIntakeMotor (kWarmUpTime - 1) id (·.stop .gearIntake)

/-- The other climber motor coasts while one is tested. -/
def checkClimberMasterMotor : Input → HealthCheck → HealthCheck :=
  checkMotor .climberMasterMotor (kWarmUpTime - 1) (·.configNeutralMode .climberSlave .coast)
    fun h => (h.stop .climberMaster).configNeutralMode .climberSlave .brake

def checkClimberSlaveMotor : Input → HealthCheck → HealthCheck :=
  checkMotor .climberSlaveMotor kWarmUpTime (·.configNeutralMode .climberMaster .coast)
    fun h => (h.stop .climberSlave).configNeutralMode .climberMaster .brake

def execute (input : Input) (h : HealthCheck) : HealthCheck :=
  if !h.atEnd .driveMotors then h.checkDriveMotors input
  else if !h.atEnd .azimuthMotors then h.checkAzimuthMotors input
  else if !h.atEnd .azimuthEncoders then h.checkAzimuthEncoders input
  else if !h.atEnd .shooterWheelMotor then h.checkShooterWheelMotor input
  else if !h.atEnd .elevationEncoder then h.checkElevationEncoder input
  else if !h.atEnd .hopperMotor then h.checkHopperMotor input
  else if !h.atEnd .intakeMotor then h.checkIntakeMotor input
  else if !h.atEnd .gearIntakeMotor then h.checkGearIntakeMotor input
  else if !h.atEnd .climberMasterMotor then h.checkClimberMasterMotor input
  else if !h.atEnd .climberSlaveMotor then h.checkClimberSlaveMotor input
  else { h with isFinished := true }

def finish (h : HealthCheck) : HealthCheck := h.setAzimuthTestModeEnabled false

/-- `Interrupted` is the default one, which calls `End`. -/
def command : Command HealthCheck Input where
  init := init
  execute := execute
  isFinished _ h := (h, h.isFinished)
  finish := finish
  interrupted := finish

/-- Commands and reads are recorded from the start of an activation. -/
def unrecorded (h : HealthCheck) : HealthCheck :=
  { h with
    talon := fun m => { h.talon m with sent := [] }
    stopWheelStarted := false
    dereferenced := [] }

def idle (driveSettings : ControlMode) : HealthCheck where
  iter _ := 0
  count := 0
  isTransitioning := true
  start := 0
  isFinished := false
  talon _ := {}
  driveSettings := driveSettings
  stopWheelStarted := false
  dereferenced := []

end HealthCheck
end Steamworks.PitTest
