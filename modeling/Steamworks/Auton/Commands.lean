import Steamworks.Library.Activation
import Steamworks.Gyro.Azimuth
import Steamworks.Swerve.Drive

/-! The autonomous commands that move the drive. Each is set up, stepped and
ended by the scheduler; what its sensors read is an input, every read of a step
on its own. -/
namespace Steamworks.Auton
open Library.Activation Library.Remainder Gyro Swerve

variable {K : Type*} [Field K] [LinearOrder K]

/-- Cosine and sine of an angle in degrees, and `pow`. -/
structure Cmath (K : Type*) [Field K] where
  cosDegrees : K → K
  sinDegrees : K → K
  pow : K → K → K
  unit : ∀ angle, cosDegrees angle ^ 2 + sinDegrees angle ^ 2 = 1

/-- Talon settings with a largest setpoint; it reads -1 where none is given, and
asking for it then throws. -/
structure Settings (K : Type*) [Field K] where
  mode : ControlMode
  setpointMax : K
  given : setpointMax ≠ -1

/-- What the commands run on: the library and the drive's settings. -/
structure Platform (K : Type*) [Field K] [LinearOrder K] where
  libm : Libm K
  cmath : Cmath K
  driveAutonSettings : Settings K
  driveAzimuthSettings : Settings K

/-- The reads of one step in their order: those of `Execute` with the drive's
own of the gyro, then those of `IsFinished`. -/
structure Readings (K : Type*) where
  hasTarget : Bool
  targetHeight : ℤ
  azimuthError : ℤ
  positions : Fin 4 → K
  hasTargetStill : Bool
  strafeError : ℤ
  gyro : Ahrs K
  driveGyro : Ahrs K
  timedOut : Bool
  hasTargetAfter : Bool
  speeds : Fin 4 → K
  positionsAfter : Fin 4 → K

namespace Platform

def heading (p : Platform K) (gyro : Ahrs K) : Heading K where
  cosRad := p.cmath.cosDegrees gyro.getAngle
  sinRad := p.cmath.sinDegrees gyro.getAngle
  unit := p.cmath.unit _

def setAutonMode (p : Platform K) (d : SwerveDrive K) : SwerveDrive K :=
  d.setDriveMode p.driveAutonSettings.mode p.driveAutonSettings.setpointMax

def setAzimuthMode (p : Platform K) (d : SwerveDrive K) : SwerveDrive K :=
  d.setDriveMode p.driveAzimuthSettings.mode p.driveAzimuthSettings.setpointMax

end Platform

/-- The mean of the drive Talons' positions, cut to whole ticks. -/
def getPosition [FloorRing K] (positions : Fin 4 → K) : ℤ :=
  trunc ((|positions 3| + |positions 2| + |positions 0| + |positions 1|) / 4)

/-- Two speeds, divided by four. -/
def getFrontWheelsDriveSpeed (speeds : Fin 4 → K) : K := (|speeds 0| + |speeds 1|) / 4

structure DriveSegment (K : Type*) where
  angle : K
  distance : K

/-- A command is not made of a config without segments. -/
structure DriveConfig (K : Type*) where
  minSpeed : K
  maxSpeed : K
  acceleration : K
  deacceleration : K
  closeEnough : K
  segments : List (DriveSegment K)
  nonempty : segments ≠ []

/-- The members of `Drive`; `rest` is what `segments_it_` has ahead. -/
structure Drive (K : Type*) where
  config : DriveConfig K
  rest : List (DriveSegment K)
  segmentEndDistance : K
  forwardFactor : K
  strafeFactor : K
  error : K
  absError : K
  stableCount : ℕ
  zeroCount : ℕ

namespace Drive

def kSetpointMax : K := 400
def kDeadZonePct : K := 0.1
def kStableCountReq : ℕ := 3
def kZeroCountReq : ℕ := 4

/-- The sum starts as an `int`, so each partial sum is cut to one. -/
def distance [FloorRing K] (c : Drive K) : ℤ :=
  c.config.segments.foldl (fun (sum : ℤ) segment => trunc ((sum : K) + segment.distance)) 0

def minSpeed (c : Drive K) : K := c.config.minSpeed / kSetpointMax
def maxSpeed (c : Drive K) : K := c.config.maxSpeed / kSetpointMax
def deadZone (c : Drive K) : K := c.minSpeed * kDeadZonePct
def accelDist (c : Drive K) : K := c.config.maxSpeed ^ 2 / (2 * c.config.acceleration)
def deaccelDist (c : Drive K) : K := c.config.maxSpeed ^ 2 / (2 * c.config.deacceleration)

/-- The segments' ends are added up by `add`: exactly where nothing is said, and as
doubles where what rounding does to them matters. -/
def startNextSegment (cmath : Cmath K) (c : Drive K) (add : K → K → K := (· + ·)) : Drive K :=
  match c.rest with
  | [] => c
  | segment :: rest =>
    { c with
      forwardFactor := cmath.cosDegrees segment.angle
      strafeFactor := cmath.sinDegrees segment.angle
      segmentEndDistance := add c.segmentEndDistance segment.distance
      rest := rest }

variable [FloorRing K]

def accelDonePos (c : Drive K) : K := c.distance - c.accelDist

def init (c : Drive K) : Drive K :=
  { c with
    error := c.distance
    absError := c.distance
    rest := c.config.segments
    stableCount := 0
    zeroCount := 0
    segmentEndDistance := 0 }

def speed (c : Drive K) : K :=
  let speed :=
    if c.accelDonePos < c.absError then
      c.minSpeed + (c.maxSpeed - c.minSpeed) / c.accelDist * (c.distance - c.absError)
    else if c.absError < c.deaccelDist then
      if c.absError < c.config.closeEnough then 0
      else c.minSpeed + (c.absError - c.config.closeEnough) / (c.deaccelDist - c.config.closeEnough) *
        (c.maxSpeed - c.minSpeed)
    else c.maxSpeed
  speed * (if c.error < 0 then -1 else 1)

/-- The first steps wait for the positions to be zeroed. -/
def execute (p : Platform K) (r : Readings K) (c : Drive K) (d : SwerveDrive K)
    (add : K → K → K := (· + ·)) : Drive K × SwerveDrive K :=
  if c.zeroCount < kZeroCountReq then ({ c with zeroCount := c.zeroCount + 1 }, d)
  else
    let error := (c.distance : K) - |(getPosition r.positions : K)|
    let c := { c with error := error, absError := |error| }
    let distanceTravelled := (c.distance : K) - c.error
    let c := if c.segmentEndDistance ≤ distanceTravelled then c.startNextSegment p.cmath add else c
    (c, d.driveField p.libm (p.heading r.driveGyro) (c.forwardFactor * c.speed)
      (c.strafeFactor * c.speed) 0 c.deadZone)

def isFinished (timedOut : Bool) (c : Drive K) : Drive K × Bool :=
  if timedOut then (c, true)
  else
    let stableCount := if c.absError < c.config.closeEnough then c.stableCount + 1 else 0
    ({ c with stableCount := stableCount }, stableCount == kStableCountReq)

end Drive

/-- The members of `DeadeyeAzimuth`; its offset is only logged. -/
structure DeadeyeAzimuth (K : Type*) where
  hasTarget : Bool
  error : K
  setpoint : K
  absError : K
  stableCount : ℕ

namespace DeadeyeAzimuth

def kSetpointMax : K := 275
def kMaxSpeed : K := 75 / kSetpointMax
def kMinSpeed : K := 20 / kSetpointMax
def kMinSpeedExact : K := 15 / kSetpointMax
def kDeadZone : K := 0.05 * kMinSpeed
def kCloseEnough : K := 20
def kCloseEnoughExact : K := 8
def kSlopeStart : K := 300
def kStableCountReq : ℕ := 3

def init (r : Readings K) (c : DeadeyeAzimuth K) : DeadeyeAzimuth K :=
  { c with error := r.azimuthError, stableCount := 0, setpoint := 0 }

def speed (absError : K) : K :=
  if absError < kSlopeStart then
    if absError < kCloseEnoughExact then 0
    else if absError < kCloseEnough then kMinSpeedExact
    else kMinSpeed + (absError - kCloseEnough) / (kSlopeStart - kCloseEnough) * (kMaxSpeed - kMinSpeed)
  else kMaxSpeed

variable [FloorRing K]

def execute (p : Platform K) (r : Readings K) (c : DeadeyeAzimuth K) (d : SwerveDrive K) :
    DeadeyeAzimuth K × SwerveDrive K :=
  let c := { c with hasTarget := r.hasTarget }
  if !c.hasTarget then (c, d.driveFieldDefault p.libm (p.heading r.driveGyro) 0 0 0)
  else
    let error := (r.azimuthError : K)
    let setpoint := speed |error| * (if error < 0 then 1 else -1)
    ({ c with error := error, absError := |error|, setpoint := setpoint },
      d.driveField p.libm (p.heading r.driveGyro) 0 0 setpoint kDeadZone)

omit [FloorRing K] in
def isFinished (hasTarget : Bool) (c : DeadeyeAzimuth K) : DeadeyeAzimuth K × Bool :=
  if !hasTarget then (c, false)
  else
    let stableCount := if c.absError < kCloseEnoughExact then c.stableCount + 1 else 0
    ({ c with stableCount := stableCount }, stableCount == kStableCountReq)

end DeadeyeAzimuth

structure TimedAzimuth (K : Type*) where
  speed : K

namespace DriveZero

def kDriveSetpoint : K := 250

end DriveZero

inductive Lift where
  | left
  | center
  | right

structure PlaceGear (K : Type*) where
  distance : K
  strafeError : K
  strafeAbsError : K
  azimuthAngle : K
  azimuthError : K
  azimuthAbsError : K
  driveSetpoint : K
  strafeSetpoint : K
  azimuthSetpoint : K
  stableCount : ℕ
  zeroCount : ℕ
  isDelayDone : Bool
  isCruising : Bool
  isInitialized : Bool

namespace PlaceGear

def kSetpointMax : K := 275
def kTicksPerInch : K := 50.72
def kDriveSpeed : K := -60 / kSetpointMax
def kStoppedSpeed : K := 2
def kStrafeOffset : K := 75
def kStrafeEndDistance : K := 12 * kTicksPerInch
def kStrafeMinSpeed : K := 0 / kSetpointMax
def kStrafeMaxSpeed : K := -kDriveSpeed
def kStrafeSlopeStart : K := 60
def kStrafeCloseEnough : K := 3
def kAzimuthMinSpeed : K := 0 / kSetpointMax
def kAzimuthMaxSpeed : K := -0.3 * kDriveSpeed
def kAzimuthSlopeStart : K := 2
def kAzimuthCloseEnough : K := 0.25
def kDeadzone : K := 1 / kSetpointMax
def kStableCountReq : ℕ := 3
def kZeroCountReq : ℕ := 3

/-- The distance to a lift until the target's height says better, and the angle
to face it at. -/
def construct (practice : Bool) (position : Lift) (memory : PlaceGear K) : PlaceGear K :=
  let c := { memory with isDelayDone := false, isCruising := false, isInitialized := false }
  match position with
  | .left => { c with distance := 12 * kTicksPerInch, azimuthAngle := 60 }
  | .center =>
    { c with distance := (if practice then 100 else 20) * kTicksPerInch, azimuthAngle := 0 }
  | .right => { c with distance := 12 * kTicksPerInch, azimuthAngle := -60 }

def calculateDistance (cmath : Cmath K) (r : Readings K) (c : PlaceGear K) : PlaceGear K × Bool :=
  if !r.hasTarget then (c, false)
  else ({ c with distance := 4183.3 * cmath.pow r.targetHeight (-1.039) * kTicksPerInch }, true)

def init (cmath : Cmath K) (r : Readings K) (c : PlaceGear K) : PlaceGear K :=
  let c := (c.calculateDistance cmath r).1
  { c with
    strafeError := r.strafeError - kStrafeOffset
    azimuthError := r.gyro.getAngle - c.azimuthAngle
    stableCount := 0
    zeroCount := 0
    isDelayDone := false
    isCruising := false
    isInitialized := false }

def delayForPositionZero (c : PlaceGear K) : PlaceGear K × Bool :=
  if c.isDelayDone then (c, false)
  else if c.zeroCount < kZeroCountReq then ({ c with zeroCount := c.zeroCount + 1 }, true)
  else ({ c with isDelayDone := true }, false)

/-- Whether `Execute` gets past its first part: the wait, and then a target. -/
def ready (cmath : Cmath K) (r : Readings K) (c : PlaceGear K) : PlaceGear K × Bool :=
  if c.isInitialized then (c, true)
  else
    let (c, waiting) := c.delayForPositionZero
    if waiting then (c, false)
    else
      let (c, found) := c.calculateDistance cmath r
      if !found then (c, false) else ({ c with isInitialized := true }, true)

variable [FloorRing K]

def calculateStrafeSetpoint (r : Readings K) (c : PlaceGear K) : PlaceGear K × K :=
  if c.distance - |(getPosition r.positions : K)| < kStrafeEndDistance then (c, 0)
  else if !r.hasTargetStill then (c, 0)
  else
    let error := (r.strafeError : K) - kStrafeOffset
    let setpoint := rampSpeed kStrafeMinSpeed kStrafeMaxSpeed kStrafeCloseEnough kStrafeSlopeStart |error|
    ({ c with strafeError := error, strafeAbsError := |error| },
      setpoint * (if error < 0 then -1 else 1))

omit [FloorRing K] in
def calculateAzimuthSetpoint (r : Readings K) (c : PlaceGear K) : PlaceGear K × K :=
  let error := r.gyro.getAngle - c.azimuthAngle
  let setpoint :=
    rampSpeed kAzimuthMinSpeed kAzimuthMaxSpeed kAzimuthCloseEnough kAzimuthSlopeStart |error|
  ({ c with azimuthError := error, azimuthAbsError := |error| },
    setpoint * (if error < 0 then 1 else -1))

def aim (r : Readings K) (c : PlaceGear K) : PlaceGear K :=
  let c := { c with driveSetpoint := kDriveSpeed }
  let (c, strafe) := c.calculateStrafeSetpoint r
  let c := { c with strafeSetpoint := strafe }
  let (c, azimuth) := c.calculateAzimuthSetpoint r
  { c with azimuthSetpoint := azimuth }

def execute (p : Platform K) (r : Readings K) (c : PlaceGear K) (d : SwerveDrive K) :
    PlaceGear K × SwerveDrive K :=
  let (c, ready) := c.ready p.cmath r
  if !ready then (c, d)
  else
    let c := c.aim r
    (c, d.driveField p.libm (p.heading r.driveGyro) c.driveSetpoint c.strafeSetpoint
      c.azimuthSetpoint kDeadzone)

def isFinished (r : Readings K) (c : PlaceGear K) : PlaceGear K × Bool :=
  if !c.isInitialized then (c, false)
  else if !c.isCruising then
    ({ c with isCruising := decide (3 * kTicksPerInch < |(getPosition r.positionsAfter : K)|) }, false)
  else
    let speed := |getFrontWheelsDriveSpeed r.speeds|
    let stableCount := if speed < kStoppedSpeed then c.stableCount + 1 else 0
    ({ c with stableCount := stableCount }, stableCount == kStableCountReq)

end PlaceGear

/-- A command of one of the classes, with its members. -/
inductive AutonCommand (K : Type*) where
  | drive (c : Drive K)
  | gyroAzimuth (c : GyroAzimuth K)
  | deadeyeAzimuth (c : DeadeyeAzimuth K)
  | timedAzimuth (c : TimedAzimuth K)
  | placeGear (c : PlaceGear K)
  | driveZero

/-- A command with the drive it requires, and what the gyro will read at its end. -/
structure Activity (K : Type*) where
  command : AutonCommand K
  drive : SwerveDrive K
  gyroAtEnd : Ahrs K

namespace Activity
variable [FloorRing K]

def init (p : Platform K) (r : Readings K) (a : Activity K) : Activity K :=
  match a.command with
  | .drive c => { a with command := .drive c.init, drive := (p.setAutonMode a.drive).zeroPosition }
  | .gyroAzimuth c =>
    { a with command := .gyroAzimuth (c.init r.gyro), drive := p.setAzimuthMode a.drive }
  | .deadeyeAzimuth c =>
    let stopped := a.drive.driveFieldDefault p.libm (p.heading r.driveGyro) 0 0 0
    { a with command := .deadeyeAzimuth (c.init r), drive := p.setAzimuthMode stopped }
  | .timedAzimuth c =>
    { a with drive := (p.setAutonMode a.drive).driveAutonomous p.libm 0 0 c.speed }
  | .placeGear c =>
    { a with
      command := .placeGear (c.init p.cmath r)
      drive := ((p.setAzimuthMode a.drive).zeroPosition).setGyroDisabled true }
  | .driveZero =>
    { a with drive := (p.setAutonMode a.drive).crabDriveAutonomous DriveZero.kDriveSetpoint 0 }

/-- `Execute`; where a class has none of its own, the one that does nothing. -/
def execute (p : Platform K) (r : Readings K) (a : Activity K) (add : K → K → K := (· + ·)) :
    Activity K :=
  match a.command with
  | .drive c =>
    let (c, d) := c.execute p r a.drive add
    { a with command := .drive c, drive := d }
  | .gyroAzimuth c =>
    let (c, speed, deadZone) := c.execute r.gyro
    { a with
      command := .gyroAzimuth c
      drive := a.drive.driveField p.libm (p.heading r.driveGyro) 0 0 speed deadZone }
  | .deadeyeAzimuth c =>
    let (c, d) := c.execute p r a.drive
    { a with command := .deadeyeAzimuth c, drive := d }
  | .placeGear c =>
    let (c, d) := c.execute p r a.drive
    { a with command := .placeGear c, drive := d }
  | .timedAzimuth _ | .driveZero => a

def isFinished (r : Readings K) (a : Activity K) : Activity K × Bool :=
  match a.command with
  | .drive c =>
    let (c, finished) := c.isFinished r.timedOut
    ({ a with command := .drive c }, finished)
  | .gyroAzimuth c =>
    let (c, finished) := c.isFinished
    ({ a with command := .gyroAzimuth c }, finished)
  | .deadeyeAzimuth c =>
    let (c, finished) := c.isFinished r.hasTargetAfter
    ({ a with command := .deadeyeAzimuth c }, finished)
  | .timedAzimuth _ => (a, r.timedOut)
  | .placeGear c =>
    let (c, finished) := c.isFinished r
    ({ a with command := .placeGear c }, finished)
  | .driveZero => (a, false)

/-- `End`, which `Interrupted` calls. -/
def finish (p : Platform K) (a : Activity K) : Activity K :=
  match a.command with
  | .drive _ | .gyroAzimuth _ | .deadeyeAzimuth _ => { a with drive := a.drive.setDrive 0 }
  | .timedAzimuth _ =>
    { a with drive := a.drive.driveFieldDefault p.libm (p.heading a.gyroAtEnd) 0 0 0 }
  | .placeGear _ => { a with drive := a.drive.setGyroDisabled false }
  | .driveZero => { a with drive := a.drive.crabDriveAutonomous 0 0 }

end Activity

def command [FloorRing K] (p : Platform K) (add : K → K → K := (· + ·)) :
    Command (Activity K) (Readings K) where
  init := Activity.init p
  execute r a := a.execute p r add
  isFinished := Activity.isFinished
  finish := Activity.finish p
  interrupted := Activity.finish p

end Steamworks.Auton
