import Steamworks.Swerve.Math
import Steamworks.Talon

/-! The swerve drive subsystem: every operation that writes the azimuth or drive
Talons, in the base class and in the robot's subclass. Wheels are indexed as in
`SwerveDrive::Wheel`: right front, left front, left rear, right rear, which is
also the order in which `DriveData` reports them. -/
namespace Steamworks.Swerve
open Library.Remainder

variable {K : Type*} [Field K] [LinearOrder K]

/-- The cosine and sine of the gyro's angle. -/
structure Heading (K : Type*) [Field K] where
  cosRad : K
  sinRad : K
  unit : cosRad ^ 2 + sinRad ^ 2 = 1

structure SwerveDrive (K : Type*) where
  math : SwerveMath K
  azimuth : Fin 4 → Talon K
  drive : Fin 4 → Talon K
  driveScaleFactor : K
  gyroDisabled : Bool
  deadZone : K
  distance : K

namespace SwerveDrive

def setAzimuth (d : SwerveDrive K) (setpoint : K) : SwerveDrive K :=
  { d with azimuth := fun i => (d.azimuth i).set setpoint }

def setDrive (d : SwerveDrive K) (setpoint : K) : SwerveDrive K :=
  { d with drive := fun i => (d.drive i).set setpoint }

def zeroAzimuth (d : SwerveDrive K) : SwerveDrive K := d.setAzimuth 0

def zeroPosition (d : SwerveDrive K) : SwerveDrive K :=
  { d with drive := fun i => (d.drive i).setPosition 0 }

def setGyroDisabled (d : SwerveDrive K) (disabled : Bool) : SwerveDrive K :=
  { d with gyroDisabled := disabled }

/-- The drive Talons take the settings' control mode with the new scale. -/
def setDriveMode (d : SwerveDrive K) (mode : ControlMode) (setpointScale : K) : SwerveDrive K :=
  { d with driveScaleFactor := setpointScale
           drive := fun i => (d.drive i).setControlMode mode }

def crabDriveAutonomous (d : SwerveDrive K) (setpoint : K) (azimuth : ℤ) : SwerveDrive K :=
  (d.setAzimuth azimuth).setDrive setpoint

/-- Wheel azimuths for turning in place, from a starting azimuth of 2048. -/
def wheelAzimuthAutonPos : Fin 4 → K :=
  ![139.6 / 180 * 2048, 40.4 / 180 * 2048 + 2048, 139.6 / 180 * 2048, 40.4 / 180 * 2048 + 2048]

def positionAzimuthForAuton (d : SwerveDrive K) : SwerveDrive K :=
  { d with azimuth := fun i => (d.azimuth i).set (wheelAzimuthAutonPos i) }

def driveAzimuthAutonomous (d : SwerveDrive K) (setpoint : K) : SwerveDrive K :=
  { d with drive := fun i => (d.drive i).set (![setpoint, -setpoint, -setpoint, setpoint] i) }

def driveDistance (d : SwerveDrive K) (distance azimuth : ℤ) : SwerveDrive K :=
  { (d.setAzimuth azimuth).setDrive distance with distance := distance }

variable [FloorRing K]

def azimuthTicks (angle : K) : K := roundAway (angle * 2048 / 180)

def driveData (forward strafe azimuth : K) : DriveData K where
  fwd := forward
  str := strafe
  rcw := azimuth
  wsrf := 0
  wslf := 0
  wslr := 0
  wsrr := 0
  warf := 0
  walf := 0
  walr := 0
  warr := 0

def sendWheels (d : SwerveDrive K) (result : SwerveMath K × DriveData K) : SwerveDrive K :=
  { d with
    math := result.1
    azimuth := fun i => (d.azimuth i).set (azimuthTicks (result.2.wheelAngle i))
    drive := fun i => (d.drive i).set (result.2.wheelSpeed i * d.driveScaleFactor) }

def isStopping (forward strafe azimuth deadZone : K) : Prop :=
  |forward| ≤ deadZone ∧ |strafe| ≤ deadZone ∧ |azimuth| < deadZone

instance (forward strafe azimuth deadZone : K) :
    Decidable (isStopping forward strafe azimuth deadZone) := inferInstanceAs (Decidable (_ ∧ _))

/-- `Drive_`: inside the dead zone the wheels stop where they point. -/
def drive_ (libm : Libm K) (d : SwerveDrive K) (forward strafe azimuth deadZone : K) :
    SwerveDrive K :=
  if isStopping forward strafe azimuth deadZone then d.setDrive 0
  else d.sendWheels (d.math.operatorCall libm (driveData forward strafe azimuth) .center)

def rotatedForward (heading : Heading K) (forward strafe : K) : K :=
  forward * heading.cosRad + strafe * heading.sinRad

def rotatedStrafe (heading : Heading K) (forward strafe : K) : K :=
  strafe * heading.cosRad - forward * heading.sinRad

/-- `Drive` in field-oriented mode, unless the gyro is disabled. -/
def driveField (libm : Libm K) (d : SwerveDrive K) (heading : Heading K)
    (forward strafe azimuth deadZone : K) : SwerveDrive K :=
  if d.gyroDisabled then d.drive_ libm forward strafe azimuth deadZone
  else d.drive_ libm (rotatedForward heading forward strafe) (rotatedStrafe heading forward strafe)
    azimuth deadZone

/-- The overload that takes the dead zone from the config file. -/
def driveFieldDefault (libm : Libm K) (d : SwerveDrive K) (heading : Heading K)
    (forward strafe azimuth : K) : SwerveDrive K :=
  d.driveField libm heading forward strafe azimuth d.deadZone

def driveAutonomous (libm : Libm K) (d : SwerveDrive K) (forward strafe azimuth : K) :
    SwerveDrive K :=
  d.drive_ libm forward strafe azimuth 0.05

def targetRotation (libm : Libm K) (d : SwerveDrive K) (azimuth : K) : SwerveDrive K :=
  d.sendWheels (d.math.operatorCall libm (driveData 0 0 azimuth) .shooter)

def brakeData : DriveData K :=
  { driveData 0 0 0 with walf := 40, warf := -40, walr := -40, warr := 40 }

def setBrake (d : SwerveDrive K) : SwerveDrive K :=
  let result := d.math.getBrakeAzimuth brakeData
  { d with
    math := result.1
    azimuth := fun i => (d.azimuth i).set (azimuthTicks (result.2.wheelAngle i))
    drive := fun i => (d.drive i).setPosition 0 }

/-- The public operations, with the gyro's heading where one is read. -/
inductive Op (K : Type*) [Field K] where
  | drive (heading : Heading K) (forward strafe azimuth deadZone : K)
  | driveDefault (heading : Heading K) (forward strafe azimuth : K)
  | driveAutonomous (forward strafe azimuth : K)
  | targetRotation (azimuth : K)
  | setBrake
  | setAzimuth (setpoint : K)
  | zeroAzimuth
  | crabDriveAutonomous (setpoint : K) (azimuth : ℤ)
  | positionAzimuthForAuton
  | driveDistance (distance azimuth : ℤ)
  | driveAzimuthAutonomous (setpoint : K)
  | setDrive (setpoint : K)
  | zeroPosition
  | setGyroDisabled (disabled : Bool)
  | setDriveMode (mode : ControlMode) (setpointScale : K)

def step (libm : Libm K) (d : SwerveDrive K) : Op K → SwerveDrive K
  | .drive heading forward strafe azimuth deadZone =>
      d.driveField libm heading forward strafe azimuth deadZone
  | .driveDefault heading forward strafe azimuth =>
      d.driveFieldDefault libm heading forward strafe azimuth
  | .driveAutonomous forward strafe azimuth => d.driveAutonomous libm forward strafe azimuth
  | .targetRotation azimuth => d.targetRotation libm azimuth
  | .setBrake => d.setBrake
  | .setAzimuth setpoint => d.setAzimuth setpoint
  | .zeroAzimuth => d.zeroAzimuth
  | .crabDriveAutonomous setpoint azimuth => d.crabDriveAutonomous setpoint azimuth
  | .positionAzimuthForAuton => d.positionAzimuthForAuton
  | .driveDistance distance azimuth => d.driveDistance distance azimuth
  | .driveAzimuthAutonomous setpoint => d.driveAzimuthAutonomous setpoint
  | .setDrive setpoint => d.setDrive setpoint
  | .zeroPosition => d.zeroPosition
  | .setGyroDisabled disabled => d.setGyroDisabled disabled
  | .setDriveMode mode setpointScale => d.setDriveMode mode setpointScale

/-- The subsystem after construction: nothing sent, the gyro in use. -/
def initial (libm : Libm K) (g : Geometry K) (deadZone driveScaleFactor : K) : SwerveDrive K where
  math := g.swerveMath libm
  azimuth _ := {}
  drive _ := {}
  driveScaleFactor := driveScaleFactor
  gyroDisabled := false
  deadZone := deadZone
  distance := 0

end SwerveDrive
end Steamworks.Swerve
