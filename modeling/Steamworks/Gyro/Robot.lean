import Steamworks.Library.Remainder
import Steamworks.Library.Run

/-! The gyro's angle adjustment and the robot modes that change it. The yaw is
the total the sensor has accumulated; the robot turning is an event like the
mode changes, so zeroing may happen at any heading. -/
namespace Steamworks.Gyro
open Library.Remainder

/-- The sensor: accumulated yaw, not wrapped, and the adjustment added to it. -/
structure Ahrs (K : Type*) where
  yaw : K
  adjustment : K

structure Robot (K : Type*) where
  gyro : Ahrs K
  gyroOffset : K

def kAutonSwitchMSB : ℕ := 6

/-- The switch inputs as a number, most significant switch first; a closed
switch pulls its input low. -/
def getAutonMode (di : ℕ → Bool) : UInt8 :=
  (List.range kAutonSwitchMSB).reverse.foldl
    (fun val i => ((val <<< 1) &&& 0xFE) ||| (if di i then 0 else 1)) 0

variable {K : Type*} [Field K] [LinearOrder K]

/-- The offset each case of the mode switch assigns; the default assigns none. -/
def autonGyroOffset : ℕ → Option K
  | 1 => some (-90)
  | 2 => some 90
  | 3 | 4 | 5 | 6 | 7 | 8 | 9 | 10 | 11 | 12 | 13 | 14 => some 0
  | _ => none

namespace Ahrs

def getAngle (a : Ahrs K) : K := a.yaw + a.adjustment

def setAngleAdjustment (a : Ahrs K) (angle : K) : Ahrs K := { a with adjustment := angle }

variable [FloorRing K]

/-- The zeroing shared by `AutonomousInit` and `ZeroGyro`. -/
def zero (a : Ahrs K) : Ahrs K :=
  let a := a.setAngleAdjustment 0
  let angleAdj := -fmod a.getAngle 360
  a.setAngleAdjustment angleAdj

end Ahrs

namespace Robot
variable [FloorRing K]

def autonomousInit (r : Robot K) (di : ℕ → Bool) : Robot K where
  gyro := r.gyro.zero
  gyroOffset := (autonGyroOffset (getAutonMode di).toNat).getD r.gyroOffset

def teleopInit (r : Robot K) : Robot K :=
  let angleAdj := r.gyro.adjustment + r.gyroOffset
  { r with gyro := r.gyro.setAngleAdjustment angleAdj }

def disabledInit (r : Robot K) : Robot K := r

def zeroGyro (r : Robot K) : Robot K := { r with gyro := r.gyro.zero }

def turn (r : Robot K) (yaw : K) : Robot K := { r with gyro := { r.gyro with yaw := yaw } }

end Robot

inductive Event (K : Type*) where
  | autonomousInit (di : ℕ → Bool)
  | teleopInit
  | disabledInit
  | zeroGyro
  | turn (yaw : K)

variable [FloorRing K]

def step (r : Robot K) : Event K → Robot K
  | .autonomousInit di => r.autonomousInit di
  | .teleopInit => r.teleopInit
  | .disabledInit => r.disabledInit
  | .zeroGyro => r.zeroGyro
  | .turn yaw => r.turn yaw

def Robot.initial (yaw : K) : Robot K := ⟨⟨yaw, 0⟩, 0⟩

end Steamworks.Gyro
