import Steamworks.Library.Remainder
import Steamworks.Library.Run
import Steamworks.Shooter.Table
import Steamworks.Talon

/-! The shooter's two subsystems and the commands that set the wheel speed, step
by step: `SetShooter` requires neither subsystem, so it may run between two
steps of a ramp-down. Speeds are encoder ticks per 100 ms in machine words. -/
namespace Steamworks.Shooter
open Library.Remainder

def kMinSpeed : Int32 := 350
def kMaxSpeed : Int32 := 900

structure ShooterWheel where
  speedSetpoint : Int32 := 0
  talon : Talon ℤ := {}

namespace ShooterWheel

def send (w : ShooterWheel) (speedSetpoint : Int32) : ShooterWheel where
  speedSetpoint := speedSetpoint
  talon := w.talon.set speedSetpoint.toInt

def setSpeed (w : ShooterWheel) (speed : Int32) : ShooterWheel := w.send speed

/-- The sum is taken in double and cut back to an int. -/
def incrementSpeed (w : ShooterWheel) (amount : ℚ) : ShooterWheel :=
  let speedSetpoint := Int32.ofInt (trunc ((w.speedSetpoint.toInt : ℚ) + amount))
  w.send (if kMaxSpeed < speedSetpoint then kMaxSpeed else speedSetpoint)

def decrementSpeed (w : ShooterWheel) (amount : ℚ) : ShooterWheel :=
  let speedSetpoint := Int32.ofInt (trunc ((w.speedSetpoint.toInt : ℚ) - amount))
  w.send (if speedSetpoint < kMinSpeed then kMinSpeed else speedSetpoint)

end ShooterWheel

def kMinElevation : ℤ := 0
def kMaxElevation : ℤ := 6000

structure ShooterElevation where
  elevationSetpoint : ℤ := 0
  talon : Talon ℤ := {}

def limitElevation (elevation : ℤ) : ℤ :=
  if elevation < kMinElevation then kMinElevation
  else if kMaxElevation < elevation then kMaxElevation
  else elevation

def ShooterElevation.setElevation (s : ShooterElevation) (elevation : ℤ) : ShooterElevation where
  elevationSetpoint := limitElevation elevation
  talon := s.talon.set (limitElevation elevation)

/-- The member of an active `StopShooterWheel`, with the speed it measured. -/
structure StopShooterWheel where
  measured : Int32
  speedSetpoint : UInt32

def kSpeedDecrement : UInt32 := 6

namespace StopShooterWheel

def init (measured : Int32) : StopShooterWheel := ⟨measured, measured.toUInt32⟩

def execute (c : StopShooterWheel) : StopShooterWheel :=
  { c with speedSetpoint :=
      if c.speedSetpoint < kSpeedDecrement then 0 else c.speedSetpoint - kSpeedDecrement }

def isFinished (c : StopShooterWheel) : Bool := c.speedSetpoint == 0

end StopShooterWheel

/-- The arguments given to `SetShooter` in the shooting sequences and autons. -/
def shots : List (Int32 × ℤ) :=
  [(440, 2700), (425, 0), (900, 4000), (440, 2000), (500, 3400), (500, 5400)]

inductive Trim where
  | five
  | one

def Trim.amount : Trim → ℚ
  | .five => 5
  | .one => 1

/-- The config files shipped with the program, by their `range_in_delta`. -/
inductive Config where
  | default
  | comp

def Config.rangeInDelta : Config → ℚ
  | .default => 0
  | .comp => 9

/-- What `CalculateSolution` makes of a row of the table. -/
def solutionWheelSpeed (rangeInDelta : ℚ) (row : ShooterRow) : ℚ :=
  row.speed / 10 ^ 17 + rangeInDelta * (row.inDelta / 10 ^ 17)

structure State where
  wheel : ShooterWheel := {}
  elevation : ShooterElevation := {}
  stopping : Option StopShooterWheel := none

def State.setShooter (s : State) (speed : Int32) (elevation : ℤ) : State :=
  if s.wheel.speedSetpoint < 400 then
    { s with wheel := s.wheel.setSpeed speed
             elevation := s.elevation.setElevation elevation }
  else s

/-- One step of the ramp-down, which leaves once it reached zero. -/
def State.stopExecute (s : State) : State :=
  match s.stopping with
  | none => s
  | some command =>
      let command := command.execute
      { s with wheel := s.wheel.setSpeed command.speedSetpoint.toInt32
               stopping := if command.isFinished then none else some command }

inductive Event where
  | setShooter (shot : {shot // shot ∈ shots})
  | startShooterWheel
  | setWheel (row : {row // row ∈ shooterData})
  | incrementShooterSpeed (trim : Trim)
  | decrementShooterSpeed (trim : Trim)
  | stopInitialize (measured : Int32)
  | stopExecute

/-- A command that requires the wheel interrupts the ramp-down. -/
def step (config : Config) (s : State) : Event → State
  | .setShooter shot => s.setShooter shot.1.1 shot.1.2
  | .startShooterWheel => { s with wheel := s.wheel.setSpeed 400, stopping := none }
  | .setWheel row =>
      let speed := solutionWheelSpeed config.rangeInDelta row
      { s with wheel := s.wheel.setSpeed (Int32.ofInt (trunc speed)), stopping := none }
  | .incrementShooterSpeed trim =>
      { s with wheel := s.wheel.incrementSpeed trim.amount, stopping := none }
  | .decrementShooterSpeed trim =>
      { s with wheel := s.wheel.decrementSpeed trim.amount, stopping := none }
  | .stopInitialize measured => { s with stopping := some (.init measured) }
  | .stopExecute => s.stopExecute

end Steamworks.Shooter
