import Steamworks.Auton.Aiming
import Steamworks.Library.Group
import Steamworks.Shooter.Arrival
import Steamworks.Vision.Protocol

/-! The shooting sequence. It aims in both directions at once, computes a solution
where the elevation came to rest, sets wheel and elevation by it, and starts the
hopper when both are there. A solution that is not valid cancels it. -/
namespace Steamworks.Shooter
open Library.Group Library.Run

structure Hopper where
  isRunning : Bool := false
  talon : Talon ℚ := {}

def Hopper.start (h : Hopper) (voltage : ℚ) : Hopper :=
  let voltage := if voltage < 0 then 0 else voltage
  let voltage := if 12 < voltage then 12 else voltage
  { h with isRunning := true, talon := h.talon.set voltage }

structure SetWheel where
  speed : ℚ

namespace SetWheel

def kSpeedGoodEnough : ℤ := 5

def init (getSolutionWheelSpeed : ℚ) (w : ShooterWheel) : Option (SetWheel × ShooterWheel) :=
  (castInt getSolutionWheelSpeed).map fun speed =>
    (⟨getSolutionWheelSpeed⟩, w.setSpeed (Int32.ofInt speed))

def isFinished (c : SetWheel) (getSpeed : Int32) (isTimedOut : Bool) : Option Bool :=
  (castInt |c.speed - getSpeed.toInt|).map fun error => error < kSpeedGoodEnough || isTimedOut

end SetWheel

/-- What the configuration leaves open. -/
structure Parameters where
  platform : Auton.Platform ℚ
  trigonometry : Trigonometry ℚ
  ballistics : Ballistics ℚ
  table : SolutionTable ℚ

/-- What the sequence reads and writes. Not of the program: the elevation from which
this time's `GetAngle` computed the solution, what the last two commands last read,
and whether everything computed so far is defined. -/
structure Shooting where
  toJetson : List (Vision.Message ℤ)
  shooterLight : Bool
  wheel : ShooterWheel
  ranging : Ranging
  aiming : Auton.Activity ℚ
  solution : Solution ℚ
  setElevation : SetElevation
  setWheel : SetWheel
  hopper : Hopper
  measured : Option ℤ
  elevationRead : Option Int32
  speedRead : Option Int32
  isDefined : Bool

/-- The readings of one tick, and whether a wait under way lasted its ten seconds. -/
structure Reads where
  centerlineError : ℤ
  sight : Auton.Sight
  elevationAtEnd : Int32
  azimuth : Auton.Readings ℚ
  elevation : Int32
  speed : Int32
  timeUp : Bool

inductive ShootingCommand where
  | enableCamera
  | shooterLED (enabled : Bool)
  | setShooter
  | getAngle
  | deadeyeAzimuth
  | setElevation
  | setWheel
  | startHopper
  deriving DecidableEq

inductive Subsystem where
  | drive
  | gearLoader
  | hopper
  | intake
  | shooterElevation
  | shooterWheel
  deriving DecidableEq

def ShootingCommand.requires : ShootingCommand → Option Subsystem
  | .getAngle | .setElevation => some .shooterElevation
  | .deadeyeAzimuth => some .drive
  | .setWheel => some .shooterWheel
  | .startHopper => some .hopper
  | .enableCamera | .shooterLED _ | .setShooter => none

def ShootingCommand.conflicts (command other : ShootingCommand) : Bool :=
  command.requires.isSome && command.requires == other.requires

namespace Shooting

def undefined (s : Shooting) : Shooting := { s with isDefined := false }

def kPrepareSpeed : Int32 := 440
def kPrepareElevation : ℤ := 2700

def setShooter (speed : Int32) (elevation : ℤ) (s : Shooting) : Shooting :=
  let shooter := (State.mk s.wheel s.ranging.elevation none).setShooter speed elevation
  { s with wheel := shooter.wheel, ranging := { s.ranging with elevation := shooter.elevation } }

/-- `GetAngle::End`: without a valid solution the sequence is to be cancelled. -/
def endGetAngle (p : Parameters) (elevation : ℤ) (s : Shooting) : Shooting × Bool :=
  match calculateSolution p.trigonometry p.ballistics p.table elevation s.solution with
  | none => (s.undefined, false)
  | some (solution, valid) => ({ s with solution, measured := some elevation }, !valid)

def initElevation (s : Shooting) : Shooting :=
  match SetElevation.init s.solution.elevation s.ranging.elevation with
  | none => s.undefined
  | some (setElevation, elevation) =>
    { s with setElevation, ranging := { s.ranging with elevation }, elevationRead := none }

def elevationFinished (reading : Int32) (s : Shooting) : Shooting × Bool :=
  match s.setElevation.isFinished reading false with
  | none => (s.undefined, false)
  | some finished => ({ s with elevationRead := some reading }, finished)

def initWheel (s : Shooting) : Shooting :=
  match SetWheel.init s.solution.wheelSpeed s.wheel with
  | none => s.undefined
  | some (setWheel, wheel) => { s with setWheel, wheel, speedRead := none }

def wheelFinished (reading : Int32) (s : Shooting) : Shooting × Bool :=
  match s.setWheel.isFinished reading false with
  | none => (s.undefined, false)
  | some finished => ({ s with speedRead := some reading }, finished)

end Shooting

/-- A command that only does something as it begins. -/
def instantMember {S I : Type*} (init : S → S) : Member S I where
  init _ := init
  execute _ s := s
  isFinished _ s := (s, true)
  finish _ s := (s, false)
  interrupted _ s := (s, false)

def ShootingCommand.member (p : Parameters) : ShootingCommand → Member Shooting Reads
  | .enableCamera =>
    instantMember fun s => { s with toJetson := s.toJetson ++ [Vision.enableCamera .boiler] }
  | .shooterLED enabled => instantMember fun s => { s with shooterLight := enabled }
  | .setShooter =>
    instantMember (Shooting.setShooter Shooting.kPrepareSpeed Shooting.kPrepareElevation)
  | .getAngle =>
    { init := fun i s =>
        { s with ranging := s.ranging.step (.init i.centerlineError), measured := none }
      execute := fun i s => { s with ranging := Auton.getAngle.execute i.sight s.ranging }
      isFinished := fun i s =>
        let (ranging, finished) := Auton.getAngle.isFinished i.sight s.ranging
        ({ s with ranging }, finished)
      finish := fun i => Shooting.endGetAngle p i.elevationAtEnd.toInt
      interrupted := fun i => Shooting.endGetAngle p i.elevationAtEnd.toInt }
  | .deadeyeAzimuth =>
    (Member.ofCommand (Auton.command p.platform)).lift Shooting.aiming
      (fun aiming s => { s with aiming }) Reads.azimuth
  | .setElevation =>
    { init := fun _ => Shooting.initElevation
      execute := fun _ s => s
      isFinished := fun i => Shooting.elevationFinished i.elevation
      finish := fun _ s => (s, false)
      interrupted := fun _ s => (s, false) }
  | .setWheel =>
    { init := fun _ => Shooting.initWheel
      execute := fun _ s => s
      isFinished := fun i => Shooting.wheelFinished i.speed
      finish := fun _ s => (s, false)
      interrupted := fun _ s => (s, false) }
  | .startHopper => instantMember fun s => { s with hopper := s.hopper.start s.solution.hopperVoltage }

/-- `givesUp` tells whether a wait given ten seconds ends with them. -/
def crew (p : Parameters) (givesUp : Bool) : Crew Shooting Reads ShootingCommand where
  member := ShootingCommand.member p
  conflicts := ShootingCommand.conflicts
  expired i := givesUp && i.timeUp

def startShooting : List (Entry ShootingCommand) :=
  [.sequential .enableCamera, .sequential (.shooterLED true), .sequential .setShooter,
    .parallel .getAngle, .parallel .deadeyeAzimuth, .waitForChildren,
    .parallel .setElevation, .parallel .setWheel, .waitForChildren,
    .sequential .startHopper, .sequential (.shooterLED false)]

abbrev ShootingState := Library.Group.State Shooting ShootingCommand

abbrev ShootingEvent := Library.Group.Event Shooting Reads

/-- One event, for the sequence as this library runs groups. -/
def shootingStep (runner : Runner) (p : Parameters) (givesUp : Bool) :
    ShootingState → ShootingEvent → ShootingState :=
  runner.next (crew p givesUp) startShooting

end Steamworks.Shooter
