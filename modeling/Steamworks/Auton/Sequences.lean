import Steamworks.Gear.Indicator
import Steamworks.Library.Custody
import Steamworks.Shooter.Sequence

/-! The autonomous sequences. Each drives, turns and places a gear in its own order,
with the gear staged and the shooter spun up beside, and most end by shooting. -/
namespace Steamworks.Auton
open Gyro Library.Group Shooter

/-- The commands of the sequences. Those that drive are numbered objects, given as
they were constructed. -/
inductive AutonStep where
  | log
  | wait (seconds : ℚ)
  | enableCamera (camera : Vision.Camera)
  | gearLED (enabled : Bool)
  | setShooter (speed : Int32) (elevation : ℤ)
  | startIntake
  | stageGear
  | releaseGear
  | startShooting (aiming : DeadeyeAzimuth ℚ)
  | drive (object : ℕ) (c : Drive ℚ)
  | gyroAzimuth (object : ℕ) (c : GyroAzimuth ℚ)
  | placeGear (object : ℕ) (c : PlaceGear ℚ)

/-- A group requires what its commands require. -/
def AutonStep.requires : AutonStep → List Subsystem
  | .startIntake => [.intake]
  | .stageGear | .releaseGear => [.gearLoader]
  | .startShooting _ => [.shooterElevation, .drive, .shooterWheel, .hopper]
  | .drive _ _ | .gyroAzimuth _ _ | .placeGear _ _ => [.drive]
  | .log | .wait _ | .enableCamera _ | .gearLED _ | .setShooter _ _ => []

def AutonStep.conflicts (step other : AutonStep) : Bool :=
  step.requires.any fun subsystem => other.requires.contains subsystem

structure Intake where
  voltage : ℚ
  talon : Talon ℚ

namespace Intake

def start (s : Intake) : Intake := { s with talon := s.talon.set s.voltage }

def stop (s : Intake) : Intake := { s with talon := s.talon.stopMotor }

end Intake

/-- What the sequences read and write: the drive is the one `StartShooting` aims with. -/
structure Autonomous where
  shooting : ShootingState
  objects : ℕ → AutonCommand ℚ
  staging : Library.Group.State (Gear.Loading ℚ) Gear.GearCommand
  intake : Intake
  gearLight : Bool

/-- The readings of one tick, and how long a wait under way has lasted. -/
structure AutonReads where
  driving : Readings ℚ
  shooting : Reads
  gear : Gear.Sensors
  intakeSpeedAtInit : ℤ
  intakeSpeedAtExecute : ℤ
  intakeSpeedAtEnd : ℤ
  waited : ℚ

namespace Autonomous

def drive (s : Autonomous) : Swerve.SwerveDrive ℚ := s.shooting.resource.aiming.drive

def onShooter (operation : Shooting → Shooting) (s : Autonomous) : Autonomous :=
  { s with shooting := { s.shooting with resource := operation s.shooting.resource } }

def construct (object : ℕ) (c : AutonCommand ℚ) (s : Autonomous) : Autonomous :=
  { s with objects := Function.update s.objects object c }

/-- A driving command with the drive. -/
def activity (object : ℕ) (s : Autonomous) : Activity ℚ :=
  { s.shooting.resource.aiming with command := s.objects object }

def putActivity (object : ℕ) (a : Activity ℚ) (s : Autonomous) : Autonomous :=
  (s.construct object a.command).onShooter fun shooting =>
    { shooting with aiming := { shooting.aiming with drive := a.drive } }

end Autonomous

/-- A command that is constructed with its group, so before it is set up. -/
def constructed (construct : Autonomous → Autonomous) (m : Member Autonomous AutonReads) :
    Member Autonomous AutonReads :=
  { m with init := fun i s => m.init i (construct s) }

/-- `Drive`, `GyroAzimuth` and `PlaceGear`. -/
def driving (p : Parameters) (object : ℕ) (c : AutonCommand ℚ) : Member Autonomous AutonReads :=
  constructed (Autonomous.construct object c)
    ((Member.ofCommand (command p.platform)).lift (Autonomous.activity object)
      (Autonomous.putActivity object) AutonReads.driving)

def startIntakeMember : Member Autonomous AutonReads where
  init i s := if i.intakeSpeedAtInit < 0 then { s with intake := s.intake.stop } else s
  execute i s := if 0 ≤ i.intakeSpeedAtExecute then { s with intake := s.intake.start } else s
  isFinished i s := (s, 6600 < i.intakeSpeedAtEnd)
  finish _ s := (s, false)
  interrupted _ s := (s, false)

/-- All commands of the gear require its loader. -/
def gearCrew : Crew (Gear.Loading ℚ) Gear.Sensors Gear.GearCommand where
  member c := .ofCommand c.behaviour
  conflicts _ _ := true
  expired _ := false

def AutonStep.member (runner : Runner) (p : Parameters) (givesUp : Bool) :
    AutonStep → Member Autonomous AutonReads
  | .log => instantMember id
  | .wait seconds => { instantMember id with isFinished := fun i s => (s, seconds ≤ i.waited) }
  | .enableCamera camera =>
    instantMember (Autonomous.onShooter fun s =>
      { s with toJetson := s.toJetson ++ [Vision.enableCamera camera] })
  | .gearLED enabled => instantMember fun s => { s with gearLight := enabled }
  | .setShooter speed elevation =>
    instantMember (Autonomous.onShooter (Shooting.setShooter speed elevation))
  | .startIntake => startIntakeMember
  | .stageGear =>
    (runner.asMember gearCrew (Gear.Activated.stageGear.commands.map Entry.sequential)).lift
      Autonomous.staging (fun staging s => { s with staging }) AutonReads.gear
  | .releaseGear =>
    (Member.ofCommand Gear.GearCommand.releaseGear.behaviour).lift
      (fun s => s.staging.resource)
      (fun resource s => { s with staging := { s.staging with resource } }) AutonReads.gear
  | .startShooting aiming =>
    constructed (Autonomous.onShooter fun s =>
        { s with aiming := { s.aiming with command := .deadeyeAzimuth aiming } })
      ((runner.asMember (crew p givesUp) Shooter.startShooting).lift Autonomous.shooting
        (fun shooting s => { s with shooting }) AutonReads.shooting)
  | .drive object c => driving p object (.drive c)
  | .gyroAzimuth object c => driving p object (.gyroAzimuth c)
  | .placeGear object c => driving p object (.placeGear c)

def autonCrew (runner : Runner) (p : Parameters) (givesUp : Bool) :
    Crew Autonomous AutonReads AutonStep where
  member := AutonStep.member runner p givesUp
  conflicts := AutonStep.conflicts
  expired _ := false

/-- What the members hold that a constructor leaves. -/
structure Memory where
  drive : Drive ℚ
  gyroAzimuth : GyroAzimuth ℚ
  deadeyeAzimuth : DeadeyeAzimuth ℚ
  placeGear : PlaceGear ℚ

/-- What the constructors of a sequence find: which robot it is, and the memory. -/
structure Site where
  practice : Bool
  memory : Memory

namespace Site
variable (site : Site)

def kTicksPerInch : ℚ := 50.72

def newDrive (object : ℕ) (config : DriveConfig ℚ) : AutonStep :=
  .drive object { site.memory.drive with
    config, segmentEndDistance := 0, stableCount := 0, zeroCount := 0 }

def newGyroAzimuth (object : ℕ) (target : ℚ) : AutonStep :=
  .gyroAzimuth object { site.memory.gyroAzimuth with target, stableCount := 0 }

def newPlaceGear (object : ℕ) (position : Lift) : AutonStep :=
  .placeGear object (.construct site.practice position site.memory.placeGear)

def newStartShooting : AutonStep :=
  .startShooting { site.memory.deadeyeAzimuth with stableCount := 0 }

/-- Into the hopper, along the wall, and out to shoot. -/
def hopperDump (starting : List (Entry AutonStep)) (angle outwards inwards : ℚ)
    (along strafed target : ℚ) : List (Entry AutonStep) :=
  let out : DriveConfig ℚ :=
    { minSpeed := 40, maxSpeed := 400, acceleration := 300, deacceleration := 10000
      closeEnough := 10 * kTicksPerInch
      segments := [⟨angle, outwards * kTicksPerInch⟩, ⟨180, inwards * kTicksPerInch⟩]
      nonempty := by simp }
  let strafe : DriveConfig ℚ := { out with
    maxSpeed := 200, acceleration := 100, deacceleration := 10000, closeEnough := 25
    segments := [⟨along, strafed * kTicksPerInch⟩, ⟨180, 50 * kTicksPerInch⟩]
    nonempty := by simp }
  let away : DriveConfig ℚ := { strafe with
    maxSpeed := 400, acceleration := 200, deacceleration := 60
    segments := [⟨0, 16 * kTicksPerInch⟩], nonempty := by simp }
  [.sequential .log, .sequential (.enableCamera .boiler), .sequential (site.newDrive 0 out)] ++
    starting ++
    [.sequential (site.newDrive 1 strafe), .parallel (.setShooter 440 2000),
      .sequential (site.newDrive 2 away), .sequential (site.newGyroAzimuth 3 target),
      .parallel site.newStartShooting, .sequential (.wait 4), .parallel .startIntake,
      .parallel .stageGear]

def sequence01 : List (Entry AutonStep) := site.hopperDump [] (-100) 68 34 90 8 107

def sequence02 : List (Entry AutonStep) :=
  site.hopperDump [.sequential .log] 100 72 (if site.practice then 37 else 34) (-90) 4 (-90)

/-- A test that drives nowhere. -/
def sequence03 : List (Entry AutonStep) := [.sequential .log]

def sequence04 : List (Entry AutonStep) :=
  let out : DriveConfig ℚ :=
    { minSpeed := 40, maxSpeed := 400, acceleration := 400, deacceleration := 10000
      closeEnough := 10 * kTicksPerInch
      segments := [⟨-180, 68 * kTicksPerInch⟩], nonempty := by simp }
  [.sequential .log, .sequential .log, .parallel (.setShooter 440 2000),
    .sequential (site.newDrive 0 out), .sequential (site.newGyroAzimuth 1 40),
    .parallel site.newStartShooting, .sequential (.wait 4), .sequential .stageGear]

def sequence05 : List (Entry AutonStep) := [.sequential .log]

/-- How the sequences that place a gear begin. -/
def gearStaged : List (Entry AutonStep) :=
  [.sequential (.enableCamera .gear), .sequential .log, .parallel .stageGear,
    .parallel (.gearLED true)]

def gearPlaced (object : ℕ) (position : Lift) : List (Entry AutonStep) :=
  [.sequential (site.newPlaceGear object position), .parallel .releaseGear,
    .parallel (.gearLED false)]

def centerGear (angle target : ℚ) : List (Entry AutonStep) :=
  let out : DriveConfig ℚ :=
    { minSpeed := 40, maxSpeed := 200, acceleration := 200, deacceleration := 40, closeEnough := 25
      segments := [⟨-180, 50 * kTicksPerInch⟩], nonempty := by simp }
  let back : DriveConfig ℚ := { out with
    maxSpeed := 200
    segments := [⟨0, 14 * kTicksPerInch⟩, ⟨angle, 39 * kTicksPerInch⟩], nonempty := by simp }
  gearStaged ++ [.sequential (site.newDrive 0 out)] ++ site.gearPlaced 1 .center ++
    [.parallel (.setShooter 500 3400), .sequential (site.newDrive 2 back),
      .sequential (site.newGyroAzimuth 3 target), .parallel site.newStartShooting]

def sequence06 : List (Entry AutonStep) := site.centerGear 20 70

def sequence07 : List (Entry AutonStep) := site.centerGear (-50) (-60)

/-- A gear on the side of the boiler, and a shot from there. -/
def nearGear (straight aside : ℚ) (position : Lift) (facing backwards target : ℚ) :
    List (Entry AutonStep) :=
  let out : DriveConfig ℚ :=
    { minSpeed := 40, maxSpeed := 300, acceleration := 200, deacceleration := 40, closeEnough := 25
      segments := [⟨straight, 47 * kTicksPerInch⟩, ⟨aside, 47 * kTicksPerInch⟩]
      nonempty := by simp }
  let back : DriveConfig ℚ := { out with
    maxSpeed := 200, segments := [⟨facing, backwards * kTicksPerInch⟩], nonempty := by simp }
  gearStaged ++ [.sequential (site.newDrive 0 out), .sequential (site.newGyroAzimuth 1 facing)] ++
    site.gearPlaced 2 position ++
    [.parallel (.enableCamera .boiler), .parallel (.setShooter 500 3400),
      .sequential (site.newDrive 3 back), .sequential (site.newGyroAzimuth 4 target),
      .sequential site.newStartShooting]

def sequence08 : List (Entry AutonStep) := site.nearGear 180 170 .left 60 30 40

def sequence0C : List (Entry AutonStep) := site.nearGear (-180) (-170) .right (-60) 20 (-35)

/-- The way out of the sequences that place a gear on the far side. -/
def farOut : DriveConfig ℚ where
  minSpeed := 40
  maxSpeed := 400
  acceleration := 200
  deacceleration := 60
  closeEnough := 25
  segments := [⟨180, 96 * kTicksPerInch⟩]
  nonempty := by simp

def farPlaced (position : Lift) (facing : ℚ) : List (Entry AutonStep) :=
  gearStaged ++ [.sequential (site.newDrive 0 farOut), .sequential (site.newGyroAzimuth 1 facing)] ++
    site.gearPlaced 2 position

/-- A gear on the far side, and a shot from there. -/
def farGear (position : Lift) (facing aside target : ℚ) : List (Entry AutonStep) :=
  let back : DriveConfig ℚ := { farOut with
    maxSpeed := 400
    segments := [⟨facing, 28 * kTicksPerInch⟩, ⟨aside, 18 * kTicksPerInch⟩], nonempty := by simp }
  site.farPlaced position facing ++
    [.parallel (.setShooter 500 5400), .sequential (site.newDrive 3 back),
      .sequential (site.newGyroAzimuth 4 target), .sequential site.newStartShooting]

def sequence09 : List (Entry AutonStep) := site.farGear .right (-60) 35 70

def sequence0E : List (Entry AutonStep) := site.farGear .left 60 (-35) (-70)

def farBack (facing : ℚ) : DriveConfig ℚ :=
  { farOut with
    maxSpeed := 400, segments := [⟨facing, 24 * kTicksPerInch⟩], nonempty := by simp }

/-- A gear on the far side, and down the field. -/
def gearAndField (position : Lift) (facing : ℚ) : List (Entry AutonStep) :=
  let down : DriveConfig ℚ := { farBack facing with
    segments := [⟨-180, 24 * 12 * kTicksPerInch⟩], nonempty := by simp }
  site.farPlaced position facing ++
    [.sequential (site.newDrive 3 (farBack facing)), .sequential (site.newGyroAzimuth 4 90),
      .sequential (site.newDrive 5 down)]

def sequence0A : List (Entry AutonStep) := site.gearAndField .right (-60)

def sequence0B : List (Entry AutonStep) := site.gearAndField .left 60

def sequence0D : List (Entry AutonStep) :=
  let down : DriveConfig ℚ := { farBack (-60) with
    maxSpeed := 600
    segments := [⟨-140, 127 * kTicksPerInch⟩, ⟨150, 16 * kTicksPerInch⟩,
      ⟨180, 16 * 12 * kTicksPerInch⟩]
    nonempty := by simp }
  let into : DriveConfig ℚ := { down with
    maxSpeed := 400, segments := [⟨-90, 24 * kTicksPerInch⟩], nonempty := by simp }
  site.farPlaced .right (-60) ++
    [.sequential (site.newDrive 3 (farBack (-60))), .sequential (site.newGyroAzimuth 4 0),
      .sequential (site.newDrive 5 down), .sequential (site.newGyroAzimuth 6 90),
      .sequential (site.newDrive 7 into)]

/-- The mode switch of `AutonomousInit`. -/
def autonomousCommand : ℕ → List (Entry AutonStep)
  | 1 => site.sequence01
  | 2 => site.sequence02
  | 3 => sequence03
  | 4 => site.sequence04
  | 5 => sequence05
  | 6 => site.sequence06
  | 7 => site.sequence07
  | 8 => site.sequence08
  | 9 => site.sequence09
  | 10 => site.sequence0A
  | 11 => site.sequence0B
  | 12 => site.sequence0C
  | 13 => site.sequence0D
  | 14 => site.sequence0E
  | _ => [.sequential .log]

end Site
end Steamworks.Auton
