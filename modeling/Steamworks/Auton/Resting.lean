import Steamworks.Auton.Sequences
import Steamworks.Shooter.Feeding

/-! The drive in an autonomous sequence. One command drives at a time; while none
does the drive was stopped, however the sequence ended, unless that was while it
placed the gear, and then alone the gyro is off. -/
namespace Steamworks.Auton
open Library.Group Library.Group.Custody Library.Run Shooter Swerve

inductive Kind where
  | drive
  | gyroAzimuth
  | deadeyeAzimuth
  | timedAzimuth
  | placeGear
  | driveZero
  deriving DecidableEq

def AutonCommand.kind {K : Type*} : AutonCommand K → Kind
  | .drive _ => .drive
  | .gyroAzimuth _ => .gyroAzimuth
  | .deadeyeAzimuth _ => .deadeyeAzimuth
  | .timedAzimuth _ => .timedAzimuth
  | .placeGear _ => .placeGear
  | .driveZero => .driveZero

/-- The command's end sends the drive a zero. -/
def Kind.stops : Kind → Bool
  | .drive | .gyroAzimuth | .deadeyeAzimuth => true
  | .timedAzimuth | .placeGear | .driveZero => false

section Commands
variable {p : Platform ℚ} {r : Readings ℚ} {a : Activity ℚ}

theorem gyroDisabled_drive_ (libm : Libm ℚ) (d : SwerveDrive ℚ) (forward strafe azimuth deadZone : ℚ) :
    (d.drive_ libm forward strafe azimuth deadZone).gyroDisabled = d.gyroDisabled := by
  unfold SwerveDrive.drive_
  split_ifs <;> rfl

theorem gyroDisabled_driveField (libm : Libm ℚ) (d : SwerveDrive ℚ) (heading : Heading ℚ)
    (forward strafe azimuth deadZone : ℚ) :
    (d.driveField libm heading forward strafe azimuth deadZone).gyroDisabled = d.gyroDisabled := by
  unfold SwerveDrive.driveField
  split_ifs <;> exact gyroDisabled_drive_ ..

theorem kind_init : (a.init p r).command.kind = a.command.kind := by
  unfold Activity.init
  split <;> simp_all [AutonCommand.kind]

theorem kind_execute : (a.execute p r).command.kind = a.command.kind := by
  unfold Activity.execute
  split <;> simp_all [AutonCommand.kind]

theorem kind_isFinished : (a.isFinished r).1.command.kind = a.command.kind := by
  unfold Activity.isFinished
  split <;> simp_all [AutonCommand.kind]

theorem drive_isFinished : (a.isFinished r).1.drive = a.drive := by
  unfold Activity.isFinished
  split <;> rfl

theorem gyroDisabled_init :
    (a.init p r).drive.gyroDisabled = (a.command.kind == .placeGear || a.drive.gyroDisabled) := by
  unfold Activity.init
  split <;> rename_i command
  · rw [command]
    rfl
  · rw [command]
    rfl
  · rw [command]
    exact gyroDisabled_driveField ..
  · rw [command]
    exact gyroDisabled_drive_ ..
  · rw [command]
    rfl
  · rw [command]
    rfl

theorem gyroDisabled_execute : (a.execute p r).drive.gyroDisabled = a.drive.gyroDisabled := by
  unfold Activity.execute
  split
  · change (Drive.execute ..).2.gyroDisabled = _
    unfold Drive.execute
    split_ifs
    · rfl
    · exact gyroDisabled_driveField ..
  · exact gyroDisabled_driveField ..
  · change (DeadeyeAzimuth.execute ..).2.gyroDisabled = _
    unfold DeadeyeAzimuth.execute
    dsimp only
    split_ifs <;> exact gyroDisabled_driveField ..
  · change (PlaceGear.execute ..).2.gyroDisabled = _
    unfold PlaceGear.execute
    dsimp only
    split_ifs
    · rfl
    · exact gyroDisabled_driveField ..
  · rfl
  · rfl

theorem finish_stops (stops : a.command.kind.stops = true) :
    (a.finish p).drive = a.drive.setDrive 0 := by
  unfold Activity.finish
  split <;> simp_all [AutonCommand.kind, Kind.stops]

theorem finish_placeGear (places : a.command.kind = .placeGear) :
    (a.finish p).drive = a.drive.setGyroDisabled false := by
  unfold Activity.finish
  split <;> simp_all [AutonCommand.kind]

end Commands

/-- The gyro is in use, if it was at first. -/
def Facing (first d : SwerveDrive ℚ) : Prop := first.gyroDisabled = false → d.gyroDisabled = false

/-- The drive is as it was at first, or was last sent zero. -/
structure Rests (first d : SwerveDrive ℚ) : Prop where
  stopped : d = first ∨ ∀ i, (d.drive i).setpoint = 0
  facing : Facing first d

theorem rests_setDrive {first d : SwerveDrive ℚ} (facing : Facing first d) :
    Rests first (d.setDrive 0) :=
  ⟨.inr fun i => (d.drive i).setpoint_set 0, facing⟩

section Aiming
variable {p : Parameters} {givesUp : Bool} {first : SwerveDrive ℚ} {i : Reads} {begun : Bool}
  {r : Shooting} {c : ShootingCommand}

def Aims (a : Activity ℚ) : Prop := a.command.kind = .deadeyeAzimuth

/-- Within the shooting sequence, `DeadeyeAzimuth` has the drive. -/
def aimingCustody (first : SwerveDrive ℚ) : Custody Shooting ShootingCommand where
  owns c := c == .deadeyeAzimuth
  loose _ := false
  recovers _ := false
  Idle s := Aims s.aiming ∧ Rests first s.aiming.drive
  Loose _ := False
  Under _ s := Aims s.aiming ∧ Facing first s.aiming.drive

theorem initElevation_aiming (r : Shooting) : r.initElevation.aiming = r.aiming := by
  unfold Shooting.initElevation
  split <;> rfl

theorem initWheel_aiming (r : Shooting) : r.initWheel.aiming = r.aiming := by
  unfold Shooting.initWheel
  split <;> rfl

theorem endGetAngle_aiming (elevation : ℤ) (r : Shooting) :
    (r.endGetAngle p elevation).1.aiming = r.aiming := by
  unfold Shooting.endGetAngle
  split <;> rfl

theorem step_aiming (other : c ≠ .deadeyeAzimuth) :
    ((c.member p).step i begun r).1.aiming = r.aiming := by
  cases c with
  | deadeyeAzimuth => exact absurd rfl other
  | setElevation =>
    have finished : ∀ s : Shooting, (s.elevationFinished i.elevation).1.aiming = s.aiming := by
      intro s
      unfold Shooting.elevationFinished
      split <;> rfl
    cases begun with
    | true => exact finished r
    | false => exact (finished _).trans (initElevation_aiming r)
  | setWheel =>
    have finished : ∀ s : Shooting, (s.wheelFinished i.speed).1.aiming = s.aiming := by
      intro s
      unfold Shooting.wheelFinished
      split <;> rfl
    cases begun with
    | true => exact finished r
    | false => exact (finished _).trans (initWheel_aiming r)
  | enableCamera | shooterLED | setShooter | getAngle | startHopper => cases begun <;> rfl

theorem finish_aiming (other : c ≠ .deadeyeAzimuth) :
    ((c.member p).finish i r).1.aiming = r.aiming := by
  cases c with
  | deadeyeAzimuth => exact absurd rfl other
  | getAngle => exact endGetAngle_aiming _ r
  | enableCamera | shooterLED | setShooter | setElevation | setWheel | startHopper => rfl

theorem interrupted_aiming (other : c ≠ .deadeyeAzimuth) :
    ((c.member p).interrupted i r).1.aiming = r.aiming := by
  cases c with
  | deadeyeAzimuth => exact absurd rfl other
  | getAngle => exact endGetAngle_aiming _ r
  | enableCamera | shooterLED | setShooter | setElevation | setWheel | startHopper => rfl

theorem leaves_of_aiming {t : Shooting} (same : t.aiming = r.aiming) :
    (aimingCustody first).Leaves r t := by
  constructor
  · intro idle
    change Aims t.aiming ∧ Rests first t.aiming.drive
    rw [same]
    exact idle
  · exact id
  · intro c under
    change Aims t.aiming ∧ Facing first t.aiming.drive
    rw [same]
    exact under

theorem deadeyeAzimuth_step (p : Parameters) (i : Reads) (begun : Bool) (aims : Aims r.aiming)
    (facing : Facing first r.aiming.drive) :
    Aims ((ShootingCommand.deadeyeAzimuth.member p).step i begun r).1.aiming ∧
      Facing first ((ShootingCommand.deadeyeAzimuth.member p).step i begun r).1.aiming.drive := by
  have steps : ∀ a : Activity ℚ, Aims a → Facing first a.drive →
      Aims ((a.execute p.platform i.azimuth).isFinished i.azimuth).1 ∧
        Facing first ((a.execute p.platform i.azimuth).isFinished i.azimuth).1.drive := by
    intro a aims facing
    constructor
    · exact (kind_isFinished.trans kind_execute).trans aims
    · intro enabled
      rw [drive_isFinished, gyroDisabled_execute]
      exact facing enabled
  cases begun with
  | true => exact steps r.aiming aims facing
  | false =>
    refine steps (r.aiming.init p.platform i.azimuth) (kind_init.trans aims) fun enabled => ?_
    rw [gyroDisabled_init, show r.aiming.command.kind = _ from aims]
    exact facing enabled

theorem deadeyeAzimuth_finish (aims : Aims r.aiming) (facing : Facing first r.aiming.drive) :
    Aims (r.aiming.finish p.platform) ∧ Rests first (r.aiming.finish p.platform).drive := by
  constructor
  · change (Activity.finish p.platform r.aiming).command.kind = _
    unfold Activity.finish
    split <;> exact aims
  · rw [finish_stops (by rw [show r.aiming.command.kind = _ from aims]; rfl)]
    exact rests_setDrive facing

theorem aiming_observed (givesUp : Bool) : (aimingCustody first).Observed (crew p givesUp) := by
  have other : ∀ {c : ShootingCommand}, (aimingCustody first).owns c = false → c ≠ .deadeyeAzimuth :=
    fun own => by simpa [aimingCustody] using own
  have one : ∀ {c : ShootingCommand}, (aimingCustody first).owns c = true → c = .deadeyeAzimuth :=
    fun own => by simpa [aimingCustody] using own
  have steps : ∀ (i : Reads) (begun : Bool) (r : Shooting), Aims r.aiming → Facing first r.aiming.drive →
      (aimingCustody first).Stepped (crew p givesUp) .deadeyeAzimuth i
        ((ShootingCommand.deadeyeAzimuth.member p).step i begun r) := by
    intro i begun r aims facing
    obtain ⟨aimsNext, facingNext⟩ := deadeyeAzimuth_step p i begun aims facing
    exact ⟨fun _ => ⟨aimsNext, facingNext⟩, fun _ => .inl (deadeyeAzimuth_finish aimsNext facingNext)⟩
  constructor
  · intro c d own owned
    rw [one own, one owned]
    rfl
  · exact fun c own i begun r => leaves_of_aiming (step_aiming (other own))
  · exact fun c own i r => leaves_of_aiming (finish_aiming (other own))
  · exact fun c own i r => leaves_of_aiming (interrupted_aiming (other own))
  · rintro c own i r (⟨aims, rests⟩ | ⟨loose, -⟩)
    · rw [one own]
      exact steps i false r aims rests.facing
    · cases loose
  · rintro c own i r ⟨aims, facing⟩
    rw [one own]
    exact steps i true r aims facing
  · rintro c own i r ⟨aims, facing⟩
    rw [one own]
    exact .inl (deadeyeAzimuth_finish aims facing)


theorem steady_of_aiming {s t : ShootingState} (steady : (aimingCustody first).Steady s)
    (same : t.resource.aiming = s.resource.aiming)
    (frame : t = { s with resource := t.resource }) : (aimingCustody first).Steady t := by
  rw [frame]
  obtain ⟨covered, firm, sole, kept, stepped⟩ := steady
  exact ⟨covered, firm, sole, kept.leaves (leaves_of_aiming same) fun _ _ => Iff.rfl, stepped⟩

end Aiming

section Driving
variable {runner : Runner} {p : Parameters} {givesUp : Bool} {first : SwerveDrive ℚ} {i : AutonReads}
  {begun : Bool} {object : ℕ} {c : AutonCommand ℚ} {s t : Autonomous} {step : AutonStep}

/-- What drives, by itself or with a command of its own. -/
def AutonStep.drives : AutonStep → Bool
  | .startShooting _ | .drive _ _ | .gyroAzimuth _ _ | .placeGear _ _ => true
  | .log | .wait _ | .enableCamera _ | .gearLED _ | .setShooter _ _ | .startIntake | .stageGear
  | .releaseGear => false

def AutonStep.placesGear : AutonStep → Bool
  | .placeGear _ _ => true
  | _ => false

/-- The commands of a sequence take the drive as the last one left it, but for the
shooting sequence, which has it at rest. -/
def driveCustody (first : SwerveDrive ℚ) : Custody Autonomous AutonStep where
  owns := AutonStep.drives
  loose := AutonStep.placesGear
  recovers
    | .drive _ _ | .gyroAzimuth _ _ | .placeGear _ _ => true
    | _ => false
  Idle s := Rests first s.drive
  Loose s := Facing first s.drive
  Under
    | .drive object _, s => (s.objects object).kind = .drive ∧ Facing first s.drive
    | .gyroAzimuth object _, s => (s.objects object).kind = .gyroAzimuth ∧ Facing first s.drive
    | .placeGear object _, s => (s.objects object).kind = .placeGear ∧ s.drive.gyroDisabled = true
    | .startShooting _, s => s.shooting.running = true ∧ (aimingCustody first).Steady s.shooting
    | _, _ => False

/-- Everything a command has that drives stays as it is. -/
structure Apart (s t : Autonomous) : Prop where
  objects : t.objects = s.objects
  aiming : t.shooting.resource.aiming = s.shooting.resource.aiming
  frame : t.shooting = { s.shooting with resource := t.shooting.resource }

theorem Apart.leaves (apart : Apart s t) : (driveCustody first).Leaves s t := by
  have drive : t.drive = s.drive := congrArg Activity.drive apart.aiming
  constructor
  · intro idle
    change Rests first t.drive
    rw [drive]
    exact idle
  · intro loose
    change Facing first t.drive
    rw [drive]
    exact loose
  · intro step under
    cases step with
    | startShooting =>
      refine ⟨?_, steady_of_aiming under.2 apart.aiming apart.frame⟩
      rw [apart.frame]
      exact under.1
    | drive object | gyroAzimuth object =>
      change (t.objects object).kind = _ ∧ Facing first t.drive
      rw [apart.objects, drive]
      exact under
    | placeGear object =>
      change (t.objects object).kind = _ ∧ t.drive.gyroDisabled = true
      rw [apart.objects, drive]
      exact under
    | _ => cases under

theorem step_apart (own : step.drives = false) :
    Apart s ((step.member runner p givesUp).step i begun s).1 := by
  cases step with
  | startShooting | drive | gyroAzimuth | placeGear => cases own
  | startIntake =>
    change Apart s (startIntakeMember.step i begun s).1
    cases begun <;> unfold startIntakeMember Member.step <;> dsimp only <;> split_ifs <;>
      exact ⟨rfl, rfl, rfl⟩
  | log | wait | enableCamera | gearLED | setShooter | stageGear | releaseGear =>
    cases begun <;> exact ⟨rfl, rfl, rfl⟩

theorem finish_apart (own : step.drives = false) :
    Apart s ((step.member runner p givesUp).finish i s).1 := by
  cases step with
  | startShooting | drive | gyroAzimuth | placeGear => cases own
  | log | wait | enableCamera | gearLED | setShooter | startIntake | stageGear | releaseGear =>
    exact ⟨rfl, rfl, rfl⟩

theorem interrupted_apart (own : step.drives = false) :
    Apart s ((step.member runner p givesUp).interrupted i s).1 := by
  cases step with
  | startShooting | drive | gyroAzimuth | placeGear => cases own
  | log | wait | enableCamera | gearLED | setShooter | startIntake | stageGear | releaseGear =>
    exact ⟨rfl, rfl, rfl⟩

@[simp] theorem objects_putActivity (a : Activity ℚ) :
    (s.putActivity object a).objects object = a.command := Function.update_self ..

@[simp] theorem drive_putActivity (a : Activity ℚ) : (s.putActivity object a).drive = a.drive := rfl

@[simp] theorem command_activity : (s.activity object).command = s.objects object := rfl

@[simp] theorem drive_activity : (s.activity object).drive = s.drive := rfl

section
variable (p : Parameters) (object : ℕ) (c : AutonCommand ℚ) (i : AutonReads) (begun : Bool)

/-- A step of a driving command keeps which one it is, and the gyro in use, but
placing the gear takes it out of use first. -/
theorem driving_step (s : Autonomous) :
    (((driving p object c).step i begun s).1.objects object).kind =
        (if begun then (s.objects object).kind else c.kind) ∧
      ((driving p object c).step i begun s).1.drive.gyroDisabled =
        (!begun && c.kind == .placeGear || s.drive.gyroDisabled) := by
  have steps : ∀ s : Autonomous,
      (((driving p object c).step i true s).1.objects object).kind = (s.objects object).kind ∧
        ((driving p object c).step i true s).1.drive.gyroDisabled = s.drive.gyroDisabled := by
    intro s
    let mid := s.putActivity object ((s.activity object).execute p.platform i.driving)
    change ((mid.putActivity object ((mid.activity object).isFinished i.driving).1).objects
        object).kind = _ ∧
      (mid.putActivity object ((mid.activity object).isFinished i.driving).1).drive.gyroDisabled = _
    rw [objects_putActivity, drive_putActivity, kind_isFinished, drive_isFinished, command_activity,
      drive_activity, objects_putActivity, drive_putActivity, kind_execute, gyroDisabled_execute]
    exact ⟨rfl, rfl⟩
  cases begun with
  | true => exact steps s
  | false =>
    let made := s.construct object c
    let set := made.putActivity object ((made.activity object).init p.platform i.driving)
    have same : (made.activity object).command = c := Function.update_self ..
    obtain ⟨kind, gyro⟩ := steps set
    change _ = _ at kind gyro
    rw [objects_putActivity, kind_init, same] at kind
    rw [drive_putActivity, gyroDisabled_init, same] at gyro
    exact ⟨kind, gyro⟩

theorem driving_finish (stops : (s.objects object).kind.stops = true) (facing : Facing first s.drive) :
    Rests first ((driving p object c).finish i s).1.drive := by
  change Rests first ((s.activity object).finish p.platform).drive
  rw [finish_stops stops]
  exact rests_setDrive facing

theorem driving_releases (places : (s.objects object).kind = .placeGear) :
    Facing first ((driving p object c).finish i s).1.drive := by
  change Facing first ((s.activity object).finish p.platform).drive
  rw [finish_placeGear places]
  exact fun _ => rfl

/-- Driving by segments and turning by the gyro, on any drive. -/
theorem driving_holds {k : Kind} (stops : k.stops = true)
    (kind : (if begun then (s.objects object).kind else c.kind) = k) (facing : Facing first s.drive) :
    (((driving p object c).step i begun s).1.objects object).kind = k ∧
      Facing first ((driving p object c).step i begun s).1.drive ∧
      Rests first ((driving p object c).finish i ((driving p object c).step i begun s).1).1.drive := by
  obtain ⟨kindNext, gyro⟩ := driving_step p object c i begun s
  rw [kind] at kindNext
  have facingNext : Facing first ((driving p object c).step i begun s).1.drive := by
    intro enabled
    rw [gyro, facing enabled, Bool.or_false]
    cases begun with
    | true => rfl
    | false =>
      rw [show c.kind = k from kind]
      cases k <;> first | rfl | cases stops
  exact ⟨kindNext, facingNext, driving_finish p object c i (by rw [kindNext, stops]) facingNext⟩

theorem placing_holds (first : SwerveDrive ℚ)
    (kind : (if begun then (s.objects object).kind else c.kind) = .placeGear)
    (disabled : begun = true → s.drive.gyroDisabled = true) :
    (((driving p object c).step i begun s).1.objects object).kind = .placeGear ∧
      ((driving p object c).step i begun s).1.drive.gyroDisabled = true ∧
      Facing first
        ((driving p object c).finish i ((driving p object c).step i begun s).1).1.drive := by
  obtain ⟨kindNext, gyro⟩ := driving_step p object c i begun s
  rw [kind] at kindNext
  refine ⟨kindNext, ?_, driving_releases p object c i kindNext⟩
  rw [gyro]
  cases begun with
  | true => exact disabled rfl
  | false =>
    rw [show c.kind = _ from kind]
    rfl

/-- A signal to the shooting sequence, while it runs with the drive. -/
theorem shooting_signal (lawful : runner.Lawful) (givesUp : Bool) (signal : Signal Reads)
    {inner : ShootingState} (running : inner.running = true)
    (steady : (aimingCustody first).Steady inner) :
    ((runner.signal (crew p givesUp) inner signal).running = true →
        (aimingCustody first).Steady (runner.signal (crew p givesUp) inner signal)) ∧
      ((runner.signal (crew p givesUp) inner signal).running = false →
        Rests first (runner.signal (crew p givesUp) inner signal).resource.aiming.drive) := by
  obtain ⟨goes, ends⟩ := steady.signal (aiming_observed (p := p) givesUp) lawful running signal
  refine ⟨goes, fun ended => ?_⟩
  rcases ends ended with idle | ⟨c, -, loose, -⟩
  · exact idle.2
  · cases loose

theorem interrupt_ends (lawful : runner.Lawful) (givesUp : Bool) (inner : ShootingState)
    (input : Reads) : (runner.signal (crew p givesUp) inner (.interrupt input)).running = false := by
  cases running : inner.running with
  | true => exact (lawful.interrupts _ inner input running).running
  | false => rw [lawful.rests _ inner _ running, running]

theorem shooting_holds (lawful : runner.Lawful) (givesUp : Bool) (aiming : DeadeyeAzimuth ℚ)
    (ready : if begun then s.shooting.running = true ∧ (aimingCustody first).Steady s.shooting
      else Rests first s.drive) :
    let m := (AutonStep.startShooting aiming).member runner p givesUp
    ((m.step i begun s).2 = false → (m.step i begun s).1.shooting.running = true ∧
      (aimingCustody first).Steady (m.step i begun s).1.shooting) ∧
    ((m.step i begun s).2 = true → Rests first (m.finish i (m.step i begun s).1).1.drive) := by
  intro m
  have given : ∃ inner : ShootingState, inner.running = true ∧
      (aimingCustody first).Steady inner ∧
      (m.step i begun s).1.shooting = runner.signal (crew p givesUp) inner (.tick i.shooting) ∧
      (m.step i begun s).2 = !(m.step i begun s).1.shooting.running := by
    cases begun with
    | true => exact ⟨s.shooting, ready.1, ready.2, rfl, rfl⟩
    | false =>
      let r : Shooting :=
        { s.shooting.resource with
          aiming := { s.shooting.resource.aiming with command := .deadeyeAzimuth aiming } }
      have idle : (aimingCustody first).Idle r := ⟨rfl, ready⟩
      have fresh : (aimingCustody first).Steady (.begun r Shooter.startShooting) :=
        steady_start idle rfl
      refine ⟨runner.start Shooter.startShooting (.idle r), ?_, ?_, rfl, rfl⟩
      · rw [lawful.starts _ (.idle r) rfl]
        rfl
      · rw [lawful.starts _ (.idle r) rfl]
        exact fresh
  obtain ⟨inner, running, steady, next, finished⟩ := given
  obtain ⟨goes, ends⟩ := shooting_signal p lawful givesUp (.tick i.shooting) running steady
  rw [← next] at goes ends
  refine ⟨fun unfinished => ?_, fun done => ?_⟩
  · have still : (m.step i begun s).1.shooting.running = true := by simpa [finished] using unfinished
    exact ⟨still, goes still⟩
  · have ended : (m.step i begun s).1.shooting.running = false := by simpa [finished] using done
    change Rests first (runner.signal (crew p givesUp) (m.step i begun s).1.shooting
      (.interrupt i.shooting)).resource.aiming.drive
    rw [lawful.rests _ _ _ ended]
    exact ends ended

end

theorem requires_drive (own : step.drives = true) : Subsystem.drive ∈ step.requires := by
  cases step with
  | startShooting | drive | gyroAzimuth | placeGear => simp [AutonStep.requires]
  | log | wait | enableCamera | gearLED | setShooter | startIntake | stageGear | releaseGear =>
    cases own

/-- A step of a command that drives, from the drive as it is given to it. -/
theorem drives_stepped (lawful : runner.Lawful) (p : Parameters) (givesUp : Bool)
    (own : step.drives = true) (i : AutonReads) (begun : Bool) (s : Autonomous)
    (ready : if begun then (driveCustody first).Under step s else (driveCustody first).Idle s ∨
      (driveCustody first).recovers step = true ∧ (driveCustody first).Loose s) :
    (driveCustody first).Stepped (autonCrew runner p givesUp) step i
      ((step.member runner p givesUp).step i begun s) := by
  have facing : begun = false → Facing first s.drive := by
    rintro rfl
    exact ready.elim Rests.facing And.right
  cases step with
  | drive object c =>
    have given : (if begun then (s.objects object).kind else Kind.drive) = .drive ∧
        Facing first s.drive := by
      cases begun with
      | true => exact ready
      | false => exact ⟨rfl, facing rfl⟩
    obtain ⟨kind, facing, rests⟩ := driving_holds p object (.drive c) i begun rfl given.1 given.2
    exact ⟨fun _ => ⟨kind, facing⟩, fun _ => .inl rests⟩
  | gyroAzimuth object c =>
    have given : (if begun then (s.objects object).kind else Kind.gyroAzimuth) = .gyroAzimuth ∧
        Facing first s.drive := by
      cases begun with
      | true => exact ready
      | false => exact ⟨rfl, facing rfl⟩
    obtain ⟨kind, facing, rests⟩ :=
      driving_holds p object (.gyroAzimuth c) i begun rfl given.1 given.2
    exact ⟨fun _ => ⟨kind, facing⟩, fun _ => .inl rests⟩
  | placeGear object c =>
    have given : (if begun then (s.objects object).kind else Kind.placeGear) = .placeGear ∧
        (begun = true → s.drive.gyroDisabled = true) := by
      cases begun with
      | true => exact ready.imp_right fun disabled _ => disabled
      | false => exact ⟨rfl, fun begun => absurd begun Bool.false_ne_true⟩
    obtain ⟨kind, disabled, facing⟩ :=
      placing_holds p object (.placeGear c) i begun first given.1 given.2
    exact ⟨fun _ => ⟨kind, disabled⟩, fun _ => .inr ⟨rfl, facing⟩⟩
  | startShooting aiming =>
    have given : if begun then s.shooting.running = true ∧ (aimingCustody first).Steady s.shooting
        else Rests first s.drive := by
      cases begun with
      | true => exact ready
      | false => exact ready.resolve_right fun loose => absurd loose.1 Bool.false_ne_true
    obtain ⟨goes, rests⟩ := shooting_holds p i begun lawful givesUp aiming given
    exact ⟨goes, fun finished => .inl (rests finished)⟩
  | log | wait | enableCamera | gearLED | setShooter | startIntake | stageGear | releaseGear =>
    cases own

theorem drive_observed (lawful : runner.Lawful) (p : Parameters) (givesUp : Bool) :
    (driveCustody first).Observed (autonCrew runner p givesUp) := by
  constructor
  · intro step other own owned
    exact List.any_eq_true.mpr
      ⟨.drive, requires_drive own, List.contains_iff_mem.mpr (requires_drive owned)⟩
  · exact fun step own i begun s => (step_apart own).leaves
  · exact fun step own i s => (finish_apart own).leaves
  · exact fun step own i s => (interrupted_apart own).leaves
  · exact fun step own i s ready => drives_stepped lawful p givesUp own i false s ready
  · exact fun step own i s under => drives_stepped lawful p givesUp own i true s under
  · intro step own i s under
    cases step with
    | drive object c =>
      obtain ⟨kind, facing⟩ := under
      exact .inl (driving_finish p object (.drive c) i (by rw [kind]; rfl) facing)
    | gyroAzimuth object c =>
      obtain ⟨kind, facing⟩ := under
      exact .inl (driving_finish p object (.gyroAzimuth c) i (by rw [kind]; rfl) facing)
    | placeGear object c =>
      obtain ⟨kind, -⟩ := under
      exact .inr ⟨rfl, driving_releases p object (.placeGear c) i kind⟩
    | startShooting aiming =>
      obtain ⟨running, steady⟩ := under
      exact .inl ((shooting_signal p lawful givesUp (.interrupt i.shooting) running steady).2
        (interrupt_ends p lawful givesUp s.shooting i.shooting))
    | log | wait | enableCamera | gearLED | setShooter | startIntake | stageGear | releaseGear =>
      cases own

end Driving

theorem covered_autonomousCommand (first : SwerveDrive ℚ) (site : Site) (mode : ℕ) :
    (driveCustody first).covered (site.autonomousCommand mode) = true := by
  unfold Site.autonomousCommand
  split <;> rfl

abbrev AutonState := Library.Group.State Autonomous AutonStep

/-- What happens to a sequence that was started, as this library runs groups. -/
def autonStep (runner : Runner) (p : Parameters) (givesUp : Bool) :
    AutonState → Signal AutonReads → AutonState :=
  runner.signal (autonCrew runner p givesUp)

/-- The shooting sequence drives only while it turns to the boiler. -/
def AutonStep.DrivesNow (s : Autonomous) : AutonStep → Prop
  | .startShooting _ => (.deadeyeAzimuth, true) ∈ s.shooting.active
  | .drive _ _ | .gyroAzimuth _ _ | .placeGear _ _ => True
  | .log | .wait _ | .enableCamera _ | .gearLED _ | .setShooter _ _ | .startIntake | .stageGear
  | .releaseGear => False

def PlacingGear (s : AutonState) : Prop := ∃ step, step.placesGear = true ∧ (step, true) ∈ s.active

/-- After a step from a state in which the sequence ran, with what the drive was
as the sequence was started. -/
structure Careful (first : SwerveDrive ℚ) (s t : AutonState) : Prop where
  alone : t.running = true →
    (t.active.map Prod.fst).Pairwise fun step other => ¬(step.drives = true ∧ other.drives = true)
  rests : (t.running = true ∧ ∃ step, (step, true) ∈ t.active ∧ step.DrivesNow t.resource) ∨
    (t.resource.drive = first ∨ ∀ i, (t.resource.drive.drive i).setpoint = 0) ∨
    (t.running = false ∧ PlacingGear s)
  gyro : first.gyroDisabled = false →
    (t.resource.drive.gyroDisabled = true ↔ t.running = true ∧ PlacingGear t)

section
variable {runner : Runner} {p : Parameters} {givesUp : Bool} {first : SwerveDrive ℚ}
  {s t : AutonState}

theorem placing_disabled (steady : (driveCustody first).Steady t) (placing : PlacingGear t) :
    t.resource.drive.gyroDisabled = true := by
  obtain ⟨step, places, member⟩ := placing
  obtain ⟨before, behind, split⟩ := List.append_of_mem member
  have sole := steady.sole
  have kept := steady.kept
  rw [split] at sole kept
  cases step with
  | placeGear object c => exact (Kept.under sole rfl kept rfl).2
  | _ => cases places

/-- While a sequence is under way. -/
theorem careful_of_steady (steady : (driveCustody first).Steady t)
    (ends : t.running = false → t.active = []) : Careful first s t := by
  have running : ∀ a ∈ t.active, t.running = true := by
    intro a member
    rw [← Bool.not_eq_false]
    intro ended
    rw [ends ended] at member
    cases member
  have facing : first.gyroDisabled = false → t.resource.drive.gyroDisabled = true → PlacingGear t := by
    intro enabled disabled
    have astray : ¬Facing first t.resource.drive := fun facing =>
      absurd ((facing enabled).symm.trans disabled) Bool.false_ne_true
    rcases steady.kept with ⟨step, own, member, under⟩ | ⟨-, rests⟩
    · cases step with
      | drive | gyroAzimuth => exact absurd under.2 astray
      | placeGear object c => exact ⟨.placeGear object c, rfl, member⟩
      | startShooting =>
        refine absurd ?_ astray
        rcases under.2.kept with ⟨_, -, -, -, facing⟩ | ⟨-, -, rests⟩
        · exact facing
        · exact rests.facing
      | _ => cases own
    · exact absurd rests.facing astray
  refine ⟨fun _ => steady.sole, ?_, fun enabled => ⟨fun disabled => ?_, fun placing => ?_⟩⟩
  · rcases steady.kept with ⟨step, own, member, under⟩ | ⟨-, rests⟩
    · cases step with
      | startShooting aiming =>
        rcases under.2.kept with ⟨c, deadeye, turning, -⟩ | ⟨-, -, rests⟩
        · obtain rfl : c = .deadeyeAzimuth := by simpa [aimingCustody] using deadeye
          exact .inl ⟨running _ member, .startShooting aiming, member, turning⟩
        · exact .inr (.inl rests.stopped)
      | drive | gyroAzimuth | placeGear => exact .inl ⟨running _ member, _, member, trivial⟩
      | _ => cases own
    · exact .inr (.inl rests.stopped)
  · obtain ⟨step, places, member⟩ := facing enabled disabled
    exact ⟨running _ member, step, places, member⟩
  · exact placing_disabled steady placing.2

theorem careful_closed (lawful : runner.Lawful) (steady : (driveCustody first).Steady s)
    {i : AutonReads} (closed : Closed (autonCrew runner p givesUp) i s t) : Careful first s t := by
  have back : Facing first t.resource.drive ∧
      ((∀ j, (t.resource.drive.drive j).setpoint = 0) ∨ t.resource.drive = first ∨
        PlacingGear s) := by
    rcases steady.closed (drive_observed lawful p givesUp) closed with
      rests | ⟨step, -, places, member, facing⟩
    · exact ⟨rests.facing, rests.stopped.symm.imp_right .inl⟩
    · exact ⟨facing, .inr (.inr ⟨step, places, member⟩)⟩
  obtain ⟨facing, rests⟩ := back
  have ended := closed.running
  refine ⟨fun running => ?_, ?_, fun enabled => ⟨fun disabled => ?_, fun placing => ?_⟩⟩
  · exact absurd (ended.symm.trans running) Bool.false_ne_true
  · rcases rests with stopped | same | placing
    · exact .inr (.inl (.inr stopped))
    · exact .inr (.inl (.inl same))
    · exact .inr (.inr ⟨ended, placing⟩)
  · exact absurd ((facing enabled).symm.trans disabled) Bool.false_ne_true
  · exact absurd (ended.symm.trans placing.1) Bool.false_ne_true

theorem careful_step (lawful : runner.Lawful)
    (steady : s.running = true → (driveCustody first).Steady s) (signal : Signal AutonReads) :
    ((autonStep runner p givesUp s signal).running = true →
        (driveCustody first).Steady (autonStep runner p givesUp s signal)) ∧
      (s.running = true → Careful first s (autonStep runner p givesUp s signal)) := by
  have effect := lawful.effect (autonCrew runner p givesUp) [] s (.signal signal)
    fun running _ => (steady running).stepped
  change Effect _ _ s _ (autonStep runner p givesUp s signal) at effect
  generalize autonStep runner p givesUp s signal = t at effect
  have goes : ∀ u : AutonState, u.running = s.running → (s.running = true →
      (driveCustody first).Steady u) → (u.running = true → (driveCustody first).Steady u) ∧
        (s.running = true → Careful first s u) := by
    intro u same kept
    refine ⟨fun running => kept (same.symm.trans running), fun running => ?_⟩
    refine careful_of_steady (kept running) fun ended => ?_
    exact absurd ((ended.symm.trans same).trans running) Bool.false_ne_true
  cases effect with
  | stays => exact goes s rfl steady
  | cancels running =>
    obtain ⟨covered, firm, sole, kept, stepped⟩ := steady running
    exact goes { s with cancelled := true } rfl fun _ => ⟨covered, firm, sole, kept, stepped⟩
  | ticks running going input ticked =>
    have next := (steady running).ticked (drive_observed lawful p givesUp) ticked
    exact ⟨fun _ => next, fun _ => careful_of_steady next (active_of_ended ticked)⟩
  | closes running _ input closed =>
    refine ⟨fun still => ?_, fun _ => careful_closed lawful (steady running) closed⟩
    exact absurd (closed.running.symm.trans still) Bool.false_ne_true

end

/-- Whichever library runs the sequences by the rules. -/
theorem autonomous_careful (runner : Runner) (lawful : runner.Lawful) (p : Parameters)
    (givesUp : Bool) (site : Site) (mode : ℕ) (resource : Autonomous)
    (signals : List (Signal AutonReads)) :
    Along (autonStep runner p givesUp)
      (fun s signal => s.running = true →
        Careful resource.drive s (autonStep runner p givesUp s signal))
      (runner.start (site.autonomousCommand mode) (.idle resource)) signals := by
  refine along_of_invariant
    (I := fun s : AutonState => s.running = true → (driveCustody resource.drive).Steady s)
    (fun _ signal steady => (careful_step lawful steady signal).1)
    (fun _ signal steady => (careful_step lawful steady signal).2) (fun _ => ?_) signals
  rw [lawful.starts _ (.idle resource) rfl]
  exact steady_start (k := driveCustody resource.drive) ⟨.inl rfl, id⟩
    (covered_autonomousCommand resource.drive site mode)

def practiceSite : Site where
  practice := true
  memory :=
    { drive := ⟨⟨1, 1, 1, 1, 1, [⟨0, 0⟩], by simp⟩, [], 0, 0, 0, 0, 0, 0, 0⟩
      gyroAzimuth := ⟨0, 0, 0, 0⟩
      deadeyeAzimuth := ⟨false, 0, 0, 0, 0⟩
      placeGear := ⟨0, 0, 0, 0, 0, 0, 0, 0, 0, 0, 0, false, false, false⟩ }

def beforeAuton : Autonomous where
  shooting := .idle atRest
  objects _ := .driveZero
  staging := .idle ⟨⟨1, 1, 1⟩, {}, none, ⟨{}, 0, 0⟩, false⟩
  intake := ⟨1, {}⟩
  gearLight := false

/-- The lift straight ahead, with the way out behind. -/
def atLift : AutonReads where
  driving := ⟨true, 10, 0, fun _ => 5000, true, 75, ⟨0, 0⟩, ⟨0, 0⟩, false, true, 0, fun _ => 5000⟩
  shooting := inSight
  gear := ⟨0, 0, true⟩
  intakeSpeedAtInit := 0
  intakeSpeedAtExecute := 0
  intakeSpeedAtEnd := 7000
  waited := 0

/-- The way to the center lift ends with its timeout, the gear is being placed, and
then teleop begins. -/
def toCenterLift : List (Signal AutonReads) :=
  List.replicate 4 (.tick atLift) ++
    [.tick { atLift with driving := { atLift.driving with timedOut := true } }] ++
    List.replicate 3 (.tick atLift) ++ [.cancel, .tick atLift]

theorem autonomous_careful_center :
    let first := entryByEntry.start (practiceSite.autonomousCommand 6) (.idle beforeAuton)
    Along (autonStep entryByEntry onAxes false)
        (fun s signal => s.running = true →
          Careful standing s (autonStep entryByEntry onAxes false s signal)) first toCenterLift ∧
      (run (autonStep entryByEntry onAxes false) first
        (toCenterLift.take 9)).resource.drive.gyroDisabled = true :=
  ⟨autonomous_careful entryByEntry entryByEntry_lawful onAxes false practiceSite 6 beforeAuton
      toCenterLift, by decide +kernel⟩

end Steamworks.Auton
