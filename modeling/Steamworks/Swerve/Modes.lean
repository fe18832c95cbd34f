import Steamworks.Startup.TalonModes
import Steamworks.Swerve.DriveProofs

/-! The drive through its changes of mode. The commands switch the drive Talons
between the settings for tele-op, for autonomous moves and for turning; the scale
of the setpoints is switched with them. The azimuth Talons are configured once
and only the motor test switches their mode. -/
namespace Steamworks.Swerve
open Library.Run Startup SwerveDrive

set_option linter.unusedSectionVars false

/-- Settings with a largest setpoint; without one the drive's constructor, or the
command that switches to them, throws. -/
structure Scaled where
  settings : TalonSettings
  setpointMax : ℚ
  given : settings.getSetpointMax = some setpointMax

/-- The entries of the config that the drive uses. -/
structure DriveSettings where
  azimuth : TalonSettings
  drive : Scaled
  driveAuton : Scaled
  driveAzimuth : Scaled

structure Modes where
  swerve : SwerveDrive ℝ
  azimuth : Fin 4 → Registers
  drive : Fin 4 → Registers

/-- The operations that are not themselves a change of mode. -/
def SwerveDrive.Op.plain : Op ℝ → Bool
  | .setDriveMode _ _ => false
  | _ => true

inductive ModeEvent where
  | operate (op : Op ℝ) (plain : op.plain = true)
  | setTeleOpMode
  | setAutonMode
  | setAzimuthMode
  | setAzimuthTestModeEnabled (enabled : Bool)

/-- What a command switches the drive Talons to. -/
def ModeEvent.switchesTo (settings : DriveSettings) : ModeEvent → Option Scaled
  | .setTeleOpMode => some settings.drive
  | .setAutonMode => some settings.driveAuton
  | .setAzimuthMode => some settings.driveAzimuth
  | _ => none

def ModeEvent.testMode : ModeEvent → Option ControlMode
  | .setAzimuthTestModeEnabled enabled => some (if enabled then .voltage else .position)
  | _ => none

namespace Modes
variable (libm : Libm ℝ) (g : Geometry ℝ) (settings : DriveSettings)

/-- Both constructors: the base class initializes all Talons. -/
noncomputable def construct (deadZone : ℝ) : Modes where
  swerve := .initial libm g deadZone settings.drive.setpointMax
  azimuth _ := settings.azimuth.init {}
  drive _ := settings.drive.settings.init {}

noncomputable def setDriveMode (m : Modes) (chosen : Scaled) : Modes :=
  { m with swerve := m.swerve.setDriveMode chosen.settings.mode chosen.setpointMax
           drive := fun i => chosen.settings.setMode (m.drive i) }

def setAzimuthTestModeEnabled (m : Modes) (enabled : Bool) : Modes :=
  { m with azimuth := fun i =>
      TalonSettings.setControlMode (if enabled then .voltage else .position) (m.azimuth i) }

noncomputable def step (m : Modes) : ModeEvent → Modes
  | .operate op _ => { m with swerve := SwerveDrive.step libm m.swerve op }
  | .setTeleOpMode => m.setDriveMode settings.drive
  | .setAutonMode => m.setDriveMode settings.driveAuton
  | .setAzimuthMode => m.setDriveMode settings.driveAzimuth
  | .setAzimuthTestModeEnabled enabled => m.setAzimuthTestModeEnabled enabled

/-- The settings the drive was last switched to. -/
def inForce (events : List ModeEvent) : Scaled :=
  (events.reverse.findSome? (ModeEvent.switchesTo settings)).getD settings.drive

/-- The closed loop last written; voltage settings bring none. -/
def loopInForce (events : List ModeEvent) : Option ClosedLoop :=
  (events.reverse.findSome? fun e =>
    (e.switchesTo settings).bind fun s => s.settings.closedLoop).or settings.drive.settings.closedLoop

section
variable {libm settings} (m : Modes)

theorem drive_step (e : ModeEvent) (i : Fin 4) :
    (step libm settings m e).drive i = match e.switchesTo settings with
      | some chosen => chosen.settings.setMode (m.drive i)
      | none => m.drive i := by
  cases e <;> rfl

theorem scale_of_plain (d : SwerveDrive ℝ) {op : Op ℝ} (plain : op.plain = true) :
    (SwerveDrive.step libm d op).driveScaleFactor = d.driveScaleFactor := by
  have driven : ∀ forward strafe azimuth deadZone : ℝ,
      (d.drive_ libm forward strafe azimuth deadZone).driveScaleFactor = d.driveScaleFactor := by
    intro forward strafe azimuth deadZone
    unfold drive_
    split_ifs <;> rfl
  have field : ∀ (heading : Heading ℝ) (forward strafe azimuth deadZone : ℝ),
      (d.driveField libm heading forward strafe azimuth deadZone).driveScaleFactor =
        d.driveScaleFactor := by
    intro heading forward strafe azimuth deadZone
    unfold driveField
    split_ifs <;> exact driven _ _ _ _
  cases op with
  | drive heading forward strafe azimuth deadZone => exact field _ _ _ _ _
  | driveDefault heading forward strafe azimuth => exact field _ _ _ _ _
  | driveAutonomous forward strafe azimuth => exact driven _ _ _ _
  | setDriveMode mode setpointScale => cases plain
  | _ => rfl

theorem scale_step (e : ModeEvent) :
    (step libm settings m e).swerve.driveScaleFactor =
      ((e.switchesTo settings).map fun s => (s.setpointMax : ℝ)).getD m.swerve.driveScaleFactor := by
  cases e with
  | operate op plain => exact scale_of_plain m.swerve plain
  | setTeleOpMode | setAutonMode | setAzimuthMode | setAzimuthTestModeEnabled => rfl

end

section
variable {libm g settings} {deadZone : ℝ} (events : List ModeEvent)

/-- What every change of mode writes is, after a run, what the settings in force
say. -/
theorem run_in_force (observe : Modes → α) (written : Scaled → α)
    (writes : ∀ m e, observe (step libm settings m e) =
      ((e.switchesTo settings).map written).getD (observe m))
    (initial : observe (construct libm g settings deadZone) = written settings.drive) :
    observe (run (step libm settings) (construct libm g settings deadZone) events) =
      written (inForce settings events) := by
  rw [run_last_write observe _ writes, initial, inForce]
  have mapped : (events.reverse.findSome? fun e => (e.switchesTo settings).map written) =
      (events.reverse.findSome? (ModeEvent.switchesTo settings)).map written :=
    List.map_findSome?.symm
  rw [mapped]
  cases events.reverse.findSome? (ModeEvent.switchesTo settings) <;> rfl

theorem run_controlMode (i : Fin 4) :
    ((run (step libm settings) (construct libm g settings deadZone) events).drive i).controlMode =
      (inForce settings events).settings.mode := by
  refine run_in_force events (fun m => (m.drive i).controlMode) (fun s => s.settings.mode)
    (fun m e => ?_) (TalonSettings.controlMode_init _ _)
  rw [drive_step]
  cases e.switchesTo settings with
  | none => rfl
  | some chosen => exact TalonSettings.controlMode_setMode _ _

theorem run_limits (i : Fin 4) :
    ((run (step libm settings) (construct libm g settings deadZone) events).drive i).limits =
      some (inForce settings events).settings.base.limits := by
  refine run_in_force events (fun m => (m.drive i).limits)
    (fun s => some s.settings.base.limits) (fun m e => ?_) (TalonSettings.limits_setMode _ _)
  rw [drive_step]
  cases e.switchesTo settings with
  | none => rfl
  | some chosen => exact TalonSettings.limits_setMode _ _

theorem run_scale :
    (run (step libm settings) (construct libm g settings deadZone) events).swerve.driveScaleFactor =
      (inForce settings events).setpointMax :=
  run_in_force events (fun m => m.swerve.driveScaleFactor) (fun s => (s.setpointMax : ℝ))
    scale_step rfl

/-- No change of mode touches what the first configuration set. -/
theorem run_setup (i : Fin 4) :
    ((run (step libm settings) (construct libm g settings deadZone) events).drive i).setup =
      some settings.drive.settings.base.setup := by
  have kept : ∀ (m : Modes) (e : ModeEvent), (m.drive i).setup =
      some settings.drive.settings.base.setup →
        ((step libm settings m e).drive i).setup = some settings.drive.settings.base.setup := by
    intro m e before
    rw [drive_step]
    cases e.switchesTo settings with
    | none => exact before
    | some chosen => exact (TalonSettings.setup_setMode _ _).trans before
  exact run_invariant kept (TalonSettings.setup_init _ _) events

/-- The closed loop outlives the mode it belongs to. -/
theorem run_closedLoop (i : Fin 4) :
    ((run (step libm settings) (construct libm g settings deadZone) events).drive i).closedLoop =
      loopInForce settings events := by
  have writes : ∀ (m : Modes) (e : ModeEvent), ((step libm settings m e).drive i).closedLoop =
      (((e.switchesTo settings).bind fun s => s.settings.closedLoop).map some).getD
        (m.drive i).closedLoop := by
    intro m e
    rw [drive_step]
    cases e.switchesTo settings with
    | none => rfl
    | some chosen =>
      dsimp only
      rw [TalonSettings.closedLoop_setMode]
      cases shape : chosen.settings.closedLoop with
      | none => simp [shape]
      | some loop => simp [shape]
  have last := run_last_write (fun m => (m.drive i).closedLoop) _ writes
    (construct libm g settings deadZone) events
  have start : ((construct libm g settings deadZone).drive i).closedLoop =
      settings.drive.settings.closedLoop := by
    change (settings.drive.settings.setMode _).closedLoop = _
    rw [TalonSettings.closedLoop_setMode]
    exact Option.or_none
  have mapped : (events.reverse.findSome? fun e =>
      ((e.switchesTo settings).bind fun s => s.settings.closedLoop).map some) =
        (events.reverse.findSome? fun e =>
          (e.switchesTo settings).bind fun s => s.settings.closedLoop).map some :=
    List.map_findSome?.symm
  refine last.trans ?_
  rw [start, mapped, loopInForce]
  cases events.reverse.findSome? fun e =>
    (e.switchesTo settings).bind fun s => s.settings.closedLoop <;> rfl

end

/-- What an operation that turns the wheels sends to a drive Talon is within the
scale. -/
theorem turning_within {libm : Libm ℝ} (d : SwerveDrive ℝ) {op : Op ℝ} (turns : op.turnsWheels = true)
    (i : Fin 4) {value : ℝ}
    (sent : ((SwerveDrive.step libm d op).drive i).sent = .set value :: (d.drive i).sent) :
    |value| ≤ |d.driveScaleFactor| := by
  have wheels : ∀ (dd : DriveData ℝ) (rp : RotationPoint),
      ((d.sendWheels (d.math.operatorCall libm dd rp)).drive i).sent =
        .set value :: (d.drive i).sent → |value| ≤ |d.driveScaleFactor| := by
    intro dd rp same
    have speed := SwerveMath.operatorCall_speed_le libm d.math dd rp i
    simp only [sendWheels, Talon.sent_set, List.cons.injEq, MotorCommand.set.injEq, and_true] at same
    rw [← same, abs_mul]
    exact mul_le_of_le_one_left (abs_nonneg _) speed
  have driven : ∀ forward strafe azimuth deadZone : ℝ,
      ((d.drive_ libm forward strafe azimuth deadZone).drive i).sent =
        .set value :: (d.drive i).sent → |value| ≤ |d.driveScaleFactor| := by
    intro forward strafe azimuth deadZone same
    unfold drive_ at same
    split_ifs at same
    · simp only [setDrive, Talon.sent_set, List.cons.injEq, MotorCommand.set.injEq, and_true] at same
      rw [← same, abs_zero]
      exact abs_nonneg _
    · exact wheels _ _ same
  have field : ∀ (heading : Heading ℝ) (forward strafe azimuth deadZone : ℝ),
      ((d.driveField libm heading forward strafe azimuth deadZone).drive i).sent =
        .set value :: (d.drive i).sent → |value| ≤ |d.driveScaleFactor| := by
    intro heading forward strafe azimuth deadZone same
    unfold driveField at same
    split_ifs at same <;> exact driven _ _ _ _ same
  cases op with
  | drive heading forward strafe azimuth deadZone => exact field _ _ _ _ _ sent
  | driveDefault heading forward strafe azimuth => exact field _ _ _ _ _ sent
  | driveAutonomous forward strafe azimuth => exact driven _ _ _ _ sent
  | targetRotation azimuth => exact wheels _ _ sent
  | setBrake => exact absurd sent.symm (List.cons_ne_self _ _)
  | _ => cases turns

/-- Whatever the commands switched to, each drive Talon is in the mode, and under
the limits, of the settings last switched to, and no operation that turns the
wheels sends it more than their largest setpoint. What `Configure` wrote is still
that of the first settings, and the closed loop that of the last ones with any. -/
theorem setpoints_in_mode (libm : Libm ℝ) (g : Geometry ℝ) (settings : DriveSettings)
    (deadZone : ℝ) (events : List ModeEvent) (op : Op ℝ) (turns : op.turnsWheels = true)
    (plain : op.plain = true) (i : Fin 4) :
    let before := run (step libm settings) (construct libm g settings deadZone) events
    let after := step libm settings before (.operate op plain)
    let s := inForce settings events
    (after.drive i).controlMode = s.settings.mode ∧
      (after.drive i).limits = some s.settings.base.limits ∧
      (after.drive i).setup = some settings.drive.settings.base.setup ∧
      (after.drive i).closedLoop = loopInForce settings events ∧
      ∀ value, (after.swerve.drive i).sent = .set value :: (before.swerve.drive i).sent →
        |value| ≤ |(s.setpointMax : ℝ)| := by
  intro before after s
  refine ⟨run_controlMode events i, run_limits events i, run_setup events i,
    run_closedLoop events i, ?_⟩
  intro value sent
  have bound := turning_within before.swerve turns i sent
  have scale : before.swerve.driveScaleFactor = s.setpointMax := run_scale events
  rwa [scale] at bound

/-- The drive's settings of the robot, and those for autonomous moves. -/
def teleOpDrive : Scaled :=
  ⟨.voltage ⟨0, 1, 2, 0, false, false, 50, 12⟩, 12, rfl⟩

def autonDrive : Scaled where
  settings := .velocity ⟨⟨0, 2, 2, 0, false, false, 60, 400⟩, 2, 8 / 1000, 0, 14 / 10, 25, 0, 0, 12,
    -12, 0, 0⟩
  setpointMax := 400
  given := rfl

def slowDrive : Scaled where
  settings := .velocity ⟨⟨0, 2, 2, 0, false, false, 40, 275⟩, 2, 8 / 1000, 75, 21 / 10, 40, 0, 0, 12,
    -12, 0, 0⟩
  setpointMax := 275
  given := rfl

def compDrive : DriveSettings where
  azimuth := .motionMagic ⟨⟨⟨0, 2, 2, 0, false, false, 20, -1⟩, 13, 0, 100, 8 / 10, 0, 0, 0, 12, -12, 0,
    0⟩, 800, 18000⟩
  drive := teleOpDrive
  driveAuton := autonDrive
  driveAzimuth := slowDrive

/-- Ahead at full speed after an autonomous move: in volts again, with the closed
loop of the move. -/
theorem setpoints_in_mode_ahead :
    let before := run (step Libm.real compDrive) (construct Libm.real Geometry.competition compDrive 0)
      [.setAutonMode, .setTeleOpMode]
    let after := step Libm.real compDrive before (.operate forward rfl)
    (after.drive 0).controlMode = .voltage ∧
      (after.drive 0).limits = some ⟨50, true, 0⟩ ∧
      (after.drive 0).setup = some ⟨0, 0, 1, 2, false, false⟩ ∧
      (after.drive 0).closedLoop = autonDrive.settings.closedLoop ∧
      ∀ value, (after.swerve.drive 0).sent = .set value :: (before.swerve.drive 0).sent →
        |value| ≤ |((12 : ℚ) : ℝ)| :=
  setpoints_in_mode Libm.real Geometry.competition compDrive 0 [.setAutonMode, .setTeleOpMode]
    forward rfl rfl 0

/-- The mode that the motor test left in the azimuth Talons, if it ran. -/
def testedMode (events : List ModeEvent) : Option ControlMode :=
  events.reverse.findSome? ModeEvent.testMode

section
variable {libm : Libm ℝ} {g : Geometry ℝ} {settings : DriveSettings} {deadZone : ℝ}

theorem azimuth_step (m : Modes) (e : ModeEvent) (i : Fin 4) :
    (step libm settings m e).azimuth i =
      TalonSettings.setControlMode (e.testMode.getD (m.azimuth i).controlMode) (m.azimuth i) := by
  cases e <;> rfl

theorem run_azimuth (events : List ModeEvent) (i : Fin 4) :
    (run (step libm settings) (construct libm g settings deadZone) events).azimuth i =
      TalonSettings.setControlMode ((testedMode events).getD settings.azimuth.mode)
        (settings.azimuth.init {}) := by
  have kept : ∀ (m : Modes) (e : ModeEvent), m.azimuth i = TalonSettings.setControlMode
      (m.azimuth i).controlMode (settings.azimuth.init {}) →
        (step libm settings m e).azimuth i = TalonSettings.setControlMode
          ((step libm settings m e).azimuth i).controlMode (settings.azimuth.init {}) := by
    intro m e before
    rw [azimuth_step, before]
    rfl
  have writes : ∀ (m : Modes) (e : ModeEvent), ((step libm settings m e).azimuth i).controlMode =
      e.testMode.getD (m.azimuth i).controlMode :=
    fun m e => congrArg Registers.controlMode (azimuth_step m e i)
  have last := run_last_write (fun m => (m.azimuth i).controlMode) _ writes
    (construct libm g settings deadZone) events
  have shape := run_invariant kept (s := construct libm g settings deadZone) rfl events
  rw [shape, last, testedMode]
  congr 2
  exact TalonSettings.controlMode_init _ _

end

/-- The azimuth Talons are as they were configured unless the motor test ran and
left another mode: it leaves them in position mode, whatever was configured. -/
theorem azimuth_as_configured_iff (libm : Libm ℝ) (g : Geometry ℝ) (settings : DriveSettings)
    (deadZone : ℝ) (events : List ModeEvent) (i : Fin 4) :
    (run (step libm settings) (construct libm g settings deadZone) events).azimuth i =
        settings.azimuth.init {} ↔
      ∀ mode, testedMode events = some mode → mode = settings.azimuth.mode := by
  have configured : (settings.azimuth.init {}).controlMode = settings.azimuth.mode :=
    TalonSettings.controlMode_init _ _
  rw [run_azimuth]
  cases tested : testedMode events with
  | none =>
    constructor
    · rintro _ mode ⟨⟩
    · intro _
      rw [Option.getD_none, ← configured]
      rfl
  | some mode =>
    constructor
    · rintro same other ⟨⟩
      rw [← configured, ← same]
      rfl
    · intro left
      rw [Option.getD_some, left mode rfl, ← configured]
      rfl

end Modes
end Steamworks.Swerve
