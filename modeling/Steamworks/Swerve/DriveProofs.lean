import Steamworks.Swerve.Drive
import Steamworks.Swerve.MathProofs

/-! Azimuth setpoints over every order of drive operations. The operations that
go through `SwerveMath` move a wheel by at most a quarter turn from where they
last sent it; the ones that write the Talons directly are outside that history. -/
namespace Steamworks.Swerve.SwerveDrive
open Library.Remainder Library.Run Swerve.SwerveMath

set_option linter.unusedSectionVars false

variable {K : Type*} [Field K] [LinearOrder K] [IsStrictOrderedRing K] [FloorRing K]
  {libm : Libm K}

def Op.turnsWheels : Op K → Bool
  | .drive .. | .driveDefault .. | .driveAutonomous .. | .targetRotation .. | .setBrake => true
  | _ => false

def Sends (libm : Libm K) (d : SwerveDrive K) (op : Op K) (i : Fin 4) (setpoint : K) : Prop :=
  ((step libm d op).azimuth i).sent = .set setpoint :: (d.azimuth i).sent

/-- Every wheel turned by one call, and its angle sent. -/
def Turned (libm : Libm K) (d next : SwerveDrive K) : Prop :=
  ∃ call, next.math = SwerveMath.step libm d.math call ∧
    ∀ i, (next.azimuth i).sent = .set (azimuthTicks (next.math.wheels i).angle) ::
      (d.azimuth i).sent

def Kept (d next : SwerveDrive K) : Prop :=
  next.math = d.math ∧ ∀ i, (next.azimuth i).sent = (d.azimuth i).sent

/-- The Talons are written and the history is not told. -/
def Overwritten (d next : SwerveDrive K) : Prop :=
  next.math = d.math ∧ ∀ i, ∃ value, (next.azimuth i).sent = .set value :: (d.azimuth i).sent

theorem sendWheels_turned (d : SwerveDrive K) (dd : DriveData K) (rp : RotationPoint) :
    Turned libm d (d.sendWheels (d.math.operatorCall libm dd rp)) := by
  refine ⟨.operator dd rp, rfl, fun i => ?_⟩
  simp only [sendWheels, Talon.set, wheelAngle_operatorCall]

theorem drive_cases (d : SwerveDrive K) (forward strafe azimuth deadZone : K) :
    Turned libm d (d.drive_ libm forward strafe azimuth deadZone) ∨
      Kept d (d.drive_ libm forward strafe azimuth deadZone) := by
  unfold drive_
  split_ifs
  · exact .inr ⟨rfl, fun _ => rfl⟩
  · exact .inl (sendWheels_turned d _ _)

theorem driveField_cases (d : SwerveDrive K) (heading : Heading K)
    (forward strafe azimuth deadZone : K) :
    Turned libm d (d.driveField libm heading forward strafe azimuth deadZone) ∨
      Kept d (d.driveField libm heading forward strafe azimuth deadZone) := by
  unfold driveField
  split_ifs <;> exact drive_cases d _ _ _ _

def brakeAngles : BrakeAngles K where
  data := brakeData
  range i := by fin_cases i <;> simp [brakeData, DriveData.wheelAngle] <;> norm_num

theorem setBrake_turned (d : SwerveDrive K) : Turned libm d d.setBrake := by
  refine ⟨.brake brakeAngles, rfl, fun i => ?_⟩
  fin_cases i <;> rfl

theorem step_cases (libm : Libm K) (d : SwerveDrive K) (op : Op K) :
    (op.turnsWheels = true ∧ (Turned libm d (step libm d op) ∨ Kept d (step libm d op))) ∨
      (op.turnsWheels = false ∧ (Kept d (step libm d op) ∨ Overwritten d (step libm d op))) := by
  have kept : ∀ next : SwerveDrive K, next.math = d.math → next.azimuth = d.azimuth → Kept d next :=
    fun _ math azimuth => ⟨math, fun i => by rw [azimuth]⟩
  cases op with
  | drive heading forward strafe azimuth deadZone =>
    exact .inl ⟨rfl, driveField_cases d heading forward strafe azimuth deadZone⟩
  | driveDefault heading forward strafe azimuth =>
    exact .inl ⟨rfl, driveField_cases d heading forward strafe azimuth d.deadZone⟩
  | driveAutonomous forward strafe azimuth =>
    exact .inl ⟨rfl, drive_cases d forward strafe azimuth 0.05⟩
  | targetRotation azimuth => exact .inl ⟨rfl, .inl (sendWheels_turned d _ _)⟩
  | setBrake => exact .inl ⟨rfl, .inl (setBrake_turned d)⟩
  | setAzimuth | zeroAzimuth | crabDriveAutonomous | driveDistance | positionAzimuthForAuton =>
    exact .inr ⟨rfl, .inr ⟨rfl, fun i => ⟨_, rfl⟩⟩⟩
  | driveAzimuthAutonomous | setDrive | zeroPosition | setGyroDisabled | setDriveMode =>
    exact .inr ⟨rfl, .inl (kept _ rfl rfl)⟩

/-- A run with two observations of each azimuth Talon: the setpoint it was last
sent by a turning operation, and whether it was written directly since. -/
structure Tracked (K : Type*) where
  drive : SwerveDrive K
  turnedTo : Fin 4 → K
  overwritten : Fin 4 → Bool

def Tracked.initial (drive : SwerveDrive K) : Tracked K := ⟨drive, fun _ => 0, fun _ => false⟩

def track (libm : Libm K) (t : Tracked K) (op : Op K) : Tracked K :=
  let next := step libm t.drive op
  let wrote := fun i => (next.azimuth i).sent ≠ (t.drive.azimuth i).sent
  { drive := next
    turnedTo := fun i =>
      if op.turnsWheels ∧ wrote i then (next.azimuth i).setpoint else t.turnedTo i
    overwritten := fun i => if wrote i then !op.turnsWheels else t.overwritten i }

/-- A turning operation always sends the tick count of the recorded angle, so
the history is what the last turning operation sent. -/
structure Tracked.Linked (t : Tracked K) : Prop where
  consistent : t.drive.math.Consistent
  turned : ∀ i, t.turnedTo i = azimuthTicks (t.drive.math.wheels i).angle
  fresh : ∀ i, t.overwritten i = false → (t.drive.azimuth i).setpoint = t.turnedTo i

theorem setpoint_of_sent {t u : Talon K} (sent : t.sent = .set value :: u.sent) :
    t.setpoint = value := by
  simp [Talon.setpoint, Talon.last, sent]

theorem setpoint_eq_of_sent {t u : Talon K} (same : t.sent = u.sent) : t.setpoint = u.setpoint := by
  simp only [Talon.setpoint, Talon.last_eq_of_sent same]

theorem sent_ne_of_set {t u : Talon K} (sent : t.sent = .set value :: u.sent) :
    t.sent ≠ u.sent := by
  rw [sent]
  exact List.cons_ne_self _ _

theorem track_kept (t : Tracked K) (op : Op K) (kept : Kept t.drive (step libm t.drive op)) :
    (track libm t op).turnedTo = t.turnedTo ∧ (track libm t op).overwritten = t.overwritten := by
  constructor <;> funext i <;> simp [track, kept.2 i]

theorem track_linked (t : Tracked K) (op : Op K) (linked : t.Linked) : (track libm t op).Linked := by
  have stays (kept : Kept t.drive (step libm t.drive op)) : (track libm t op).Linked := by
    obtain ⟨turnedTo, overwritten⟩ := track_kept t op kept
    have math : (track libm t op).drive.math = t.drive.math := kept.1
    refine ⟨math ▸ linked.consistent, fun i => ?_, fun i fresh => ?_⟩
    · rw [turnedTo, math]
      exact linked.turned i
    · rw [turnedTo, ← linked.fresh i (by rw [← overwritten]; exact fresh)]
      exact setpoint_eq_of_sent (kept.2 i)
  rcases step_cases libm t.drive op with ⟨turns, turned | kept⟩ | ⟨direct, kept | written⟩
  · obtain ⟨call, math, sent⟩ := turned
    have wrote : ∀ i, ((step libm t.drive op).azimuth i).sent ≠ (t.drive.azimuth i).sent :=
      fun i => sent_ne_of_set (sent i)
    have target : ∀ i, (track libm t op).turnedTo i = ((step libm t.drive op).azimuth i).setpoint :=
      fun i => by simp [track, turns, wrote i]
    refine ⟨math ▸ step_consistent libm _ call linked.consistent, fun i => ?_, fun i _ => ?_⟩
    · rw [target, setpoint_of_sent (sent i)]
      rfl
    · rw [target]
      rfl
  · exact stays kept
  · exact stays kept
  · obtain ⟨math, sent⟩ := written
    have turnedTo : (track libm t op).turnedTo = t.turnedTo := by
      funext i
      simp [track, direct]
    refine ⟨math ▸ linked.consistent, fun i => ?_, fun i fresh => ?_⟩
    · rw [turnedTo, show (track libm t op).drive.math = t.drive.math from math]
      exact linked.turned i
    · obtain ⟨value, sent⟩ := sent i
      have wrote := sent_ne_of_set sent
      simp [track, direct, wrote] at fresh

theorem initial_linked (g : Geometry K) (deadZone driveScaleFactor : K) :
    (Tracked.initial (SwerveDrive.initial libm g deadZone driveScaleFactor)).Linked := by
  refine ⟨SwerveMath.initial_consistent _, fun i => ?_, fun i _ => rfl⟩
  simp [Tracked.initial, SwerveDrive.initial, Geometry.swerveMath, SwerveMath.initial, azimuthTicks]

/-- A quarter turn is 1024 ticks; rounding both ends adds at most one. -/
theorem azimuthTicks_sub_le {a b : K} (near : |a - b| ≤ 90) :
    |azimuthTicks a - azimuthTicks b| ≤ 1024 + 1 := by
  have scaled : |a * 2048 / 180 - b * 2048 / 180| ≤ 1024 := by
    rw [abs_le] at near ⊢
    constructor <;> linarith
  calc |azimuthTicks a - azimuthTicks b| ≤ |a * 2048 / 180 - b * 2048 / 180| + 1 :=
        roundAway_sub_le _ _
    _ ≤ 1024 + 1 := by linarith

/-- From a linked state a turning operation sends each Talon close to where the
last turning operation sent it. -/
theorem sends_close (t : Tracked K) (linked : t.Linked) (op : Op K)
    (turns : op.turnsWheels = true) (sends : Sends libm t.drive op i value) :
    |value - t.turnedTo i| ≤ 1024 + 1 := by
  rcases step_cases libm t.drive op with ⟨_, turned | kept⟩ | ⟨direct, _⟩
  · obtain ⟨call, math, sent⟩ := turned
    have same : value = azimuthTicks ((step libm t.drive op).math.wheels i).angle := by
      have := sends.symm.trans (sent i)
      simpa using this
    rw [same, linked.turned i, math]
    exact azimuthTicks_sub_le (step_small libm t.drive.math call linked.consistent i)
  · exact absurd (kept.2 i) (sent_ne_of_set sends)
  · rw [direct] at turns
    contradiction

theorem run_linked (libm : Libm K) (g : Geometry K) (deadZone driveScaleFactor : K) (ops : List (Op K)) :
    (run (track libm)
      (Tracked.initial (SwerveDrive.initial libm g deadZone driveScaleFactor)) ops).Linked :=
  run_invariant track_linked (initial_linked g deadZone driveScaleFactor) ops

theorem run_track_drive (t : Tracked K) (ops : List (Op K)) :
    (run (track libm) t ops).drive = run (step libm) t.drive ops :=
  run_map (fun _ _ => rfl) t ops

section Runs
variable (libm : Libm K) (g : Geometry K) (deadZone driveScaleFactor : K) (ops : List (Op K))

/-- Over every order of operations, a turning operation sends each azimuth
Talon a setpoint within a quarter turn, plus a tick of rounding, of where the
last turning operation sent it; that is the Talon's own last setpoint unless
one of the direct operations wrote it since. -/
theorem turning_setpoints_close (op : Op K) (i : Fin 4) (value : K)
    (turns : op.turnsWheels = true)
    (sends : Sends libm (run (step libm) (initial libm g deadZone driveScaleFactor) ops) op i value) :
    let t := run (track libm) (.initial (initial libm g deadZone driveScaleFactor)) ops
    |value - t.turnedTo i| ≤ 1024 + 1 ∧
      (t.overwritten i = false → |value - (t.drive.azimuth i).setpoint| ≤ 1024 + 1) := by
  intro t
  have linked : t.Linked := run_linked libm g deadZone driveScaleFactor ops
  have same : t.drive = run (step libm) (initial libm g deadZone driveScaleFactor) ops :=
    run_track_drive _ ops
  rw [← same] at sends
  have close := sends_close t linked op turns sends
  exact ⟨close, fun fresh => (linked.fresh i fresh).symm ▸ close⟩

end Runs

def ahead : Heading K := ⟨1, 0, by norm_num⟩

def forward : Op K := .drive ahead 1 0 0 0.05

theorem forward_turned (libm : Libm K) (d : SwerveDrive K) (enabled : d.gyroDisabled = false) :
    Turned libm d (step libm d forward) := by
  have moving : ¬ isStopping (rotatedForward ahead (1 : K) 0) (rotatedStrafe ahead 1 0) 0 0.05 := by
    rintro ⟨slow, _⟩
    norm_num [rotatedForward, ahead] at slow
  have drives : step libm d forward =
      d.sendWheels (d.math.operatorCall libm
        (driveData (rotatedForward ahead 1 0) (rotatedStrafe ahead 1 0) 0) .center) := by
    simp only [step, forward, driveField, drive_, enabled, Bool.false_eq_true, if_false,
      if_neg moving]
  rw [drives]
  exact sendWheels_turned d _ _

noncomputable def atPowerOn : SwerveDrive ℝ := initial Libm.real Geometry.competition 0.08 12

theorem forward_sends (libm : Libm K) (d : SwerveDrive K) (enabled : d.gyroDisabled = false) (i : Fin 4) :
    ∃ value, Sends libm d forward i value := by
  obtain ⟨call, math, sent⟩ := forward_turned libm d enabled
  exact ⟨_, sent i⟩

theorem turning_setpoints_close_forward : ∃ value, Sends Libm.real atPowerOn forward 0 value ∧
    |value - 0| ≤ 1024 + 1 := by
  obtain ⟨value, sends⟩ := forward_sends Libm.real atPowerOn rfl 0
  exact ⟨value, sends, (turning_setpoints_close Libm.real Geometry.competition 0.08 12 [] forward 0
    value rfl sends).1⟩

/-- After the wheels were positioned for an autonomous turn, driving straight
ahead sends the left front wheel back by more than a quarter turn. -/
theorem positioned_wheel_spins :
    let d := run (step Libm.real) atPowerOn [.positionAzimuthForAuton]
    ∃ value, Sends Libm.real d forward 1 value ∧ 1024 + 1 < |value - (d.azimuth 1).setpoint| := by
  intro d
  obtain ⟨value, sends⟩ := forward_sends Libm.real d rfl 1
  refine ⟨value, sends, ?_⟩
  have close := sends_close _ (run_linked Libm.real Geometry.competition 0.08 12
    [.positionAzimuthForAuton]) forward rfl sends
  have home : (run (track Libm.real) (.initial (initial Libm.real Geometry.competition 0.08 12))
    [.positionAzimuthForAuton]).turnedTo 1 = 0 := rfl
  have positioned : (d.azimuth 1).setpoint = 40.4 / 180 * 2048 + 2048 := rfl
  rw [home, sub_zero, abs_le] at close
  rw [positioned, lt_abs]
  right
  norm_num
  linarith [close.2]

end Steamworks.Swerve.SwerveDrive
