import Steamworks.Auton.Commands
import Steamworks.Swerve.FieldOriented

/-! Which commands leave the drive stopped. All end by stopping it but the one
that places the gear: what it drove with last stays with the Talons. -/
namespace Steamworks.Auton
open Library.Activation Library.Run Gyro Swerve Swerve.SwerveMath Swerve.SwerveDrive

/-- The last setpoint of every drive Talon is zero. -/
def Stopped (d : SwerveDrive ℝ) : Prop := ∀ i, (d.drive i).setpoint = 0

/-- A step from the fourth on found a target to place the gear on. -/
def Seen (inputs : List (Readings ℝ)) : Prop := ∃ r ∈ inputs.drop 3, r.hasTarget = true

/-- When a command leaves the drive stopped: always, but placing the gear only
where it drove with a largest setpoint of zero, or never drove from a stop. -/
def LeavesStopped (p : Platform ℝ) (c : AutonCommand ℝ) (d : SwerveDrive ℝ)
    (inputs : List (Readings ℝ)) : Prop :=
  match c with
  | .placeGear _ => (Seen inputs ∧ p.driveAzimuthSettings.setpointMax = 0) ∨ (¬Seen inputs ∧ Stopped d)
  | _ => True

/-- The robot's library in exact arithmetic, with any settings. -/
noncomputable def exactly (cmath : Cmath ℝ) (driveAuton driveAzimuth : Settings ℝ) : Platform ℝ :=
  ⟨Libm.real, cmath, driveAuton, driveAzimuth⟩

theorem stopped_setDrive (d : SwerveDrive ℝ) : Stopped (d.setDrive 0) :=
  fun i => (d.drive i).setpoint_set 0

theorem demandMag_eq_zero_iff (m : SwerveMath ℝ) (dd : DriveData ℝ) (rp : RotationPoint) (i : Fin 4) :
    m.demandMag Libm.real dd rp i = 0 ↔ (m.demand dd rp i).x = 0 ∧ (m.demand dd rp i).y = 0 := by
  change Real.sqrt _ = 0 ↔ _
  rw [Real.sqrt_eq_zero (add_nonneg (mul_self_nonneg _) (mul_self_nonneg _)), mul_self_add_mul_self_eq_zero]

theorem wheelSpeed_eq_zero_iff (m : SwerveMath ℝ) (dd : DriveData ℝ) (rp : RotationPoint)
    (i : Fin 4) : (m.operatorCall Libm.real dd rp).2.wheelSpeed i = 0 ↔
      m.demandMag Libm.real dd rp i = 0 := by
  have cut : (1 : ℝ) / max 1 (maxWheelMag (m.demandMag Libm.real dd rp)) ≠ 0 :=
    one_div_ne_zero (one_pos.trans_le (le_max_left _ _)).ne'
  rw [wheelSpeed_operatorCall, signedMags_eq, mul_eq_zero, or_iff_left cut]
  split_ifs
  · rw [mul_eq_zero, or_iff_left (by norm_num)]
  · exact Iff.rfl

/-- About the centre the rotational parts cancel, so a robot that is to move
forward has a wheel that turns. -/
theorem wheel_turns {g : Geometry ℝ} {m : SwerveMath ℝ}
    (vectors : m.rotationVectors = g.rotationVectors Libm.real) {forward : ℝ} (moving : forward ≠ 0)
    (strafe azimuth : ℝ) : ∃ i, (m.operatorCall Libm.real (driveData forward strafe azimuth)
      .center).2.wheelSpeed i ≠ 0 := by
  have cancel := congrArg Prod.snd (sum_rotationArrow g m vectors azimuth)
  rw [Prod.snd_sum, Prod.snd_zero] at cancel
  have sum : ∑ i, (m.demand (driveData forward strafe azimuth) .center i).y = 4 * forward := by
    change ∑ i, (forward + (rotationArrow m .center azimuth i).2) = _
    rw [Finset.sum_add_distrib, cancel]
    simp
  have nonzero : ∑ i, (m.demand (driveData forward strafe azimuth) .center i).y ≠ 0 := by
    rw [sum]
    exact mul_ne_zero (by norm_num) moving
  obtain ⟨i, _, demanded⟩ := Finset.exists_ne_zero_of_sum_ne_zero nonzero
  refine ⟨i, ?_⟩
  rw [Ne, wheelSpeed_eq_zero_iff, demandMag_eq_zero_iff]
  exact fun rest => demanded rest.2

theorem setpoint_sendWheels (d : SwerveDrive ℝ) (result : SwerveMath ℝ × DriveData ℝ) (i : Fin 4) :
    ((d.sendWheels result).drive i).setpoint = result.2.wheelSpeed i * d.driveScaleFactor := rfl

/-- No demand stops the drive, in the dead zone or past it. -/
theorem stopped_rest (d : SwerveDrive ℝ) (deadZone : ℝ) :
    Stopped (d.drive_ Libm.real 0 0 0 deadZone) := by
  unfold drive_
  split_ifs
  · exact stopped_setDrive d
  · intro i
    have rest : d.math.demandMag Libm.real (driveData 0 0 0) .center i = 0 := by
      rw [demandMag_eq_zero_iff]
      simp [demand, driveData]
    rw [setpoint_sendWheels, (wheelSpeed_eq_zero_iff _ _ _ _).mpr rest, zero_mul]

theorem stopped_driveDefault (d : SwerveDrive ℝ) (heading : Heading ℝ) :
    Stopped (d.driveFieldDefault Libm.real heading 0 0 0) := by
  have forward : rotatedForward heading 0 0 = 0 := by simp [rotatedForward]
  have strafe : rotatedStrafe heading 0 0 = 0 := by simp [rotatedStrafe]
  rw [driveFieldDefault, driveField, forward, strafe, ite_self]
  exact stopped_rest d d.deadZone

/-- Moving forward, the Talons hold zero only where the speeds are scaled by it. -/
theorem stopped_moving_iff {g : Geometry ℝ} {d : SwerveDrive ℝ}
    (vectors : d.math.rotationVectors = g.rotationVectors Libm.real) {forward : ℝ}
    {deadZone : ℝ} (fast : deadZone < |forward|) (zone : 0 ≤ deadZone) (strafe azimuth : ℝ) :
    Stopped (d.drive_ Libm.real forward strafe azimuth deadZone) ↔ d.driveScaleFactor = 0 := by
  have driving : ¬isStopping forward strafe azimuth deadZone :=
    fun stopping => absurd stopping.1 (not_le.mpr fast)
  rw [drive_, if_neg driving]
  constructor
  · intro stopped
    obtain ⟨i, turns⟩ := wheel_turns vectors (abs_pos.mp (zone.trans_lt fast)) strafe azimuth
    have held := stopped i
    rw [setpoint_sendWheels, mul_eq_zero] at held
    exact held.resolve_left turns
  · intro zero i
    rw [setpoint_sendWheels, zero, mul_zero]

variable {p : Platform ℝ}

def AutonCommand.isPlaceGear : AutonCommand ℝ → Bool
  | .placeGear _ => true
  | _ => false

theorem init_isPlaceGear (r : Readings ℝ) (a : Activity ℝ) :
    ((command p).init r a).command.isPlaceGear = a.command.isPlaceGear := by
  obtain ⟨c, d, gyro⟩ := a
  cases c <;> rfl

theorem tick_isPlaceGear (r : Readings ℝ) (a : Activity ℝ) :
    ((command p).tick r a).1.command.isPlaceGear = a.command.isPlaceGear := by
  obtain ⟨c, d, gyro⟩ := a
  cases c <;> rfl

/-- Each of the other commands stops the drive in its `End`. -/
theorem finish_stopped (exact : p.libm = Libm.real) (a : Activity ℝ)
    (other : a.command.isPlaceGear = false) : Stopped (a.finish p).drive := by
  obtain ⟨c, d, gyro⟩ := a
  cases c with
  | drive c => exact stopped_setDrive d
  | gyroAzimuth c => exact stopped_setDrive d
  | deadeyeAzimuth c => exact stopped_setDrive d
  | timedAzimuth c =>
    change Stopped (d.driveFieldDefault p.libm (p.heading gyro) 0 0 0)
    rw [exact]
    exact stopped_driveDefault d _
  | placeGear c => cases other
  | driveZero => exact stopped_setDrive (d.setAzimuth 0)

theorem seen_concat (inputs : List (Readings ℝ)) (r : Readings ℝ) :
    Seen (inputs ++ [r]) ↔ Seen inputs ∨ (3 ≤ inputs.length ∧ r.hasTarget = true) := by
  unfold Seen
  by_cases long : 3 ≤ inputs.length
  · rw [List.drop_append_of_le_length long]
    simp [long, or_and_right, exists_or]
  · have front : inputs.drop 3 = [] := List.drop_eq_nil_of_le (by omega)
    have whole : (inputs ++ [r]).drop 3 = [] := by
      apply List.drop_eq_nil_of_le
      rw [List.length_append, List.length_singleton]
      omega
    rw [front, whole]
    simp [long]

/-- Before it drives the command counts its steps, and then looks for a target. -/
structure Waiting (steps : ℕ) (c : PlaceGear ℝ) : Prop where
  isInitialized : c.isInitialized = false
  isCruising : c.isCruising = false
  zeroCount : c.zeroCount = min steps 3
  isDelayDone : c.isDelayDone = decide (3 < steps)

theorem calculateDistance_cases (cmath : Cmath ℝ) (r : Readings ℝ) (c : PlaceGear ℝ) :
    (r.hasTarget = false ∧ c.calculateDistance cmath r = (c, false)) ∨
      (r.hasTarget = true ∧ ∃ distance, c.calculateDistance cmath r = ({ c with distance }, true)) := by
  cases target : r.hasTarget with
  | false => exact .inl ⟨rfl, by simp [PlaceGear.calculateDistance, target]⟩
  | true => exact .inr ⟨rfl, _, by simp [PlaceGear.calculateDistance, target]; rfl⟩

/-- Past the wait, the step is ready as soon as there is a target. -/
theorem ready_found {steps : ℕ} {c d : PlaceGear ℝ} (cmath : Cmath ℝ) (r : Readings ℝ)
    (uninitialized : c.isInitialized = false) (delayed : c.delayForPositionZero = (d, false))
    (waiting : Waiting (steps + 1) d) :
    ((c.ready cmath r).2 = true ↔ r.hasTarget = true) ∧
      ((c.ready cmath r).2 = true → (c.ready cmath r).1.isInitialized = true) ∧
      ((c.ready cmath r).2 = false → Waiting (steps + 1) (c.ready cmath r).1) := by
  rcases calculateDistance_cases cmath r d with ⟨target, missed⟩ | ⟨target, distance, found⟩
  · have stays : c.ready cmath r = (d, false) := by
      simp [PlaceGear.ready, uninitialized, delayed, missed]
    rw [stays, target]
    exact ⟨Iff.rfl, (fun other => nomatch other), fun _ => waiting⟩
  · have goes : c.ready cmath r = ({ d with distance, isInitialized := true }, true) := by
      simp [PlaceGear.ready, uninitialized, delayed, found]
    rw [goes, target]
    exact ⟨Iff.rfl, fun _ => rfl, fun other => nomatch other⟩

theorem ready_waiting {steps : ℕ} {c : PlaceGear ℝ} (cmath : Cmath ℝ) (r : Readings ℝ)
    (waiting : Waiting steps c) :
    ((c.ready cmath r).2 = true ↔ 3 ≤ steps ∧ r.hasTarget = true) ∧
      ((c.ready cmath r).2 = true → (c.ready cmath r).1.isInitialized = true) ∧
      ((c.ready cmath r).2 = false → Waiting (steps + 1) (c.ready cmath r).1) := by
  obtain ⟨uninitialized, uncruised, count, delay⟩ := waiting
  by_cases early : steps < 3
  · have undelayed : c.isDelayDone = false := by
      rw [delay]
      exact decide_eq_false (by omega)
    have counted : c.zeroCount = steps := by omega
    have waits : c.ready cmath r = ({ c with zeroCount := steps + 1 }, false) := by
      simp [PlaceGear.ready, PlaceGear.delayForPositionZero, uninitialized, undelayed, counted,
        PlaceGear.kZeroCountReq, early]
    rw [waits]
    refine ⟨iff_of_false Bool.false_ne_true (fun both => absurd both.1 (by omega)),
      (fun other => nomatch other), fun _ => ⟨uninitialized, uncruised, ?_, ?_⟩⟩
    · change steps + 1 = min (steps + 1) 3
      omega
    · rw [undelayed]
      exact (decide_eq_false (by omega)).symm
  · have late : 3 ≤ steps := by omega
    rw [and_iff_right late]
    by_cases last : steps = 3
    · have undelayed : c.isDelayDone = false := by
        rw [delay]
        exact decide_eq_false (by omega)
      have counted : c.zeroCount = 3 := by omega
      have delayed : c.delayForPositionZero = ({ c with isDelayDone := true }, false) := by
        simp [PlaceGear.delayForPositionZero, undelayed, counted, PlaceGear.kZeroCountReq]
      refine ready_found cmath r uninitialized delayed ⟨uninitialized, uncruised, ?_, ?_⟩
      · change c.zeroCount = _
        omega
      · exact (decide_eq_true (by omega)).symm
    · have done : c.isDelayDone = true := by
        rw [delay]
        exact decide_eq_true (by omega)
      have delayed : c.delayForPositionZero = (c, false) := by
        simp [PlaceGear.delayForPositionZero, done]
      refine ready_found cmath r uninitialized delayed ⟨uninitialized, uncruised, ?_, ?_⟩
      · omega
      · rw [done]
        exact (decide_eq_true (by omega)).symm

/-- Aiming sets the speed ahead and how the command goes on stays. -/
theorem aim_kept (r : Readings ℝ) (c : PlaceGear ℝ) :
    (c.aim r).driveSetpoint = PlaceGear.kDriveSpeed ∧ (c.aim r).isInitialized = c.isInitialized ∧
      (c.aim r).isCruising = c.isCruising := by
  have strafe : ∀ c : PlaceGear ℝ, (c.calculateStrafeSetpoint r).1.driveSetpoint = c.driveSetpoint ∧
      (c.calculateStrafeSetpoint r).1.isInitialized = c.isInitialized ∧
      (c.calculateStrafeSetpoint r).1.isCruising = c.isCruising := by
    intro c
    unfold PlaceGear.calculateStrafeSetpoint
    split_ifs <;> exact ⟨rfl, rfl, rfl⟩
  exact strafe { c with driveSetpoint := PlaceGear.kDriveSpeed }

theorem isFinished_kept (r : Readings ℝ) (c : PlaceGear ℝ) :
    (c.isFinished r).1.isInitialized = c.isInitialized ∧
      (c.isInitialized = false → c.isFinished r = (c, false)) := by
  unfold PlaceGear.isFinished
  cases started : c.isInitialized with
  | false => exact ⟨started, fun _ => rfl⟩
  | true =>
    refine ⟨?_, fun other => nomatch other⟩
    cases c.isCruising <;> rfl

/-- The command still waits, or has found a target and was initialised. -/
def Started (inputs : List (Readings ℝ)) (c : PlaceGear ℝ) : Prop :=
  (¬Seen inputs ∧ Waiting inputs.length c) ∨ (Seen inputs ∧ c.isInitialized = true)

/-- A step is ready when a target was seen up to it, and is initialised then. -/
theorem ready_started {inputs : List (Readings ℝ)} {c : PlaceGear ℝ} (cmath : Cmath ℝ)
    (r : Readings ℝ) (started : Started inputs c) :
    (Seen (inputs ++ [r]) ∧ (c.ready cmath r).2 = true ∧ (c.ready cmath r).1.isInitialized = true) ∨
      (¬Seen (inputs ++ [r]) ∧ (c.ready cmath r).2 = false ∧
        Waiting (inputs ++ [r]).length (c.ready cmath r).1) := by
  rcases started with ⟨unseen, waiting⟩ | ⟨seen, initialized⟩
  · obtain ⟨found, initialized, waits⟩ := ready_waiting cmath r waiting
    cases ready : (c.ready cmath r).2 with
    | true => exact .inl ⟨(seen_concat inputs r).mpr (.inr (found.mp ready)), rfl, initialized ready⟩
    | false =>
      refine .inr ⟨?_, rfl, ?_⟩
      · rw [seen_concat]
        rintro (earlier | now)
        · exact unseen earlier
        · rw [found.mpr now] at ready
          cases ready
      · rw [List.length_append, List.length_singleton]
        exact waits ready
  · have ready : c.ready cmath r = (c, true) := by simp [PlaceGear.ready, initialized]
    rw [ready]
    exact .inl ⟨(seen_concat inputs r).mpr (.inl seen), rfl, initialized⟩

/-- While the gear is placed: the drive is set for it, and either still holds
what it was given before, or what the last step drove with. -/
structure Placing (p : Platform ℝ) (g : Geometry ℝ) (d : SwerveDrive ℝ)
    (inputs : List (Readings ℝ)) (a : Activity ℝ) : Prop where
  vectors : a.drive.math.rotationVectors = g.rotationVectors Libm.real
  disabled : a.drive.gyroDisabled = true
  scale : a.drive.driveScaleFactor = p.driveAzimuthSettings.setpointMax
  progress : ∃ c, a.command = .placeGear c ∧
    ((¬Seen inputs ∧ Waiting inputs.length c ∧
        ∀ i, (a.drive.drive i).setpoint = (d.drive i).setpoint) ∨
      (Seen inputs ∧ c.isInitialized = true ∧
        (Stopped a.drive ↔ p.driveAzimuthSettings.setpointMax = 0)))

variable {g : Geometry ℝ} {d : SwerveDrive ℝ} {inputs : List (Readings ℝ)} {a : Activity ℝ}

theorem placing_init (vectors : d.math.rotationVectors = g.rotationVectors Libm.real)
    (first : Readings ℝ) (c : PlaceGear ℝ) (gyro : Ahrs ℝ) :
    Placing p g d [] ((command p).init first ⟨.placeGear c, d, gyro⟩) := by
  refine ⟨vectors, rfl, rfl, _, rfl, .inl ⟨?_, ⟨rfl, rfl, rfl, rfl⟩, fun i => rfl⟩⟩
  rintro ⟨r, member, _⟩
  cases member

theorem drive_kept (d : SwerveDrive ℝ) (forward strafe azimuth deadZone : ℝ) :
    (d.drive_ Libm.real forward strafe azimuth deadZone).math.rotationVectors =
        d.math.rotationVectors ∧
      (d.drive_ Libm.real forward strafe azimuth deadZone).gyroDisabled = d.gyroDisabled ∧
      (d.drive_ Libm.real forward strafe azimuth deadZone).driveScaleFactor = d.driveScaleFactor := by
  unfold drive_
  split_ifs <;> exact ⟨rfl, rfl, rfl⟩

theorem execute_unready {r : Readings ℝ} {c : PlaceGear ℝ} (unready : (c.ready p.cmath r).2 = false)
    (d : SwerveDrive ℝ) : c.execute p r d = ((c.ready p.cmath r).1, d) := by
  simp [PlaceGear.execute, unready]

/-- A ready step drives as it aims, without the gyro. -/
theorem execute_ready (exact : p.libm = Libm.real) {r : Readings ℝ} {c : PlaceGear ℝ}
    (ready : (c.ready p.cmath r).2 = true) {d : SwerveDrive ℝ} (disabled : d.gyroDisabled = true) :
    ∃ strafe azimuth, c.execute p r d = ((c.ready p.cmath r).1.aim r,
      d.drive_ Libm.real PlaceGear.kDriveSpeed strafe azimuth PlaceGear.kDeadzone) := by
  refine ⟨((c.ready p.cmath r).1.aim r).strafeSetpoint, ((c.ready p.cmath r).1.aim r).azimuthSetpoint, ?_⟩
  have forward := (aim_kept r (c.ready p.cmath r).1).1
  simp only [PlaceGear.execute, ready, Bool.not_true, Bool.false_eq_true, if_false, driveField,
    disabled, if_true, exact, forward]

theorem tick_command (r : Readings ℝ) {c : PlaceGear ℝ} {d : SwerveDrive ℝ} (gyro : Ahrs ℝ) :
    ((command p).tick r ⟨.placeGear c, d, gyro⟩).1 =
      ⟨.placeGear ((c.execute p r d).1.isFinished r).1, (c.execute p r d).2, gyro⟩ := rfl

theorem placing_drove (exact : p.libm = Libm.real) {r : Readings ℝ} {c : PlaceGear ℝ} {gyro : Ahrs ℝ}
    (vectors : d.math.rotationVectors = g.rotationVectors Libm.real)
    (disabled : d.gyroDisabled = true)
    (scale : d.driveScaleFactor = p.driveAzimuthSettings.setpointMax)
    (ready : (c.ready p.cmath r).2 = true)
    (initialized : (c.ready p.cmath r).1.isInitialized = true) (seen : Seen (inputs ++ [r]))
    (start : SwerveDrive ℝ) :
    Placing p g start (inputs ++ [r]) ((command p).tick r ⟨.placeGear c, d, gyro⟩).1 := by
  obtain ⟨strafe, azimuth, executed⟩ := execute_ready exact ready disabled
  obtain ⟨sameVectors, sameGyro, sameScale⟩ :=
    drive_kept d PlaceGear.kDriveSpeed strafe azimuth PlaceGear.kDeadzone
  have fast : (PlaceGear.kDeadzone : ℝ) < |PlaceGear.kDriveSpeed| := by
    norm_num [PlaceGear.kDeadzone, PlaceGear.kDriveSpeed, PlaceGear.kSetpointMax, abs_div]
  have zone : (0 : ℝ) ≤ PlaceGear.kDeadzone := by
    norm_num [PlaceGear.kDeadzone, PlaceGear.kSetpointMax]
  rw [tick_command, executed]
  refine ⟨sameVectors.trans vectors, sameGyro.trans disabled, sameScale.trans scale, _, rfl,
    .inr ⟨seen, ?_, ?_⟩⟩
  · rw [(isFinished_kept r _).1, (aim_kept r _).2.1, initialized]
  · rw [← scale]
    exact stopped_moving_iff vectors fast zone strafe azimuth

theorem Placing.started {c : PlaceGear ℝ} {e : SwerveDrive ℝ} {gyro : Ahrs ℝ}
    (placing : Placing p g d inputs ⟨.placeGear c, e, gyro⟩) : Started inputs c := by
  obtain ⟨_, same, progress⟩ := placing.progress
  obtain rfl := AutonCommand.placeGear.inj same
  rcases progress with ⟨unseen, waiting, _⟩ | ⟨seen, initialized, _⟩
  · exact .inl ⟨unseen, waiting⟩
  · exact .inr ⟨seen, initialized⟩

theorem placing_tick (exact : p.libm = Libm.real) (placing : Placing p g d inputs a)
    (r : Readings ℝ) : Placing p g d (inputs ++ [r]) ((command p).tick r a).1 := by
  obtain ⟨_, e, gyro⟩ := a
  obtain ⟨c, same, progress⟩ := placing.progress
  obtain rfl : _ = AutonCommand.placeGear c := same
  rcases ready_started p.cmath r placing.started with
    ⟨seen, ready, initialized⟩ | ⟨unseen, unready, waits⟩
  · exact placing_drove exact placing.vectors placing.disabled placing.scale ready initialized seen d
  · have unfinished := (isFinished_kept r (c.ready p.cmath r).1).2 waits.isInitialized
    rw [tick_command, execute_unready unready, unfinished]
    refine ⟨placing.vectors, placing.disabled, placing.scale, _, rfl, .inl ⟨unseen, waits, ?_⟩⟩
    rcases progress with ⟨_, _, held⟩ | ⟨seen, _⟩
    · exact held
    · exact absurd ((seen_concat inputs r).mpr (.inl seen)) unseen

theorem placing_ends (exact : p.libm = Libm.real)
    (vectors : d.math.rotationVectors = g.rotationVectors Libm.real) {first : Readings ℝ}
    {c : PlaceGear ℝ} {gyro : Ahrs ℝ} {ending : Ending} {t : Activity ℝ}
    (ends : Ends (command p) first ⟨.placeGear c, d, gyro⟩ inputs ending t) :
    Placing p g d inputs t :=
  ends.invariant (placing_init vectors first c gyro)
    fun _ _ r placing => placing_tick exact placing r

theorem placing_stopped_iff (placing : Placing p g d inputs a) :
    Stopped a.drive ↔ (Seen inputs ∧ p.driveAzimuthSettings.setpointMax = 0) ∨
      (¬Seen inputs ∧ Stopped d) := by
  obtain ⟨c, _, ⟨unseen, _, held⟩ | ⟨seen, _, sent⟩⟩ := placing.progress
  · have same : Stopped a.drive ↔ Stopped d := forall_congr' fun i => by rw [held i]
    rw [same]
    simp [unseen]
  · rw [sent]
    simp [seen]

/-- The `End` of placing the gear sends the drive nothing. -/
theorem placing_finish (placing : Placing p g d inputs a) :
    Stopped (a.finish p).drive ↔ Stopped a.drive := by
  obtain ⟨c, same, _⟩ := placing.progress
  rw [Activity.finish, same]
  rfl

theorem kind_ends {first : Readings ℝ} {s t : Activity ℝ} {ending : Ending}
    (ends : Ends (command p) first s inputs ending t) :
    t.command.isPlaceGear = s.command.isPlaceGear := by
  apply ends.invariant
  · exact init_isPlaceGear first s
  · intro _ t r same
    exact (tick_isPlaceGear r t).trans same

theorem close_eq (ending : Ending) (t : Activity ℝ) : (command p).close ending t = t.finish p := by
  cases ending <;> rfl

/-- No operation of the drive changes its rotation vectors. -/
theorem step_vectors (libm : Libm ℝ) (d : SwerveDrive ℝ) (op : Op ℝ) :
    (SwerveDrive.step libm d op).math.rotationVectors = d.math.rotationVectors := by
  rcases step_cases libm d op with ⟨_, ⟨call, math, _⟩ | kept⟩ | ⟨_, kept | written⟩
  · rw [math, step_rotationVectors]
  · rw [kept.1]
  · rw [kept.1]
  · rw [written.1]

section Ends
variable (cmath : Cmath ℝ) (driveAuton driveAzimuth : Settings ℝ) (g : Geometry ℝ)
  (deadZone driveScaleFactor : ℝ) (ops : List (Op ℝ))

/-- Begun after any operations on the drive and ended after any readings, by
finishing or interrupted, a command leaves the drive stopped exactly when it is
not the one that places the gear, or that one saw no target after its wait and
found the drive stopped, or is scaled to nothing. -/
theorem leaves_stopped_iff (c : AutonCommand ℝ) (gyroAtEnd : Ahrs ℝ) (first : Readings ℝ)
    (inputs : List (Readings ℝ)) (ending : Ending) (t : Activity ℝ)
    (ends : Ends (command (exactly cmath driveAuton driveAzimuth)) first
      ⟨c, run (SwerveDrive.step Libm.real) (initial Libm.real g deadZone driveScaleFactor) ops,
        gyroAtEnd⟩ inputs ending t) :
    Stopped ((command (exactly cmath driveAuton driveAzimuth)).close ending t).drive ↔
      LeavesStopped (exactly cmath driveAuton driveAzimuth) c
        (run (SwerveDrive.step Libm.real) (initial Libm.real g deadZone driveScaleFactor) ops)
        inputs := by
  have kind := kind_ends ends
  have vectors := run_invariant (I := fun d => d.math.rotationVectors = g.rotationVectors Libm.real)
    (fun d op same => (step_vectors Libm.real d op).trans same)
    (rfl : (initial Libm.real g deadZone driveScaleFactor).math.rotationVectors = _) ops
  rw [close_eq]
  cases c with
  | placeGear c =>
    have placing := placing_ends rfl vectors ends
    exact (placing_finish placing).trans (placing_stopped_iff placing)
  | drive | gyroAzimuth | deadeyeAzimuth | timedAzimuth | driveZero =>
    exact iff_of_true (finish_stopped rfl t kind) trivial

end Ends

noncomputable def Cmath.real : Cmath ℝ where
  cosDegrees angle := Real.cos (angle * Real.pi / 180)
  sinDegrees angle := Real.sin (angle * Real.pi / 180)
  pow x y := x ^ y
  unit _ := Real.cos_sq_add_sin_sq _

/-- The drive's settings in the competition config. -/
noncomputable def robot : Platform ℝ :=
  exactly .real ⟨.velocity, 400, by norm_num⟩ ⟨.velocity, 275, by norm_num⟩

/-- At the center lift, with the drive as it is at power-on. -/
noncomputable def beforeLift : Activity ℝ :=
  ⟨.placeGear (.construct false .center ⟨0, 0, 0, 0, 0, 0, 0, 0, 0, 0, 0, false, false, false⟩),
    atPowerOn, ⟨0, 0⟩⟩

noncomputable def liftInSight : Readings ℝ where
  hasTarget := true
  targetHeight := 60
  azimuthError := 0
  positions := 0
  hasTargetStill := true
  strafeError := 75
  gyro := ⟨0, 0⟩
  driveGyro := ⟨0, 0⟩
  timedOut := false
  hasTargetAfter := true
  speeds := 0
  positionsAfter := 0

theorem ready_isCruising (cmath : Cmath ℝ) (r : Readings ℝ) (c : PlaceGear ℝ) :
    (c.ready cmath r).1.isCruising = c.isCruising := by
  unfold PlaceGear.ready PlaceGear.delayForPositionZero PlaceGear.calculateDistance
  split_ifs <;> rfl

theorem execute_isCruising (p : Platform ℝ) (r : Readings ℝ) (c : PlaceGear ℝ) (d : SwerveDrive ℝ) :
    (c.execute p r d).1.isCruising = c.isCruising := by
  cases ready : (c.ready p.cmath r).2 with
  | false => rw [execute_unready ready, ready_isCruising]
  | true =>
    have aimed : (c.execute p r d).1 = (c.ready p.cmath r).1.aim r := by
      simp [PlaceGear.execute, ready]
    rw [aimed, (aim_kept r _).2.2, ready_isCruising]

/-- Not cruising, the command cannot finish. -/
theorem isFinished_uncruised (r : Readings ℝ) {c : PlaceGear ℝ} (uncruised : c.isCruising = false) :
    (c.isFinished r).2 = false := by
  unfold PlaceGear.isFinished
  rw [uncruised]
  split_ifs <;> simp_all

/-- The command goes on for four steps at least. -/
theorem ticks_early (exact : p.libm = Libm.real)
    (vectors : d.math.rotationVectors = g.rotationVectors Libm.real) (first : Readings ℝ)
    (c : PlaceGear ℝ) (gyro : Ahrs ℝ) (inputs : List (Readings ℝ)) (few : inputs.length ≤ 4) :
    ∃ t, Ticks (command p) first ⟨.placeGear c, d, gyro⟩ inputs t := by
  induction inputs using List.reverseRecOn with
  | nil => exact ⟨_, .init⟩
  | append_singleton inputs r ih =>
    rw [List.length_append, List.length_singleton] at few
    obtain ⟨t, ticks⟩ := ih (by omega)
    have early : ¬Seen inputs := by
      rintro ⟨s, member, _⟩
      rw [List.drop_eq_nil_of_le (by omega)] at member
      cases member
    obtain ⟨b, same, ⟨_, waiting, _⟩ | ⟨seen, _⟩⟩ :=
      (placing_ends exact vectors (.interrupted ticks)).progress
    · obtain ⟨_, e, later⟩ := t
      obtain rfl : _ = AutonCommand.placeGear b := same
      have uncruised := (execute_isCruising p r b e).trans waiting.isCruising
      have unfinished : ((command p).tick r ⟨.placeGear b, e, later⟩).2 = false :=
        isFinished_uncruised r uncruised
      refine ⟨((command p).tick r ⟨.placeGear b, e, later⟩).1, ticks.next ?_⟩
      rw [← unfinished]
    · exact absurd seen early

/-- A drive ahead before auton, and the stop after it. -/
noncomputable def movedAndStopped : List (Op ℝ) := [.driveAutonomous 0.5 0 0, .setDrive 0]

/-- With the lift out of sight, interrupted after its fourth step. -/
theorem leaves_stopped_unseen :
    let d := run (SwerveDrive.step Libm.real) atPowerOn movedAndStopped
    ∃ t, Ends (command robot) liftInSight ⟨beforeLift.command, d, ⟨0, 0⟩⟩
        (List.replicate 4 { liftInSight with hasTarget := false }) .interrupted t ∧
      Stopped ((command robot).close .interrupted t).drive := by
  intro d
  have vectors : d.math.rotationVectors = Geometry.competition.rotationVectors Libm.real :=
    run_invariant (I := fun d => d.math.rotationVectors = Geometry.competition.rotationVectors _)
      (fun d op same => (step_vectors Libm.real d op).trans same) rfl movedAndStopped
  obtain ⟨t, ticks⟩ := ticks_early (p := robot) rfl vectors liftInSight _ ⟨0, 0⟩
    (List.replicate 4 { liftInSight with hasTarget := false }) (List.length_replicate ..).le
  refine ⟨t, .interrupted ticks, ?_⟩
  refine (leaves_stopped_iff .real _ _ Geometry.competition 0.08 12 movedAndStopped _ _ liftInSight _
    .interrupted t (.interrupted ticks)).mpr (.inr ⟨?_, fun i => Talon.setpoint_set _ _⟩)
  rintro ⟨r, member, seen⟩
  obtain rfl := List.eq_of_mem_replicate (List.mem_of_mem_drop member)
  cases seen

/-- The lift in sight, interrupted after its fourth step. -/
theorem placing_leaves_drive_on :
    ∃ t, Ends (command robot) liftInSight beforeLift (List.replicate 4 liftInSight) .interrupted t ∧
      ¬Stopped ((command robot).close .interrupted t).drive := by
  have vectors : atPowerOn.math.rotationVectors = Geometry.competition.rotationVectors Libm.real := rfl
  obtain ⟨t, ticks⟩ := ticks_early (p := robot) rfl vectors liftInSight _ ⟨0, 0⟩
    (List.replicate 4 liftInSight) (List.length_replicate ..).le
  have placing := placing_ends rfl vectors (.interrupted ticks)
  refine ⟨t, .interrupted ticks, ?_⟩
  rw [close_eq, placing_finish placing, placing_stopped_iff placing]
  rintro (⟨_, zero⟩ | ⟨unseen, _⟩)
  · exact absurd zero (by norm_num [robot, exactly])
  · exact unseen ⟨liftInSight, List.mem_singleton.mpr rfl, rfl⟩

end Steamworks.Auton
