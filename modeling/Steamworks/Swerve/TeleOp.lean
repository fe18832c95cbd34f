import Steamworks.Swerve.DriveProofs

/-! Tele-operated driving, from the joystick to the drive Talons. The operator
input has a dead zone on each stick, before the expo curve and the gyro's
rotation; the drive has one of its own on what comes out of them. -/
namespace Steamworks.Swerve
open Library.Run SwerveDrive

set_option linter.unusedSectionVars false

variable {K : Type*} [Field K] [LinearOrder K]

/-- A transfer function whose settings the constructor accepted. -/
structure Expo (K : Type*) [Field K] [LinearOrder K] where
  deadzone : K
  scale : K
  deadzone_range : 0 ≤ deadzone ∧ deadzone < 1
  scale_range : 0 ≤ scale ∧ scale ≤ 1

namespace Expo

def new (deadzone scale : K) : Except String (Expo K) :=
  if deadzoneBad : deadzone < 0 ∨ 1 ≤ deadzone then .error "deadzone out of range"
  else if scaleBad : scale < 0 ∨ 1 < scale then .error "scale out of range"
  else .ok
    { deadzone := deadzone
      scale := scale
      deadzone_range := by simpa [not_or] using deadzoneBad
      scale_range := by simpa [not_or] using scaleBad }

def offset (e : Expo K) : K :=
  1 / (e.scale * (1 - e.deadzone) ^ 3 + (1 - e.scale) * (1 - e.deadzone))

def curve (e : Expo K) (x : K) : K := (e.scale * x ^ 3 + (1 - e.scale) * x) * e.offset

def operatorCall (e : Expo K) (x : K) : K :=
  if |x| < e.deadzone then 0
  else e.curve (if 0 < x then x - e.deadzone else x + e.deadzone)

end Expo

/-- The doubles of the `SIDEWINDER` table, by name. -/
abbrev Sidewinder (K : Type*) := String → Option K

def getDouble (config : Option (Sidewinder K)) (param : String) : Except String K :=
  match config with
  | none => .error "SIDEWINDER config missing"
  | some c =>
    match c param with
    | none => .error (param ++ " config missing")
    | some val => .ok val

/-- The axes of the flight simulator joystick that the drive is steered by. -/
structure FlightSim (K : Type*) where
  leftX : K
  leftY : K
  rightX : K

structure OI (K : Type*) [Field K] [LinearOrder K] where
  driveExpo : Expo K
  azimuthExpo : Expo K

namespace OI

/-- Which of two missing settings is reported is the compiler's choice; here it
is the first. -/
def new (config : Option (Sidewinder K)) : Except String (OI K) := do
  let driveExpo ← Expo.new (← getDouble config "drive_dead_zone")
    (← getDouble config "drive_expo_scale")
  let azimuthExpo ← Expo.new (← getDouble config "azimuth_dead_zone")
    (← getDouble config "azimuth_expo_scale")
  return { driveExpo, azimuthExpo }

def getTeleDriveForwardAxis (oi : OI K) (sticks : FlightSim K) : K :=
  oi.driveExpo.operatorCall sticks.leftY

def getTeleDriveStrafeAxis (oi : OI K) (sticks : FlightSim K) : K :=
  oi.driveExpo.operatorCall (-sticks.leftX)

def getTeleDriveAzimuthAxis (oi : OI K) (sticks : FlightSim K) : K :=
  oi.azimuthExpo.operatorCall sticks.rightX

end OI

/-- The base class's constructor, as far as the dead zone goes. -/
def loadDeadZone (config : Option (Sidewinder K)) : Except String K :=
  match config with
  | none => .error "SIDEWINDER config is missing"
  | some settings =>
    match settings "drive_dead_zone" with
    | none => .error "SIDEWINDER drive_dead_zone setting is missing"
    | some deadZone => .ok deadZone

namespace DriveTeleOp
variable [FloorRing K]

def execute (libm : Libm K) (oi : OI K) (d : SwerveDrive K) (heading : Heading K)
    (sticks : FlightSim K) : SwerveDrive K :=
  let forward := oi.getTeleDriveForwardAxis sticks
  let strafe := oi.getTeleDriveStrafeAxis sticks
  let azimuth := oi.getTeleDriveAzimuthAxis sticks
  d.driveFieldDefault libm heading forward strafe azimuth

/-- `End`. -/
def endCommand (libm : Libm K) (d : SwerveDrive K) (heading : Heading K) : SwerveDrive K :=
  d.driveFieldDefault libm heading 0 0 0

end DriveTeleOp

/-- A configuration with both dead zones inside (0, 1) and both scales in [0, 1]. -/
structure TeleOpConfig (K : Type*) [Field K] [LinearOrder K] where
  settings : Sidewinder K
  driveDeadZone : K
  driveExpoScale : K
  azimuthDeadZone : K
  azimuthExpoScale : K
  driveDeadZone_get : settings "drive_dead_zone" = some driveDeadZone
  driveExpoScale_get : settings "drive_expo_scale" = some driveExpoScale
  azimuthDeadZone_get : settings "azimuth_dead_zone" = some azimuthDeadZone
  azimuthExpoScale_get : settings "azimuth_expo_scale" = some azimuthExpoScale
  driveDeadZone_range : 0 < driveDeadZone ∧ driveDeadZone < 1
  azimuthDeadZone_range : 0 < azimuthDeadZone ∧ azimuthDeadZone < 1
  driveExpoScale_range : 0 ≤ driveExpoScale ∧ driveExpoScale ≤ 1
  azimuthExpoScale_range : 0 ≤ azimuthExpoScale ∧ azimuthExpoScale ≤ 1

def TeleOpConfig.oi (c : TeleOpConfig K) : OI K where
  driveExpo := ⟨c.driveDeadZone, c.driveExpoScale,
    ⟨c.driveDeadZone_range.1.le, c.driveDeadZone_range.2⟩, c.driveExpoScale_range⟩
  azimuthExpo := ⟨c.azimuthDeadZone, c.azimuthExpoScale,
    ⟨c.azimuthDeadZone_range.1.le, c.azimuthDeadZone_range.2⟩, c.azimuthExpoScale_range⟩

theorem Expo.new_ok (e : Expo K) : Expo.new e.deadzone e.scale = .ok e := by
  have deadzone : ¬(e.deadzone < 0 ∨ 1 ≤ e.deadzone) := by simpa [not_or] using e.deadzone_range
  have scale : ¬(e.scale < 0 ∨ 1 < e.scale) := by simpa [not_or] using e.scale_range
  simp only [Expo.new, dif_neg deadzone, dif_neg scale]

/-- The operator input is built from a valid configuration without an error,
and the drive is given the dead zone of its translation sticks. -/
theorem TeleOpConfig.loads (c : TeleOpConfig K) :
    OI.new (some c.settings) = .ok c.oi ∧ loadDeadZone (some c.settings) = .ok c.driveDeadZone := by
  have drive := c.oi.driveExpo.new_ok
  have azimuth := c.oi.azimuthExpo.new_ok
  constructor
  · simp only [OI.new, getDouble, c.driveDeadZone_get, c.driveExpoScale_get, c.azimuthDeadZone_get,
      c.azimuthExpoScale_get, bind, Except.bind]
    simp only [TeleOpConfig.oi] at drive azimuth
    rw [drive, azimuth]
    rfl
  · simp only [loadDeadZone, c.driveDeadZone_get]

variable [IsStrictOrderedRing K]

namespace Expo
variable (e : Expo K)

theorem offset_pos : 0 < e.offset := by
  have room : 0 < 1 - e.deadzone := sub_pos.mpr e.deadzone_range.2
  have rest : 0 ≤ 1 - e.scale := sub_nonneg.mpr e.scale_range.2
  refine one_div_pos.mpr ?_
  rcases e.scale_range.1.eq_or_lt with linear | cubic
  · rw [← linear]
    simpa using room
  · exact add_pos_of_pos_of_nonneg (mul_pos cubic (pow_pos room 3)) (mul_nonneg rest room.le)

@[simp] theorem curve_zero : e.curve 0 = 0 := by simp [curve]

theorem curve_neg (x : K) : e.curve (-x) = -e.curve x := by
  unfold curve
  ring

theorem curve_strictMono : StrictMono e.curve := by
  intro x y less
  have cube : x ^ 3 < y ^ 3 := Odd.strictMono_pow (by decide) less
  have rest : 0 ≤ 1 - e.scale := sub_nonneg.mpr e.scale_range.2
  refine mul_lt_mul_of_pos_right ?_ e.offset_pos
  rcases e.scale_range.1.eq_or_lt with linear | cubic
  · rw [← linear]
    simpa using less
  · exact add_lt_add_of_lt_of_le (mul_lt_mul_of_pos_left cube cubic)
      (mul_le_mul_of_nonneg_left less.le rest)

/-- The curve is scaled so that a stick at its stop commands full throttle. -/
theorem curve_full : e.curve (1 - e.deadzone) = 1 := by
  have positive := e.offset_pos
  rw [offset, one_div_pos] at positive
  rw [curve, offset, mul_one_div, div_self positive.ne']

/-- How far a stick is beyond the dead zone. -/
def beyond (x : K) : K := max 0 (|x| - e.deadzone)

theorem abs_operatorCall (x : K) : |e.operatorCall x| = e.curve (e.beyond x) := by
  have outside (t : K) (nonneg : 0 ≤ t) : |e.curve t| = e.curve t :=
    abs_of_nonneg (e.curve_zero ▸ e.curve_strictMono.monotone nonneg)
  unfold operatorCall beyond
  split_ifs with inside right
  · rw [max_eq_left (sub_nonpos.mpr inside.le), curve_zero, abs_zero]
  · rw [abs_of_pos right] at inside ⊢
    have past : 0 ≤ x - e.deadzone := sub_nonneg.mpr (not_lt.mp inside)
    rw [max_eq_right past, outside _ past]
  · rw [abs_of_nonpos (not_lt.mp right)] at inside ⊢
    have past : 0 ≤ -x - e.deadzone := sub_nonneg.mpr (not_lt.mp inside)
    have flipped : x + e.deadzone = -(-x - e.deadzone) := by ring
    rw [max_eq_right past, flipped, curve_neg, abs_neg, outside _ past]

theorem operatorCall_eq_zero_iff (x : K) : e.operatorCall x = 0 ↔ |x| ≤ e.deadzone := by
  rw [← abs_eq_zero, abs_operatorCall, ← e.curve_zero, e.curve_strictMono.injective.eq_iff, beyond,
    max_eq_left_iff, sub_nonpos]

theorem operatorCall_grows {x y : K} (past : e.deadzone < |y|) (less : |x| < |y|) :
    |e.operatorCall x| < |e.operatorCall y| := by
  rw [abs_operatorCall, abs_operatorCall]
  refine e.curve_strictMono (max_lt ?_ ?_)
  · exact lt_max_of_lt_right (sub_pos.mpr past)
  · exact lt_max_of_lt_right (sub_lt_sub_right less _)

theorem operatorCall_le_one (x : K) (range : |x| ≤ 1) : |e.operatorCall x| ≤ 1 := by
  rw [abs_operatorCall, ← e.curve_full]
  refine e.curve_strictMono.monotone (max_le ?_ ?_)
  · exact (sub_pos.mpr e.deadzone_range.2).le
  · exact sub_le_sub_right range _

end Expo

/-- An axis of the operator input is still exactly while its stick is in the
dead zone, and beyond it grows strictly with the stick. -/
structure Shapes (axis stick : FlightSim K → K) (deadZone : K) : Prop where
  still : ∀ sticks, axis sticks = 0 ↔ |stick sticks| ≤ deadZone
  grows : ∀ less more, deadZone < |stick more| → |stick less| < |stick more| →
    |axis less| < |axis more|

namespace OI
variable (oi : OI K)

theorem forward_shapes : Shapes oi.getTeleDriveForwardAxis FlightSim.leftY oi.driveExpo.deadzone where
  still sticks := oi.driveExpo.operatorCall_eq_zero_iff sticks.leftY
  grows _ _ := oi.driveExpo.operatorCall_grows

theorem strafe_shapes : Shapes oi.getTeleDriveStrafeAxis FlightSim.leftX oi.driveExpo.deadzone where
  still sticks := by
    rw [getTeleDriveStrafeAxis, oi.driveExpo.operatorCall_eq_zero_iff, abs_neg]
  grows less more past farther := by
    rw [← abs_neg] at past
    rw [← abs_neg, ← abs_neg more.leftX] at farther
    exact oi.driveExpo.operatorCall_grows past farther

theorem azimuth_shapes :
    Shapes oi.getTeleDriveAzimuthAxis FlightSim.rightX oi.azimuthExpo.deadzone where
  still sticks := oi.azimuthExpo.operatorCall_eq_zero_iff sticks.rightX
  grows _ _ := oi.azimuthExpo.operatorCall_grows

end OI

variable [FloorRing K]

namespace SwerveDrive

theorem unturned_unit : (1 : K) ^ 2 + 0 ^ 2 = 1 := by simp

/-- The heading that the stick's translation is turned by. -/
def facing (d : SwerveDrive K) (heading : Heading K) : Heading K :=
  if d.gyroDisabled then ⟨1, 0, unturned_unit⟩ else heading

theorem driveField_eq (libm : Libm K) (d : SwerveDrive K) (heading : Heading K)
    (forward strafe azimuth deadZone : K) :
    d.driveField libm heading forward strafe azimuth deadZone =
      d.drive_ libm (rotatedForward (d.facing heading) forward strafe)
        (rotatedStrafe (d.facing heading) forward strafe) azimuth deadZone := by
  unfold driveField facing
  split_ifs <;> simp [rotatedForward, rotatedStrafe]

/-- The other branch also turns the wheels, so the branch taken shows. -/
theorem drive_stops_iff (libm : Libm K) (d : SwerveDrive K) (forward strafe azimuth deadZone : K) :
    d.drive_ libm forward strafe azimuth deadZone = d.setDrive 0 ↔
      isStopping forward strafe azimuth deadZone := by
  constructor
  · intro stops
    by_contra moving
    rw [drive_, if_neg moving] at stops
    have sent := congrArg (fun next => (next.azimuth 0).sent) stops
    exact List.cons_ne_self _ _ sent
  · intro stopping
    rw [drive_, if_pos stopping]

theorem deadZone_drive (libm : Libm K) (d : SwerveDrive K) (forward strafe azimuth deadZone : K) :
    (d.drive_ libm forward strafe azimuth deadZone).deadZone = d.deadZone := by
  unfold drive_
  split_ifs <;> rfl

/-- No operation changes the configured dead zone. -/
theorem step_deadZone (libm : Libm K) (d : SwerveDrive K) (op : Op K) :
    (step libm d op).deadZone = d.deadZone := by
  cases op with
  | drive | driveDefault =>
    simp only [step, driveFieldDefault, driveField_eq]
    exact deadZone_drive libm d _ _ _ _
  | driveAutonomous => exact deadZone_drive libm d _ _ _ _
  | targetRotation | setBrake | setAzimuth | zeroAzimuth | crabDriveAutonomous
  | positionAzimuthForAuton | driveDistance | driveAzimuthAutonomous | setDrive | zeroPosition
  | setGyroDisabled | setDriveMode => rfl

end SwerveDrive

theorem isStopping_zero {deadZone : K} (positive : 0 < deadZone) (heading : Heading K) :
    isStopping (rotatedForward heading (0 : K) 0) (rotatedStrafe heading 0 0) 0 deadZone := by
  simp [isStopping, rotatedForward, rotatedStrafe, positive, positive.le]

namespace DriveTeleOp

/-- The command leaves the wheels stopped. -/
theorem end_stops (libm : Libm K) (d : SwerveDrive K) (positive : 0 < d.deadZone) (heading : Heading K) :
    endCommand libm d heading = d.setDrive 0 := by
  rw [endCommand, driveFieldDefault, driveField_eq, drive_stops_iff]
  exact isStopping_zero positive _

/-- After any operations the drive stops exactly when the shaped commands, the
translation turned by the heading, are within the drive's own dead zone. They
are zero exactly in the sticks' dead zones, so there it stops, and it keeps
stopping as far beyond them as the curve takes to leave the second dead zone. -/
theorem execute_stops_iff (libm : Libm K) (g : Geometry K) (driveScaleFactor : K)
    (config : TeleOpConfig K) (ops : List (Op K)) (heading : Heading K) (sticks : FlightSim K) :
    let d := run (step libm) (initial libm g config.driveDeadZone driveScaleFactor) ops
    let forward := config.oi.getTeleDriveForwardAxis
    let strafe := config.oi.getTeleDriveStrafeAxis
    let azimuth := config.oi.getTeleDriveAzimuthAxis
    (execute libm config.oi d heading sticks = d.setDrive 0 ↔
      isStopping (rotatedForward (d.facing heading) (forward sticks) (strafe sticks))
        (rotatedStrafe (d.facing heading) (forward sticks) (strafe sticks)) (azimuth sticks)
        config.driveDeadZone) ∧
      Shapes forward FlightSim.leftY config.driveDeadZone ∧
      Shapes strafe FlightSim.leftX config.driveDeadZone ∧
      Shapes azimuth FlightSim.rightX config.azimuthDeadZone ∧
      (|sticks.leftY| ≤ config.driveDeadZone ∧ |sticks.leftX| ≤ config.driveDeadZone ∧
        |sticks.rightX| ≤ config.azimuthDeadZone →
        execute libm config.oi d heading sticks = d.setDrive 0) := by
  intro d forward strafe azimuth
  have deadZone : d.deadZone = config.driveDeadZone := run_frame (step_deadZone libm) _ ops
  have stops : execute libm config.oi d heading sticks = d.setDrive 0 ↔
      isStopping (rotatedForward (d.facing heading) (forward sticks) (strafe sticks))
        (rotatedStrafe (d.facing heading) (forward sticks) (strafe sticks)) (azimuth sticks)
        config.driveDeadZone := by
    rw [← deadZone, ← drive_stops_iff libm, ← driveField_eq]
    exact Iff.rfl
  have shapesForward := config.oi.forward_shapes
  have shapesStrafe := config.oi.strafe_shapes
  have shapesAzimuth := config.oi.azimuth_shapes
  refine ⟨stops, shapesForward, shapesStrafe, shapesAzimuth, fun ⟨leftY, leftX, rightX⟩ => ?_⟩
  have still : forward sticks = 0 ∧ strafe sticks = 0 ∧ azimuth sticks = 0 :=
    ⟨(shapesForward.still sticks).mpr leftY, (shapesStrafe.still sticks).mpr leftX,
      (shapesAzimuth.still sticks).mpr rightX⟩
  rw [stops, still.1, still.2.1, still.2.2]
  exact isStopping_zero config.driveDeadZone_range.1 _

/-- The settings of both config files shipped with the robot. -/
noncomputable def shipped : TeleOpConfig ℝ where
  settings param := if param ∈ ["drive_dead_zone", "azimuth_dead_zone"] then some 0.08 else some 0.75
  driveDeadZone := 0.08
  driveExpoScale := 0.75
  azimuthDeadZone := 0.08
  azimuthExpoScale := 0.75
  driveDeadZone_get := by simp
  driveExpoScale_get := by simp
  azimuthDeadZone_get := by simp
  azimuthExpoScale_get := by simp
  driveDeadZone_range := by norm_num
  azimuthDeadZone_range := by norm_num
  driveExpoScale_range := by norm_num
  azimuthExpoScale_range := by norm_num

/-- Stopped with the sticks let go, and driving at full stick. -/
theorem let_go_and_full_stick :
    execute Libm.real shipped.oi atPowerOn ahead ⟨0, 0, 0⟩ = atPowerOn.setDrive 0 ∧
      execute Libm.real shipped.oi atPowerOn ahead ⟨0, 1, 0⟩ ≠ atPowerOn.setDrive 0 := by
  obtain ⟨_, _, _, _, still⟩ :=
    execute_stops_iff Libm.real Geometry.competition 12 shipped [] ahead ⟨0, 0, 0⟩
  obtain ⟨stops, _⟩ := execute_stops_iff Libm.real Geometry.competition 12 shipped [] ahead ⟨0, 1, 0⟩
  constructor
  · refine still ⟨?_, ?_, ?_⟩ <;> norm_num [shipped]
  · intro stopped
    have full : shipped.oi.driveExpo.operatorCall 1 = 1 := by
      have shifted : shipped.oi.driveExpo.operatorCall 1 =
          shipped.oi.driveExpo.curve (1 - shipped.oi.driveExpo.deadzone) := by
        norm_num [Expo.operatorCall, TeleOpConfig.oi, shipped]
      exact shifted.trans shipped.oi.driveExpo.curve_full
    have slow := (stops.mp stopped).1
    simp only [facing, initial, rotatedForward, ahead, OI.getTeleDriveForwardAxis, full] at slow
    norm_num [shipped] at slow

/-- A tenth of full stick is beyond the dead zone of 0.08, and the drive stops. -/
theorem tenth_of_stick_stops :
    let sticks : FlightSim ℝ := ⟨0, 0.1, 0⟩
    execute Libm.real shipped.oi atPowerOn ahead sticks = atPowerOn.setDrive 0 ∧
      ¬|sticks.leftY| ≤ shipped.driveDeadZone := by
  intro sticks
  constructor
  · have forward : shipped.oi.getTeleDriveForwardAxis sticks ∈ Set.Icc 0 0.08 := by
      norm_num [OI.getTeleDriveForwardAxis, Expo.operatorCall, TeleOpConfig.oi, shipped, sticks,
        Expo.curve, Expo.offset, abs_of_pos]
    have strafe : shipped.oi.getTeleDriveStrafeAxis sticks = 0 := by
      norm_num [OI.getTeleDriveStrafeAxis, Expo.operatorCall, TeleOpConfig.oi, shipped, sticks]
    have azimuth : shipped.oi.getTeleDriveAzimuthAxis sticks = 0 := by
      norm_num [OI.getTeleDriveAzimuthAxis, Expo.operatorCall, TeleOpConfig.oi, shipped, sticks]
    rw [execute, driveFieldDefault, driveField_eq, drive_stops_iff, strafe, azimuth]
    simp only [isStopping, facing, atPowerOn, initial, rotatedForward, rotatedStrafe, ahead]
    norm_num [abs_of_nonneg forward.1]
    exact forward.2.trans_eq (by norm_num)
  · norm_num [shipped, sticks, abs_of_pos]

end DriveTeleOp
end Steamworks.Swerve
