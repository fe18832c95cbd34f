import Steamworks.Library.Remainder

/-! Inverse kinematics of the swerve drive: joystick forward, strafe and
azimuth to four wheel speeds and four unbounded wheel angles in degrees. The
arithmetic is exact over any ordered field with a floor; the two functions that
leave the field, square root and arc tangent, are parameters. -/
namespace Steamworks.Swerve
open Library.Remainder

variable {K : Type*} [Field K] [LinearOrder K]

-- Named like the facts on numerals: a wheel's index rests on it in every module.
instance neZero_wheels : NeZero 4 := inferInstance

/-- The part of libm the drive calls. `atan2Degrees y x` is `to_degrees` of
`atan2(y, x)`; only the signs and the range that the code relies on are fixed. -/
structure Libm (K : Type*) [Field K] [LinearOrder K] where
  sqrt : K → K
  atan2Degrees : K → K → K
  sqrt_nonneg : ∀ x, 0 ≤ sqrt x
  atan2_range : ∀ y x, -180 < atan2Degrees y x ∧ atan2Degrees y x ≤ 180

def Libm.hypot (libm : Libm K) (x y : K) : K := libm.sqrt (x * x + y * y)

@[ext] structure Vector2f (K : Type*) where
  x : K
  y : K
  deriving DecidableEq

inductive RotationPoint where
  | center
  | shooter
  deriving DecidableEq

/-- The rows of `cord_multiplers` in the order of `enum WheelPoints`: left
front, right front, right rear, left rear. -/
def cordMultipliers : Fin 4 → Vector2f K := ![⟨-1, 1⟩, ⟨1, 1⟩, ⟨1, -1⟩, ⟨-1, -1⟩]

def wheelOffset (robotLeftToRightLength robotFrontToBackLength : K)
    (rotationCord : Vector2f K) (i : Fin 4) : Vector2f K where
  x := rotationCord.x - robotLeftToRightLength * (cordMultipliers i).x / 2
  y := rotationCord.y - robotFrontToBackLength * (cordMultipliers i).y / 2

def calcRotationVectors (libm : Libm K) (robotLeftToRightLength robotFrontToBackLength : K)
    (rotationCord : Vector2f K) (i : Fin 4) : Vector2f K :=
  let offset := wheelOffset robotLeftToRightLength robotFrontToBackLength rotationCord i
  let distance := libm.hypot offset.x offset.y
  ⟨-offset.y / distance, offset.x / distance⟩

/-- The settings of the SWERVE table, with no wheel on the shooter's rotation
point: there its distance is zero and the rotation vector undefined. -/
structure Geometry (K : Type*) [Field K] [LinearOrder K] where
  wheelbaseWidth : K
  wheelbaseLength : K
  shooterRotationPoint : Vector2f K
  width_pos : 0 < wheelbaseWidth
  length_pos : 0 < wheelbaseLength
  off_wheels : ∀ i, wheelOffset wheelbaseWidth wheelbaseLength shooterRotationPoint i ≠ ⟨0, 0⟩

structure DriveData (K : Type*) where
  fwd : K
  str : K
  rcw : K
  wsrf : K
  wslf : K
  wslr : K
  wsrr : K
  warf : K
  walf : K
  walr : K
  warr : K

/-- Wheel `i` of the class's arrays is reported as right front, left front,
left rear, right rear. -/
def DriveData.wheelSpeed (dd : DriveData K) : Fin 4 → K := ![dd.wsrf, dd.wslf, dd.wslr, dd.wsrr]

def DriveData.wheelAngle (dd : DriveData K) : Fin 4 → K := ![dd.warf, dd.walf, dd.walr, dd.warr]

/-- The history of one wheel: `wheel_angles[i]`, `wheel_anglesPast[i]` and
`wheel_mag_negated[i]`. -/
structure Wheel (K : Type*) where
  angle : K
  anglePast : K
  magNegated : Bool

/-- The private members of the class, with the three per-wheel arrays as one. -/
structure SwerveMath (K : Type*) where
  wheels : Fin 4 → Wheel K
  wheelMags : Fin 4 → K
  rotationVectors : RotationPoint → Fin 4 → Vector2f K

/-- The tables of the config file that `LoadConfigSettings` opens, and the
settings it asks for; `none` is a missing entry. -/
structure SwerveTable (K : Type*) where
  wheelbaseWidth : Option K
  wheelbaseLength : Option K
  shooterRotationPointX : Option K
  shooterRotationPointY : Option K

structure SidewinderTable (K : Type*) where
  swerve : Option (SwerveTable K)

def required (message : String) : Option α → Except String α
  | some value => .ok value
  | none => .error message

def loadConfigSettings (libm : Libm K) (sidewinder : Option (SidewinderTable K)) :
    Except String (RotationPoint → Fin 4 → Vector2f K) := do
  let sidewinder ← required "SIDEWINDER config is missing" sidewinder
  let settings ← required "SWERVE config is missing" sidewinder.swerve
  let width ← required "SIDEWINDER wheelbase_width setting is missing" settings.wheelbaseWidth
  let length ← required "SIDEWINDER wheelbase_length setting is missing" settings.wheelbaseLength
  let x ← required "SIDEWINDER shooter_rotation_point_X setting is missing"
    settings.shooterRotationPointX
  let y ← required "SIDEWINDER shooter_rotation_point_Y setting is missing"
    settings.shooterRotationPointY
  return fun
    | .center => calcRotationVectors libm width length ⟨0, 0⟩
    | .shooter => calcRotationVectors libm width length ⟨x, y⟩

def SwerveMath.initial (vectors : RotationPoint → Fin 4 → Vector2f K) : SwerveMath K where
  wheels _ := ⟨0, 0, false⟩
  wheelMags _ := 0
  rotationVectors := vectors

def Geometry.table (g : Geometry K) : SidewinderTable K where
  swerve := some ⟨g.wheelbaseWidth, g.wheelbaseLength, g.shooterRotationPoint.x,
    g.shooterRotationPoint.y⟩

def Geometry.rotationVectors (libm : Libm K) (g : Geometry K) : RotationPoint → Fin 4 → Vector2f K
  | .center => calcRotationVectors libm g.wheelbaseWidth g.wheelbaseLength ⟨0, 0⟩
  | .shooter => calcRotationVectors libm g.wheelbaseWidth g.wheelbaseLength g.shooterRotationPoint

def Geometry.swerveMath (libm : Libm K) (g : Geometry K) : SwerveMath K :=
  .initial (g.rotationVectors libm)

theorem loadConfigSettings_geometry (libm : Libm K) (g : Geometry K) :
    loadConfigSettings libm (some g.table) = .ok (g.rotationVectors libm) := by
  simp only [loadConfigSettings, required, Geometry.table, bind, Except.bind, pure, Except.pure,
    Except.ok.injEq]
  funext point
  cases point <;> rfl

variable [FloorRing K]

/-- The shorter of the two turns to the demanded heading; equal turns go to
the second one. -/
def smartAngleChange (rawAngleChange : K) : K :=
  let option1 := rawAngleChange
  let option2 := 360 - |rawAngleChange|
  let option2 := -(sign rawAngleChange : K) * option2
  if |option1| < |option2| then option1 else option2

/-- The loop body shared by `operator()` and `GetBrakeAzimuth`: past the
quarter turn the wheel goes to the opposite heading and drives backwards. -/
def Wheel.turn (wheel : Wheel K) (wheelAngle : K) : Wheel K :=
  let smart := smartAngleChange (wheelAngle - wheel.anglePast)
  let anglePast := fmod (wheel.anglePast + smart + 360) 360
  let angle := wheel.angle + smart
  if 90 < smart then ⟨angle - 180, anglePast, !wheel.magNegated⟩
  else if smart < -90 then ⟨angle + 180, anglePast, !wheel.magNegated⟩
  else ⟨angle, anglePast, wheel.magNegated⟩

/-- `fmod(angle + 270, 360)`: from the mathematical angle, or the brake angle,
to the wheel's heading. -/
def wheelHeading (angle : K) : K := fmod (angle + 270) 360

namespace SwerveMath

/-- The vector demanded of a wheel: translation plus its share of rotation. -/
def demand (m : SwerveMath K) (dd : DriveData K) (rp : RotationPoint) (i : Fin 4) : Vector2f K where
  x := dd.str + (m.rotationVectors rp i).x * dd.rcw
  y := dd.fwd + (m.rotationVectors rp i).y * dd.rcw

def demandHeading (libm : Libm K) (m : SwerveMath K) (dd : DriveData K) (rp : RotationPoint)
    (i : Fin 4) : K :=
  wheelHeading (libm.atan2Degrees (m.demand dd rp i).y (m.demand dd rp i).x)

def demandMag (libm : Libm K) (m : SwerveMath K) (dd : DriveData K) (rp : RotationPoint)
    (i : Fin 4) : K :=
  libm.hypot (m.demand dd rp i).x (m.demand dd rp i).y

/-- The running maximum of the second loop, over the unsigned magnitudes. -/
def maxWheelMag (mags : Fin 4 → K) : K :=
  (List.finRange 4).foldl (fun best i => if best < mags i then mags i else best) 0

/-- Signs from the flips, then all four speeds cut by the largest one when it
exceeds full speed. -/
def signedMags (negated : Fin 4 → Bool) (mags : Fin 4 → K) (i : Fin 4) : K :=
  let signed := if negated i then mags i * -1 else mags i
  if 1 < maxWheelMag mags then signed / maxWheelMag mags else signed

def operatorCall (libm : Libm K) (m : SwerveMath K) (dd : DriveData K) (rp : RotationPoint) :
    SwerveMath K × DriveData K :=
  let wheels := fun i => (m.wheels i).turn (m.demandHeading libm dd rp i)
  let wheelMags := signedMags (fun i => (wheels i).magNegated) (m.demandMag libm dd rp)
  ({ m with wheels, wheelMags },
    { dd with
      warf := (wheels 0).angle, wsrf := wheelMags 0
      walf := (wheels 1).angle, wslf := wheelMags 1
      walr := (wheels 2).angle, wslr := wheelMags 2
      warr := (wheels 3).angle, wsrr := wheelMags 3 })

/-- Override the wheel angle history; the flips and the output angles stay. -/
def setWheelAngles (m : SwerveMath K) (dd : DriveData K) : SwerveMath K :=
  { m with wheels := fun i =>
      { m.wheels i with anglePast := fmod (dd.wheelAngle i + 360) 360 } }

def getBrakeAzimuth (m : SwerveMath K) (dd : DriveData K) : SwerveMath K × DriveData K :=
  let wheels := fun i => (m.wheels i).turn (wheelHeading (dd.wheelAngle i))
  ({ m with wheels },
    { dd with
      warf := (wheels 0).angle
      walf := (wheels 1).angle
      walr := (wheels 2).angle
      warr := (wheels 3).angle })

structure BrakeAngles (K : Type*) [Field K] [LinearOrder K] where
  data : DriveData K
  range : ∀ i, -180 < data.wheelAngle i ∧ data.wheelAngle i ≤ 180

inductive Call (K : Type*) [Field K] [LinearOrder K] where
  | operator (dd : DriveData K) (rp : RotationPoint)
  | brake (angles : BrakeAngles K)

def step (libm : Libm K) (m : SwerveMath K) : Call K → SwerveMath K
  | .operator dd rp => (m.operatorCall libm dd rp).1
  | .brake angles => (m.getBrakeAzimuth angles.data).1

/-- The angle a call demands of a wheel, before the quarter turn to headings. -/
def Call.angle (libm : Libm K) (m : SwerveMath K) (i : Fin 4) : Call K → K
  | .operator dd rp => libm.atan2Degrees (m.demand dd rp i).y (m.demand dd rp i).x
  | .brake angles => angles.data.wheelAngle i

end SwerveMath

def Geometry.competition [IsStrictOrderedRing K] : Geometry K where
  wheelbaseWidth := 26.4375
  wheelbaseLength := 22.5
  shooterRotationPoint := ⟨0, 0⟩
  width_pos := by norm_num
  length_pos := by norm_num
  off_wheels i := by
    intro zero
    have x := congrArg Vector2f.x zero
    fin_cases i <;> norm_num [wheelOffset, cordMultipliers] at x

noncomputable def toDegrees (rad : ℝ) : ℝ := rad * 360 / (2 * Real.pi)

/-- The library of the robot in exact arithmetic. -/
noncomputable def Libm.real : Libm ℝ where
  sqrt := Real.sqrt
  atan2Degrees y x := toDegrees (Complex.arg ⟨x, y⟩)
  sqrt_nonneg := Real.sqrt_nonneg
  atan2_range y x := by
    have range := Complex.arg_mem_Ioc ⟨x, y⟩
    have positive := Real.pi_pos
    unfold toDegrees
    constructor
    · rw [lt_div_iff₀ (by linarith)]
      linarith [range.1]
    · rw [div_le_iff₀ (by linarith)]
      linarith [range.2]

end Steamworks.Swerve
