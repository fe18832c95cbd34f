import Steamworks.Auton.StopDetection

/-! How the command that places the gear drives. It does not move before the gear
camera has a target after the wait; from then on it is a controller without a
memory but the distance, which the height of that first target decides. -/
namespace Steamworks.Auton
open Gyro Library Library.Activation Library.Run Swerve Swerve.SwerveDrive

namespace PlaceGear

section
variable {K : Type*} [Field K] [LinearOrder K]

/-- What the height of a target says of the distance. -/
def decided (cmath : Cmath K) (r : Readings K) : K :=
  4183.3 * cmath.pow r.targetHeight (-1.039) * kTicksPerInch

/-- Against the gyro's error from the angle the lift is faced at. -/
def rotation (azimuthAngle : K) (r : Readings K) : K :=
  let error := r.gyro.getAngle - azimuthAngle
  rampSpeed kAzimuthMinSpeed kAzimuthMaxSpeed kAzimuthCloseEnough kAzimuthSlopeStart |error| *
    (if error < 0 then 1 else -1)

variable [FloorRing K]

/-- Sideways, until the last foot and as long as there is a target. -/
def strafe (distance : K) (r : Readings K) : K :=
  if distance - |(getPosition r.positions : K)| < kStrafeEndDistance ∨ r.hasTargetStill = false then 0
  else
    let error := (r.strafeError : K) - kStrafeOffset
    rampSpeed kStrafeMinSpeed kStrafeMaxSpeed kStrafeCloseEnough kStrafeSlopeStart |error| *
      (if error < 0 then -1 else 1)

def steer (p : Platform K) (distance azimuthAngle : K) (d : SwerveDrive K) (r : Readings K) :
    SwerveDrive K :=
  d.driveField p.libm (p.heading r.driveGyro) kDriveSpeed (strafe distance r)
    (rotation azimuthAngle r) kDeadzone

/-- The drive once it was steered in these calls, at the distance decided in the first. -/
def steered (p : Platform K) (azimuthAngle : K) (d : SwerveDrive K) (calls : List (Readings K)) :
    SwerveDrive K :=
  match calls with
  | [] => d
  | first :: _ => calls.foldl (steer p (decided p.cmath first) azimuthAngle) d

end

variable {p : Platform ℝ} {r : Readings ℝ} {c : PlaceGear ℝ} {d : SwerveDrive ℝ}

/-- Aiming takes of the members the distance and the angle, and keeps both. -/
theorem aim_steers (r : Readings ℝ) (c : PlaceGear ℝ) :
    (c.aim r).distance = c.distance ∧ (c.aim r).azimuthAngle = c.azimuthAngle ∧
      (c.aim r).driveSetpoint = kDriveSpeed ∧ (c.aim r).strafeSetpoint = strafe c.distance r ∧
      (c.aim r).azimuthSetpoint = rotation c.azimuthAngle r := by
  have sideways : ∀ c : PlaceGear ℝ, (c.calculateStrafeSetpoint r).2 = strafe c.distance r ∧
      (c.calculateStrafeSetpoint r).1.distance = c.distance ∧
      (c.calculateStrafeSetpoint r).1.azimuthAngle = c.azimuthAngle ∧
      (c.calculateStrafeSetpoint r).1.driveSetpoint = c.driveSetpoint := by
    intro c
    unfold calculateStrafeSetpoint strafe
    by_cases near : c.distance - |(getPosition r.positions : ℝ)| < kStrafeEndDistance
    · rw [if_pos near, if_pos (.inl near)]
      exact ⟨rfl, rfl, rfl, rfl⟩
    · cases target : r.hasTargetStill with
      | true =>
        rw [if_neg near, if_neg (by simp), if_neg (by simp [not_lt.mp near])]
        exact ⟨rfl, rfl, rfl, rfl⟩
      | false =>
        rw [if_neg near, if_pos (by simp), if_pos (.inr rfl)]
        exact ⟨rfl, rfl, rfl, rfl⟩
  obtain ⟨setpoint, distance, angle, forward⟩ := sideways { c with driveSetpoint := kDriveSpeed }
  refine ⟨distance, angle, forward, setpoint, ?_⟩
  simp only [aim, calculateAzimuthSetpoint, angle, rotation]

theorem execute_steers (ready : (c.ready p.cmath r).2 = true) :
    (c.execute p r d).2 =
      steer p (c.ready p.cmath r).1.distance (c.ready p.cmath r).1.azimuthAngle d r := by
  obtain ⟨-, -, forward, sideways, round⟩ := aim_steers r (c.ready p.cmath r).1
  simp only [execute, ready, Bool.not_true, Bool.false_eq_true, if_false, steer, forward, sideways,
    round]

/-- Getting ready decides the distance as it is initialised, and only then. -/
theorem ready_decides (cmath : Cmath ℝ) (r : Readings ℝ) (c : PlaceGear ℝ) :
    (c.ready cmath r).1.azimuthAngle = c.azimuthAngle ∧
      (c.isInitialized = true → (c.ready cmath r).1.distance = c.distance) ∧
      (c.isInitialized = false → (c.ready cmath r).2 = true →
        (c.ready cmath r).1.distance = decided cmath r) := by
  have delay : c.delayForPositionZero.1.azimuthAngle = c.azimuthAngle := by
    unfold delayForPositionZero
    split_ifs <;> rfl
  cases initialized : c.isInitialized with
  | true =>
    have same : c.ready cmath r = (c, true) := by simp [ready, initialized]
    rw [same]
    exact ⟨rfl, fun _ => rfl, fun absent => Bool.noConfusion absent⟩
  | false =>
    unfold ready
    simp only [initialized, Bool.false_eq_true, if_false]
    cases waiting : c.delayForPositionZero.2 with
    | true => exact ⟨delay, False.elim, fun _ absent => Bool.noConfusion absent⟩
    | false =>
      cases target : r.hasTarget with
      | false =>
        simp only [calculateDistance, target, Bool.not_false, if_true, Bool.false_eq_true, if_false]
        exact ⟨delay, False.elim, fun _ => False.elim⟩
      | true =>
        simp only [calculateDistance, target, Bool.not_true, Bool.false_eq_true, if_false]
        exact ⟨delay, False.elim, fun _ _ => rfl⟩

theorem execute_members (p : Platform ℝ) (r : Readings ℝ) (c : PlaceGear ℝ) (d : SwerveDrive ℝ) :
    (c.execute p r d).1.distance = (c.ready p.cmath r).1.distance ∧
      (c.execute p r d).1.azimuthAngle = c.azimuthAngle := by
  have angle := (ready_decides p.cmath r c).1
  cases ready : (c.ready p.cmath r).2 with
  | false =>
    rw [execute_unready ready]
    exact ⟨rfl, angle⟩
  | true =>
    have aimed : (c.execute p r d).1 = (c.ready p.cmath r).1.aim r := by
      simp [execute, ready]
    rw [aimed, (aim_steers r _).1, (aim_steers r _).2.1]
    exact ⟨rfl, angle⟩

theorem isFinished_steers (r : Readings ℝ) (c : PlaceGear ℝ) :
    (c.isFinished r).1.distance = c.distance ∧
      (c.isFinished r).1.azimuthAngle = c.azimuthAngle := by
  unfold isFinished
  split_ifs <;> exact ⟨rfl, rfl⟩

end PlaceGear

open PlaceGear

variable {p : Platform ℝ} {inputs : List (Readings ℝ)} {a : Activity ℝ}

/-- The command steered the drive in its calls, at the distance it decided. -/
structure Steers (p : Platform ℝ) (azimuthAngle : ℝ) (start : SwerveDrive ℝ) (gyro : Ahrs ℝ)
    (inputs : List (Readings ℝ)) (c : PlaceGear ℝ) (a : Activity ℝ) : Prop where
  command : a = ⟨.placeGear c, steered p azimuthAngle start (calls inputs), gyro⟩
  started : Started inputs c
  azimuthAngle : c.azimuthAngle = azimuthAngle
  distance : ∀ first rest, calls inputs = first :: rest → c.distance = decided p.cmath first

theorem steers_init (p : Platform ℝ) (first : Readings ℝ) (c : PlaceGear ℝ) (d : SwerveDrive ℝ)
    (gyro : Ahrs ℝ) :
    let a := (command p).init first ⟨.placeGear c, d, gyro⟩
    Steers p c.azimuthAngle a.drive gyro [] (c.init p.cmath first) a := by
  intro a
  refine ⟨rfl, .inl ⟨?_, ⟨rfl, rfl, rfl, rfl⟩⟩, ?_, nofun⟩
  · rintro ⟨r, member, _⟩
    cases member
  · simp only [init, calculateDistance]
    split_ifs <;> rfl

theorem calls_seen (seen : Seen inputs) : ∃ first rest, calls inputs = first :: rest := by
  rw [← List.ne_nil_iff_exists_cons, calls, Ne, List.dropWhile_eq_nil_iff]
  obtain ⟨r, member, target⟩ := seen
  intro none
  have lost := none r member
  rw [target] at lost
  cases lost

/-- The drive after one more step, and the distance the members hold. -/
theorem execute_drives {c : PlaceGear ℝ} {azimuthAngle : ℝ} (started : Started inputs c)
    (angle : c.azimuthAngle = azimuthAngle)
    (distance : ∀ first rest, calls inputs = first :: rest → c.distance = decided p.cmath first)
    (start : SwerveDrive ℝ) (r : Readings ℝ) :
    let d := steered p azimuthAngle start (calls inputs)
    (c.execute p r d).2 = steered p azimuthAngle start (calls (inputs ++ [r])) ∧
      (∀ first rest, calls (inputs ++ [r]) = first :: rest →
        (c.ready p.cmath r).1.distance = decided p.cmath first) := by
  intro d
  obtain ⟨keptAngle, kept, decides⟩ := ready_decides p.cmath r c
  rcases ready_started p.cmath r started with ⟨seen, ready, _⟩ | ⟨unseen, unready, _⟩
  · rw [execute_steers ready, keptAngle, angle, calls_concat seen]
    rcases started with ⟨before, waiting⟩ | ⟨before, initialized⟩
    · have none : calls inputs = [] := calls_unseen before
      have decided := decides waiting.isInitialized ready
      rw [none, List.nil_append, decided]
      refine ⟨by simp only [d, none]; rfl, ?_⟩
      rintro first rest same
      obtain ⟨rfl, -⟩ := List.cons.inj same
      rfl
    · obtain ⟨first, rest, some⟩ := calls_seen before
      have same := (kept initialized).trans (distance first rest some)
      rw [same, some]
      refine ⟨by simp only [d, some, steered, List.cons_append, List.foldl_cons, List.foldl_append,
        List.foldl_nil], ?_⟩
      rintro other more cons
      obtain ⟨rfl, -⟩ := List.cons.inj cons
      rfl
  · have before : ¬Seen inputs := fun seen => unseen ((seen_concat inputs r).mpr (.inl seen))
    rw [execute_unready unready, calls_unseen unseen]
    refine ⟨by simp only [d, calls_unseen before], nofun⟩

theorem steers_tick {c : PlaceGear ℝ} {azimuthAngle : ℝ} {start : SwerveDrive ℝ} {gyro : Ahrs ℝ}
    (steers : Steers p azimuthAngle start gyro inputs c a) (r : Readings ℝ) :
    ∃ next, Steers p azimuthAngle start gyro (inputs ++ [r]) next ((command p).next a r) := by
  obtain ⟨rfl, started, angle, distance⟩ := steers
  obtain ⟨drives, decided⟩ := execute_drives started angle distance start r
  have executed := started_execute (r := r) (p := p) started
    (steered p azimuthAngle start (calls inputs))
  obtain ⟨sameDistance, sameAngle⟩ :=
    execute_members p r c (steered p azimuthAngle start (calls inputs))
  obtain ⟨keptDistance, keptAngle⟩ :=
    isFinished_steers r (c.execute p r (steered p azimuthAngle start (calls inputs))).1
  refine ⟨((c.execute p r _).1.isFinished r).1, ?_, started_isFinished executed, ?_, ?_⟩
  · rw [← drives]
    rfl
  · rw [keptAngle, sameAngle, angle]
  · intro first rest some
    rw [keptDistance, sameDistance]
    exact decided first rest some

/-- After any number of steps, whatever they read: the drive is as it was set up
until a target was seen after the wait, and then what steering it in every call
since gives, at the distance the first of them decided. -/
theorem placing_steers (p : Platform ℝ) (c : PlaceGear ℝ) (d : SwerveDrive ℝ) (gyro : Ahrs ℝ)
    (first : Readings ℝ) (inputs : List (Readings ℝ)) :
    let start := (command p).init first ⟨.placeGear c, d, gyro⟩
    (run (command p).next start inputs).drive =
      steered p c.azimuthAngle start.drive (calls inputs) := by
  intro start
  have steers : ∃ placed, Steers p c.azimuthAngle start.drive gyro inputs placed
      (run (command p).next start inputs) := by
    induction inputs using List.reverseRecOn with
    | nil => exact ⟨_, steers_init p first c d gyro⟩
    | append_singleton inputs r ih =>
      obtain ⟨placed, before⟩ := ih
      rw [run_concat]
      exact steers_tick before r
  obtain ⟨placed, steers⟩ := steers
  rw [steers.command]

end Steamworks.Auton
