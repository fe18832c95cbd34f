import Steamworks.Auton.Stopping
import Steamworks.Library.Sampled
import Steamworks.Shooter.Elevation
import Steamworks.Vision.Protocol

/-! The two commands that aim by the camera, with vision messages arriving
between any two of their reads. `IsFinished` judges the error stored last, so
it counts a tick in which `Execute` read none. -/
namespace Steamworks.Auton
open Gyro Library.Activation Library.Run Library.Sampled Shooter Swerve Swerve.SwerveDrive Vision

variable {K : Type*} [Field K] [LinearOrder K]

/-- The messages received during one tick: before `Execute` asks for a target,
before it reads the error, and before `IsFinished` asks again. -/
structure Traffic where
  before : List (Message ℤ) := []
  between : List (Message ℤ) := []
  after : List (Message ℤ) := []

/-- What a tick sees of the camera. -/
structure Sight where
  hasTarget : Bool
  error : ℤ
  hasTargetStill : Bool
  deriving DecidableEq

def receiveAll (camera : Deadeye ℤ) (messages : List (Message ℤ)) : Deadeye ℤ :=
  messages.foldl Deadeye.receive camera

def Traffic.passed (camera : Deadeye ℤ) (t : Traffic) : Deadeye ℤ :=
  receiveAll (receiveAll (receiveAll camera t.before) t.between) t.after

def Traffic.sight (read : Deadeye ℤ → ℤ) (camera : Deadeye ℤ) (t : Traffic) : Sight where
  hasTarget := (receiveAll camera t.before).hasTarget
  error := read (receiveAll (receiveAll camera t.before) t.between)
  hasTargetStill := (t.passed camera).hasTarget

def look (read : Deadeye ℤ → ℤ) : Deadeye ℤ → List Traffic → List Sight
  | _, [] => []
  | camera, t :: rest => t.sight read camera :: look read (t.passed camera) rest

/-- `GetAzimuthError`; `GetCenterlineError` is the member itself. -/
def getAzimuthError (azimuthCorrection : ℤ) (camera : Deadeye ℤ) : ℤ :=
  camera.azimuthError + azimuthCorrection

def Sight.readings (s : Sight) (r : Readings K) : Readings K :=
  { r with hasTarget := s.hasTarget, azimuthError := s.error, hasTargetAfter := s.hasTargetStill }

/-- The readings of `DeadeyeAzimuth` under this traffic, with all else they read. -/
def lookWith (read : Deadeye ℤ → ℤ) (camera : Deadeye ℤ) (script : List (Traffic × Readings K)) :
    List (Readings K) :=
  List.zipWith Sight.readings (look read camera (script.map Prod.fst)) (script.map Prod.snd)

/-- `GetAngle` with the elevation it requires; its `End` leaves these alone. -/
def getAngle : Command Ranging Sight where
  init s r := r.step (.init s.error)
  execute s r := r.step (.execute s.hasTarget s.error)
  isFinished s r :=
    (r.step (.isFinished s.hasTargetStill), (r.command.isFinished s.hasTargetStill).2)
  finish := id
  interrupted := id

def Sight.InTolerance (tolerance : ℤ) (s : Sight) : Prop :=
  s.hasTarget = true ∧ |s.error| < tolerance

instance (tolerance : ℤ) (s : Sight) : Decidable (s.InTolerance tolerance) :=
  inferInstanceAs (Decidable (_ ∧ _))

/-- In each of the last three ticks `Execute` read an error in tolerance. -/
def LastReadsInTolerance (tolerance : ℤ) (sights : List Sight) : Prop :=
  3 ≤ sights.length ∧ ∀ s ∈ sights.rtake 3, s.InTolerance tolerance

instance (tolerance : ℤ) (sights : List Sight) : Decidable (LastReadsInTolerance tolerance sights) :=
  inferInstanceAs (Decidable (_ ∧ _))

def Sight.tick (tolerance : ℤ) (s : Sight) : Tick where
  sample := if s.hasTarget then some (decide (|s.error| < tolerance)) else none
  judges := s.hasTargetStill

/-- Every tick reads an error in tolerance, or leaves no count: its `IsFinished`
resets it, or finds no target and none was counted. -/
def SteadyTicks (tolerance : ℤ) (stored : Bool) (sights : List Sight) : Prop :=
  Along Counter.step Steady ⟨stored, 0⟩ (sights.map (Sight.tick tolerance))

theorem tick_good (tolerance : ℤ) (s : Sight) : (s.tick tolerance).Good ↔ s.InTolerance tolerance := by
  unfold Sight.tick Tick.Good Sight.InTolerance
  cases s.hasTarget <;> simp

theorem fresh_sights (tolerance : ℤ) (sights : List Sight) :
    Fresh 3 (sights.map (Sight.tick tolerance)) ↔ LastReadsInTolerance tolerance sights := by
  simp only [fresh_map, tick_good, LastReadsInTolerance]

/-- The camera once this traffic has passed. -/
def watched (camera : Deadeye ℤ) (script : List Traffic) : Deadeye ℤ :=
  script.foldl Traffic.passed camera

theorem look_append (read : Deadeye ℤ → ℤ) (camera : Deadeye ℤ) (front back : List Traffic) :
    look read camera (front ++ back) = look read camera front ++ look read (watched camera front) back := by
  induction front generalizing camera with
  | nil => rfl
  | cons t rest ih =>
    rw [List.cons_append, look, look, ih, List.cons_append]
    rfl

theorem look_length (read : Deadeye ℤ → ℤ) (camera : Deadeye ℤ) (script : List Traffic) :
    (look read camera script).length = script.length := by
  induction script generalizing camera with
  | nil => rfl
  | cons t rest ih => rw [look, List.length_cons, List.length_cons, ih]

theorem look_replicate {read : Deadeye ℤ → ℤ} {t : Traffic} {s : Sight}
    (seen : ∀ camera, t.sight read camera = s) (camera : Deadeye ℤ) (n : ℕ) :
    look read camera (List.replicate n t) = List.replicate n s := by
  induction n generalizing camera with
  | zero => rfl
  | succ n ih => rw [List.replicate_succ, look, ih, seen, List.replicate_succ]

def aimingTick (r : Readings K) : Tick where
  sample := if r.hasTarget then some (decide (|(r.azimuthError : K)| < 8)) else none
  judges := r.hasTargetAfter

def observeAzimuth (a : Activity K) : Counter :=
  match a.command with
  | .deadeyeAzimuth c => ⟨decide (c.absError < 8), c.stableCount⟩
  | _ => ⟨false, 0⟩

def observeAngle (r : Ranging) : Counter := ⟨decide (r.command.absError < 3), r.command.stableCount⟩

theorem azimuth_isFinished (hasTarget : Bool) (c : DeadeyeAzimuth K) :
    (Counter.mk (decide ((c.isFinished hasTarget).1.absError < 8)) (c.isFinished hasTarget).1.stableCount,
      (c.isFinished hasTarget).2) =
        ((Counter.mk (decide (c.absError < 8)) c.stableCount).step ⟨none, hasTarget⟩,
          (Counter.mk (decide (c.absError < 8)) c.stableCount).finishes 3 ⟨none, hasTarget⟩) := by
  cases hasTarget with
  | false => rfl
  | true =>
    by_cases close : c.absError < 8 <;>
      simp [DeadeyeAzimuth.isFinished, DeadeyeAzimuth.kCloseEnoughExact, DeadeyeAzimuth.kStableCountReq,
        Counter.step, Counter.finishes, close]

variable [FloorRing K]

theorem azimuth_execute (p : Platform K) (r : Readings K) (c : DeadeyeAzimuth K) (d : SwerveDrive K) :
    (c.execute p r d).1.stableCount = c.stableCount ∧
      decide ((c.execute p r d).1.absError < 8) =
        (aimingTick r).sample.getD (decide (c.absError < 8)) := by
  cases target : r.hasTarget <;> simp [DeadeyeAzimuth.execute, aimingTick, target]

theorem deadeyeAzimuth_counts (p : Platform K) :
    Counts (command p) 3 (fun a => ∃ c, a.command = .deadeyeAzimuth c) aimingTick observeAzimuth where
  init r a started := by
    obtain ⟨_, d, gyro⟩ := a
    obtain ⟨c, rfl⟩ := started
    exact ⟨⟨_, rfl⟩, rfl⟩
  tick r a started := by
    obtain ⟨_, d, gyro⟩ := a
    obtain ⟨c, rfl⟩ := started
    obtain ⟨count, stored⟩ := azimuth_execute p r c d
    have finished := azimuth_isFinished r.hasTargetAfter (c.execute p r d).1
    rw [count, stored] at finished
    obtain ⟨counter, result⟩ := Prod.mk.inj finished
    exact ⟨⟨_, rfl⟩, counter, result⟩

theorem angle_isFinished (hasTarget : Bool) (c : GetAngle) :
    (Counter.mk (decide ((c.isFinished hasTarget).1.absError < 3)) (c.isFinished hasTarget).1.stableCount,
      (c.isFinished hasTarget).2) =
        ((Counter.mk (decide (c.absError < 3)) c.stableCount).step ⟨none, hasTarget⟩,
          (Counter.mk (decide (c.absError < 3)) c.stableCount).finishes 3 ⟨none, hasTarget⟩) := by
  cases hasTarget with
  | false => rfl
  | true =>
    by_cases close : c.absError < 3 <;>
      simp [GetAngle.isFinished, GetAngle.kCloseEnough, GetAngle.kStableCountReq, Counter.step,
        Counter.finishes, close]

/-- Whole pixels are compared with a tolerance as the double they are cast to. -/
theorem abs_cast_lt {F : Type*} [Field F] [LinearOrder F] [IsStrictOrderedRing F] (error tolerance : ℤ) :
    |(error : F)| < tolerance ↔ |error| < tolerance := by
  rw [← Int.cast_abs, Int.cast_lt]

theorem angle_execute (s : Sight) (c : GetAngle) (elevation : ShooterElevation) :
    (c.execute elevation s.hasTarget s.error).1.stableCount = c.stableCount ∧
      decide ((c.execute elevation s.hasTarget s.error).1.absError < 3) =
        (s.tick 3).sample.getD (decide (c.absError < 3)) := by
  cases target : s.hasTarget with
  | false => simp [GetAngle.execute, Sight.tick, target]
  | true =>
    have pixels := abs_cast_lt (F := ℚ) s.error 3
    rw [Int.cast_ofNat] at pixels
    simp [GetAngle.execute, Sight.tick, target, pixels]

theorem getAngle_counts : Counts getAngle 3 (fun _ => True) (Sight.tick 3) observeAngle where
  init s r _ := ⟨trivial, rfl⟩
  tick s r _ := by
    obtain ⟨count, stored⟩ := angle_execute s r.command r.elevation
    have finished :=
      angle_isFinished s.hasTargetStill (r.command.execute r.elevation s.hasTarget s.error).1
    rw [count, stored] at finished
    obtain ⟨counter, result⟩ := Prod.mk.inj finished
    exact ⟨trivial, counter, result⟩

variable [IsStrictOrderedRing K]

omit [FloorRing K] in
theorem aimingTick_readings (s : Sight) (r : Readings K) : aimingTick (s.readings r) = s.tick 8 := by
  have pixels := abs_cast_lt (F := K) s.error 8
  rw [Int.cast_ofNat] at pixels
  simp [aimingTick, Sight.readings, Sight.tick, pixels]

omit [FloorRing K] in
/-- What `DeadeyeAzimuth` reads is what its sights are. -/
theorem lookWith_ticks (read : Deadeye ℤ → ℤ) (camera : Deadeye ℤ)
    (script : List (Traffic × Readings K)) : (lookWith read camera script).map aimingTick =
      (look read camera (script.map Prod.fst)).map (Sight.tick 8) := by
  induction script generalizing camera with
  | nil => rfl
  | cons event rest ih =>
    have later := ih (event.1.passed camera)
    simp only [lookWith, look, List.map_cons, List.zipWith_cons_cons, aimingTick_readings] at later ⊢
    rw [later]

/-- Whatever messages arrive when, an activation of either command all of whose
ticks are steady finishes only on errors in tolerance, read in each of its last
three ticks. -/
theorem aiming_finishes_fresh (p : Platform K) (azimuthCorrection : ℤ) (camera : Deadeye ℤ) :
    (∀ (c : DeadeyeAzimuth K) (d : SwerveDrive K) (gyro : Ahrs K) (first : Readings K)
        (script : List (Traffic × Readings K)) (t : Activity K),
      Ends (command p) first ⟨.deadeyeAzimuth c, d, gyro⟩
        (lookWith (getAzimuthError azimuthCorrection) camera script) .finished t →
      SteadyTicks 8 (decide (c.absError < 8))
        (look (getAzimuthError azimuthCorrection) camera (script.map Prod.fst)) →
      LastReadsInTolerance 8
        (look (getAzimuthError azimuthCorrection) camera (script.map Prod.fst))) ∧
    (∀ (r : Ranging) (first : Sight) (script : List Traffic) (t : Ranging),
      Ends getAngle first r (look Deadeye.centerlineError camera script) .finished t →
      SteadyTicks 3 (decide (r.command.absError < 3)) (look Deadeye.centerlineError camera script) →
      LastReadsInTolerance 3 (look Deadeye.centerlineError camera script)) := by
  constructor
  · intro c d gyro first script t ends steady
    rw [SteadyTicks, ← lookWith_ticks] at steady
    have fresh := (deadeyeAzimuth_counts p).finished_fresh ⟨c, rfl⟩ ends steady
    rw [lookWith_ticks] at fresh
    exact (fresh_sights 8 _).mp fresh
  · intro r first script t ends steady
    exact (fresh_sights 3 _).mp (getAngle_counts.finished_fresh trivial ends steady)

def boilerTarget (azimuthError centerlineError : ℤ) : Message ℤ :=
  ⟨kBoilerSolutionMesg, azimuthError, centerlineError⟩

/-- A target right where either command wants it. -/
def centered (azimuthCorrection : ℤ) : Traffic := { before := [boilerTarget (-azimuthCorrection) 0] }

omit [Field K] [LinearOrder K] [FloorRing K] [IsStrictOrderedRing K] in
theorem lookWith_concat (read : Deadeye ℤ → ℤ) (camera : Deadeye ℤ)
    (script : List (Traffic × Readings K)) (t : Traffic) (r : Readings K) {good : Traffic} {s : Sight}
    (seen : ∀ camera, good.sight read camera = s) (n : ℕ) :
    lookWith read camera (script ++ (t, r) :: List.replicate n (good, r)) =
      lookWith read camera script ++
        (t.sight read (watched camera (script.map Prod.fst))).readings r ::
          List.replicate n (s.readings r) := by
  have lengths : (look read camera (script.map Prod.fst)).length = (script.map Prod.snd).length := by
    rw [look_length, List.length_map, List.length_map]
  simp only [lookWith, List.map_append, List.map_cons, List.map_replicate, look_append, look,
    List.zipWith_append lengths, List.zipWith_cons_cons, look_replicate seen, List.zipWith_replicate']

/-- The condition is exact for both: once a tick of an activation that is still
going breaks it, seeing nothing but the target right ahead ends the command
before it has read three errors in tolerance. -/
theorem aiming_misfires (p : Platform K) (azimuthCorrection : ℤ) (camera : Deadeye ℤ) :
    (∀ (c : DeadeyeAzimuth K) (d : SwerveDrive K) (gyro : Ahrs K) (first : Readings K)
        (script : List (Traffic × Readings K)) (a : Activity K) (t : Traffic) (r : Readings K),
      let read := getAzimuthError azimuthCorrection
      Ticks (command p) first ⟨.deadeyeAzimuth c, d, gyro⟩ (lookWith read camera script) a →
      ¬Steady (observeAzimuth a) ((t.sight read (watched camera (script.map Prod.fst))).tick 8) →
      ∃ n b, let longer := script ++ (t, r) :: List.replicate n (centered azimuthCorrection, r)
        Ends (command p) first ⟨.deadeyeAzimuth c, d, gyro⟩ (lookWith read camera longer) .finished b ∧
          ¬LastReadsInTolerance 8 (look read camera (longer.map Prod.fst))) ∧
    (∀ (r : Ranging) (first : Sight) (script : List Traffic) (u : Ranging) (t : Traffic),
      let read := Deadeye.centerlineError
      Ticks getAngle first r (look read camera script) u →
      ¬Steady (observeAngle u) ((t.sight read (watched camera script)).tick 3) →
      ∃ n v, let longer := script ++ t :: List.replicate n (centered azimuthCorrection)
        Ends getAngle first r (look read camera longer) .finished v ∧
          ¬LastReadsInTolerance 3 (look read camera longer)) := by
  constructor
  · intro c d gyro first script a t r read ticks unsteady
    have seen (now : Deadeye ℤ) : (centered azimuthCorrection).sight read now = ⟨true, 0, true⟩ := by
      have zero : -azimuthCorrection + azimuthCorrection = 0 := neg_add_cancel _
      exact congrArg (Sight.mk true · true) zero
    have good : aimingTick (Sight.readings ⟨true, 0, true⟩ r) = steadyTick :=
      aimingTick_readings _ r
    rw [← aimingTick_readings _ r] at unsteady
    obtain ⟨n, b, ends, early⟩ :=
      (deadeyeAzimuth_counts p).misfires ⟨c, rfl⟩ (by decide) _ good ticks unsteady
    have inputs := lookWith_concat read camera script t r seen n
    rw [← inputs] at ends early
    rw [lookWith_ticks, fresh_sights] at early
    exact ⟨n, b, ends, early⟩
  · intro r first script u t read ticks unsteady
    have seen (now : Deadeye ℤ) : (centered azimuthCorrection).sight read now = ⟨true, 0, true⟩ := rfl
    obtain ⟨n, v, ends, early⟩ :=
      getAngle_counts.misfires trivial (by decide) ⟨true, 0, true⟩ rfl ticks unsteady
    have inputs : look read camera (script ++ t :: List.replicate n (centered azimuthCorrection)) =
        look read camera script ++ t.sight read (watched camera script) ::
          List.replicate n ⟨true, 0, true⟩ := by
      rw [look_append, look, look_replicate seen]
    rw [← inputs] at ends early
    rw [fresh_sights] at early
    exact ⟨n, v, ends, early⟩

def onTarget : Traffic := { before := [boilerTarget 1 1] }

def targetLost : Traffic := { before := [⟨kNoTargetMesg, 0, 0⟩] }

def atPowerOnCamera : Deadeye ℤ := ⟨false, 0, 0, 0⟩

def resting : Ranging := ⟨{}, ⟨false, 0, 0, 0, 0, 0⟩⟩

noncomputable def aimingAtLift : DeadeyeAzimuth ℝ := ⟨false, 0, 0, 0, 0⟩

theorem azimuth_on_target : ∃ t, Ends (command robot) liftInSight
    ⟨.deadeyeAzimuth aimingAtLift, atPowerOn, ⟨0, 0⟩⟩
    (lookWith (getAzimuthError 0) atPowerOnCamera (List.replicate 3 (onTarget, liftInSight)))
    .finished t := by
  have good := aimingTick_readings ⟨true, 1, true⟩ liftInSight
  refine (deadeyeAzimuth_counts robot).ends ⟨aimingAtLift, rfl⟩ liftInSight
    (List.replicate 2 (Sight.readings ⟨true, 1, true⟩ liftInSight))
    (Sight.readings ⟨true, 1, true⟩ liftInSight) ?_ ?_
  · rw [List.map_replicate, good]
    exact ⟨rfl, rfl, trivial⟩
  · rw [List.map_replicate, good]
    rfl

theorem angle_on_target : ∃ t, Ends getAngle ⟨false, 0, false⟩ resting
    (look Deadeye.centerlineError atPowerOnCamera (List.replicate 3 onTarget)) .finished t :=
  getAngle_counts.ends (s := resting) trivial ⟨false, 0, false⟩
    (List.replicate 2 ⟨true, 1, true⟩) ⟨true, 1, true⟩ ⟨rfl, rfl, trivial⟩ rfl

/-- Both commands on target for three ticks. -/
theorem on_target_finishes :
    LastReadsInTolerance 8 (look (getAzimuthError 0) atPowerOnCamera (List.replicate 3 onTarget)) ∧
      LastReadsInTolerance 3
        (look Deadeye.centerlineError atPowerOnCamera (List.replicate 3 onTarget)) := by
  obtain ⟨azimuth, angle⟩ := aiming_finishes_fresh robot 0 atPowerOnCamera
  obtain ⟨t, turned⟩ := azimuth_on_target
  obtain ⟨u, raised⟩ := angle_on_target
  exact ⟨azimuth _ _ _ _ _ t turned ⟨.inl rfl, .inl rfl, .inl rfl, trivial⟩,
    angle _ _ _ u raised ⟨.inl rfl, .inl rfl, .inl rfl, trivial⟩⟩

/-- The target is lost for a tick, and the count goes on where it was. -/
theorem target_lost_between : (∃ t, Ends getAngle ⟨false, 0, false⟩ resting
      (look Deadeye.centerlineError atPowerOnCamera [onTarget, targetLost, onTarget, onTarget])
      .finished t) ∧
    ¬LastReadsInTolerance 3
      (look Deadeye.centerlineError atPowerOnCamera [onTarget, targetLost, onTarget, onTarget]) := by
  refine ⟨?_, by decide⟩
  exact getAngle_counts.ends (s := resting) trivial ⟨false, 0, false⟩
    [⟨true, 1, true⟩, ⟨false, 1, false⟩, ⟨true, 1, true⟩] ⟨true, 1, true⟩ ⟨rfl, rfl, rfl, trivial⟩ rfl

end Steamworks.Auton
