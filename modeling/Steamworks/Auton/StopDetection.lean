import Steamworks.Auton.Stopping
import Steamworks.Library.Detector

/-! When the command that places the gear finds that the robot has stopped. It
counts calls that read the front wheels at rest, once one has read that the robot
got under way. -/
namespace Steamworks.Auton
open Library Library.Activation Library.Run Library.Detector Swerve Swerve.SwerveDrive

/-- The readings of the calls of `IsFinished` after initialisation, which takes
the fourth step at least and a target. -/
def calls (inputs : List (Readings ℝ)) : List (Readings ℝ) :=
  (inputs.drop 3).dropWhile fun r => !r.hasTarget

/-- The mean distance the wheels have travelled. -/
noncomputable def travel (r : Readings ℝ) : ℝ :=
  (|r.positionsAfter 0| + |r.positionsAfter 1| + |r.positionsAfter 2| + |r.positionsAfter 3|) / 4

/-- The average of the absolute speeds of the two front wheels. -/
noncomputable def frontSpeed (r : Readings ℝ) : ℝ := (|r.speeds 0| + |r.speeds 1|) / 2

def Cruising (r : Readings ℝ) : Prop := 3 * PlaceGear.kTicksPerInch < travel r

def Slow (r : Readings ℝ) : Prop := frontSpeed r < PlaceGear.kStoppedSpeed

noncomputable instance : DecidablePred Cruising := fun _ => inferInstanceAs (Decidable (_ < _))

noncomputable instance : DecidablePred Slow := fun _ => inferInstanceAs (Decidable (_ < _))

namespace PlaceGear

/-- The position as the command reads it is past three inches. -/
def Armed (r : Readings ℝ) : Prop :=
  3 * kTicksPerInch < |(getPosition r.positionsAfter : ℝ)|

/-- The speed as the command reads it is below the one for a stop. -/
def Still (r : Readings ℝ) : Prop := |getFrontWheelsDriveSpeed r.speeds| < kStoppedSpeed

noncomputable instance : DecidablePred Armed := fun _ => inferInstanceAs (Decidable (_ < _))

noncomputable instance : DecidablePred Still := fun _ => inferInstanceAs (Decidable (_ < _))

def detector (c : PlaceGear ℝ) : Detector.State := ⟨c.isCruising, c.stableCount⟩

variable {p : Platform ℝ} {r : Readings ℝ} {c : PlaceGear ℝ} {d : SwerveDrive ℝ}

theorem isFinished_detector (initialized : c.isInitialized = true) :
    (c.isFinished r).1.detector = Detector.step Armed Still c.detector r ∧
      (c.isFinished r).2 = fires Armed Still kStableCountReq c.detector r := by
  cases cruising : c.isCruising with
  | false =>
    have unarmed : c.detector.armed = false := cruising
    rw [fires, step_of_unarmed unarmed, unarmed]
    simp only [isFinished, initialized, cruising, detector, Bool.not_true, Bool.not_false,
      Bool.false_eq_true, if_false, if_true, Bool.false_and, and_true]
    rfl
  | true =>
    have armed : c.detector.armed = true := cruising
    rw [fires, step_of_armed armed, armed]
    simp [isFinished, initialized, cruising, detector, Still]

theorem aim_detector : (c.aim r).detector = c.detector := by
  have strafe : ∀ c : PlaceGear ℝ, (c.calculateStrafeSetpoint r).1.detector = c.detector := by
    intro c
    unfold calculateStrafeSetpoint
    split_ifs <;> rfl
  exact strafe { c with driveSetpoint := kDriveSpeed }

theorem ready_detector (cmath : Cmath ℝ) : (c.ready cmath r).1.detector = c.detector := by
  unfold ready delayForPositionZero calculateDistance
  split_ifs <;> rfl

theorem execute_detector : (c.execute p r d).1.detector = c.detector := by
  cases ready : (c.ready p.cmath r).2 with
  | false => rw [execute_unready ready, ready_detector]
  | true =>
    have aimed : (c.execute p r d).1 = (c.ready p.cmath r).1.aim r := by
      simp [execute, ready]
    rw [aimed, aim_detector, ready_detector]

end PlaceGear

open PlaceGear

variable {inputs : List (Readings ℝ)} {r : Readings ℝ} {p : Platform ℝ} {a : Activity ℝ}

theorem calls_unseen (unseen : ¬Seen inputs) : calls inputs = [] := by
  rw [calls, List.dropWhile_eq_nil_iff]
  intro r member
  cases target : r.hasTarget with
  | false => rfl
  | true => exact absurd ⟨r, member, target⟩ unseen

theorem calls_concat (seen : Seen (inputs ++ [r])) : calls (inputs ++ [r]) = calls inputs ++ [r] := by
  by_cases before : Seen inputs
  · have long : 3 ≤ inputs.length := by
      obtain ⟨s, member, _⟩ := before
      have some := List.length_pos_of_mem member
      rw [List.length_drop] at some
      omega
    rw [calls, List.drop_append_of_le_length long, List.dropWhile_append, if_neg]
    · rfl
    · rw [List.isEmpty_iff, List.dropWhile_eq_nil_iff]
      obtain ⟨s, member, target⟩ := before
      intro all
      have missed := all s member
      rw [target] at missed
      cases missed
  · obtain ⟨long, target⟩ := ((seen_concat inputs r).mp seen).resolve_left before
    have none := calls_unseen before
    rw [none, calls, List.drop_append_of_le_length long, List.dropWhile_append]
    rw [calls] at none
    simp [none, target]

/-- The command's counts are those of a detector that reads its calls. -/
def Follows (inputs : List (Readings ℝ)) (a : Activity ℝ) : Prop :=
  ∃ c d gyro, a = ⟨.placeGear c, d, gyro⟩ ∧ Started inputs c ∧
    c.detector = run (Detector.step Armed Still) {} (calls inputs)

theorem started_execute {c : PlaceGear ℝ} (started : Started inputs c) (d : SwerveDrive ℝ) :
    Started (inputs ++ [r]) (c.execute p r d).1 := by
  rcases ready_started p.cmath r started with ⟨seen, ready, initialized⟩ | ⟨unseen, unready, waits⟩
  · have aimed : (c.execute p r d).1 = (c.ready p.cmath r).1.aim r := by
      simp [PlaceGear.execute, ready]
    rw [aimed]
    exact .inr ⟨seen, (aim_kept r _).2.1.trans initialized⟩
  · rw [execute_unready unready]
    exact .inl ⟨unseen, waits⟩

theorem started_isFinished {c : PlaceGear ℝ} (started : Started inputs c) :
    Started inputs (c.isFinished r).1 := by
  rcases started with ⟨unseen, waiting⟩ | ⟨seen, initialized⟩
  · rw [(isFinished_kept r c).2 waiting.isInitialized]
    exact .inl ⟨unseen, waiting⟩
  · exact .inr ⟨seen, (isFinished_kept r c).1.trans initialized⟩

/-- A step of the command is one of the detector, once it is initialised, and
finishes the command when that fires. -/
theorem follows_tick (follows : Follows inputs a) (r : Readings ℝ) :
    Follows (inputs ++ [r]) ((command p).next a r) ∧
      (((command p).tick r a).2 = true ↔ Seen (inputs ++ [r]) ∧
        fires Armed Still kStableCountReq (run (Detector.step Armed Still) {} (calls inputs)) r = true) := by
  obtain ⟨c, d, gyro, rfl, started, same⟩ := follows
  have executed : Started (inputs ++ [r]) (c.execute p r d).1 := started_execute started d
  have counts : (c.execute p r d).1.detector = run (Detector.step Armed Still) {} (calls inputs) :=
    execute_detector.trans same
  have result : ((command p).tick r ⟨.placeGear c, d, gyro⟩).2 =
    ((c.execute p r d).1.isFinished r).2 := rfl
  have next : (command p).next ⟨.placeGear c, d, gyro⟩ r =
    ⟨.placeGear ((c.execute p r d).1.isFinished r).1, (c.execute p r d).2, gyro⟩ := rfl
  rw [result, next]
  refine ⟨⟨_, _, _, rfl, started_isFinished executed, ?_⟩, ?_⟩
  · rcases executed with ⟨unseen, waiting⟩ | ⟨seen, initialized⟩
    · have before : ¬Seen inputs := fun seen => unseen ((seen_concat inputs r).mpr (.inl seen))
      rw [(isFinished_kept r _).2 waiting.isInitialized, counts, calls_unseen unseen,
        calls_unseen before]
    · rw [(isFinished_detector initialized).1, counts, calls_concat seen, run_concat]
  · rcases executed with ⟨unseen, waiting⟩ | ⟨seen, initialized⟩
    · rw [(isFinished_kept r _).2 waiting.isInitialized]
      exact iff_of_false Bool.false_ne_true fun both => unseen both.1
    · rw [(isFinished_detector initialized).2, counts, and_iff_right seen]

theorem follows_run (c : PlaceGear ℝ) (d : SwerveDrive ℝ) (gyro : Gyro.Ahrs ℝ) (first : Readings ℝ)
    (inputs : List (Readings ℝ)) : Follows inputs
      (run (command p).next ((command p).init first ⟨.placeGear c, d, gyro⟩) inputs) := by
  induction inputs using List.reverseRecOn with
  | nil =>
    refine ⟨_, _, _, rfl, .inl ⟨?_, ⟨rfl, rfl, rfl, rfl⟩⟩, rfl⟩
    rintro ⟨r, member, _⟩
    cases member
  | append_singleton inputs r ih =>
    rw [run_concat]
    exact (follows_tick ih r).1

section Finish
variable (c : PlaceGear ℝ) (d : SwerveDrive ℝ) (gyro : Gyro.Ahrs ℝ) (first : Readings ℝ)
  (inputs : List (Readings ℝ))

theorem goes_iff : Along (command p).next (command p).Goes
      ((command p).init first ⟨.placeGear c, d, gyro⟩) inputs ↔
    Along (Detector.step Armed Still) (fun s r => fires Armed Still kStableCountReq s r = false) {}
      (calls inputs) := by
  induction inputs using List.reverseRecOn with
  | nil => exact Iff.rfl
  | append_singleton inputs r ih =>
    have follows := follows_run (p := p) c d gyro first inputs
    rw [along_append, ih, along_cons, Command.Goes, ← Bool.not_eq_true,
      (follows_tick follows r).2]
    by_cases seen : Seen (inputs ++ [r])
    · simp [calls_concat seen, along_append, seen]
    · have before : ¬Seen inputs := fun early => seen ((seen_concat inputs r).mpr (.inl early))
      simp [calls_unseen seen, calls_unseen before, seen]

/-- The command finishes first where the detector fires that takes positions and
speeds as the command reads them. -/
theorem finishes_first_iff :
    (∃ t, Ends (command p) first ⟨.placeGear c, d, gyro⟩ inputs .finished t) ↔
      FirstDue Armed Still kStableCountReq (calls inputs) := by
  induction inputs using List.reverseRecOn with
  | nil =>
    refine iff_of_false ?_ fun due => by simp [FirstDue, Due, calls] at due
    rintro ⟨t, ends⟩
    generalize whole : ([] : List (Readings ℝ)) = steps at ends
    cases ends with
    | finished ticks finished => simp at whole
  | append_singleton inputs r =>
    have follows := follows_run (p := p) c d gyro first inputs
    rw [finishes_iff, goes_iff, (follows_tick follows r).2]
    by_cases seen : Seen (inputs ++ [r])
    · rw [calls_concat seen, and_iff_right seen]
      exact fires_first_iff (by decide) (calls inputs) r
    · rw [calls_unseen seen]
      exact iff_of_false (fun both => seen both.2.1) fun due => by simp [FirstDue, Due] at due

end Finish

theorem travel_eq (r : Readings ℝ) : (|r.positionsAfter 3| + |r.positionsAfter 2| +
    |r.positionsAfter 0| + |r.positionsAfter 1|) / 4 = travel r := by
  unfold travel
  ring

/-- The cut to whole ticks puts off the arming to the next one. -/
theorem armed_iff (r : Readings ℝ) : Armed r ↔ 153 ≤ travel r := by
  have positive : 0 ≤ travel r := by
    unfold travel
    positivity
  have cut : getPosition r.positionsAfter = ⌊travel r⌋ := by
    rw [getPosition, travel_eq, Remainder.trunc_of_nonneg positive]
  have whole : (0 : ℝ) ≤ ⌊travel r⌋ := by exact_mod_cast Int.floor_nonneg.mpr positive
  have next : (153 : ℤ) ≤ ⌊travel r⌋ ↔ (3 * kTicksPerInch : ℝ) < ⌊travel r⌋ := by
    constructor
    · intro past
      have cast : (153 : ℝ) ≤ ⌊travel r⌋ := by exact_mod_cast past
      norm_num [kTicksPerInch]
      linarith
    · intro past
      norm_num [kTicksPerInch] at past
      by_contra short
      have below : ⌊travel r⌋ ≤ 152 := by omega
      have cast : (⌊travel r⌋ : ℝ) ≤ 152 := by exact_mod_cast below
      linarith
  rw [Armed, cut, abs_of_nonneg whole, ← next, Int.le_floor]
  norm_num

theorem cruising_iff (r : Readings ℝ) : Cruising r ↔ 152.16 < travel r := by
  norm_num [Cruising, kTicksPerInch]

/-- The two speeds are divided by four, so that the average may be twice as high. -/
theorem still_iff (r : Readings ℝ) : Still r ↔ frontSpeed r < 4 := by
  have positive : 0 ≤ getFrontWheelsDriveSpeed r.speeds := by
    unfold getFrontWheelsDriveSpeed
    positivity
  rw [Still, abs_of_nonneg positive, getFrontWheelsDriveSpeed, frontSpeed, kStoppedSpeed]
  constructor <;> intro below <;> linarith

theorem slow_iff (r : Readings ℝ) : Slow r ↔ frontSpeed r < 2 := by
  rw [Slow, kStoppedSpeed]

/-- What the call looks at is read such that the command takes it for what it
is: before it cruises the positions, and from then on the speeds. -/
def Tells (c : PlaceGear ℝ) (r : Readings ℝ) : Prop :=
  if c.isCruising then frontSpeed r < kStoppedSpeed ∨ 4 ≤ frontSpeed r
  else travel r ≤ 3 * kTicksPerInch ∨ 153 ≤ travel r

/-- If the call that follows this `Execute` looks at anything, its reads tell. -/
def Resolves (p : Platform ℝ) (a : Activity ℝ) (r : Readings ℝ) : Prop :=
  match (a.execute p r).command with
  | .placeGear c => c.isInitialized = true → Tells c r
  | _ => True

/-- A threshold put off from `low` to `high` is seen alike outside of what lies between. -/
theorem alike_below {low high value : ℝ} (order : low ≤ high) :
    (value < high ↔ value < low) ↔ value < low ∨ high ≤ value := by
  constructor
  · intro alike
    by_cases past : high ≤ value
    · exact .inr past
    · exact .inl (alike.mp (not_le.mp past))
  · rintro (below | past)
    · exact iff_of_true (below.trans_le order) below
    · exact iff_of_false (not_lt.mpr past) (not_lt.mpr (order.trans past))

theorem alike_above {low high value : ℝ} (order : low < high) :
    (high ≤ value ↔ low < value) ↔ value ≤ low ∨ high ≤ value := by
  constructor
  · intro alike
    by_cases past : high ≤ value
    · exact .inr past
    · exact .inl (not_lt.mp fun above => past (alike.mpr above))
  · rintro (below | past)
    · exact iff_of_false (not_le.mpr (below.trans_lt order)) (not_lt.mpr below)
    · exact iff_of_true past (order.trans_le past)

/-- Exactly then the call is taken as with the average and the mean themselves. -/
theorem tells_iff (c : PlaceGear ℝ) (r : Readings ℝ) :
    Tells c r ↔ Alike Armed Still Cruising Slow c.detector r := by
  have inches : (3 * kTicksPerInch : ℝ) = 152.16 := by norm_num [kTicksPerInch]
  rw [Tells, Alike, armed_iff, cruising_iff, still_iff, slow_iff, alike_below (by norm_num),
    alike_above (by norm_num), inches, kStoppedSpeed, detector]
  cases c.isCruising <;> simp

theorem resolves_alike (follows : Follows inputs a) (resolves : Resolves p a r)
    (seen : Seen (inputs ++ [r])) :
    Alike Armed Still Cruising Slow (run (Detector.step Armed Still) {} (calls inputs)) r := by
  obtain ⟨c, d, gyro, rfl, started, same⟩ := follows
  rw [← same, ← execute_detector (p := p) (r := r) (d := d), ← tells_iff]
  apply resolves
  rcases started_execute (p := p) (r := r) started d with ⟨unseen, _⟩ | ⟨_, initialized⟩
  · exact absurd seen unseen
  · exact initialized

theorem resolved_alike (c : PlaceGear ℝ) (d : SwerveDrive ℝ) (gyro : Gyro.Ahrs ℝ)
    (first : Readings ℝ) (inputs : List (Readings ℝ)) (resolved : Along (command p).next (Resolves p)
      ((command p).init first ⟨.placeGear c, d, gyro⟩) inputs) :
    Along (Detector.step Armed Still) (Alike Armed Still Cruising Slow) {} (calls inputs) := by
  induction inputs using List.reverseRecOn with
  | nil => trivial
  | append_singleton inputs r ih =>
    rw [along_append] at resolved
    by_cases seen : Seen (inputs ++ [r])
    · have follows := follows_run (p := p) c d gyro first inputs
      rw [calls_concat seen, along_append]
      exact ⟨ih resolved.1, resolves_alike follows resolved.2.1 seen, trivial⟩
    · rw [calls_unseen seen]
      trivial

section Claim
variable (p : Platform ℝ) (c : PlaceGear ℝ) (d : SwerveDrive ℝ) (gyro : Gyro.Ahrs ℝ)
  (first : Readings ℝ) (inputs : List (Readings ℝ))

/-- Where every call reads positions and speeds that the command takes for what
they are, it finishes first when the last three since it was armed were slow. -/
theorem finishes_at_stop (resolved : Along (command p).next (Resolves p)
      ((command p).init first ⟨.placeGear c, d, gyro⟩) inputs) :
    (∃ t, Ends (command p) first ⟨.placeGear c, d, gyro⟩ inputs .finished t) ↔
      FirstDue Cruising Slow kStableCountReq (calls inputs) := by
  rw [finishes_first_iff]
  exact firstDue_alike (calls inputs) (resolved_alike c d gyro first inputs resolved)

end Claim

/-- Under way, with the front wheels turning at this speed. -/
noncomputable def underWay (speed : ℝ) : Readings ℝ where
  hasTarget := true
  targetHeight := 60
  azimuthError := 0
  positions := 0
  hasTargetStill := true
  strafeError := 75
  gyro := ⟨0, 0⟩
  driveGyro := ⟨0, 0⟩
  timedOut := false
  hasTargetAfter := true
  speeds := fun _ => speed
  positionsAfter := fun _ => 180

theorem calls_underWay (speed : ℝ) :
    calls (List.replicate 7 (underWay speed)) = List.replicate 4 (underWay speed) := by
  simp [calls, underWay]

theorem armed_underWay (speed : ℝ) : Armed (underWay speed) := by
  norm_num [armed_iff, travel, underWay]

/-- Pushed to the lift and then at rest, it finishes. -/
theorem finishes_at_lift : ∃ t, Ends (command robot) liftInSight beforeLift
    (List.replicate 7 (underWay 0)) .finished t := by
  refine (finishes_at_stop robot _ atPowerOn ⟨0, 0⟩ liftInSight _ ?_).mpr ?_
  · refine along_of_mem fun a r member => ?_
    obtain rfl := List.eq_of_mem_replicate member
    unfold Resolves
    split
    · intro _
      unfold Tells
      split_ifs
      · exact .inl (by norm_num [frontSpeed, underWay, kStoppedSpeed])
      · exact .inr (by norm_num [travel, underWay])
    · trivial
  · rw [calls_underWay]
    exact firstDue_replicate (by norm_num [Cruising, travel, underWay, kTicksPerInch])
      (by norm_num [Slow, frontSpeed, underWay, kStoppedSpeed]) 3

/-- With both front wheels at three ticks it finishes, though none was slow. -/
theorem finishes_moving : (∃ t, Ends (command robot) liftInSight beforeLift
      (List.replicate 7 (underWay 3)) .finished t) ∧
    ¬FirstDue Cruising Slow kStableCountReq (calls (List.replicate 7 (underWay 3))) := by
  constructor
  · refine (finishes_first_iff _ atPowerOn ⟨0, 0⟩ liftInSight _).mpr ?_
    rw [calls_underWay]
    exact firstDue_replicate (armed_underWay 3) (by norm_num [still_iff, frontSpeed, underWay]) 3
  · rw [calls_underWay]
    rintro ⟨due, _⟩
    have last := (due_concat 2 (List.replicate 3 (underWay 3)) (underWay 3)).mp due
    exact absurd last.1 (by norm_num [Slow, frontSpeed, underWay, kStoppedSpeed])

end Steamworks.Auton
