import Steamworks.Auton.Segments
import Steamworks.Library.Curtailed

/-! The target of `Drive` and its planned path. The constructor adds up the
segments' lengths in an `int`, the segments' ends are added up as doubles. -/
namespace Steamworks.Auton
open Gyro Library.Activation Library.Cursor Library.Curtailed Library.Remainder Swerve Swerve.SwerveDrive

variable {K : Type*} [Field K] [LinearOrder K]

def inInt (i : ℤ) : Prop := -2 ^ 31 ≤ i ∧ i < 2 ^ 31

instance (i : ℤ) : Decidable (inInt i) := inferInstanceAs (Decidable (_ ∧ _))

section
variable [FloorRing K]

/-- A double converted to an `int`, which is defined where the whole part fits. -/
def toInt (a : K) : Option ℤ := if inInt (trunc a) then some (trunc a) else none

/-- `accumulate` from the `int` 0: the sum is stored as one after each segment. -/
def DriveConfig.accumulated (config : DriveConfig K) : Option ℤ :=
  config.segments.foldlM (fun (sum : ℤ) segment => toInt ((sum : K) + segment.distance)) 0

theorem accumulated_eq (config : DriveConfig K) :
    config.accumulated = curtail? inInt 0 config.lengths := by
  suffices every : ∀ (segments : List (DriveSegment K)) (sum : ℤ),
      segments.foldlM (fun (sum : ℤ) segment => toInt ((sum : K) + segment.distance)) sum =
        curtail? inInt sum (segments.map (·.distance)) from every config.segments 0
  intro segments
  induction segments with
  | nil => exact fun _ => rfl
  | cons segment rest ih =>
    intro sum
    rw [List.foldlM_cons, List.map_cons, curtail?, toInt]
    split_ifs with inside
    · exact ih _
    · rfl

/-- Where it is defined it is the sum that a drive goes by. -/
theorem distance_eq (c : Drive K) : c.distance = curtail 0 c.config.lengths := by
  suffices every : ∀ (segments : List (DriveSegment K)) (sum : ℤ),
      segments.foldl (fun (sum : ℤ) segment => trunc ((sum : K) + segment.distance)) sum =
        curtail sum (segments.map (·.distance)) from every c.config.segments 0
  intro segments
  induction segments with
  | nil => exact fun _ => rfl
  | cons segment rest ih => exact fun sum => ih _

end

/-- The target is the exact length of the path; and once the last segment was
started, the error is zero where this ends. -/
structure EndsAsPlanned (p : Platform ℝ) (config : DriveConfig ℝ) : Prop where
  distance : ∃ sum : ℤ, config.accumulated = some sum ∧ (sum : ℝ) = config.lengths.sum
  boundary : ∀ (c after : Drive ℝ) (d : SwerveDrive ℝ) (gyro : Ahrs ℝ) (first : Readings ℝ)
    (inputs : List (Readings ℝ)) (t : Activity ℝ), c.config = config →
      Ticks (command p) first ⟨.drive c, d, gyro⟩ inputs t → t.command = .drive after →
        after.rest = [] → ∀ travelled : ℝ,
          (after.distance : ℝ) - travelled = 0 ↔ travelled = after.segmentEndDistance

/-- Every running sum, cut to a whole number, fits the `int`. -/
def DriveConfig.RunsInInt (config : DriveConfig ℝ) : Prop :=
  ∀ front, front <+: config.lengths → inInt (curtail 0 front)

theorem accumulated_exact_iff (config : DriveConfig ℝ) :
    (∃ sum : ℤ, config.accumulated = some sum ∧ (sum : ℝ) = config.lengths.sum) ↔
      config.RunsInInt ∧ (curtail 0 config.lengths : ℝ) = config.lengths.sum := by
  have start : inInt 0 := by decide
  simp only [accumulated_eq, curtail?_eq_some_iff start]
  constructor
  · rintro ⟨_, ⟨rfl, inside⟩, exact_⟩
    exact ⟨inside, exact_⟩
  · rintro ⟨inside, exact_⟩
    exact ⟨_, ⟨rfl, inside⟩, exact_⟩

/-- Past the last segment the ends add up to the whole path, in every run. -/
theorem segmentEnd_eq_sum {p : Platform K} [FloorRing K] {c after : Drive K} {d : SwerveDrive K}
    {gyro : Ahrs K} {first : Readings K} {inputs : List (Readings K)} {t : Activity K}
    (ticks : Ticks (command p) first ⟨.drive c, d, gyro⟩ inputs t) (same : t.command = .drive after)
    (last : after.rest = []) :
    after.config = c.config ∧ after.segmentEndDistance = c.config.lengths.sum := by
  obtain ⟨before, underway⟩ := underway_ticks ticks
  obtain rfl : after = before := by
    have both := same.symm.trans underway.command
    injection both
  have placed := underway.placed
  have past := placed.rest.symm.trans last
  rw [List.drop_eq_nil_iff] at past
  have all : c.config.lengths.length ≤ started (· + ·) c.config.lengths (samples inputs) := by
    rwa [DriveConfig.lengths, List.length_map]
  refine ⟨placed.same, ?_⟩
  rw [placed.ends, endOf, List.take_of_length_le all, List.sum_eq_foldl]

/-- With lengths of both signs the fractions that are cut off may make up for
one another; otherwise the target is the path's length only if all are whole. -/
theorem drive_target_iff (p : Platform ℝ) (config : DriveConfig ℝ) :
    (EndsAsPlanned p config ↔ config.RunsInInt ∧
      (config.lengths.map Int.fract).sum = belowZero 0 config.lengths) ∧
    ((∀ length ∈ config.lengths, 0 ≤ length) → (EndsAsPlanned p config ↔
      (∀ length ∈ config.lengths, Int.fract length = 0) ∧ config.lengths.sum < 2 ^ 31)) := by
  have planned : EndsAsPlanned p config ↔
      config.RunsInInt ∧ (curtail 0 config.lengths : ℝ) = config.lengths.sum := by
    rw [← accumulated_exact_iff]
    constructor
    · exact fun ends => ends.distance
    · intro distance
      refine ⟨distance, ?_⟩
      rintro c after d gyro first inputs t rfl ticks same last travelled
      obtain ⟨kept, ends⟩ := segmentEnd_eq_sum ticks same last
      obtain ⟨_, exact_⟩ := (accumulated_exact_iff _).mp distance
      rw [ends, ← exact_, distance_eq, kept, sub_eq_zero, eq_comm]
  refine ⟨by rw [planned, curtail_eq_sum_iff], fun nonneg => ?_⟩
  rw [planned, curtail_eq_sum_of_nonneg nonneg]
  constructor
  · rintro ⟨inside, whole⟩
    have same := (curtail_eq_sum_of_nonneg nonneg).mpr whole
    have fits := (inside config.lengths (List.prefix_refl _)).2
    rw [← same]
    exact ⟨whole, by exact_mod_cast fits⟩
  · rintro ⟨whole, fits⟩
    refine ⟨fun front short => ?_, whole⟩
    obtain ⟨lower, upper⟩ := curtail_prefix_of_whole nonneg whole short
    have below : curtail 0 front < 2 ^ 31 := by exact_mod_cast upper.trans_lt fits
    exact ⟨by omega, below⟩

section

/-- Out, aside and out again, by whole ticks. -/
noncomputable def outAndAside : DriveConfig ℝ :=
  { driveOut 0 with segments := [⟨0, 400⟩, ⟨90, 300⟩, ⟨0, 1015⟩], nonempty := by simp }

theorem whole_length_planned : EndsAsPlanned robot outAndAside := by
  have lengths : outAndAside.lengths = [400, 300, 1015] := rfl
  refine ((drive_target_iff robot outAndAside).2 ?_).mpr ?_
  · rw [lengths]
    norm_num
  · rw [lengths]
    norm_num [Int.fract_ofNat]

/-- Backing off from the lift, 28 inches and then 18 at 50.72 ticks each, with
the speeds of driving out. -/
noncomputable def backOff : DriveConfig ℝ :=
  { driveOut 0 with segments := [⟨60, 28 * 50.72⟩, ⟨-35, 18 * 50.72⟩], nonempty := by simp }

theorem backOff_accumulated : backOff.accumulated = some 2332 := by
  have first : toInt (((0 : ℤ) : ℝ) + 28 * 50.72) = some 1420 := by
    norm_num [toInt, trunc, inInt]
  have second : toInt (((1420 : ℤ) : ℝ) + 18 * 50.72) = some 2332 := by
    norm_num [toInt, trunc, inInt]
  rw [DriveConfig.accumulated, backOff, List.foldlM_cons, first]
  rw [Option.bind_eq_bind, Option.bind_some, List.foldlM_cons, second]
  rfl

/-- The target is over a tick short of the end of the path. -/
theorem backing_off_short : ¬EndsAsPlanned robot backOff := by
  rintro ⟨⟨sum, stored, exact_⟩, -⟩
  obtain rfl : 2332 = sum := Option.some.inj (backOff_accumulated.symm.trans stored)
  have planned : backOff.lengths.sum = 2333.12 := by
    norm_num [DriveConfig.lengths, backOff]
  rw [planned] at exact_
  norm_num at exact_

end
end Steamworks.Auton
