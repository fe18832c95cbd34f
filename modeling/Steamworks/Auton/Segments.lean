import Steamworks.Auton.Profile
import Steamworks.Library.Cursor
import Steamworks.Library.Double

/-! The segments of `Drive`. Its iterator and the distance at which the segment
ends move as a cursor over the segments' lengths, one at most a tick, however the
ends are added up. As doubles they need not be the exact sums. -/
namespace Steamworks.Auton
open Gyro Library.Activation Library.Cursor Library.Double Swerve Swerve.SwerveDrive

variable {K : Type*} [Field K] [LinearOrder K]

def DriveConfig.lengths (config : DriveConfig K) : List K := config.segments.map (·.distance)

namespace Drive

/-- The members are those of a drive that has started this many segments. -/
structure At (add : K → K → K) (cmath : Cmath K) (config : DriveConfig K) (c : Drive K)
    (started : ℕ) : Prop where
  same : c.config = config
  within : started ≤ config.segments.length
  rest : c.rest = config.segments.drop started
  ends : c.segmentEndDistance = endOf add config.lengths started
  factors : ∀ segment, 1 ≤ started → config.segments[started - 1]? = some segment →
    c.forwardFactor = cmath.cosDegrees segment.angle ∧
      c.strafeFactor = cmath.sinDegrees segment.angle

variable {add : K → K → K} {cmath : Cmath K} {config : DriveConfig K} {c : Drive K}
  {started : ℕ}

omit [LinearOrder K] in
theorem startNextSegment_end (placed : At add cmath config c started)
    (last : ¬started < config.segments.length) : c.startNextSegment cmath add = c := by
  have passed : c.rest = [] := by
    rw [placed.rest]
    exact List.drop_eq_nil_of_le (not_lt.mp last)
  rw [startNextSegment, passed]

omit [LinearOrder K] in
theorem startNextSegment_at (placed : At add cmath config c started)
    (inside : started < config.segments.length) :
    At add cmath config (c.startNextSegment cmath add) (started + 1) := by
  have ahead : c.rest = config.segments[started] :: config.segments.drop (started + 1) := by
    rw [placed.rest, List.drop_eq_getElem_cons inside]
  have within : started < config.lengths.length := by simpa [DriveConfig.lengths] using inside
  have length : config.lengths[started] = config.segments[started].distance := by
    simp [DriveConfig.lengths]
  rw [startNextSegment, ahead]
  refine ⟨placed.same, inside, rfl, ?_, ?_⟩
  · rw [endOf_succ within, length, ← placed.ends]
  · intro segment _ current
    rw [Nat.add_sub_cancel, List.getElem?_eq_getElem inside] at current
    rw [← Option.some.inj current]
    exact ⟨rfl, rfl⟩

omit [LinearOrder K] in
theorem startNextSegment_keeps (add : K → K → K) (cmath : Cmath K) (c : Drive K) :
    (c.startNextSegment cmath add).config = c.config ∧
      (c.startNextSegment cmath add).absError = c.absError ∧
      (c.startNextSegment cmath add).zeroCount = c.zeroCount := by
  unfold startNextSegment
  cases c.rest <;> exact ⟨rfl, rfl, rfl⟩

variable [FloorRing K]

/-- The distance a step takes for travelled. -/
def travelled (r : Readings K) : K := |(getPosition r.positions : K)|

omit [LinearOrder K] [FloorRing K] in
theorem At.congr {next : Drive K} (placed : At add cmath config c started)
    (same : next.config = c.config) (rest : next.rest = c.rest)
    (ends : next.segmentEndDistance = c.segmentEndDistance)
    (forward : next.forwardFactor = c.forwardFactor) (strafe : next.strafeFactor = c.strafeFactor) :
    At add cmath config next started := by
  refine ⟨same.trans placed.same, placed.within, rest.trans placed.rest, ends.trans placed.ends, ?_⟩
  rw [forward, strafe]
  exact placed.factors

/-- The errors a step measures. -/
def measure (c : Drive K) (r : Readings K) : Drive K :=
  { c with error := c.toGo r, absError := |c.toGo r| }

theorem execute_fst (p : Platform K) (r : Readings K) (d : SwerveDrive K)
    (waited : kZeroCountReq ≤ c.zeroCount) : (c.execute p r d add).1 =
      if c.segmentEndDistance ≤ travelled r then (c.measure r).startNextSegment p.cmath add
      else c.measure r := by
  have distance : (c.distance : K) - c.toGo r = travelled r := sub_sub_cancel _ _
  rw [execute, if_neg (not_lt.mpr waited), ← distance]
  rfl

/-- A step past the wait moves the segments as it moves the cursor. -/
theorem execute_at (p : Platform K) (r : Readings K) (d : SwerveDrive K)
    (placed : At add p.cmath config c started) (waited : kZeroCountReq ≤ c.zeroCount) :
    At add p.cmath config (c.execute p r d add).1
      (advance add config.lengths started (travelled r)) := by
  have measured : At add p.cmath config (c.measure r) started := placed.congr rfl rfl rfl rfl rfl
  have length : config.lengths.length = config.segments.length := List.length_map _
  rw [execute_fst p r d waited, placed.ends]
  rcases advance_cases config.lengths started (travelled r) with ⟨moves, reached, inside⟩ | ⟨stays, ahead⟩
  · rw [moves, if_pos reached]
    exact startNextSegment_at measured (length ▸ inside)
  · rw [stays]
    split_ifs with reached
    · rw [startNextSegment_end measured fun inside => ahead ⟨reached, length ▸ inside⟩]
      exact measured
    · exact measured

theorem execute_zeroCount (p : Platform K) (r : Readings K) (d : SwerveDrive K)
    (waited : kZeroCountReq ≤ c.zeroCount) : (c.execute p r d add).1.zeroCount = c.zeroCount := by
  rw [execute_fst p r d waited]
  split_ifs
  · exact (startNextSegment_keeps add p.cmath (c.measure r)).2.2
  · rfl

omit [FloorRing K] in
theorem isFinished_at (timedOut : Bool) (placed : At add cmath config c started) :
    At add cmath config (c.isFinished timedOut).1 started := by
  cases timedOut with
  | true => exact placed
  | false => exact placed.congr rfl rfl rfl rfl rfl

omit [Field K] [FloorRing K] in
theorem isFinished_zeroCount (timedOut : Bool) (c : Drive K) :
    (c.isFinished timedOut).1.zeroCount = c.zeroCount := by
  cases timedOut <;> rfl

/-- The segment started last is the one the distance lies in, or the last of
all; the iterator is just past it and the factors are those of its angle. -/
structure Follows (add : K → K → K) (cmath : Cmath K) (config : DriveConfig K) (distance : K)
    (c : Drive K) (started : ℕ) : Prop where
  active : Active add config.lengths distance started
  rest : c.rest = config.segments.drop started
  factors : ∃ segment, config.segments[started - 1]? = some segment ∧
    c.forwardFactor = cmath.cosDegrees segment.angle ∧
      c.strafeFactor = cmath.sinDegrees segment.angle

omit [FloorRing K] in
theorem follows_of_at {distance : K} (placed : At add cmath config c started)
    (active : Active add config.lengths distance started) :
    Follows add cmath config distance c started := by
  have some := active.started
  have within := placed.within
  have current := List.getElem?_eq_getElem (show started - 1 < config.segments.length by omega)
  exact ⟨active, placed.rest, _, current, placed.factors _ some current⟩

end Drive

variable [FloorRing K]

/-- The samples of the steps past the wait. -/
def samples (inputs : List (Readings K)) : List K :=
  (inputs.drop Drive.kZeroCountReq).map Drive.travelled

theorem samples_waiting {inputs : List (Readings K)} (few : inputs.length ≤ Drive.kZeroCountReq) :
    samples inputs = [] := by
  rw [samples, List.drop_eq_nil_of_le few, List.map_nil]

theorem samples_concat {inputs : List (Readings K)} (waited : Drive.kZeroCountReq ≤ inputs.length)
    (r : Readings K) : samples (inputs ++ [r]) = samples inputs ++ [Drive.travelled r] := by
  rw [samples, List.drop_append_of_le_length waited, List.map_append, List.map_singleton, samples]

/-- A drive activity after these steps: it waits, or its members are those of
the cursor over what was travelled. -/
structure Underway (add : K → K → K) (p : Platform K) (config : DriveConfig K)
    (inputs : List (Readings K)) (a : Activity K) (c : Drive K) : Prop where
  command : a.command = .drive c
  zeroCount : c.zeroCount = min inputs.length Drive.kZeroCountReq
  placed : Drive.At add p.cmath config c (started add config.lengths (samples inputs))

theorem underway_init (add : K → K → K) (p : Platform K) (first : Readings K) (c : Drive K)
    (d : SwerveDrive K) (gyro : Ahrs K) :
    Underway add p c.config [] ((command p add).init first ⟨.drive c, d, gyro⟩) c.init where
  command := rfl
  zeroCount := rfl
  placed := ⟨rfl, Nat.zero_le _, rfl, rfl, fun _ some => absurd some (by simp [samples, started])⟩

theorem underway_execute {add : K → K → K} {p : Platform K} {config : DriveConfig K}
    {inputs : List (Readings K)} {a : Activity K} {c : Drive K}
    (underway : Underway add p config inputs a c) (r : Readings K) :
    Underway add p config (inputs ++ [r]) ((command p add).execute r a)
      (c.execute p r a.drive add).1 := by
  obtain ⟨_, d, gyro⟩ := a
  obtain ⟨same, zeroCount, placed⟩ := underway
  obtain rfl : _ = AutonCommand.drive c := same
  refine ⟨rfl, ?_, ?_⟩
  all_goals by_cases waited : Drive.kZeroCountReq ≤ inputs.length
  · have past : Drive.kZeroCountReq ≤ c.zeroCount := by omega
    rw [Drive.execute_zeroCount p r d past, List.length_append, List.length_singleton]
    omega
  · have waits : c.zeroCount < Drive.kZeroCountReq := by omega
    rw [Drive.execute, if_pos waits, List.length_append, List.length_singleton]
    dsimp only
    omega
  · have past : Drive.kZeroCountReq ≤ c.zeroCount := by omega
    rw [samples_concat waited, started_concat]
    exact Drive.execute_at p r d placed past
  · have waits : c.zeroCount < Drive.kZeroCountReq := by omega
    rw [samples_waiting (not_le.mp waited).le] at placed
    rw [Drive.execute, if_pos waits, samples_waiting]
    · exact placed.congr rfl rfl rfl rfl rfl
    · rw [List.length_append, List.length_singleton]
      omega

theorem underway_ticks {add : K → K → K} {p : Platform K} {first : Readings K} {c : Drive K}
    {d : SwerveDrive K} {gyro : Ahrs K} {inputs : List (Readings K)} {t : Activity K}
    (ticks : Ticks (command p add) first ⟨.drive c, d, gyro⟩ inputs t) :
    ∃ before, Underway add p c.config inputs t before := by
  induction ticks with
  | init => exact ⟨c.init, underway_init add p first c d gyro⟩
  | @next inputs t u r earlier stepped ih =>
    obtain ⟨before, underway⟩ := ih
    obtain ⟨same, zeroCount, placed⟩ := underway_execute underway r
    refine ⟨((before.execute p r t.drive add).1.isFinished r.timedOut).1, ?_, ?_, ?_⟩
    · have after := congrArg (fun result => result.1.command) stepped
      rw [← after]
      simp only [Command.tick, command, Activity.isFinished] at same ⊢
      rw [same]
    · rw [Drive.isFinished_zeroCount, zeroCount]
    · exact Drive.isFinished_at r.timedOut placed

omit [Field K] [FloorRing K] in
theorem Drive.isFinished_away {c : Drive K} (far : c.config.closeEnough ≤ c.absError) :
    c.isFinished false = ({ c with stableCount := 0 }, false) := by
  have apart : ¬c.absError < c.config.closeEnough := not_lt.mpr far
  simp only [Drive.isFinished, Bool.false_eq_true, if_false, apart]
  rfl

/-- A drive that never comes close to its target, nor times out, goes on. -/
theorem driving_ticks (add : K → K → K) (p : Platform K) (first : Readings K) (c : Drive K)
    (d : SwerveDrive K) (gyro : Ahrs K) (inputs : List (Readings K))
    (inTime : ∀ r ∈ inputs, r.timedOut = false)
    (far : c.config.closeEnough ≤ (c.distance : K))
    (away : ∀ r ∈ inputs, c.config.closeEnough ≤ |c.toGo r|) :
    ∃ t after, Ticks (command p add) first ⟨.drive c, d, gyro⟩ inputs t ∧
      t.command = .drive after ∧ after.config = c.config ∧
      c.config.closeEnough ≤ after.absError := by
  induction inputs using List.reverseRecOn with
  | nil => exact ⟨_, c.init, .init, rfl, rfl, far⟩
  | append_singleton inputs r ih =>
    obtain ⟨t, before, ticks, same, config, apart⟩ :=
      ih (fun r member => inTime r (List.mem_append_left _ member))
        fun r member => away r (List.mem_append_left _ member)
    have late : r.timedOut = false := inTime r (by simp)
    have distance : before.toGo r = c.toGo r := by
      rw [Drive.toGo, Drive.toGo, Drive.distance, Drive.distance, config]
    have stepped : (before.execute p r t.drive add).1.config = c.config ∧
        c.config.closeEnough ≤ (before.execute p r t.drive add).1.absError := by
      by_cases waits : before.zeroCount < Drive.kZeroCountReq
      · rw [Drive.execute, if_pos waits]
        exact ⟨config, apart⟩
      · obtain ⟨sameConfig, sameError, -⟩ :=
          Drive.startNextSegment_keeps add p.cmath (before.measure r)
        have measured : c.config.closeEnough ≤ (before.measure r).absError :=
          (away r (by simp)).trans_eq (congrArg abs distance.symm)
        rw [Drive.execute_fst p r t.drive (not_lt.mp waits)]
        split_ifs
        · rw [sameConfig, sameError]
          exact ⟨config, measured⟩
        · exact ⟨config, measured⟩
    have unfinished := Drive.isFinished_away
      ((congrArg DriveConfig.closeEnough stepped.1).trans_le stepped.2)
    refine ⟨⟨.drive { (before.execute p r t.drive add).1 with stableCount := 0 },
      (before.execute p r t.drive add).2, t.gyroAtEnd⟩, _, ticks.next ?_, rfl, stepped.1, stepped.2⟩
    simp [Command.tick, command, Activity.execute, Activity.isFinished, same, late, unfinished]

variable [IsStrictOrderedRing K]

/-- Ticks that an `int` holds. -/
def InTicks (sample : K) : Prop := ∃ n : ℤ, 0 ≤ n ∧ n ≤ 2 ^ 31 ∧ sample = n

theorem samples_inTicks {inputs : List (Readings K)}
    (fits : ∀ sample ∈ samples inputs, sample ≤ 2 ^ 31) :
    ∀ sample ∈ 0 :: samples inputs, InTicks sample := by
  intro sample member
  rcases List.mem_cons.mp member with rfl | later
  · exact ⟨0, le_rfl, by norm_num, Int.cast_zero.symm⟩
  · have small := fits sample later
    obtain ⟨r, -, rfl⟩ := List.mem_map.mp later
    rw [Drive.travelled, ← Int.cast_abs] at small ⊢
    exact ⟨_, abs_nonneg _, by exact_mod_cast small, rfl⟩

theorem endOf_isDouble {lengths : List K} : ∀ {k : ℕ}, k ≤ lengths.length →
    IsDouble (endOf Library.Double.add lengths k)
  | 0, _ => ⟨0, 0, by norm_num, by norm_num, by simp⟩
  | k + 1, inside => by
    rw [endOf_succ inside]
    exact isDouble_round _

/-- Doubles that are added up never fall to ticks short of them. -/
theorem double_sums {lengths : List K} (doubles : ∀ length ∈ lengths, IsDouble length) :
    Sums Library.Double.add lengths InTicks where
  zero_add length member := by
    rw [Library.Double.add, zero_add]
    exact round_of_isDouble (doubles length member)
  lt_add k inside sample next sampled nextSampled rising behind short := by
    obtain ⟨m, nonneg, -, rfl⟩ := sampled
    obtain ⟨n, -, small, rfl⟩ := nextSampled
    have up : m ≤ n := by exact_mod_cast rising
    have step : ((n - m : ℤ) : K) < lengths[k] := by
      push_cast
      exact short
    have sum := lt_add (endOf_isDouble inside.le) (doubles _ (List.getElem_mem inside)) nonneg
      (sub_nonneg.mpr up) behind step (by omega)
    rwa [add_sub_cancel] at sum

/-- At every step past the wait, of every drive whose distances travelled start
below and rise by less than its shortest segment, the segments have been
started in their order up to the one the distance lies in, where their ends are
added up as doubles. -/
theorem segments_followed (p : Platform K) (c : Drive K) (d : SwerveDrive K) (gyro : Ahrs K)
    (first : Readings K) (inputs : List (Readings K)) (t : Activity K)
    (ticks : Ticks (command p Library.Double.add) first ⟨.drive c, d, gyro⟩ inputs t)
    (r : Readings K) (waited : Drive.kZeroCountReq ≤ inputs.length)
    (doubles : ∀ length ∈ c.config.lengths, IsDouble length)
    (fits : ∀ sample ∈ samples (inputs ++ [r]), sample ≤ 2 ^ 31)
    (paced : (0 :: samples (inputs ++ [r])).IsChain (Paced c.config.lengths)) :
    ∃ before after started, t.command = .drive before ∧
      ((command p Library.Double.add).execute r t).command = .drive after ∧
      Drive.Follows Library.Double.add p.cmath c.config (Drive.travelled r) after started ∧
      (before.rest = c.config.segments.drop started ∨
        before.rest = c.config.segments.drop (started - 1)) := by
  obtain ⟨before, underway⟩ := underway_ticks ticks
  have next := underway_execute underway r
  have some : c.config.lengths ≠ [] := mt List.map_eq_nil_iff.mp c.config.nonempty
  have placed := next.placed
  have counted := samples_inTicks fits
  rw [samples_concat waited] at paced placed counted
  refine ⟨before, _, _, underway.command, next.command,
    Drive.follows_of_at placed (active_of_paced (double_sums doubles) some _ _ paced counted), ?_⟩
  have earlier := underway.placed.rest
  rw [started_concat]
  have steps := @advance_cases _ _ _ Library.Double.add c.config.lengths
    (started Library.Double.add c.config.lengths (samples inputs)) (Drive.travelled r)
  obtain ⟨moves, _⟩ | ⟨stays, _⟩ := steps
  · right
    rw [moves, Nat.add_sub_cancel]
    exact earlier
  · left
    rw [stays]
    exact earlier

noncomputable section

/-- Legs of 1.1, 2.2, 3.7 and 5 ticks, forwards and to the side in turn, as doubles. -/
def fourLegs : DriveConfig ℝ :=
  { driveOut 0 with
    closeEnough := 1
    segments := [⟨0, 2476979795053773 / 2 ^ 51⟩, ⟨90, 2476979795053773 / 2 ^ 50⟩,
      ⟨0, 4165829655317709 / 2 ^ 50⟩, ⟨90, 5⟩]
    nonempty := by simp }

/-- After the wait a tick at each step. -/
def tickByTick : List (Readings ℝ) :=
  List.replicate 4 (movedBy 0) ++ (List.range 7).map fun n : ℕ => movedBy n

theorem travelled_movedBy (n : ℕ) : Drive.travelled (movedBy n) = n := by
  have mean : (|(n : ℝ)| + |(n : ℝ)| + |(n : ℝ)| + |(n : ℝ)|) / 4 = n := by
    rw [Nat.abs_cast]
    ring
  have whole : getPosition (movedBy n).positions = n := by
    rw [getPosition]
    change Library.Remainder.trunc ((|(n : ℝ)| + |(n : ℝ)| + |(n : ℝ)| + |(n : ℝ)|) / 4) = n
    rw [mean]
    simp [Library.Remainder.trunc]
  rw [Drive.travelled, whole]
  simp

theorem fourLegs_samples : samples (tickByTick ++ [movedBy 7]) = [0, 1, 2, 3, 4, 5, 6, 7] := by
  have each : samples (tickByTick ++ [movedBy 7]) =
      (List.range 8).map fun n : ℕ => Drive.travelled (movedBy n) := rfl
  rw [each, List.map_congr_left fun n _ => travelled_movedBy n]
  simp [List.range_succ]

theorem fourLegs_isDouble : ∀ length ∈ fourLegs.lengths, IsDouble length := by
  simp only [DriveConfig.lengths, fourLegs, List.map_cons, List.map_nil, List.forall_mem_cons]
  refine ⟨⟨2476979795053773, -51, ?_, ?_, ?_⟩, ⟨2476979795053773, -50, ?_, ?_, ?_⟩,
    ⟨4165829655317709, -50, ?_, ?_, ?_⟩, ⟨5, 0, ?_, ?_, ?_⟩, List.forall_mem_nil _⟩ <;> norm_num

theorem fourLegs_paced :
    (0 :: samples (tickByTick ++ [movedBy 7])).IsChain (Paced fourLegs.lengths) := by
  rw [fourLegs_samples]
  norm_num [Paced, DriveConfig.lengths, fourLegs]

/-- The third leg ends at 7 ticks: its sum is rounded to the even one of two doubles. -/
theorem fourLegs_endOf : endOf Library.Double.add fourLegs.lengths 1 = 2476979795053773 / 2 ^ 51 ∧
    endOf Library.Double.add fourLegs.lengths 2 = 7430939385161319 / 2 ^ 51 ∧
    endOf Library.Double.add fourLegs.lengths 3 = 7 := by
  have first : Library.Double.add (0 : ℝ) (2476979795053773 / 2 ^ 51) = 2476979795053773 / 2 ^ 51 := by
    rw [Library.Double.add, zero_add]
    exact round_of_isDouble (fourLegs_isDouble _ List.mem_cons_self)
  have second : Library.Double.add (2476979795053773 / 2 ^ 51 : ℝ) (2476979795053773 / 2 ^ 50) =
      7430939385161319 / 2 ^ 51 := by
    have sum : (2476979795053773 / 2 ^ 51 + 2476979795053773 / 2 ^ 50 : ℝ) =
        7430939385161319 / 2 ^ 51 := by norm_num
    rw [Library.Double.add, sum]
    exact round_of_isDouble ⟨7430939385161319, -51, by norm_num, by norm_num, by norm_num⟩
  have third : Library.Double.add (7430939385161319 / 2 ^ 51 : ℝ) (4165829655317709 / 2 ^ 50) = 7 := by
    have sum : (7430939385161319 / 2 ^ 51 + 4165829655317709 / 2 ^ 50 : ℝ) =
        (7881299347898368 + 1 / 2) * 2 ^ (-50 : ℤ) := by norm_num
    have size : |((7881299347898368 + 1 / 2) * 2 ^ (-50 : ℤ) : ℝ)| =
        (7881299347898368 + 1 / 2) * 2 ^ (-50 : ℤ) := abs_of_nonneg (by positivity)
    have unit : unitOf ((7881299347898368 + 1 / 2) * 2 ^ (-50 : ℤ) : ℝ) = -50 := by
      apply unitOf_eq (by norm_num) <;> rw [size] <;> norm_num
    have whole : ⌊(7881299347898368 + 1 / 2 : ℝ)⌋ = 7881299347898368 := by
      rw [Int.floor_eq_iff]
      norm_num
    have even : nearest (7881299347898368 + 1 / 2 : ℝ) = 7881299347898368 := by
      rw [nearest, whole]
      norm_num
    rw [Library.Double.add, sum, Library.Double.round, unit, mul_div_cancel_right₀ _ (by norm_num), even]
    norm_num
  refine ⟨first, ?_, ?_⟩
  · change Library.Double.add (Library.Double.add 0 _) _ = _
    rw [first, second]
  · change Library.Double.add (Library.Double.add (Library.Double.add 0 _) _) _ = 7
    rw [first, second, third]

theorem fourLegs_started :
    started Library.Double.add fourLegs.lengths (samples (tickByTick ++ [movedBy 7])) = 4 := by
  obtain ⟨first, second, third⟩ := fourLegs_endOf
  have seven : Drive.travelled (movedBy 7) = 7 := travelled_movedBy 7
  have some : fourLegs.lengths ≠ [] := by simp [DriveConfig.lengths, fourLegs]
  have small : ∀ sample ∈ samples (tickByTick ++ [movedBy 7]), sample ≤ 2 ^ 31 := by
    rw [fourLegs_samples]
    norm_num
  have counted := samples_inTicks small
  have paced := fourLegs_paced
  have concat : samples (tickByTick ++ [movedBy 7]) =
      samples tickByTick ++ [Drive.travelled (movedBy 7)] := samples_concat (by decide) _
  rw [concat, seven] at paced counted ⊢
  obtain ⟨begun, within, -, ahead⟩ :=
    active_of_paced (double_sums fourLegs_isDouble) some _ _ paced counted
  generalize started Library.Double.add fourLegs.lengths _ = k at begun within ahead ⊢
  have few : k ≤ 4 := within
  rcases ahead with ahead | last
  · interval_cases k
    · rw [first] at ahead
      norm_num at ahead
    · rw [second] at ahead
      norm_num at ahead
    · exact absurd (third ▸ ahead) (lt_irrefl 7)
    · rfl
  · exact last

theorem fourLegs_ticks (add : ℝ → ℝ → ℝ) : ∃ t, Ticks (command robot add) (movedBy 0)
    ⟨.drive (waitedFor fourLegs), atPowerOn, ⟨0, 0⟩⟩ tickByTick t := by
  have whole : (waitedFor fourLegs).distance = 11 := by
    norm_num [waitedFor, fourLegs, Drive.init, Drive.distance, Library.Remainder.trunc]
  have apart : ∀ n : ℕ, n ≤ 10 →
      (waitedFor fourLegs).config.closeEnough ≤ |(waitedFor fourLegs).toGo (movedBy n)| := by
    intro n few
    have room : (n : ℝ) ≤ 10 := by exact_mod_cast few
    have togo : (waitedFor fourLegs).toGo (movedBy n) = 11 - n := by
      rw [Drive.toGo, whole]
      exact congrArg (((11 : ℤ) : ℝ) - ·) (travelled_movedBy n)
    rw [togo, abs_of_nonneg (by linarith)]
    change (1 : ℝ) ≤ 11 - n
    linarith
  have cases : ∀ r ∈ tickByTick, ∃ n : ℕ, n ≤ 10 ∧ r = movedBy n := by
    intro r member
    rcases List.mem_append.mp member with waiting | moving
    · exact ⟨0, by norm_num, by rw [List.eq_of_mem_replicate waiting, Nat.cast_zero]⟩
    · obtain ⟨n, range, rfl⟩ := List.mem_map.mp moving
      have few := List.mem_range.mp range
      exact ⟨n, by omega, rfl⟩
  have inTime : ∀ r ∈ tickByTick, r.timedOut = false := by
    intro r member
    obtain ⟨n, -, rfl⟩ := cases r member
    rfl
  have away : ∀ r ∈ tickByTick,
      (waitedFor fourLegs).config.closeEnough ≤ |(waitedFor fourLegs).toGo r| := by
    intro r member
    obtain ⟨n, few, rfl⟩ := cases r member
    exact apart n few
  have far : (waitedFor fourLegs).config.closeEnough ≤ ((waitedFor fourLegs).distance : ℝ) := by
    rw [whole]
    norm_num [waitedFor, fourLegs, Drive.init]
  obtain ⟨t, -, ticks, -⟩ := driving_ticks add robot (movedBy 0) (waitedFor fourLegs) atPowerOn ⟨0, 0⟩
    tickByTick inTime far away
  exact ⟨t, ticks⟩

theorem fourLegs_followed : ∃ t, Ticks (command robot Library.Double.add) (movedBy 0)
      ⟨.drive (waitedFor fourLegs), atPowerOn, ⟨0, 0⟩⟩ tickByTick t ∧
    ∃ before after started, t.command = .drive before ∧
      ((command robot Library.Double.add).execute (movedBy 7) t).command = .drive after ∧
      Drive.Follows Library.Double.add robot.cmath fourLegs (Drive.travelled (movedBy 7)) after
        started ∧
      (before.rest = fourLegs.segments.drop started ∨
        before.rest = fourLegs.segments.drop (started - 1)) := by
  obtain ⟨t, ticks⟩ := fourLegs_ticks Library.Double.add
  refine ⟨t, ticks, segments_followed robot (waitedFor fourLegs) atPowerOn ⟨0, 0⟩ (movedBy 0)
    tickByTick t ticks (movedBy 7) ?_ fourLegs_isDouble ?_ fourLegs_paced⟩
  · decide
  · rw [fourLegs_samples]
    norm_num

/-- At 7 ticks the fourth leg was started, though the third is a little longer. -/
theorem fourth_leg_early : (∀ length ∈ fourLegs.lengths, 0 < length) ∧
    (0 :: samples (tickByTick ++ [movedBy 7])).IsChain (Paced fourLegs.lengths) ∧
    ∃ t after, Ticks (command robot Library.Double.add) (movedBy 0)
        ⟨.drive (waitedFor fourLegs), atPowerOn, ⟨0, 0⟩⟩ tickByTick t ∧
      ((command robot Library.Double.add).execute (movedBy 7) t).command = .drive after ∧
      ∀ started, ¬Drive.Follows (· + ·) robot.cmath fourLegs (Drive.travelled (movedBy 7)) after
        started := by
  refine ⟨?_, fourLegs_paced, ?_⟩
  · norm_num [DriveConfig.lengths, fourLegs]
  obtain ⟨t, ticks⟩ := fourLegs_ticks Library.Double.add
  obtain ⟨before, underway⟩ := underway_ticks ticks
  have next := underway_execute underway (movedBy 7)
  refine ⟨t, _, ticks, next.command, fun begun follows => ?_⟩
  have rest : fourLegs.segments.drop begun = [] := by
    rw [← follows.rest, next.placed.rest]
    change fourLegs.segments.drop (started Library.Double.add fourLegs.lengths _) = []
    rw [fourLegs_started]
    rfl
  have all : 4 ≤ begun := List.drop_eq_nil_iff.mp rest
  have within : begun ≤ 4 := follows.active.within
  obtain rfl : begun = 4 := le_antisymm within all
  have seven : Drive.travelled (movedBy 7) = 7 := travelled_movedBy 7
  have ended := follows.active.begun
  rw [seven] at ended
  norm_num [endOf, DriveConfig.lengths, fourLegs] at ended

end
end Steamworks.Auton
