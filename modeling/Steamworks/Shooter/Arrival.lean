import Steamworks.Library.Word
import Steamworks.Shooter.Elevation
import Steamworks.Shooter.Solution

/-! The two commands that move the elevation and wait until it is there. Both
compare the position with the request they were given, not with the setpoint the
subsystem made of it, and one of them subtracts in unsigned words. -/
namespace Steamworks.Shooter
open Library.Remainder Library.Word

/-- A `double` cut to an `int`, which is not defined outside its range. -/
def castInt (x : ℚ) : Option ℤ := if inInt (trunc x) then some (trunc x) else none

structure SetShooterElevation where
  elevation : UInt32

namespace SetShooterElevation

def kGoodEnough : ℤ := 5

def init (c : SetShooterElevation) (s : ShooterElevation) : ShooterElevation :=
  s.setElevation c.elevation.toInt32.toInt

/-- The difference is unsigned, and `std::abs` takes an unsigned word as a `double`. -/
def isFinished (c : SetShooterElevation) (getElevation : Int32) (isTimedOut : Bool) : Option Bool :=
  (castInt |((c.elevation - getElevation.toUInt32).toNat : ℚ)|).map fun error =>
    error < kGoodEnough || isTimedOut

end SetShooterElevation

structure SetElevation where
  elevation : ℚ

namespace SetElevation

def kElevationGoodEnough : ℤ := 10

def init (getSolutionElevation : ℚ) (s : ShooterElevation) :
    Option (SetElevation × ShooterElevation) :=
  (castInt getSolutionElevation).map fun elevation =>
    (⟨getSolutionElevation⟩, s.setElevation elevation)

def isFinished (c : SetElevation) (getElevation : Int32) (isTimedOut : Bool) : Option Bool :=
  (castInt |c.elevation - getElevation.toInt|).map fun error =>
    error < kElevationGoodEnough || isTimedOut

end SetElevation

/-- Before any timeout a command is done exactly when the position is within its
tolerance of the setpoint the Talon was sent. -/
def DoneWhenThere (tolerance setpoint : ℤ) (s : ShooterElevation) (measured : ℤ)
    (finished : Option Bool) : Prop :=
  s.talon.last = some (.set setpoint) ∧
    ∃ done, finished = some done ∧ (done = true ↔ |measured - setpoint| < tolerance)

/-- The position is not above a request within the limits, nor above one beyond, where
it is within the tolerance of both the request and the limit or of neither. From 2 ^ 31
on a request is sent as a negative number, so the limit is 0, and what is far above it
is short of the request as the word wraps. -/
def SetShooterElevation.Comparable (request : UInt32) (measured : Int32) : Prop :=
  let wanted : ℤ := request.toNat
  let there := measured.toInt
  if wanted ≤ 6000 then wanted - 2 ^ 31 < there ∧ there ≤ wanted
  else if wanted < 2 ^ 31 then
    wanted - 2 ^ 31 < there ∧ there < 5996 ∨
      wanted - 4 ≤ there ∧ there ≤ wanted ∧ there ≤ 6004 ∨
      6004 < there ∧ there < wanted - 4
  else
    there < wanted - 2 ^ 32 - 4 ∨
      -4 ≤ there ∧ there ≤ wanted - 2 ^ 32 ∨
      wanted - 2 ^ 31 < there ∧ 4 < there ∧ there < wanted - 4

/-- Within the limits, a fraction does not decide at the edge of the tolerance. Beyond
one, the position is within the tolerance of both the request and the limit, or on
the far side of one, or between the two. -/
def SetElevation.Comparable (request : ℚ) (measured : Int32) : Prop :=
  let there : ℚ := measured.toInt
  inInt (trunc request) ∧ |request - there| < 2 ^ 31 ∧
    if trunc request < 0 then
      there ≤ request - 10 ∨ -10 < there ∧ there < request + 10 ∨
        request + 10 ≤ there ∧ there ≤ -10 ∨ 10 ≤ there
    else if trunc request ≤ 6000 then
      ¬(trunc request < request ∧ measured.toInt = trunc request + 10) ∧
        ¬(request < trunc request ∧ measured.toInt = trunc request - 10)
    else
      there ≤ 5990 ∨ request - 10 < there ∧ there < 6010 ∨
        6010 ≤ there ∧ there ≤ request - 10 ∨ request + 10 ≤ there

theorem castInt_of_nonneg {x : ℚ} (nonneg : 0 ≤ x) :
    castInt x = if x < 2 ^ 31 then some ⌊x⌋ else none := by
  have fits : inInt ⌊x⌋ ↔ x < 2 ^ 31 := by
    have floor := Int.floor_nonneg.mpr nonneg
    have upper : ⌊x⌋ < 2 ^ 31 ↔ x < 2 ^ 31 := by
      rw [Int.floor_lt]
      norm_num
    rw [inInt, upper, and_iff_right (by omega)]
  rw [castInt, trunc_of_nonneg nonneg]
  simp only [fits]

theorem setElevation_last (s : ShooterElevation) (elevation : ℤ) :
    (s.setElevation elevation).talon.last = some (.set (limitElevation elevation)) := rfl

/-- With the setpoint sent, all depends on the error the command computes. -/
theorem doneWhenThere_iff {s : ShooterElevation} {elevation tolerance measured : ℤ} {error : ℚ}
    (nonneg : 0 ≤ error) :
    DoneWhenThere tolerance (limitElevation elevation) (s.setElevation elevation) measured
        ((castInt error).map fun error => error < tolerance || false) ↔
      error < 2 ^ 31 ∧ (error < tolerance ↔ |measured - limitElevation elevation| < tolerance) := by
  have cut : ⌊error⌋ < tolerance ↔ error < tolerance := Int.floor_lt
  rw [DoneWhenThere, and_iff_right (setElevation_last s elevation), castInt_of_nonneg nonneg]
  split_ifs with fits
  · simp [fits, cut]
  · simp [fits]

theorem setShooterElevation_iff (s : ShooterElevation) (request : UInt32) (measured : Int32) :
    DoneWhenThere 5 (limitElevation request.toInt32.toInt)
        (SetShooterElevation.init ⟨request⟩ s) measured.toInt
        (SetShooterElevation.isFinished ⟨request⟩ measured false) ↔
      SetShooterElevation.Comparable request measured := by
  have wrapped := toNat_sub_toUInt32 request measured
  have lower := measured.le_toInt
  have upper := measured.toInt_lt
  have bound := request.toNat_lt
  have fits : (((request - measured.toUInt32).toNat : ℕ) : ℚ) < 2 ^ 31 ↔
      (request.toNat - measured.toInt) % 2 ^ 32 < 2 ^ 31 := by
    rw [← wrapped]
    norm_cast
  have close : (((request - measured.toUInt32).toNat : ℕ) : ℚ) < (5 : ℤ) ↔
      (request.toNat - measured.toInt) % 2 ^ 32 < 5 := by
    rw [← wrapped]
    norm_cast
  refine (doneWhenThere_iff (abs_nonneg _)).trans ?_
  rw [Nat.abs_cast, fits, close, limitElevation_eq, abs_lt, SetShooterElevation.Comparable]
  split_ifs with within small
  · rw [toInt32_of_lt request (by omega)]
    omega
  · rw [toInt32_of_lt request (by omega)]
    omega
  · rw [toInt32_of_ge request (by omega)]
    omega

theorem abs_fraction_sub_lt {part : ℚ} (above : 0 < part) (below : part < 1) (d : ℤ) :
    |part - d| < 10 ↔ -10 < d ∧ d ≤ 10 := by
  rw [abs_lt]
  constructor
  · rintro ⟨lower, upper⟩
    have first : (-10 : ℚ) < d := by linarith
    have last : (d : ℚ) < 11 := by linarith
    norm_cast at first last
    omega
  · rintro ⟨first, last⟩
    have lower : ((-9 : ℤ) : ℚ) ≤ d := Int.cast_le.mpr (by omega)
    have upper : (d : ℚ) ≤ ((10 : ℤ) : ℚ) := Int.cast_le.mpr last
    push_cast at lower upper
    constructor <;> linarith

/-- A position is as near to a number as to its whole part, but for the edge of
the tolerance away from zero. -/
theorem near_iff (request : ℚ) (whole measured : ℤ) (part : |request - whole| < 1) :
    (|request - measured| < 10 ↔ |measured - whole| < 10) ↔
      ¬((whole : ℚ) < request ∧ measured = whole + 10) ∧
        ¬(request < whole ∧ measured = whole - 10) := by
  obtain ⟨above, below⟩ := abs_lt.mp part
  rcases lt_trichotomy (whole : ℚ) request with more | same | less
  · have shifted : |request - measured| = |(request - whole) - ((measured - whole : ℤ) : ℚ)| := by
      push_cast
      ring_nf
    rw [shifted, abs_fraction_sub_lt (by linarith) below, abs_lt]
    simp only [more, more.not_gt, true_and, false_and, not_false_eq_true, and_true]
    omega
  · have equal : |request - measured| < 10 ↔ |measured - whole| < 10 := by
      rw [← same, abs_sub_comm]
      norm_cast
    simp [same, equal]
  · have shifted : |request - measured| = |(whole - request) - ((whole - measured : ℤ) : ℚ)| := by
      rw [abs_sub_comm]
      push_cast
      ring_nf
    rw [shifted, abs_fraction_sub_lt (by linarith) (by linarith), abs_lt]
    simp only [less, less.not_gt, true_and, false_and, not_false_eq_true]
    omega

/-- Near both of two numbers, or neither: on the far side of one, or between. -/
theorem both_near_iff {low high there : ℚ} (ordered : low ≤ high) :
    (|high - there| < 10 ↔ |low - there| < 10) ↔
      there ≤ low - 10 ∨ high - 10 < there ∧ there < low + 10 ∨
        low + 10 ≤ there ∧ there ≤ high - 10 ∨ high + 10 ≤ there := by
  rw [abs_lt, abs_lt]
  grind

theorem setElevation_iff (s : ShooterElevation) (request : ℚ) (measured : Int32) :
    (∃ c after, SetElevation.init request s = some (c, after) ∧
        DoneWhenThere 10 (limitElevation (trunc request)) after measured.toInt
          (c.isFinished measured false)) ↔
      SetElevation.Comparable request measured := by
  rw [SetElevation.Comparable, SetElevation.init, castInt]
  by_cases fits : inInt (trunc request)
  · have done : DoneWhenThere 10 (limitElevation (trunc request))
          (s.setElevation (trunc request)) measured.toInt
          ((⟨request⟩ : SetElevation).isFinished measured false) ↔
        |request - measured.toInt| < 2 ^ 31 ∧ (|request - measured.toInt| < ((10 : ℤ) : ℚ) ↔
          |measured.toInt - limitElevation (trunc request)| < 10) :=
      doneWhenThere_iff (abs_nonneg _)
    rw [if_pos fits, and_iff_right fits]
    have started : (∃ c after, Option.map (fun elevation =>
          ((⟨request⟩ : SetElevation), s.setElevation elevation)) (some (trunc request)) =
            some (c, after) ∧ DoneWhenThere 10 (limitElevation (trunc request)) after
              measured.toInt (c.isFinished measured false)) ↔
        DoneWhenThere 10 (limitElevation (trunc request)) (s.setElevation (trunc request))
          measured.toInt ((⟨request⟩ : SetElevation).isFinished measured false) := by
      constructor
      · rintro ⟨c, after, same, there⟩
        obtain ⟨rfl, rfl⟩ := Prod.mk.inj (Option.some.inj same)
        exact there
      · exact fun there => ⟨_, _, rfl, there⟩
    rw [started, done]
    apply and_congr_right
    intro _
    have sent : |measured.toInt - limitElevation (trunc request)| < 10 ↔
        |(limitElevation (trunc request) : ℚ) - measured.toInt| < 10 := by
      rw [abs_sub_comm]
      norm_cast
    push_cast
    split_ifs with negative within
    · have least : limitElevation (trunc request) = 0 := by
        rw [limitElevation_eq]
        omega
      have low : request ≤ ((0 : ℤ) : ℚ) := (not_le.mp fun above => negative.not_ge (le_trunc above)).le
      rw [sent, least]
      refine iff_comm.trans ((both_near_iff low).trans ?_)
      norm_num
    · have same : limitElevation (trunc request) = trunc request := by
        rw [limitElevation_eq]
        omega
      rw [same, near_iff request _ _ (abs_sub_trunc_lt request)]
    · have most : limitElevation (trunc request) = 6000 := by
        rw [limitElevation_eq]
        omega
      have high : ((6000 : ℤ) : ℚ) ≤ request := (not_le.mp fun below => within (trunc_le below)).le
      rw [sent, most]
      refine (both_near_iff high).trans ?_
      norm_num
  · simp [fits]

/-- The two commands tell exactly these requests and positions apart rightly. -/
theorem elevation_done_iff (s : ShooterElevation) (measured : Int32) :
    (∀ request : UInt32, DoneWhenThere 5 (limitElevation request.toInt32.toInt)
        (SetShooterElevation.init ⟨request⟩ s) measured.toInt
        (SetShooterElevation.isFinished ⟨request⟩ measured false) ↔
      SetShooterElevation.Comparable request measured) ∧
    ∀ request : ℚ, (∃ c after, SetElevation.init request s = some (c, after) ∧
        DoneWhenThere 10 (limitElevation (trunc request)) after measured.toInt
          (c.isFinished measured false)) ↔
      SetElevation.Comparable request measured :=
  ⟨fun request => setShooterElevation_iff s request measured,
    fun request => setElevation_iff s request measured⟩

/-- Two ticks above the request the difference no longer fits an `int`, and at
the upper limit a request beyond it is still missed by its excess. -/
theorem elevation_not_recognised :
    (¬DoneWhenThere 5 (limitElevation 1000) (SetShooterElevation.init ⟨1000⟩ {}) 1002
        (SetShooterElevation.isFinished ⟨1000⟩ 1002 false)) ∧
      (¬DoneWhenThere 5 (limitElevation 7000) (SetShooterElevation.init ⟨7000⟩ {}) 6000
        (SetShooterElevation.isFinished ⟨7000⟩ 6000 false)) ∧
      ¬DoneWhenThere 10 (limitElevation 6050) (ShooterElevation.setElevation {} 6050) 6000
        (SetElevation.isFinished ⟨6050⟩ 6000 false) := by
  refine ⟨?_, ?_, ?_⟩
  · intro done
    have comparable := (setShooterElevation_iff {} 1000 1002).mp done
    revert comparable
    unfold SetShooterElevation.Comparable
    decide
  · intro done
    have comparable := (setShooterElevation_iff {} 7000 6000).mp done
    revert comparable
    unfold SetShooterElevation.Comparable
    decide
  · intro done
    have near := ((doneWhenThere_iff (abs_nonneg _)).mp done).2
    have position : (6000 : Int32).toInt = 6000 := by decide
    revert near
    rw [limitElevation_eq, position]
    norm_num [abs_of_pos]

end Steamworks.Shooter
