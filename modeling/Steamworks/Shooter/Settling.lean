import Steamworks.Shooter.Sequence

/-! What the commands of the shooting sequence leave alone, and what those beside its
second wait set: what the solution says, once they are there. -/
namespace Steamworks.Shooter
open Library.Group

namespace Shooting

/-- The solution in force is the valid one of this time's last elevation. -/
def Solved (p : Parameters) (s : Shooting) : Prop :=
  ∃ elevation before, s.measured = some elevation ∧
    calculateSolution p.trigonometry p.ballistics p.table elevation before = some (s.solution, true)

/-- The elevation's Talon was last sent the solution's, within its limits. -/
structure ElevationSet (s : Shooting) : Prop where
  command : s.setElevation.elevation = s.solution.elevation
  sent : ∃ elevation, castInt s.solution.elevation = some elevation ∧
    s.ranging.elevation.elevationSetpoint = limitElevation elevation ∧
    s.ranging.elevation.talon.last = some (.set (limitElevation elevation))

def ElevationThere (s : Shooting) : Prop :=
  ∃ reading, s.elevationRead = some reading ∧ |s.solution.elevation - reading.toInt| < 10

/-- The wheel's Talon was last sent the solution's speed. -/
structure WheelSet (s : Shooting) : Prop where
  command : s.setWheel.speed = s.solution.wheelSpeed
  sent : ∃ speed, castInt s.solution.wheelSpeed = some speed ∧
    s.wheel.speedSetpoint.toInt = speed ∧ s.wheel.talon.last = some (.set speed)

def WheelThere (s : Shooting) : Prop :=
  ∃ reading, s.speedRead = some reading ∧ |s.solution.wheelSpeed - reading.toInt| < 5

end Shooting

/-- What only `GetAngle` and `StartHopper` change, and that nothing defines what was
undefined. -/
structure Leaves (r t : Shooting) : Prop where
  solution : t.solution = r.solution
  measured : t.measured = r.measured
  hopper : t.hopper = r.hopper
  isDefined : t.isDefined = true → r.isDefined = true

theorem Leaves.solved {p : Parameters} {r t : Shooting} (leaves : Leaves r t) (solved : r.Solved p) :
    t.Solved p := by
  obtain ⟨elevation, before, measured, valid⟩ := solved
  rw [← leaves.solution] at valid
  exact ⟨elevation, before, leaves.measured.trans measured, valid⟩

theorem castInt_lt {x : ℚ} (nonneg : 0 ≤ x) {error n : ℤ} (cut : castInt x = some error)
    (small : error < n) : x < n := by
  rw [castInt_of_nonneg nonneg] at cut
  split_ifs at cut
  obtain rfl := Option.some.inj cut
  exact Int.floor_lt.mp small

theorem ofInt_castInt {x : ℚ} {n : ℤ} (cut : castInt x = some n) : (Int32.ofInt n).toInt = n := by
  rw [castInt] at cut
  split_ifs at cut with fits
  obtain rfl := Option.some.inj cut
  exact Int32.toInt_ofInt_of_le fits.1 fits.2

namespace Shooting
variable {r : Shooting} {reading : Int32}

theorem initElevation_set (after : r.initElevation.isDefined = true) :
    Leaves r r.initElevation ∧ r.initElevation.ElevationSet := by
  unfold initElevation SetElevation.init at after ⊢
  cases cut : castInt r.solution.elevation with
  | none =>
    rw [cut] at after
    cases after
  | some elevation =>
    rw [cut] at after
    exact ⟨⟨rfl, rfl, rfl, fun _ => after⟩, rfl, elevation, cut, rfl, rfl⟩

theorem elevationFinished_there (after : (r.elevationFinished reading).1.isDefined = true) :
    Leaves r (r.elevationFinished reading).1 ∧
      (r.ElevationSet → (r.elevationFinished reading).1.ElevationSet ∧
        ((r.elevationFinished reading).2 = true → (r.elevationFinished reading).1.ElevationThere)) := by
  unfold elevationFinished SetElevation.isFinished at after ⊢
  cases cut : castInt |r.setElevation.elevation - reading.toInt| with
  | none =>
    rw [cut] at after
    cases after
  | some error =>
    rw [cut] at after
    refine ⟨⟨rfl, rfl, rfl, fun _ => after⟩, fun set => ⟨⟨set.command, set.sent⟩, fun finished => ?_⟩⟩
    have near : error < SetElevation.kElevationGoodEnough := by simpa using finished
    rw [set.command] at cut
    exact ⟨reading, rfl, by exact_mod_cast castInt_lt (abs_nonneg _) cut near⟩

theorem initWheel_set (after : r.initWheel.isDefined = true) :
    Leaves r r.initWheel ∧ r.initWheel.WheelSet := by
  unfold initWheel SetWheel.init at after ⊢
  cases cut : castInt r.solution.wheelSpeed with
  | none =>
    rw [cut] at after
    cases after
  | some speed =>
    rw [cut] at after
    have word := ofInt_castInt cut
    exact ⟨⟨rfl, rfl, rfl, fun _ => after⟩, rfl, speed, cut, word,
      congrArg (fun n : ℤ => some (MotorCommand.set n)) word⟩

theorem wheelFinished_there (after : (r.wheelFinished reading).1.isDefined = true) :
    Leaves r (r.wheelFinished reading).1 ∧
      (r.WheelSet → (r.wheelFinished reading).1.WheelSet ∧
        ((r.wheelFinished reading).2 = true → (r.wheelFinished reading).1.WheelThere)) := by
  unfold wheelFinished SetWheel.isFinished at after ⊢
  cases cut : castInt |r.setWheel.speed - reading.toInt| with
  | none =>
    rw [cut] at after
    cases after
  | some error =>
    rw [cut] at after
    refine ⟨⟨rfl, rfl, rfl, fun _ => after⟩, fun set => ⟨⟨set.command, set.sent⟩, fun finished => ?_⟩⟩
    have near : error < SetWheel.kSpeedGoodEnough := by simpa using finished
    rw [set.command] at cut
    exact ⟨reading, rfl, by exact_mod_cast castInt_lt (abs_nonneg _) cut near⟩

theorem initWheel_elevation : (r.ElevationSet → r.initWheel.ElevationSet) ∧
    (r.ElevationThere → r.initWheel.ElevationThere) := by
  unfold initWheel
  split <;> exact ⟨fun set => ⟨set.command, set.sent⟩, id⟩

theorem wheelFinished_elevation : (r.ElevationSet → (r.wheelFinished reading).1.ElevationSet) ∧
    (r.ElevationThere → (r.wheelFinished reading).1.ElevationThere) := by
  unfold wheelFinished
  split <;> exact ⟨fun set => ⟨set.command, set.sent⟩, id⟩

theorem initElevation_wheel : (r.WheelSet → r.initElevation.WheelSet) ∧
    (r.WheelThere → r.initElevation.WheelThere) := by
  unfold initElevation
  split <;> exact ⟨fun set => ⟨set.command, set.sent⟩, id⟩

theorem elevationFinished_wheel : (r.WheelSet → (r.elevationFinished reading).1.WheelSet) ∧
    (r.WheelThere → (r.elevationFinished reading).1.WheelThere) := by
  unfold elevationFinished
  split <;> exact ⟨fun set => ⟨set.command, set.sent⟩, id⟩

end Shooting

/-- The parts of the shooter that are set by the solution. -/
inductive Part where
  | elevation
  | wheel

def Part.command : Part → ShootingCommand
  | .elevation => .setElevation
  | .wheel => .setWheel

def Part.Set : Part → Shooting → Prop
  | .elevation => Shooting.ElevationSet
  | .wheel => Shooting.WheelSet

def Part.There : Part → Shooting → Prop
  | .elevation => Shooting.ElevationThere
  | .wheel => Shooting.WheelThere

/-- The commands beside the second wait. -/
def settling : List ShootingCommand := [.deadeyeAzimuth, .setElevation, .setWheel]

section
variable {p : Parameters} {i : Reads} {stepped : Bool} {r : Shooting} {c : ShootingCommand}

theorem Leaves.trans {r t u : Shooting} (first : Leaves r t) (second : Leaves t u) : Leaves r u where
  solution := second.solution.trans first.solution
  measured := second.measured.trans first.measured
  hopper := second.hopper.trans first.hopper
  isDefined := first.isDefined ∘ second.isDefined

/-- What a settling command does in a step: nothing to the solution or the hopper,
and to a part what sets it, if it is the part's. -/
structure Settles (c : ShootingCommand) (r t : Shooting) (stepped finished : Bool) : Prop where
  leaves : Leaves r t
  keeps : ∀ part : Part, c ≠ part.command → (part.Set r → part.Set t) ∧ (part.There r → part.There t)
  sets : ∀ part : Part, c = part.command → (stepped = true → part.Set r) →
    part.Set t ∧ (finished = true → part.There t)

theorem azimuth_settles : Settles .deadeyeAzimuth r
    ((ShootingCommand.deadeyeAzimuth.member p).step i stepped r).1 stepped
    ((ShootingCommand.deadeyeAzimuth.member p).step i stepped r).2 := by
  refine ⟨?_, fun part _ => ?_, fun part same => ?_⟩
  · cases stepped <;> exact ⟨rfl, rfl, rfl, id⟩
  · cases stepped <;> cases part <;> exact ⟨fun set => ⟨set.command, set.sent⟩, id⟩
  · cases part <;> cases same

theorem elevation_settles
    (after : ((ShootingCommand.setElevation.member p).step i stepped r).1.isDefined = true) :
    Settles .setElevation r ((ShootingCommand.setElevation.member p).step i stepped r).1 stepped
      ((ShootingCommand.setElevation.member p).step i stepped r).2 := by
  obtain ⟨leaves, there⟩ := Shooting.elevationFinished_there after
  have begun : Leaves r (if stepped then r else r.initElevation) ∧
      ((stepped = true → r.ElevationSet) →
        Shooting.ElevationSet (if stepped then r else r.initElevation)) ∧
      (r.WheelSet → Shooting.WheelSet (if stepped then r else r.initElevation)) ∧
      (r.WheelThere → Shooting.WheelThere (if stepped then r else r.initElevation)) := by
    cases stepped with
    | true => exact ⟨⟨rfl, rfl, rfl, id⟩, fun set => set rfl, id, id⟩
    | false =>
      obtain ⟨begun, set⟩ := Shooting.initElevation_set (leaves.isDefined after)
      exact ⟨begun, fun _ => set, Shooting.initElevation_wheel⟩
  obtain ⟨begun, set, wheelSet, wheelThere⟩ := begun
  obtain ⟨keepsSet, keepsThere⟩ := @Shooting.elevationFinished_wheel
    (if stepped then r else r.initElevation) i.elevation
  refine ⟨begun.trans leaves, fun part other => ?_, fun part same before => ?_⟩
  · cases part with
    | elevation => exact absurd rfl other
    | wheel => exact ⟨keepsSet ∘ wheelSet, keepsThere ∘ wheelThere⟩
  · cases part with
    | elevation => exact there (set before)
    | wheel => cases same

theorem wheel_settles
    (after : ((ShootingCommand.setWheel.member p).step i stepped r).1.isDefined = true) :
    Settles .setWheel r ((ShootingCommand.setWheel.member p).step i stepped r).1 stepped
      ((ShootingCommand.setWheel.member p).step i stepped r).2 := by
  obtain ⟨leaves, there⟩ := Shooting.wheelFinished_there after
  have begun : Leaves r (if stepped then r else r.initWheel) ∧
      ((stepped = true → r.WheelSet) → Shooting.WheelSet (if stepped then r else r.initWheel)) ∧
      (r.ElevationSet → Shooting.ElevationSet (if stepped then r else r.initWheel)) ∧
      (r.ElevationThere → Shooting.ElevationThere (if stepped then r else r.initWheel)) := by
    cases stepped with
    | true => exact ⟨⟨rfl, rfl, rfl, id⟩, fun set => set rfl, id, id⟩
    | false =>
      obtain ⟨begun, set⟩ := Shooting.initWheel_set (leaves.isDefined after)
      exact ⟨begun, fun _ => set, Shooting.initWheel_elevation⟩
  obtain ⟨begun, set, elevationSet, elevationThere⟩ := begun
  obtain ⟨keepsSet, keepsThere⟩ := @Shooting.wheelFinished_elevation
    (if stepped then r else r.initWheel) i.speed
  refine ⟨begun.trans leaves, fun part other => ?_, fun part same before => ?_⟩
  · cases part with
    | elevation => exact ⟨keepsSet ∘ elevationSet, keepsThere ∘ elevationThere⟩
    | wheel => exact absurd rfl other
  · cases part with
    | elevation => cases same
    | wheel => exact there (set before)

theorem settling_step (settles : c ∈ settling)
    (after : ((c.member p).step i stepped r).1.isDefined = true) :
    Settles c r ((c.member p).step i stepped r).1 stepped ((c.member p).step i stepped r).2 := by
  simp only [settling, List.mem_cons, List.not_mem_nil, or_false] at settles
  rcases settles with rfl | rfl | rfl
  · exact azimuth_settles
  · exact elevation_settles after
  · exact wheel_settles after

theorem settling_finish (settles : c ∈ settling) (r : Shooting) :
    ((c.member p).finish i r).2 = false ∧ Leaves r ((c.member p).finish i r).1 ∧
      ∀ part : Part, (part.Set r → part.Set ((c.member p).finish i r).1) ∧
        (part.There r → part.There ((c.member p).finish i r).1) := by
  simp only [settling, List.mem_cons, List.not_mem_nil, or_false] at settles
  rcases settles with rfl | rfl | rfl
  · refine ⟨rfl, ⟨rfl, rfl, rfl, id⟩, fun part => ?_⟩
    cases part <;> exact ⟨fun set => ⟨set.command, set.sent⟩, id⟩
  · exact ⟨rfl, ⟨rfl, rfl, rfl, id⟩, fun _ => ⟨id, id⟩⟩
  · exact ⟨rfl, ⟨rfl, rfl, rfl, id⟩, fun _ => ⟨id, id⟩⟩

theorem settling_free (settles : c ∈ settling) : ShootingCommand.startHopper.conflicts c = false := by
  simp only [settling, List.mem_cons, List.not_mem_nil, or_false] at settles
  rcases settles with rfl | rfl | rfl <;> rfl

theorem settling_ends (settles : c ∈ settling)
    (after : ((c.member p).finish i ((c.member p).step i stepped r).1).1.isDefined = true) :
    Settles c r ((c.member p).finish i ((c.member p).step i stepped r).1).1 stepped
      ((c.member p).step i stepped r).2 := by
  obtain ⟨-, leaves, keeps⟩ :=
    settling_finish (p := p) (i := i) settles ((c.member p).step i stepped r).1
  have step := settling_step settles (leaves.isDefined after)
  refine ⟨step.leaves.trans leaves, fun part other => ?_, fun part same before => ?_⟩
  · obtain ⟨set, there⟩ := step.keeps part other
    exact ⟨(keeps part).1 ∘ set, (keeps part).2 ∘ there⟩
  · obtain ⟨set, there⟩ := step.sets part same before
    exact ⟨(keeps part).1 set, fun finished => (keeps part).2 (there finished)⟩

/-- The commands before the first wait. -/
def opening : List ShootingCommand := [.enableCamera, .shooterLED true, .setShooter]

theorem opening_finish (opens : c ∈ opening) :
    ((c.member p).finish i ((c.member p).step i stepped r).1).1.hopper = r.hopper := by
  simp only [opening, List.mem_cons, List.not_mem_nil, or_false] at opens
  rcases opens with rfl | rfl | rfl <;> cases stepped <;> rfl

theorem endGetAngle_solved {elevation : ℤ} (after : (r.endGetAngle p elevation).1.isDefined = true) :
    r.isDefined = true ∧ (r.endGetAngle p elevation).1.hopper = r.hopper ∧
      ((r.endGetAngle p elevation).2 = true ∨ (r.endGetAngle p elevation).1.Solved p) := by
  unfold Shooting.endGetAngle at after ⊢
  cases calculated : calculateSolution p.trigonometry p.ballistics p.table elevation r.solution with
  | none =>
    rw [calculated] at after
    cases after
  | some result =>
    obtain ⟨solution, valid⟩ := result
    rw [calculated] at after
    refine ⟨after, rfl, ?_⟩
    cases valid with
    | true => exact .inr ⟨elevation, r.solution, rfl, calculated⟩
    | false => exact .inl rfl

theorem step_defined (after : ((c.member p).step i stepped r).1.isDefined = true) :
    r.isDefined = true := by
  cases c with
  | deadeyeAzimuth => exact azimuth_settles.leaves.isDefined after
  | setElevation => exact (elevation_settles after).leaves.isDefined after
  | setWheel => exact (wheel_settles after).leaves.isDefined after
  | enableCamera | shooterLED | setShooter | getAngle | startHopper => cases stepped <;> exact after

theorem finish_defined (after : ((c.member p).finish i r).1.isDefined = true) :
    r.isDefined = true := by
  cases c with
  | getAngle => exact (endGetAngle_solved after).1
  | enableCamera | shooterLED | setShooter | deadeyeAzimuth | setElevation | setWheel
  | startHopper => exact after

theorem interrupted_defined (after : ((c.member p).interrupted i r).1.isDefined = true) :
    r.isDefined = true := by
  cases c with
  | getAngle => exact (endGetAngle_solved after).1
  | enableCamera | shooterLED | setShooter | deadeyeAzimuth | setElevation | setWheel
  | startHopper => exact after

theorem change_defined {givesUp : Bool} {s t : ShootingState}
    (change : Change (crew p givesUp) i s t) (after : t.resource.isDefined = true) :
    s.resource.isDefined = true := by
  cases change with
  | @dropped before behind child entry rest next meets among =>
    change (s.remove (crew p givesUp) i child).resource.isDefined = true at after
    unfold Library.Group.State.remove at after
    split_ifs at after
    · exact interrupted_defined after
    · exact after
  | launched | passed | waits => exact after
  | goes => exact step_defined after
  | finishes => exact step_defined (finish_defined after)
  | childGoes => exact step_defined after
  | childFinishes => exact step_defined (finish_defined after)

end

end Steamworks.Shooter
