import Steamworks.PitTest.Finished
import Steamworks.Library.Run

/-! Which setpoint iterators the pit test dereferences. The tests of a group of
wheels go on after their last measurement and read their table once more, where
it has ended; every other test reads before it advances, and returns. -/
namespace Steamworks.PitTest
open Library.Run Library.Activation

namespace HealthCheck

/-- The iterators a step dereferences. -/
def reads (h : HealthCheck) (input : Input) : List Read :=
  let after := (h.execute input).dereferenced
  after.take (after.length - h.dereferenced.length)

/-- The last measurement of a test of the wheels is complete. -/
def Overruns (h : HealthCheck) (input : Input) : Prop :=
  ∃ test, h.running = some test ∧ (test = .driveMotors ∨ test = .azimuthMotors) ∧
    h.iter test + 1 = test.table.length ∧ kWarmUpTime < input.now - h.start ∧
    input.hasPeriodPassed = true ∧ kCountReq ≤ h.count

end HealthCheck

/-- A running test is not at the end of its table. -/
theorem iter_lt {h : HealthCheck} {test : Test} (running : h.atEnd test = false)
    (within : h.iter test ≤ test.table.length) : h.iter test < test.table.length := by
  have before : h.iter test ≠ test.table.length := by
    simpa [HealthCheck.atEnd] using running
  omega

section Iterators
variable {h : HealthCheck} {test : Test} {input : Input}

theorem iter_advance_le (running : h.atEnd test = false)
    (within : ∀ other, h.iter other ≤ other.table.length) (other : Test) :
    (h.advance test).iter other ≤ other.table.length := by
  by_cases same : other = test
  · subst same
    have before := iter_lt running (within other)
    simp only [HealthCheck.advance, Function.update_self]
    omega
  · simpa [HealthCheck.advance, same] using within other

theorem iter_prepare (test : Test) (h : HealthCheck) : (test.prepare h).iter = h.iter := by
  cases test <;> rfl

theorem iter_close (test : Test) (h : HealthCheck) : (test.close h).iter = h.iter := by
  cases test <;> rfl

/-- A test leaves the iterators where they are, or advances its own. -/
theorem check_iter (h : HealthCheck) (test : Test) (input : Input) :
    (h.check test input).iter = h.iter ∨ (h.check test input).iter = (h.advance test).iter := by
  have wheels : (h.checkWheels test input).iter = h.iter ∨
      (h.checkWheels test input).iter = (h.advance test).iter := by
    unfold HealthCheck.checkWheels
    split_ifs
    · exact .inl rfl
    · exact .inl rfl
    · exact .inr rfl
    · exact .inl rfl
  have motor : ∀ warmUp, (h.checkMotor test warmUp test.prepare test.close input).iter = h.iter ∨
      (h.checkMotor test warmUp test.prepare test.close input).iter = (h.advance test).iter := by
    intro warmUp
    unfold HealthCheck.checkMotor
    split_ifs
    · exact .inl (iter_prepare test h)
    · exact .inl rfl
    · exact .inl rfl
    · dsimp only
      split_ifs
      · exact .inr (iter_close test _)
      · exact .inr rfl
  have encoder : ∀ (g : HealthCheck) warmUp logged,
      (g.checkEncoder test warmUp logged input).iter = g.iter ∨
        (g.checkEncoder test warmUp logged input).iter = (g.advance test).iter := by
    intro g warmUp logged
    unfold HealthCheck.checkEncoder
    split_ifs
    · exact .inl rfl
    · exact .inr rfl
  cases test with
  | driveMotors => exact wheels
  | azimuthMotors => exact wheels
  | azimuthEncoders =>
    change (h.checkAzimuthEncoders input).iter = _ ∨ (h.checkAzimuthEncoders input).iter = _
    unfold HealthCheck.checkAzimuthEncoders
    dsimp only
    split_ifs
    · exact encoder _ _ _
    · exact encoder h _ _
  | elevationEncoder => exact encoder _ _ _
  | shooterWheelMotor => exact motor _
  | hopperMotor => exact motor _
  | intakeMotor => exact motor _
  | gearIntakeMotor => exact motor _
  | climberMasterMotor => exact motor _
  | climberSlaveMotor => exact motor _

/-- No step takes an iterator past the end of its table. -/
theorem iter_execute_le (within : ∀ test, h.iter test ≤ test.table.length) (input : Input)
    (other : Test) : (h.execute input).iter other ≤ other.table.length := by
  rw [execute_running]
  cases running : h.running with
  | none => exact within other
  | some test =>
    change (h.check test input).iter other ≤ _
    rcases check_iter h test input with same | advanced
    · rw [same]
      exact within other
    · rw [advanced]
      exact iter_advance_le (running_atEnd running) within other

end Iterators

/-- What one step adds to the commands of the motors a test drives, at most one
setpoint each. -/
def Adds (test : Test) (allowed : Option ℚ → Prop) (h g : HealthCheck) : Prop :=
  ∀ m, (g.talon m).sent = (h.talon m).sent ∨
    test.drives m = true ∧ ∃ v, allowed v ∧ (g.talon m).sent = .set v :: (h.talon m).sent

/-- A step of a test reads its own table only, and sends what it read, or the zero
that ends its table. -/
structure Steps (test : Test) (h g : HealthCheck) (now : List Read) : Prop where
  log : g.dereferenced = now ++ h.dereferenced
  own : ∀ r ∈ now, r.test = test
  adds : Adds test (fun v => (∃ r ∈ now, v = r.value) ∨ v = some 0 ∧ g.atEnd test = true) h g

/-- The table is read where a measurement of a group of wheels left it. -/
def Past (h : HealthCheck) (test : Test) (input : Input) : Prop :=
  h.iter test + 1 = test.table.length ∧ kWarmUpTime < input.now - h.start ∧
    input.hasPeriodPassed = true ∧ kCountReq ≤ h.count

section Setpoints
variable {h g : HealthCheck} {test : Test} {input : Input} {allowed : Option ℚ → Prop}
  {now : List Read}

theorem motors_ne_zero (test : Test) : test.motors ≠ 0 := by
  cases test <;> decide

/-- A change before it that reads and sends nothing does not matter. -/
theorem Steps.after {prepared : HealthCheck} (steps : Steps test prepared g now)
    (log : prepared.dereferenced = h.dereferenced)
    (silent : ∀ m, (prepared.talon m).sent = (h.talon m).sent) : Steps test h g now := by
  refine ⟨log ▸ steps.log, steps.own, fun m => ?_⟩
  rw [← silent m]
  exact steps.adds m

theorem sendSetpoint_adds (allows : allowed (h.read test).value) :
    Adds test allowed h (h.sendSetpoint test) := by
  intro m
  cases driven : test.drives m with
  | false => exact .inl (by simp [HealthCheck.sendSetpoint, HealthCheck.update,
      HealthCheck.dereference, driven])
  | true =>
    refine .inr ⟨rfl, _, allows, ?_⟩
    simp [HealthCheck.sendSetpoint, HealthCheck.update, HealthCheck.dereference, driven]

theorem close_adds (allows : allowed (some 0)) : Adds test allowed h (test.close h) := by
  intro m
  cases test <;> cases m <;>
    first
      | exact .inl rfl
      | exact .inr ⟨rfl, _, allows, rfl⟩

theorem sent_prepare (m : Motor) : ((test.prepare h).talon m).sent = (h.talon m).sent := by
  cases test <;> cases m <;> rfl

theorem dereferenced_prepare : (test.prepare h).dereferenced = h.dereferenced := by
  cases test <;> rfl

theorem dereferenced_close : (test.close h).dereferenced = h.dereferenced := by
  cases test <;> rfl

theorem sent_wrapAzimuths (m : Motor) :
    ((h.wrapAzimuths input).talon m).sent = (h.talon m).sent := by
  cases m <;> rfl

theorem silent_steps (log : g.dereferenced = now ++ h.dereferenced)
    (own : ∀ r ∈ now, r.test = test) (same : ∀ m, (g.talon m).sent = (h.talon m).sent) :
    Steps test h g now :=
  ⟨log, own, fun m => .inl (same m)⟩

theorem idle_steps (log : g.dereferenced = h.dereferenced)
    (same : ∀ m, (g.talon m).sent = (h.talon m).sent) : Steps test h g [] :=
  silent_steps log (fun _ member => absurd member List.not_mem_nil) same

theorem sendSetpoint_steps :
    Steps test h (h.sendSetpoint test) (List.replicate test.motors (h.read test)) where
  log := rfl
  own r member := by
    rw [List.eq_of_mem_replicate member]
    rfl
  adds := by
    apply sendSetpoint_adds
    exact .inl ⟨h.read test, List.mem_replicate.mpr ⟨motors_ne_zero test, rfl⟩, rfl⟩

/-- After its last measurement a group of wheels has its table read past the entry
that was measured. -/
theorem checkWheels_steps : ∃ now, Steps test h (h.checkWheels test input) now ∧
    (h.iter test < test.table.length → ((∀ r ∈ now, r.Inside) ↔ ¬Past h test input)) := by
  unfold HealthCheck.checkWheels Past
  split_ifs with warm waits more
  · refine ⟨[], idle_steps rfl fun _ => rfl, fun _ => ?_⟩
    simp [show input.hasPeriodPassed = false by simpa using waits]
  · exact ⟨[], idle_steps rfl fun _ => rfl, fun _ => by simp [more]⟩
  · have passed : input.hasPeriodPassed = true := by simpa using waits
    let next := ((h.dereference test 4).advance test).prepareTest input.prepareNow
    have sends : Steps test next (next.sendSetpoint test)
      (List.replicate test.motors (next.read test)) := sendSetpoint_steps
    refine ⟨List.replicate test.motors (next.read test) ++ List.replicate 4 (h.read test), ?_, ?_⟩
    · refine ⟨?_, ?_, fun m => ?_⟩
      · rw [sends.log, List.append_assoc]
        rfl
      · intro r member
        rcases List.mem_append.mp member with later | logged
        · exact sends.own r later
        · rw [List.eq_of_mem_replicate logged]
          rfl
      · refine (sends.adds m).imp_right fun ⟨driven, v, allowed, sent⟩ => ⟨driven, v, ?_, sent⟩
        exact allowed.imp_left fun ⟨r, read, value⟩ => ⟨r, List.mem_append_left _ read, value⟩
    · intro before
      have here : (h.read test).Inside := before
      have there : (next.read test).Inside ↔ h.iter test + 1 < test.table.length := by
        simp [next, HealthCheck.read, HealthCheck.advance, HealthCheck.dereference,
          HealthCheck.prepareTest, Read.Inside]
      have reads : (∀ r ∈ List.replicate test.motors (next.read test) ++
          List.replicate 4 (h.read test), r.Inside) ↔ (next.read test).Inside := by
        simp [List.mem_replicate, here, motors_ne_zero]
      rw [reads, there]
      simp only [warm, passed, Nat.le_of_not_lt more, and_true]
      omega
  · refine ⟨_, sendSetpoint_steps, fun before => ?_⟩
    have here : (h.read test).Inside := before
    simp [here, warm]

theorem checkMotor_steps (warmUp : ℚ) :
    ∃ now, Steps test h (h.checkMotor test warmUp test.prepare test.close input) now ∧
      ∀ r ∈ now, r = h.read test := by
  unfold HealthCheck.checkMotor
  split_ifs
  · refine ⟨_, sendSetpoint_steps.after dereferenced_prepare sent_prepare, fun r member => ?_⟩
    rw [List.eq_of_mem_replicate member, HealthCheck.read, iter_prepare]
    rfl
  · exact ⟨[], idle_steps rfl fun _ => rfl, by simp⟩
  · exact ⟨[], idle_steps rfl fun _ => rfl, by simp⟩
  · dsimp only
    have own : ∀ r ∈ [h.read test], r.test = test := by simp [HealthCheck.read]
    split_ifs with last
    · refine ⟨[h.read test], ⟨?_, own, ?_⟩, by simp⟩
      · exact dereferenced_close
      · apply close_adds (h := (h.dereference test 1).advance test)
        refine .inr ⟨rfl, ?_⟩
        simpa [HealthCheck.atEnd, HealthCheck.prepareTest, iter_close] using last
    · exact ⟨[h.read test], silent_steps rfl own fun _ => rfl, by simp⟩

theorem checkEncoder_steps (warmUp : ℚ) (logged : ℕ) :
    ∃ now, Steps test h (h.checkEncoder test warmUp logged input) now ∧
      ∀ r ∈ now, r = h.read test := by
  unfold HealthCheck.checkEncoder
  split_ifs
  · exact ⟨_, sendSetpoint_steps, fun r => List.eq_of_mem_replicate⟩
  · refine ⟨List.replicate logged (h.read test), ?_, fun r => List.eq_of_mem_replicate⟩
    refine silent_steps rfl (fun r member => ?_) fun _ => rfl
    rw [List.eq_of_mem_replicate member]
    rfl

/-- A step of any test: only one of a group of wheels reads past the entry measured. -/
theorem check_steps (h : HealthCheck) (test : Test) (input : Input) :
    ∃ now, Steps test h (h.check test input) now ∧ (h.iter test < test.table.length →
      ((∀ r ∈ now, r.Inside) ↔
        ¬((test = .driveMotors ∨ test = .azimuthMotors) ∧ Past h test input))) := by
  have single {g : HealthCheck} (only : ¬(test = .driveMotors ∨ test = .azimuthMotors))
      (steps : ∃ now, Steps test h g now ∧ ∀ r ∈ now, r = h.read test) :
      ∃ now, Steps test h g now ∧ (h.iter test < test.table.length →
        ((∀ r ∈ now, r.Inside) ↔
          ¬((test = .driveMotors ∨ test = .azimuthMotors) ∧ Past h test input))) := by
    obtain ⟨now, steps, here⟩ := steps
    refine ⟨now, steps, fun before => iff_of_true (fun r member => ?_) fun past => only past.1⟩
    rw [here r member]
    exact before
  cases test with
  | driveMotors =>
    rw [and_iff_right (.inl rfl)]
    exact checkWheels_steps
  | azimuthMotors =>
    rw [and_iff_right (.inr rfl)]
    exact checkWheels_steps
  | azimuthEncoders =>
    apply single (by simp)
    change ∃ now, Steps _ h (h.checkAzimuthEncoders input) now ∧ _
    unfold HealthCheck.checkAzimuthEncoders
    dsimp only
    split_ifs
    · obtain ⟨now, steps, here⟩ : ∃ now, Steps .azimuthEncoders
          { h.wrapAzimuths input with isTransitioning := false } _ now ∧ _ :=
        checkEncoder_steps (kWarmUpTime + 2) 0
      exact ⟨now, steps.after rfl sent_wrapAzimuths, here⟩
    · exact checkEncoder_steps _ 0
  | elevationEncoder =>
    apply single (by simp)
    obtain ⟨now, steps, here⟩ : ∃ now, Steps .elevationEncoder
        { h with isTransitioning := false } _ now ∧ _ :=
      checkEncoder_steps (kWarmUpTime - 1) 1
    exact ⟨now, steps.after rfl fun _ => rfl, here⟩
  | shooterWheelMotor => exact single (by simp) (checkMotor_steps _)
  | hopperMotor => exact single (by simp) (checkMotor_steps _)
  | intakeMotor => exact single (by simp) (checkMotor_steps _)
  | gearIntakeMotor => exact single (by simp) (checkMotor_steps _)
  | climberMasterMotor => exact single (by simp) (checkMotor_steps _)
  | climberSlaveMotor => exact single (by simp) (checkMotor_steps _)

theorem reads_of_log (log : (h.execute input).dereferenced = now ++ h.dereferenced) :
    h.reads input = now := by
  simp [HealthCheck.reads, log]

/-- With every iterator within its table, a step reads outside of one exactly
when it overruns. -/
theorem reads_inside_iff (within : ∀ test, h.iter test ≤ test.table.length) (input : Input) :
    (∀ r ∈ h.reads input, r.Inside) ↔ ¬h.Overruns input := by
  unfold HealthCheck.Overruns
  cases running : h.running with
  | none =>
    have nothing : h.reads input = [] := by
      apply reads_of_log
      rw [execute_running, running]
      rfl
    simp [nothing]
  | some test =>
    obtain ⟨now, steps, inside⟩ := check_steps h test input
    have made : h.reads input = now := by
      apply reads_of_log
      rw [execute_running, running]
      exact steps.log
    rw [made, inside (iter_lt (running_atEnd running) (within test))]
    simp [Past]

end Setpoints

namespace HealthCheck

/-- The commands a step adds to those a motor was sent. -/
def sentBy (h : HealthCheck) (input : Input) (m : Motor) : List (MotorCommand (Option ℚ)) :=
  let after := ((h.execute input).talon m).sent
  after.take (after.length - (h.talon m).sent.length)

/-- No iterator is dereferenced at the end of its table, and every setpoint sent
to a motor is an entry of the table of the test that runs. -/
structure FollowsTables (h : HealthCheck) (input : Input) : Prop where
  reads : ∀ r ∈ h.reads input, r.Inside
  sent : ∀ m v, .set v ∈ h.sentBy input m →
    ∃ test, h.running = some test ∧ test.drives m = true ∧ ∃ x ∈ test.table, v = some x

/-- The same, with the zero by which a test of a single motor ends its table. -/
structure FollowsOrStops (h : HealthCheck) (input : Input) : Prop where
  reads : ∀ r ∈ h.reads input, r.Inside
  sent : ∀ m v, .set v ∈ h.sentBy input m →
    ∃ test, h.running = some test ∧ test.drives m = true ∧
      ((∃ x ∈ test.table, v = some x) ∨ (v = some 0 ∧ (h.execute input).atEnd test = true))

end HealthCheck

section Runs
variable {h : HealthCheck} {test : Test} {input : Input} {m : Motor} {v : Option ℚ}

theorem sentBy_allowed (sent : .set v ∈ h.sentBy input m) :
    ∃ test, h.running = some test ∧ test.drives m = true ∧
      ((∃ r ∈ h.reads input, r.test = test ∧ v = r.value) ∨
        v = some 0 ∧ (h.execute input).atEnd test = true) := by
  cases running : h.running with
  | none => simp [HealthCheck.sentBy, execute_running, running] at sent
  | some test =>
    have step : h.execute input = h.check test input := by
      rw [execute_running, running]
      rfl
    obtain ⟨now, steps, -⟩ := check_steps h test input
    have made : h.reads input = now := reads_of_log (step ▸ steps.log)
    unfold HealthCheck.sentBy at sent
    rw [step] at sent ⊢
    rcases steps.adds m with same | ⟨driven, value, allowed, sends⟩
    · simp [same] at sent
    · simp only [sends, List.length_cons, Nat.add_sub_cancel_left, List.take_succ_cons,
        List.take_zero, List.mem_singleton, MotorCommand.set.injEq] at sent
      subst sent
      refine ⟨test, rfl, driven, allowed.imp_left fun ⟨r, read, same⟩ => ⟨r, ?_, ?_, same⟩⟩
      · rw [made]
        exact read
      · exact steps.own r read

theorem Read.Inside.value_mem {r : Read} (inside : r.Inside) :
    ∃ x ∈ r.test.table, r.value = some x :=
  ⟨r.test.table[r.position], List.getElem_mem inside, List.getElem?_eq_getElem inside⟩

theorem followsOrStops_iff (within : ∀ test, h.iter test ≤ test.table.length) :
    h.FollowsOrStops input ↔ ¬h.Overruns input := by
  rw [← reads_inside_iff within]
  constructor
  · exact HealthCheck.FollowsOrStops.reads
  · intro inside
    refine ⟨inside, ?_⟩
    intro m v sent
    obtain ⟨test, running, driven, ⟨r, read, rfl, rfl⟩ | ⟨rfl, ended⟩⟩ := sentBy_allowed sent
    · exact ⟨r.test, running, driven, .inl (inside r read).value_mem⟩
    · exact ⟨test, running, driven, .inr ⟨rfl, ended⟩⟩

theorem running_drive (running : h.atEnd .driveMotors = false) :
    h.running = some .driveMotors := by
  simp [HealthCheck.running, Test.order, running]

/-- The drive test comes to its end by an overrun only. -/
theorem drive_keeps_running (running : h.atEnd .driveMotors = false)
    (stays : ¬h.Overruns input) : (h.execute input).atEnd .driveMotors = false := by
  rw [execute_running, running_drive running]
  change (h.checkWheels .driveMotors input).atEnd .driveMotors = false
  unfold HealthCheck.checkWheels
  split_ifs with warm waits more
  · exact running
  · exact running
  · by_contra ended
    apply stays
    refine ⟨.driveMotors, running_drive running, .inl rfl, ?_, warm, by simpa using waits,
      Nat.le_of_not_lt more⟩
    simpa [HealthCheck.atEnd, HealthCheck.sendSetpoint, HealthCheck.update,
      HealthCheck.prepareTest, HealthCheck.advance, HealthCheck.dereference] using ended
  · exact running

theorem drive_follows_iff (running : h.atEnd .driveMotors = false)
    (within : ∀ test, h.iter test ≤ test.table.length) :
    h.FollowsTables input ↔ ¬h.Overruns input := by
  rw [← followsOrStops_iff within]
  constructor
  · rintro ⟨reads, sent⟩
    refine ⟨reads, ?_⟩
    intro m v sends
    obtain ⟨test, runs, driven, entry⟩ := sent m v sends
    exact ⟨test, runs, driven, .inl entry⟩
  · intro follows
    have stays := (followsOrStops_iff within).mp follows
    refine ⟨follows.reads, ?_⟩
    intro m v sends
    obtain ⟨test, runs, driven, entry | ⟨_, ended⟩⟩ := follows.sent m v sends
    · exact ⟨test, runs, driven, entry⟩
    · have same : test = .driveMotors := by
        rw [running_drive running, Option.some.injEq] at runs
        exact runs.symm
      subst same
      rw [drive_keeps_running running stays] at ended
      exact absurd ended Bool.false_ne_true

def execution (h : HealthCheck) (input : Input) : HealthCheck := h.execute input

theorem ends_run {first : Input} {before : HealthCheck} {inputs : List Input} {ending : Ending}
    (ends : Ends HealthCheck.command first before inputs ending h) :
    h = run execution (HealthCheck.command.init first before) inputs := by
  apply ends.invariant
  · rfl
  · rintro earlier t input rfl
    rw [run_concat]
    rfl

/-- In every run, a step keeps to the tables if and only if it does not overrun.
Until one does, only the drive test runs, so a run in which none does sends the
drive wheels entries of their table and nothing else; and no activation that
comes to its end is such a run. -/
theorem follows_tables_iff (first : Input) (before : HealthCheck) (inputs : List Input) :
    (Along execution HealthCheck.FollowsTables (HealthCheck.command.init first before) inputs ↔
        Along execution (fun h input => ¬h.Overruns input) (HealthCheck.command.init first before)
          inputs) ∧
      Along execution (fun h input => h.FollowsOrStops input ↔ ¬h.Overruns input)
        (HealthCheck.command.init first before) inputs ∧
      ∀ h, Ends HealthCheck.command first before inputs .finished h →
        ¬Along execution HealthCheck.FollowsTables (HealthCheck.command.init first before)
          inputs := by
  have start : ∀ test, (HealthCheck.command.init first before).iter test ≤ test.table.length :=
    fun _ => Nat.zero_le _
  have runs : (HealthCheck.command.init first before).atEnd .driveMotors = false := rfl
  have agree : Along execution HealthCheck.FollowsTables (HealthCheck.command.init first before)
        inputs ↔
      Along execution (fun h input => ¬h.Overruns input) (HealthCheck.command.init first before)
        inputs := by
    apply along_congr (I := fun h => h.atEnd .driveMotors = false ∧
      ∀ test, h.iter test ≤ test.table.length)
    · rintro h input ⟨running, within⟩ follows
      have stays := (drive_follows_iff running within).mp follows
      exact ⟨drive_keeps_running running stays, iter_execute_le within input⟩
    · rintro h input ⟨running, within⟩
      exact drive_follows_iff running within
    · exact ⟨runs, start⟩
  refine ⟨agree, ?_, ?_⟩
  · apply along_of_invariant (I := fun h => ∀ test, h.iter test ≤ test.table.length)
    · exact fun h input within => iter_execute_le within input
    · exact fun h input within => followsOrStops_iff within
    · exact start
  · intro h ends follows
    have running : h.atEnd .driveMotors = false := by
      rw [ends_run ends]
      exact run_invariant_along (I := fun h => h.atEnd .driveMotors = false)
        (fun _ _ running stays => drive_keeps_running running stays) runs inputs
        (agree.mp follows)
    rw [finished_atEnd ends .driveMotors] at running
    exact Bool.false_ne_true running.symm

end Runs

def measuring (now : ℚ) : Input := ⟨now, true, now, fun _ => 0⟩

theorem execution_drive (h : HealthCheck) (input : Input) (running : h.atEnd .driveMotors = false) :
    execution h input = h.checkWheels .driveMotors input := by
  rw [execution, execute_running, running_drive running]
  rfl

/-- Fifty measurements are counted, and nothing else happens. -/
theorem run_measuring (h : HealthCheck) (now : ℚ) (running : h.atEnd .driveMotors = false)
    (warm : kWarmUpTime < now - h.start) (n : ℕ) (few : h.count + n ≤ kCountReq) :
    run execution h (List.replicate n (measuring now)) = { h with count := h.count + n } := by
  induction n generalizing h with
  | zero => rfl
  | succ n ih =>
    have counts : execution h (measuring now) = { h with count := h.count + 1 } := by
      have warmed : kWarmUpTime < (measuring now).now - h.start := warm
      rw [execution_drive h _ running]
      unfold HealthCheck.checkWheels
      rw [if_pos warmed, if_neg (by simp [measuring]), if_pos (by omega)]
    rw [List.replicate_succ, run_cons, counts, ih]
    · simp [Nat.add_assoc, Nat.add_comm 1 n]
    · exact running
    · exact warm
    · change h.count + 1 + n ≤ kCountReq
      omega

theorem execution_measured (h : HealthCheck) (now : ℚ) (running : h.atEnd .driveMotors = false)
    (warm : kWarmUpTime < now - h.start) (enough : kCountReq ≤ h.count) :
    execution h (measuring now) =
      (((h.dereference .driveMotors 4).advance .driveMotors).prepareTest now).sendSetpoint
        .driveMotors := by
  have warmed : kWarmUpTime < (measuring now).now - h.start := warm
  rw [execution_drive h _ running]
  unfold HealthCheck.checkWheels
  rw [if_pos warmed, if_neg (by simp [measuring]), if_neg (by omega)]
  rfl

/-- Both setpoints of the drive test are measured, on a clock that only goes on;
the last step then reads the table at its end. -/
theorem drive_test_overruns :
    let inputs := List.replicate 50 (measuring 3) ++ [measuring 3] ++
      List.replicate 50 (measuring 6) ++ [measuring 6]
    (0 :: inputs.map (·.now)).Pairwise (· ≤ ·) ∧
      ¬Along execution HealthCheck.FollowsTables
        (HealthCheck.command.init (measuring 0) (HealthCheck.idle .voltage)) inputs := by
  intro inputs
  let begun := HealthCheck.command.init (measuring 0) (HealthCheck.idle .voltage)
  let second := (((({ begun with count := 50 } : HealthCheck).dereference .driveMotors 4).advance
    .driveMotors).prepareTest 3).sendSetpoint .driveMotors
  have early : (2 : ℚ) < 3 - 0 := by norm_num
  have later : (2 : ℚ) < 6 - 3 := by norm_num
  have measured : run execution begun (List.replicate 50 (measuring 3)) =
      { begun with count := 50 } := run_measuring begun 3 rfl early 50 le_rfl
  have sends : execution { begun with count := 50 } (measuring 3) = second :=
    execution_measured _ 3 rfl early le_rfl
  have again : run execution second (List.replicate 50 (measuring 6)) =
      { second with count := 50 } := run_measuring second 6 rfl later 50 le_rfl
  constructor
  · norm_num [inputs, measuring, List.pairwise_append, List.pairwise_replicate]
  · intro follows
    rw [along_append, run_append, run_concat, measured, sends, again] at follows
    have within : ∀ test, ({ second with count := 50 } : HealthCheck).iter test ≤
        test.table.length := by
      intro test
      cases test <;> decide
    apply (reads_inside_iff within (measuring 6)).mp follows.2.1.reads
    exact ⟨.driveMotors, running_drive rfl, .inl rfl, rfl, later, rfl, le_rfl⟩

end Steamworks.PitTest
