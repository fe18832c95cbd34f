import Steamworks.Shooter.SpeedRange

/-! One activation of the ramp-down, stepped until it is finished. It comes down
to zero in time from every speed its unsigned counter reads as measured. -/
namespace Steamworks.Shooter
open Library.Run Library.Word

def rampedDown (config : Config) (s : State) (measured : Int32) (calls : ℕ) : State :=
  run (step config) s (.stopInitialize measured :: List.replicate calls .stopExecute)

/-- These are the setpoints of the activation's `Execute` calls, newest first,
and they come down from the speed to the zero at which it is finished. -/
structure RampsDown (config : Config) (s : State) (measured : Int32) (values : List ℤ) : Prop where
  sent : (rampedDown config s measured values.length).wheel.talon.sent =
    values.map .set ++ s.wheel.talon.sent
  finished : (rampedDown config s measured values.length).stopping = none
  nonincreasing : values.Pairwise (· ≤ ·)
  inside : ∀ value ∈ values, 0 ≤ value ∧ value ≤ max measured.toInt 0
  last : values.head? = some 0
  soon : (values.length : ℤ) ≤ max measured.toInt 0 / 6 + 1

/-- What is left of a ramp whose counter stands at `m`. -/
structure Remaining (config : Config) (s : State) (m : ℕ) (values : List ℤ) : Prop where
  sent : (run (step config) s (List.replicate values.length .stopExecute)).wheel.talon.sent =
    values.map .set ++ s.wheel.talon.sent
  finished : (run (step config) s (List.replicate values.length .stopExecute)).stopping = none
  nonincreasing : values.Pairwise (· ≤ ·)
  inside : ∀ value ∈ values, 0 ≤ value ∧ value ≤ m
  last : values.head? = some 0
  soon : values.length ≤ m / 6 + 1

theorem stopExecute_eq (config : Config) (s : State) (stop : StopShooterWheel)
    (active : s.stopping = some stop) : step config s .stopExecute =
      { s with wheel := s.wheel.send stop.execute.speedSetpoint.toInt32
               stopping := if stop.execute.isFinished then none else some stop.execute } := by
  simp only [step, State.stopExecute, active, ShooterWheel.setSpeed]

theorem isFinished_iff (stop : StopShooterWheel) :
    stop.isFinished = true ↔ stop.speedSetpoint.toNat = 0 := by
  rw [StopShooterWheel.isFinished, beq_iff_eq, ← UInt32.toNat_inj, UInt32.toNat_zero]

/-- A call sends what is left of the counter, six lower. -/
theorem stopExecute_sends (config : Config) (s : State) (stop : StopShooterWheel)
    (active : s.stopping = some stop) (small : stop.speedSetpoint.toNat < 2 ^ 31) :
    (step config s .stopExecute).wheel.talon.sent =
      .set ((stop.speedSetpoint.toNat - 6 : ℕ) : ℤ) :: s.wheel.talon.sent := by
  have lower := execute_le stop
  have value : stop.execute.speedSetpoint.toInt32.toInt = ((stop.speedSetpoint.toNat - 6 : ℕ) : ℤ) := by
    rw [toInt32_of_lt _ (by omega), lower]
  simp [stopExecute_eq config s stop active, ShooterWheel.send, value]

theorem remaining_last (config : Config) (s : State) (stop : StopShooterWheel)
    (active : s.stopping = some stop) (low : stop.speedSetpoint.toNat ≤ 6) :
    Remaining config s stop.speedSetpoint.toNat [0] := by
  have zero : stop.speedSetpoint.toNat - 6 = 0 := by omega
  have reached : stop.execute.isFinished = true := by rw [isFinished_iff, execute_le, zero]
  have sends := stopExecute_sends config s stop active (by omega)
  refine ⟨?_, ?_, List.pairwise_singleton _ _, ?_, rfl, by simp⟩
  · simp [sends, zero]
  · simp [stopExecute_eq config s stop active, reached]
  · simp

/-- A call before the rest of the ramp. -/
theorem remaining_cons {config : Config} {s : State} {stop : StopShooterWheel} {values : List ℤ}
    (active : s.stopping = some stop) (small : stop.speedSetpoint.toNat < 2 ^ 31)
    (high : 6 < stop.speedSetpoint.toNat)
    (rest : Remaining config (step config s .stopExecute) (stop.speedSetpoint.toNat - 6) values) :
    Remaining config s stop.speedSetpoint.toNat
      (values ++ [((stop.speedSetpoint.toNat - 6 : ℕ) : ℤ)]) := by
  have sends := stopExecute_sends config s stop active small
  have calls : List.replicate (values ++ [((stop.speedSetpoint.toNat - 6 : ℕ) : ℤ)]).length
      Event.stopExecute = .stopExecute :: List.replicate values.length .stopExecute := by
    rw [List.length_append, List.length_singleton, List.replicate_succ]
  refine ⟨?_, ?_, ?_, ?_, ?_, ?_⟩
  · rw [calls, run_cons, rest.sent, sends]
    simp
  · rw [calls, run_cons]
    exact rest.finished
  · rw [List.pairwise_append]
    refine ⟨rest.nonincreasing, List.pairwise_singleton _ _, ?_⟩
    intro later member first same
    rw [List.mem_singleton.mp same]
    exact (rest.inside later member).2
  · intro sent member
    rcases List.mem_append.mp member with later | first
    · have inside := rest.inside sent later
      omega
    · rw [List.mem_singleton.mp first]
      omega
  · rw [List.head?_append, rest.last]
    rfl
  · have soon := rest.soon
    rw [List.length_append, List.length_singleton]
    omega

/-- By induction on the counter: the last call is the one that reaches zero, and
every earlier one leaves a ramp that starts six lower. -/
theorem remaining_of_counter (config : Config) (m : ℕ) (small : m < 2 ^ 31) :
    ∀ (s : State) (stop : StopShooterWheel), s.stopping = some stop →
      stop.speedSetpoint.toNat = m → ∃ values, Remaining config s m values := by
  induction m using Nat.strong_induction_on with
  | _ m ih =>
    rintro s stop active rfl
    by_cases finished : stop.speedSetpoint.toNat ≤ 6
    · exact ⟨[0], remaining_last config s stop active finished⟩
    · have goes : ¬stop.execute.isFinished = true := by
        rw [isFinished_iff, execute_le]
        omega
      have active' : (step config s .stopExecute).stopping = some stop.execute := by
        rw [stopExecute_eq config s stop active, if_neg goes]
      obtain ⟨values, rest⟩ := ih _ (by omega) (by omega) _ _ active' (execute_le stop)
      exact ⟨_, remaining_cons active small (not_le.mp finished) rest⟩

theorem rampsDown_of_nonneg (config : Config) (s : State) (measured : Int32)
    (nonneg : 0 ≤ measured.toInt) : ∃ values, RampsDown config s measured values := by
  have below : measured.toInt < 2 ^ 31 := measured.toInt_lt
  obtain ⟨values, rest⟩ := remaining_of_counter config measured.toInt.toNat (by omega)
    (step config s (.stopInitialize measured)) (.init measured) rfl
    (toUInt32_of_nonneg measured nonneg)
  have top : ((measured.toInt.toNat : ℕ) : ℤ) = max measured.toInt 0 := by omega
  refine ⟨values, rest.sent, rest.finished, rest.nonincreasing, ?_, rest.last, ?_⟩
  · intro value member
    rw [← top]
    exact rest.inside value member
  · rw [← top]
    exact_mod_cast rest.soon

theorem sent_suffix (config : Config) (s : State) (event : Event) :
    s.wheel.talon.sent <:+ (step config s event).wheel.talon.sent := by
  rcases step_wheel config s event with ⟨same, _⟩ | ⟨_, speed, writes, _⟩ | ⟨_, stop, _, writes⟩
  · rw [same]
  · rw [writes]
    exact List.suffix_cons _ _
  · rw [writes]
    exact List.suffix_cons _ _

/-- The first call's setpoint is one of the activation's, so it is in range. -/
theorem nonneg_of_rampsDown (config : Config) (s : State) (measured : Int32) (values : List ℤ)
    (down : RampsDown config s measured values) : 0 ≤ measured.toInt := by
  set first := (StopShooterWheel.init measured).execute.speedSetpoint.toInt32.toInt with names
  have some : values ≠ [] := by
    rintro rfl
    cases down.last
  obtain ⟨later, calls⟩ := Nat.exists_eq_succ_of_ne_zero (mt List.length_eq_zero_iff.mp some)
  have sent := down.sent
  rw [rampedDown, calls, List.replicate_succ, run_cons, run_cons] at sent
  have suffix : .set first :: s.wheel.talon.sent <:+ values.map .set ++ s.wheel.talon.sent := by
    rw [← sent]
    apply run_invariant (I := fun t : State => .set first :: s.wheel.talon.sent <:+ t.wheel.talon.sent)
    · intro t event kept
      exact kept.trans (sent_suffix config t event)
    · rw [stopExecute_eq config _ (.init measured) rfl]
      exact List.suffix_refl _
  obtain ⟨front, same⟩ := suffix
  have whole : front ++ [.set first] = values.map .set := by
    rw [List.append_cons] at same
    exact List.append_cancel_right same
  have member : first ∈ values := by
    have listed : MotorCommand.set first ∈ values.map .set := by simp [← whole]
    simpa using listed
  have inside := down.inside first member
  by_contra negative
  have none : first = 0 := by omega
  have range := (toInt32_range _ (n := 0) (by norm_num)).mp
    (show 0 ≤ first ∧ first ≤ (0 : ℕ) by omega)
  rw [execute_le] at range
  have low := (toUInt32_le measured (n := 6) (by norm_num)).mp (by
    change (StopShooterWheel.init measured).speedSetpoint.toNat ≤ 6
    omega)
  omega

/-- A ramp-down that is left to run ends, in time and without ever speeding the
wheel up, exactly when the speed it measured is not negative. -/
theorem ramp_down_iff (config : Config) (s : State) (measured : Int32) :
    (∃ values, RampsDown config s measured values) ↔ 0 ≤ measured.toInt := by
  constructor
  · rintro ⟨values, down⟩
    exact nonneg_of_rampsDown config s measured values down
  · exact rampsDown_of_nonneg config s measured

/-- A wheel that was turning backwards by one tick is not brought to a stop. -/
theorem ramp_from_minus_one : ¬∃ values, RampsDown .comp {} (-1) values := by
  rintro ⟨values, down⟩
  have nonneg := nonneg_of_rampsDown .comp {} (-1) values down
  exact absurd nonneg (by decide)

end Steamworks.Shooter
