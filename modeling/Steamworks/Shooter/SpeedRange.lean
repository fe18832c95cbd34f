import Steamworks.Library.Word
import Steamworks.Shooter.Wheel

/-! The range of the wheel's setpoint over every order of its writers. Each of
them keeps it between zero and the maximum except a ramp-down, which starts from
whatever speed was measured, read as an unsigned number. -/
namespace Steamworks.Shooter
open Library.Remainder Library.Run Library.Word

def InRange (speed : Int32) : Prop := 0 ≤ speed.toInt ∧ speed.toInt ≤ 900

instance (speed : Int32) : Decidable (InRange speed) := inferInstanceAs (Decidable (_ ∧ _))

def Allowed (command : MotorCommand ℤ) : Prop :=
  ∀ value, command = .set value → 0 ≤ value ∧ value ≤ 900

/-- A double within these bounds is cut back to an int within them. -/
theorem cut_between {a : ℚ} {low high : ℤ} (below : low ≤ a) (above : a ≤ high)
    (least : -2 ^ 31 ≤ low) (greatest : high < 2 ^ 31) :
    low ≤ (Int32.ofInt (trunc a)).toInt ∧ (Int32.ofInt (trunc a)).toInt ≤ high := by
  have lower : low ≤ trunc a := le_trunc below
  have upper : trunc a ≤ high := trunc_le above
  rw [Int32.toInt_ofInt_of_le (by omega) (by omega)]
  exact ⟨lower, upper⟩

theorem allowed_set (speed : Int32) : Allowed (.set speed.toInt) ↔ InRange speed := by
  constructor
  · intro allowed
    exact allowed _ rfl
  · rintro range value same
    cases same
    exact range

theorem trim_bounds (trim : Trim) : 0 ≤ trim.amount ∧ trim.amount ≤ 5 := by
  cases trim with
  | five => norm_num [Trim.amount]
  | one => norm_num [Trim.amount]

/-- An increase is cut at the top and a decrease at the bottom; neither can
leave the range at its other end. -/
theorem increment_inRange (w : ShooterWheel) (trim : Trim) (range : InRange w.speedSetpoint) :
    InRange (w.incrementSpeed trim.amount).speedSetpoint := by
  obtain ⟨positive, small⟩ := trim_bounds trim
  have lower : (0 : ℚ) ≤ w.speedSetpoint.toInt := by exact_mod_cast range.1
  have upper : (w.speedSetpoint.toInt : ℚ) ≤ 900 := by exact_mod_cast range.2
  have cut : 0 ≤ (Int32.ofInt (trunc ((w.speedSetpoint.toInt : ℚ) + trim.amount))).toInt ∧
      (Int32.ofInt (trunc ((w.speedSetpoint.toInt : ℚ) + trim.amount))).toInt ≤ 905 := by
    apply cut_between
    · push_cast
      linarith
    · push_cast
      linarith
    · norm_num
    · norm_num
  unfold ShooterWheel.incrementSpeed ShooterWheel.send
  dsimp only
  split_ifs with above
  · exact ⟨by decide, by decide⟩
  · exact ⟨cut.1, Int32.le_iff_toInt_le.mp (Int32.not_lt.mp above)⟩

theorem decrement_inRange (w : ShooterWheel) (trim : Trim) (range : InRange w.speedSetpoint) :
    InRange (w.decrementSpeed trim.amount).speedSetpoint := by
  obtain ⟨positive, small⟩ := trim_bounds trim
  have lower : (0 : ℚ) ≤ w.speedSetpoint.toInt := by exact_mod_cast range.1
  have upper : (w.speedSetpoint.toInt : ℚ) ≤ 900 := by exact_mod_cast range.2
  have cut : -5 ≤ (Int32.ofInt (trunc ((w.speedSetpoint.toInt : ℚ) - trim.amount))).toInt ∧
      (Int32.ofInt (trunc ((w.speedSetpoint.toInt : ℚ) - trim.amount))).toInt ≤ 900 := by
    apply cut_between
    · push_cast
      linarith
    · push_cast
      linarith
    · norm_num
    · norm_num
  unfold ShooterWheel.decrementSpeed ShooterWheel.send
  dsimp only
  split_ifs with below
  · exact ⟨by decide, by decide⟩
  · have minimum : (350 : ℤ) ≤ _ := Int32.le_iff_toInt_le.mp (Int32.not_lt.mp below)
    exact ⟨le_trans (by decide) minimum, cut.2⟩

theorem shooterData_bounds : ∀ row ∈ shooterData,
    435 * 10 ^ 17 ≤ row.speed ∧ row.speed ≤ 604 * 10 ^ 17 ∧ row.inDelta ≤ 2 * 10 ^ 17 := by
  decide +kernel

/-- Every solution speed is in range, for corrections up to twelve feet. -/
theorem solution_inRange {row : ShooterRow} (member : row ∈ shooterData) {delta : ℚ}
    (correction : |delta| ≤ 144) : InRange (Int32.ofInt (trunc (solutionWheelSpeed delta row))) := by
  obtain ⟨slow, fast, slope⟩ := shooterData_bounds row member
  have slow : (435 : ℚ) ≤ row.speed / 10 ^ 17 := by
    rw [le_div_iff₀ (by norm_num)]
    exact_mod_cast slow
  have fast : (row.speed : ℚ) / 10 ^ 17 ≤ 604 := by
    rw [div_le_iff₀ (by norm_num)]
    exact_mod_cast fast
  have slope : |(row.inDelta : ℚ) / 10 ^ 17| ≤ 2 := by
    rw [abs_of_nonneg (by positivity), div_le_iff₀ (by norm_num)]
    exact_mod_cast slope
  have change : |delta * ((row.inDelta : ℚ) / 10 ^ 17)| ≤ 144 * 2 := by
    rw [abs_mul]
    exact mul_le_mul correction slope (abs_nonneg _) (by norm_num)
  obtain ⟨down, up⟩ := abs_le.mp change
  apply cut_between
  · rw [solutionWheelSpeed]
    push_cast
    linarith
  · rw [solutionWheelSpeed]
    push_cast
    linarith
  · norm_num
  · norm_num

theorem config_correction (config : Config) : |config.rangeInDelta| ≤ 144 := by
  cases config with
  | default => norm_num [Config.rangeInDelta]
  | comp => norm_num [Config.rangeInDelta]

theorem shots_inRange : ∀ shot ∈ shots, InRange shot.1 := by
  decide

def Startable (measured : Int32) : Prop := 0 ≤ measured.toInt ∧ measured.toInt ≤ 906

/-- The step sends nothing, or a writer's speed, or the next one of the ramp. -/
theorem step_wheel (config : Config) (s : State) (event : Event) :
    ((step config s event).wheel = s.wheel ∧ (event = .stopExecute → s.stopping = none)) ∨
      (event ≠ .stopExecute ∧ ∃ speed, (step config s event).wheel = s.wheel.send speed ∧
        (InRange s.wheel.speedSetpoint → InRange speed)) ∨
      (event = .stopExecute ∧ ∃ stop, s.stopping = some stop ∧
        (step config s event).wheel = s.wheel.send stop.execute.speedSetpoint.toInt32) := by
  cases event with
  | setShooter shot =>
    by_cases slow : s.wheel.speedSetpoint < 400
    · refine .inr (.inl ⟨nofun, shot.1.1, ?_, fun _ => shots_inRange _ shot.2⟩)
      simp only [step, State.setShooter, if_pos slow, ShooterWheel.setSpeed]
    · left
      simp only [step, State.setShooter, if_neg slow]
      exact ⟨trivial, nofun⟩
  | startShooterWheel => exact .inr (.inl ⟨nofun, 400, rfl, fun _ => by decide⟩)
  | setWheel row =>
    exact .inr (.inl ⟨nofun, _, rfl, fun _ => solution_inRange row.2 (config_correction config)⟩)
  | incrementShooterSpeed trim =>
    exact .inr (.inl ⟨nofun, _, rfl, fun range => increment_inRange s.wheel trim range⟩)
  | decrementShooterSpeed trim =>
    exact .inr (.inl ⟨nofun, _, rfl, fun range => decrement_inRange s.wheel trim range⟩)
  | stopInitialize measured => exact .inl ⟨rfl, nofun⟩
  | stopExecute =>
    cases stopping : s.stopping with
    | none =>
      left
      simp only [step, State.stopExecute, stopping]
      exact ⟨trivial, fun _ => trivial⟩
    | some stop =>
      refine .inr (.inr ⟨rfl, stop, rfl, ?_⟩)
      simp only [step, State.stopExecute, stopping, ShooterWheel.setSpeed]

/-- The active ramp after a step: a new one, or the one before, one step on. -/
theorem step_stopping (config : Config) (s : State) (event : Event)
    (active : (step config s event).stopping = some stop) :
    (∃ measured, stop = .init measured) ∨ (event ≠ .stopExecute ∧ s.stopping = some stop) ∨
      (event = .stopExecute ∧ ∃ before, s.stopping = some before ∧ stop = before.execute) := by
  cases event with
  | setShooter shot =>
    refine .inr (.inl ⟨nofun, ?_⟩)
    unfold step State.setShooter at active
    dsimp only at active
    split_ifs at active <;> exact active
  | startShooterWheel | setWheel | incrementShooterSpeed | decrementShooterSpeed => contradiction
  | stopInitialize measured =>
    left
    exact ⟨measured, (Option.some.inj active).symm⟩
  | stopExecute =>
    cases stopping : s.stopping with
    | none => simp [step, State.stopExecute, stopping] at active
    | some before =>
      refine .inr (.inr ⟨rfl, before, rfl, ?_⟩)
      simp only [step, State.stopExecute, stopping] at active
      split_ifs at active
      exact (Option.some.inj active).symm

theorem execute_le (stop : StopShooterWheel) :
    stop.execute.speedSetpoint.toNat = stop.speedSetpoint.toNat - 6 := by
  unfold StopShooterWheel.execute
  dsimp only
  split_ifs with low
  · have small : stop.speedSetpoint.toNat < 6 := UInt32.lt_iff_toNat_lt.mp low
    rw [UInt32.toNat_zero]
    omega
  · exact UInt32.toNat_sub_of_le _ _ (UInt32.not_lt.mp low)

theorem execute_inRange (stop : StopShooterWheel) :
    InRange stop.execute.speedSetpoint.toInt32 ↔ stop.speedSetpoint.toNat ≤ 906 := by
  have range := toInt32_range stop.execute.speedSetpoint (n := 900) (by norm_num)
  rw [execute_le] at range
  constructor
  · intro inside
    have := range.mp inside
    omega
  · intro low
    exact range.mpr (by omega)

/-- A ramp only comes down from what it measured, and was stepped only if that
was in range. -/
structure StopShooterWheel.Descending (stop : StopShooterWheel) : Prop where
  below : stop.speedSetpoint.toNat ≤ stop.measured.toUInt32.toNat
  started : stop.speedSetpoint = stop.measured.toUInt32 ∨ Startable stop.measured

theorem init_descending (measured : Int32) : (StopShooterWheel.init measured).Descending :=
  ⟨le_refl _, .inl rfl⟩

/-- Before its first step a ramp is where it was measured, so the next speed it
sends is in range exactly when the measured one could be started from. -/
theorem descending_iff (stop : StopShooterWheel) (descending : stop.Descending) :
    InRange stop.execute.speedSetpoint.toInt32 ↔ Startable stop.measured := by
  have measured := toUInt32_le stop.measured (n := 906) (by norm_num)
  rw [execute_inRange]
  constructor
  · intro low
    rcases descending.started with same | startable
    · rw [same] at low
      exact measured.mp low
    · exact startable
  · intro startable
    exact descending.below.trans (measured.mpr startable)

structure State.Kept (s : State) : Prop where
  sent : ∀ command ∈ s.wheel.talon.sent, Allowed command
  setpoint : InRange s.wheel.speedSetpoint
  ramp : ∀ stop, s.stopping = some stop → stop.Descending

def SendsAllowed (config : Config) (s : State) (event : Event) : Prop :=
  ∀ command ∈ (step config s event).wheel.talon.sent, Allowed command

/-- The ramp that is stepped, if one is, started from a speed of 0 to 906. -/
def RampStartable (s : State) (event : Event) : Prop :=
  event = .stopExecute → ∀ stop, s.stopping = some stop → Startable stop.measured

theorem send_allowed (w : ShooterWheel) (speed : Int32) (sent : ∀ command ∈ w.talon.sent,
    Allowed command) : (∀ command ∈ (w.send speed).talon.sent, Allowed command) ↔ InRange speed := by
  simp only [ShooterWheel.send, Talon.sent_set, List.forall_mem_cons, allowed_set]
  exact and_iff_left sent

theorem sendsAllowed_iff (config : Config) (s : State) (event : Event) (kept : s.Kept) :
    SendsAllowed config s event ↔ RampStartable s event := by
  unfold SendsAllowed RampStartable
  obtain ⟨same, idle⟩ | ⟨other, speed, writes, range⟩ | ⟨rfl, stop, active, writes⟩ :=
    step_wheel config s event
  · rw [same]
    refine iff_of_true kept.sent fun stops stop active => ?_
    rw [idle stops] at active
    contradiction
  · rw [writes, send_allowed _ _ kept.sent]
    exact iff_of_true (range kept.setpoint) fun stops => absurd stops other
  · rw [writes, send_allowed _ _ kept.sent, descending_iff stop (kept.ramp stop active)]
    constructor
    · intro startable _ current holds
      obtain rfl := Option.some.inj (active.symm.trans holds)
      exact startable
    · intro startable
      exact startable rfl stop active

theorem step_kept (config : Config) (s : State) (event : Event) (kept : s.Kept)
    (allowed : SendsAllowed config s event) : (step config s event).Kept where
  sent := allowed
  setpoint := by
    unfold SendsAllowed at allowed
    rcases step_wheel config s event with ⟨same, _⟩ | ⟨_, speed, writes, _⟩ | ⟨_, stop, _, writes⟩
    · rw [same]
      exact kept.setpoint
    · rw [writes] at allowed ⊢
      exact (send_allowed _ _ kept.sent).mp allowed
    · rw [writes] at allowed ⊢
      exact (send_allowed _ _ kept.sent).mp allowed
  ramp stop active := by
    obtain ⟨measured, rfl⟩ | ⟨_, same⟩ | ⟨stops, before, earlier, rfl⟩ :=
      step_stopping config s event active
    · exact init_descending measured
    · exact kept.ramp stop same
    · have descending := kept.ramp before earlier
      constructor
      · rw [execute_le]
        exact (Nat.sub_le _ _).trans descending.below
      · exact .inr ((sendsAllowed_iff config s event kept).mp allowed stops before earlier)

theorem initial_kept : ({} : State).Kept where
  sent := by simp
  setpoint := by decide
  ramp := by simp

theorem step_sent (config : Config) (s : State) (event : Event) :
    s.wheel.talon.sent ⊆ (step config s event).wheel.talon.sent := by
  rcases step_wheel config s event with ⟨same, _⟩ | ⟨_, speed, writes, _⟩ | ⟨_, stop, _, writes⟩
  · rw [same]
    exact List.Subset.refl _
  · rw [writes]
    exact List.subset_cons_self _ _
  · rw [writes]
    exact List.subset_cons_self _ _

/-- Over every order of the wheel's writers, all setpoints sent are in range if
and only if every ramp-down that is stepped measured a speed of 0 to 906. -/
theorem setpoints_in_range_iff (config : Config) (events : List Event) :
    (∀ value, .set value ∈ (run (step config) {} events).wheel.talon.sent →
        0 ≤ value ∧ value ≤ 900) ↔
      Along (step config) RampStartable {} events := by
  have commands : (∀ value, .set value ∈ (run (step config) {} events).wheel.talon.sent →
      0 ≤ value ∧ value ≤ 900) ↔
        ∀ command ∈ (run (step config) {} events).wheel.talon.sent, Allowed command := by
    constructor
    · rintro inside command member value rfl
      exact inside value member
    · intro allowed value member
      exact allowed _ member value rfl
  rw [commands, forall_log_iff (fun s : State => s.wheel.talon.sent) (step_sent config)]
  rw [and_iff_right initial_kept.sent]
  exact along_congr (step_kept config) (sendsAllowed_iff config) initial_kept events

/-- Stopping a wheel that was measured turning backwards by one tick sends it
further backwards. -/
theorem stop_sends_negative :
    ¬∀ value, .set value ∈
        (run (step .comp) {} [.stopInitialize (-1), .stopExecute]).wheel.talon.sent →
      0 ≤ value ∧ value ≤ 900 := by
  intro inside
  have backwards := (inside (-7) (List.mem_singleton.mpr rfl)).1
  omega

end Steamworks.Shooter
