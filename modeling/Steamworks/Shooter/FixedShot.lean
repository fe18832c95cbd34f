import Steamworks.Shooter.Elevation
import Steamworks.Shooter.RampDown

/-! The two shots from fixed positions, over any history of the shooter. Their
first step, `SetShooter`, does nothing while a speed of 400 or more is
commanded, which an interrupted ramp-down may have left behind. -/
namespace Steamworks.Shooter
open Library.Run Library.Word

inductive FixedShot where
  | close
  | crowd

namespace FixedShot

def kCloseShotSpeed : Int32 := 425
def kCloseShotElevation : ℤ := 0

def speed : FixedShot → Int32
  | .close => kCloseShotSpeed
  | .crowd => 900

def elevation : FixedShot → ℤ
  | .close => kCloseShotElevation
  | .crowd => 4000

theorem listed (shot : FixedShot) : (shot.speed, shot.elevation) ∈ shots := by
  cases shot <;> decide

/-- The `SetShooter` step of `StartCloseShot` and `StartCrowdShot`. -/
def setShooter (shot : FixedShot) : Event := .setShooter ⟨(shot.speed, shot.elevation), shot.listed⟩

end FixedShot

/-- Besides the writers of the wheel, `SetElevation`, `GetAngle` and the
dashboard write the elevation. -/
inductive Operation where
  | wheel (event : Event)
  | setElevation (elevation : ℤ)

def operate (config : Config) (s : State) : Operation → State
  | .wheel event => step config s event
  | .setElevation elevation => { s with elevation := s.elevation.setElevation elevation }

def State.Holds (s : State) (shot : FixedShot) : Prop :=
  s.wheel.speedSetpoint = shot.speed ∧ s.elevation.elevationSetpoint = shot.elevation

instance (s : State) (shot : FixedShot) : Decidable (s.Holds shot) :=
  inferInstanceAs (Decidable (_ ∧ _))

/-- A fixed shot that starts at this step gets its own setpoints. -/
def GetsItsOwn (config : Config) (s : State) (operation : Operation) : Prop :=
  ∀ shot : FixedShot, operation = .wheel shot.setShooter → (operate config s operation).Holds shot

/-- A fixed shot that starts at this step finds the wheel below mid-speed, or
the shooter already set up for it. -/
def Unhindered (s : State) (operation : Operation) : Prop :=
  ∀ shot : FixedShot, operation = .wheel shot.setShooter →
    s.wheel.speedSetpoint < 400 ∨ s.Holds shot

theorem limitElevation_shot (shot : FixedShot) :
    limitElevation shot.elevation = shot.elevation := by
  cases shot <;> rfl

theorem setShooter_holds (config : Config) (s : State) (shot : FixedShot) :
    (step config s shot.setShooter).Holds shot ↔ s.wheel.speedSetpoint < 400 ∨ s.Holds shot := by
  unfold FixedShot.setShooter step State.setShooter
  dsimp only
  split_ifs with slow
  · refine iff_of_true ⟨rfl, limitElevation_shot shot⟩ (.inl slow)
  · exact (or_iff_right slow).symm

theorem getsItsOwn_iff (config : Config) (s : State) (operation : Operation) :
    GetsItsOwn config s operation ↔ Unhindered s operation := by
  constructor
  · rintro own shot rfl
    exact (setShooter_holds config s shot).mp (own shot rfl)
  · rintro unhindered shot rfl
    exact (setShooter_holds config s shot).mpr (unhindered shot rfl)

/-- Over any history, every fixed shot gets its own speed and elevation if and
only if none of them is hindered. -/
theorem fixed_shots_iff (config : Config) (s : State) (history : List Operation) :
    Along (operate config) (GetsItsOwn config) s history ↔
      Along (operate config) Unhindered s history :=
  along_congr (I := fun _ => True) (fun _ _ _ _ => trivial)
    (fun s operation _ => getsItsOwn_iff config s operation) trivial history

/-- A close shot started again one tick into the ramp-down keeps the ramp's speed. -/
theorem close_shot_restarted :
    ¬Along (operate .comp) (GetsItsOwn .comp) {}
      [.wheel FixedShot.close.setShooter, .wheel (.stopInitialize 425), .wheel .stopExecute,
        .wheel FixedShot.close.setShooter] := by
  rintro ⟨_, _, _, again, _⟩
  have slow := (again .close rfl).1
  exact absurd slow (by decide)

/-- A ramp-down from `s` that has sent `m`: it is over at zero, or goes on from there. -/
structure RampAt (s t : State) (m : ℕ) : Prop where
  setpoint : t.wheel.speedSetpoint.toInt = m
  ended : t.stopping = none → m = 0
  counter : ∀ stop, t.stopping = some stop → stop.speedSetpoint.toNat = m
  elevation : t.elevation = s.elevation

theorem execute_rampAt (config : Config) (s t : State) (stop : StopShooterWheel)
    (active : t.stopping = some stop) (small : stop.speedSetpoint.toNat < 2 ^ 31)
    (same : t.elevation = s.elevation) :
    RampAt s (step config t .stopExecute) (stop.speedSetpoint.toNat - 6) := by
  have lower := execute_le stop
  rw [stopExecute_eq config t stop active, ← lower]
  constructor
  · exact toInt32_of_lt _ (by omega)
  · intro ended
    by_contra more
    simp [isFinished_iff, more] at ended
  · intro next later
    by_cases zero : stop.execute.isFinished = true <;> simp [zero] at later
    rw [later]
  · exact same

theorem step_rampAt (config : Config) {s t : State} {m : ℕ} (small : m < 2 ^ 31)
    (ramp : RampAt s t m) : RampAt s (step config t .stopExecute) (m - 6) := by
  cases active : t.stopping with
  | none =>
    have zero := ramp.ended active
    subst zero
    simpa only [step, State.stopExecute, active] using ramp
  | some stop =>
    have counter := ramp.counter stop active
    rw [← counter] at small ⊢
    exact execute_rampAt config s t stop active small ramp.elevation

theorem rampedDown_at (config : Config) (s : State) (measured : Int32)
    (nonneg : 0 ≤ measured.toInt) (calls : ℕ) :
    RampAt s (rampedDown config s measured (calls + 1)) (measured.toInt.toNat - 6 * (calls + 1)) := by
  have below : measured.toInt < 2 ^ 31 := measured.toInt_lt
  have start : (StopShooterWheel.init measured).speedSetpoint.toNat = measured.toInt.toNat :=
    toUInt32_of_nonneg measured nonneg
  induction calls with
  | zero =>
    have first := execute_rampAt config s (step config s (.stopInitialize measured))
      (.init measured) rfl (by omega) rfl
    rw [start] at first
    exact first
  | succ calls ih =>
    have next := step_rampAt config (by omega) ih
    rw [Nat.sub_sub, show 6 * (calls + 1) + 6 = 6 * (calls + 1 + 1) by ring] at next
    rw [rampedDown, List.replicate_succ', ← List.cons_append, run_concat]
    exact next

/-- Started again after some calls of a ramp-down, a fixed shot gets its own
setpoints only if they took the wheel below mid-speed or to the shot's speed. -/
theorem restart_iff (config : Config) (s : State) (measured : Int32)
    (nonneg : 0 ≤ measured.toInt) (calls : ℕ) (shot : FixedShot) :
    (step config (rampedDown config s measured (calls + 1)) shot.setShooter).Holds shot ↔
      measured.toInt < 400 + 6 * (calls + 1) ∨
        (measured.toInt = shot.speed.toInt + 6 * (calls + 1) ∧
          s.elevation.elevationSetpoint = shot.elevation) := by
  have ramp := rampedDown_at config s measured nonneg calls
  have setpoint := ramp.setpoint
  have speed : 400 < shot.speed.toInt := by cases shot <;> decide
  rw [setShooter_holds, Int32.lt_iff_toInt_lt, setpoint, State.Holds, ramp.elevation,
    ← Int32.toInt_inj, setpoint]
  have slow : (400 : Int32).toInt = 400 := rfl
  constructor
  · rintro (low | ⟨same, elevation⟩)
    · left
      omega
    · right
      exact ⟨by omega, elevation⟩
  · rintro (low | ⟨same, elevation⟩)
    · left
      omega
    · right
      exact ⟨by omega, elevation⟩

end Steamworks.Shooter
