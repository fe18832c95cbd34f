import Steamworks.Gear.Release
import Steamworks.Library.Run
import Steamworks.Library.Turns

/-! The commands of the gear loader and the light that says a gear is loaded.
All require the loader, so that one runs at a time; all but the one that releases
the gear leave it to `End` to handle an interruption. -/
namespace Steamworks.Gear
open Library Library.Activation Library.Run

set_option linter.unusedSectionVars false

structure Settings (K : Type*) where
  loadVoltage : K
  deployVoltage : K
  pivotUpPosition : ℤ

/-- The loader with the members of the command that releases the gear, its intake
motor, and the dashboard's "Gear Loaded". -/
structure Loading (K : Type*) where
  settings : Settings K
  intake : Talon K
  normallyOpen : Option Bool
  release : ReleaseGear
  loaded : Bool

/-- What is read while a command is stepped, and the switch at any other time. -/
structure Sensors where
  fwdLimitSwitch : ℤ
  pivotPosition : ℤ
  timedOut : Bool

def Sensors.isLoadLimitSwitchClosed (now : Sensors) : Bool := now.fwdLimitSwitch == 1

variable {K : Type*} [Zero K] [Neg K]

namespace GearLoader

def clampStage (g : GearLoader) : GearLoader := { g with clamp := .stage }

/-- In voltage mode the pivot is not moved. -/
def pivotUp (g : GearLoader) (position : ℤ) : GearLoader :=
  if g.pivot.controlMode ≠ .position then g else g.setPivotPosition position

end GearLoader

namespace Loading

def stopLoader (g : Loading K) : Loading K := { g with intake := g.intake.set 0 }

def load (g : Loading K) : Loading K := { g with intake := g.intake.set g.settings.loadVoltage }

def deploy (g : Loading K) : Loading K := { g with intake := g.intake.set g.settings.deployVoltage }

def clearLoader (g : Loading K) : Loading K :=
  { g with intake := g.intake.set (-g.settings.loadVoltage) }

def setLoadLimitSwitchNormallyOpen (g : Loading K) (normallyOpen : Bool) : Loading K :=
  { g with normallyOpen := some normallyOpen }

def putLoaded (g : Loading K) (loaded : Bool) : Loading K := { g with loaded := loaded }

/-- An operation on the clamp or the pivot. -/
def onLoader (g : Loading K) (operation : GearLoader → GearLoader) : Loading K :=
  { g with release := { g.release with gear := operation g.release.gear } }

end Loading

/-- The commands on the loader, with those that a group is made of. -/
inductive GearCommand where
  | loadGear
  | deployGear
  | closeClamp
  | pivotGear
  | releaseGear
  | startClear
  | stopClear
  deriving DecidableEq

namespace GearCommand

def init : GearCommand → Loading K → Loading K
  | .loadGear, g =>
      ((g.stopLoader.onLoader .clampShut).setLoadLimitSwitchNormallyOpen true).load.putLoaded false
  | .deployGear, g =>
      ((g.stopLoader.setLoadLimitSwitchNormallyOpen false).onLoader .clampStage).deploy
  | .closeClamp, g => g.onLoader .clampShut
  | .pivotGear, g => g.onLoader fun loader => loader.pivotUp g.settings.pivotUpPosition
  | .releaseGear, g => { g with release := g.release.init }
  | .startClear, g => g.clearLoader
  | .stopClear, g => g.stopLoader

def isFinished (now : Sensors) (g : Loading K) : GearCommand → Loading K × Bool
  | .loadGear => (g, now.isLoadLimitSwitchClosed)
  | .deployGear => (g, !now.isLoadLimitSwitchClosed)
  | .closeClamp => (g, now.timedOut)
  | .pivotGear => (g, g.settings.pivotUpPosition - now.pivotPosition < 10)
  | .releaseGear =>
      let (release, finished) := g.release.isFinished now.pivotPosition
      ({ g with release := release }, finished)
  | .startClear | .stopClear => (g, true)

def finish : GearCommand → Loading K → Loading K
  | .loadGear, g => (g.stopLoader.setLoadLimitSwitchNormallyOpen false).putLoaded true
  | .deployGear, g => (g.stopLoader.setLoadLimitSwitchNormallyOpen true).putLoaded false
  | .releaseGear, g => { g with release := g.release.finish }
  | .closeClamp, g | .pivotGear, g | .startClear, g | .stopClear, g => g

def behaviour (c : GearCommand) : Command (Loading K) Sensors where
  init _ := c.init
  execute _ g := g
  isFinished now g := c.isFinished now g
  finish := c.finish
  interrupted := c.finish

end GearCommand

inductive Activated where
  | loadGear
  | deployGear
  | stageGear
  | releaseGear
  | startClear
  | stopClear

/-- Staging the gear is a group of commands in sequence. -/
def Activated.commands : Activated → List GearCommand
  | .loadGear => [.loadGear]
  | .deployGear => [.deployGear]
  | .stageGear => [.deployGear, .closeClamp, .pivotGear]
  | .releaseGear => [.releaseGear]
  | .startClear => [.startClear]
  | .stopClear => [.stopClear]

/-- An activation begins or what runs is cancelled, or the scheduler runs. -/
inductive Event where
  | start (activated : Activated) (now : Sensors)
  | cancel (now : Sensors)
  | run (now : Sensors)

def Event.turn : Event → Turns.Event Sensors GearCommand
  | .start activated now => .preempt activated.commands now
  | .cancel now => .preempt [] now
  | .run now => .run now

def Event.now : Event → Sensors
  | .start _ now | .cancel now | .run now => now

abbrev Robot (K : Type*) := Turns.State (Loading K) GearCommand

namespace Robot

def step (s : Robot K) (e : Event) : Robot K := Turns.State.step GearCommand.behaviour s e.turn

def begins (s : Robot K) (e : Event) : Option GearCommand := Turns.State.begins s e.turn

def ends (s : Robot K) (e : Event) : Option GearCommand :=
  Turns.State.ends GearCommand.behaviour s e.turn

/-- Constructing the command that loads put a gear not loaded on the dashboard. -/
def initial (settings : Settings K) (release : ReleaseGear) : Robot K :=
  ⟨⟨settings, {}, none, release, false⟩, none, [], []⟩

end Robot

/-- The commands whose start sets the intake motor. -/
def GearCommand.drivesIntake : GearCommand → Bool
  | .loadGear | .deployGear | .startClear | .stopClear => true
  | _ => false

/-- Clearing was started, and neither it was stopped nor a gear loaded or
deployed since. -/
def Clearing (s : Robot K) : Prop := s.begun.find? GearCommand.drivesIntake = some .startClear

/-- What the event does to the motor and to the light is as it should be. -/
structure Truthful (s : Robot K) (e : Event) : Prop where
  motor : (s.step e).resource.intake.setpoint ≠ 0 →
    (s.step e).current = some .loadGear ∨ (s.step e).current = some .deployGear ∨ Clearing (s.step e)
  becomesTrue : s.resource.loaded = false → (s.step e).resource.loaded = true →
    s.ends e = some .loadGear ∧ e.now.isLoadLimitSwitchClosed = true
  becomesFalse : s.resource.loaded = true → (s.step e).resource.loaded = false →
    s.begins e = some .loadGear ∨
      (s.ends e = some .deployGear ∧ e.now.isLoadLimitSwitchClosed = false)

/-- The event does not interrupt loading with the switch open, nor deploying
with it closed while the light is on. -/
def Undisturbed (s : Robot K) : Event → Prop
  | .run _ => True
  | .start _ now | .cancel now =>
      (s.current = some .loadGear → now.isLoadLimitSwitchClosed = true) ∧
        (s.current = some .deployGear → s.resource.loaded = true →
          now.isLoadLimitSwitchClosed = false)

section Commands
variable {c : GearCommand} {g : Loading K}

theorem init_intake (idle : c.drivesIntake = false) : (c.init g).intake = g.intake := by
  cases c <;> first | rfl | cases idle

/-- Among the commands the three that move the gear set the motor, and the one
that stops it sets zero. -/
theorem init_moves (moves : (c.init g).intake.setpoint ≠ 0) (drives : c.drivesIntake = true) :
    c = .loadGear ∨ c = .deployGear ∨ c = .startClear := by
  cases c with
  | loadGear => exact .inl rfl
  | deployGear => exact .inr (.inl rfl)
  | startClear => exact .inr (.inr rfl)
  | stopClear => exact absurd rfl moves
  | closeClamp | pivotGear | releaseGear => cases drives

theorem init_loaded : (c.init g).loaded = (if c = .loadGear then false else g.loaded) := by
  cases c <;> rfl

theorem isFinished_kept (c : GearCommand) (g : Loading K) (now : Sensors) :
    (c.isFinished now g).1.intake = g.intake ∧ (c.isFinished now g).1.loaded = g.loaded := by
  cases c <;> exact ⟨rfl, rfl⟩

theorem finish_moves (moves : (c.finish g).intake.setpoint ≠ 0) :
    c ≠ .loadGear ∧ c ≠ .deployGear ∧ g.intake.setpoint ≠ 0 := by
  cases c with
  | loadGear | deployGear => exact absurd rfl moves
  | closeClamp | pivotGear | releaseGear | startClear | stopClear =>
    exact ⟨nofun, nofun, moves⟩

theorem finish_loaded : (c.finish g).loaded =
    (if c = .loadGear then true else if c = .deployGear then false else g.loaded) := by
  cases c <;> rfl

end Commands

/-- While a gear is loaded the light is off, and the motor runs for a command or
for clearing. -/
structure Holds (s : Robot K) : Prop where
  dark : s.current = some .loadGear → s.resource.loaded = false
  motor : s.resource.intake.setpoint ≠ 0 →
    s.current = some .loadGear ∨ s.current = some .deployGear ∨ Clearing s

variable {s : Robot K} {c : GearCommand}

theorem holds_initial (settings : Settings K) (release : ReleaseGear) :
    Holds (Robot.initial settings release) :=
  ⟨fun _ => rfl, fun moves => absurd rfl moves⟩

/-- Ended by itself or interrupted, a command that ran the motor stopped it. -/
theorem holds_finish (holds : Holds s) (current : s.current = some c) {g : Loading K}
    (same : g.intake = s.resource.intake) (waiting : List GearCommand) :
    Holds (⟨c.finish g, none, waiting, s.begun⟩ : Robot K) := by
  refine ⟨fun other => (Option.some_ne_none _ other.symm).elim, ?_⟩
  intro moves
  obtain ⟨notLoading, notDeploying, moved⟩ := finish_moves moves
  rw [same] at moved
  rcases holds.motor moved with loading | deploying | clearing
  · exact absurd (Option.some.inj (current.symm.trans loading)) notLoading
  · exact absurd (Option.some.inj (current.symm.trans deploying)) notDeploying
  · exact .inr (.inr clearing)

theorem holds_init (holds : Holds s) (free : s.current = none) (rest : List GearCommand) :
    Holds (⟨c.init s.resource, some c, rest, c :: s.begun⟩ : Robot K) := by
  constructor
  · intro loading
    obtain rfl := Option.some.inj loading
    exact init_loaded
  · intro moves
    cases drives : c.drivesIntake with
    | true =>
      rcases init_moves moves drives with rfl | rfl | rfl
      · exact .inl rfl
      · exact .inr (.inl rfl)
      · exact .inr (.inr rfl)
    | false =>
      have moved : s.resource.intake.setpoint ≠ 0 := by
        rw [← init_intake drives]
        exact moves
      have still : ∀ other : GearCommand, s.current ≠ some other := by
        rw [free]
        exact nofun
      have clearing : Clearing s :=
        ((holds.motor moved).resolve_left (still _)).resolve_left (still _)
      refine .inr (.inr ?_)
      unfold Clearing
      rw [List.find?_cons_of_neg (by simp [drives])]
      exact clearing

theorem holds_change {turn : Turns.Event Sensors GearCommand} {t : Robot K} (holds : Holds s)
    (change : Turns.Change GearCommand.behaviour s turn t) : Holds t := by
  cases change with
  | idle free begins group => exact ⟨holds.dark, holds.motor⟩
  | begins free next input => exact holds_init holds free _
  | @goes c input current unfinished =>
    obtain ⟨intake, loaded⟩ := isFinished_kept c s.resource input
    constructor
    · exact fun loading => loaded.trans (holds.dark loading)
    · intro moves
      change ((c.isFinished input s.resource).1.intake).setpoint ≠ 0 at moves
      rw [intake] at moves
      exact holds.motor moves
  | finishes current finished => exact holds_finish holds current (isFinished_kept _ _ _).1 _
  | interrupted current group input => exact holds_finish holds current rfl _

theorem holds_step (holds : Holds s) (e : Event) : Holds (s.step e) :=
  holds_change holds (Turns.step_change GearCommand.behaviour s e.turn)

/-- What the light may do at an event: it goes on or off as it should. -/
def LightTrue (s : Robot K) (e : Event) (t : Robot K) : Prop :=
  (s.resource.loaded = false → t.resource.loaded = true →
      s.ends e = some .loadGear ∧ e.now.isLoadLimitSwitchClosed = true) ∧
    (s.resource.loaded = true → t.resource.loaded = false → s.begins e = some .loadGear ∨
      (s.ends e = some .deployGear ∧ e.now.isLoadLimitSwitchClosed = false))

theorem truthful_iff (holds : Holds s) (e : Event) : Truthful s e ↔ LightTrue s e (s.step e) :=
  ⟨fun truthful => ⟨truthful.becomesTrue, truthful.becomesFalse⟩,
    fun light => ⟨(holds_step holds e).motor, light.1, light.2⟩⟩

theorem light_kept {e : Event} {t : Robot K} (same : t.resource.loaded = s.resource.loaded) :
    LightTrue s e t := by
  constructor
  · intro off on
    rw [same, off] at on
    cases on
  · intro on off
    rw [same, on] at off
    cases off

/-- Stepped, a command ends only where the light is right. -/
theorem light_run {now : Sensors} {t : Robot K}
    (change : Turns.Change GearCommand.behaviour s (.run now) t) : LightTrue s (.run now) t := by
  cases change with
  | idle => exact light_kept rfl
  | @begins c rest free next =>
    by_cases loading : c = .loadGear
    · subst loading
      have begins : s.begins (.run now) = some .loadGear := by
        simp [Robot.begins, Event.turn, Turns.State.begins, free, next]
      exact ⟨fun _ on => absurd on Bool.false_ne_true, fun _ _ => .inl begins⟩
    · exact light_kept (init_loaded.trans (if_neg loading))
  | goes => exact light_kept (isFinished_kept _ _ _).2
  | @finishes c _ current finished =>
    have ends : s.ends (.run now) = some c := by
      simp only [Robot.ends, Event.turn, Turns.State.ends, current, Option.filter_some, finished,
        if_true]
    cases c with
    | loadGear => exact ⟨fun _ _ => ⟨ends, finished⟩, fun _ off => absurd off.symm Bool.false_ne_true⟩
    | deployGear =>
      have isOpen : now.isLoadLimitSwitchClosed = false := by
        rw [← Bool.not_eq_true']
        exact finished
      exact ⟨fun _ on => absurd on Bool.false_ne_true, fun _ _ => .inr ⟨ends, isOpen⟩⟩
    | closeClamp | pivotGear | releaseGear | startClear | stopClear =>
      exact light_kept rfl

/-- Interrupted, a command does to the light what it does when it finishes. -/
theorem light_preempt {e : Event} {group : List GearCommand} {t : Robot K}
    (turn : e.turn = .preempt group e.now) (holds : Holds s)
    (change : Turns.Change GearCommand.behaviour s (.preempt group e.now) t) :
    LightTrue s e t ↔ (s.current = some .loadGear → e.now.isLoadLimitSwitchClosed = true) ∧
      (s.current = some .deployGear → s.resource.loaded = true →
        e.now.isLoadLimitSwitchClosed = false) := by
  have ends : s.ends e = s.current := by
    rw [Robot.ends, turn]
    rfl
  have begins : s.begins e = none := by
    rw [Robot.begins, turn]
    rfl
  cases change with
  | idle free =>
    rw [free]
    exact iff_of_true (light_kept rfl) ⟨nofun, nofun⟩
  | @interrupted c current =>
    cases c with
    | loadGear =>
      simp [LightTrue, ends, begins, current, holds.dark current, GearCommand.behaviour,
        finish_loaded]
    | deployGear =>
      simp [LightTrue, ends, begins, current, GearCommand.behaviour, finish_loaded]
    | closeClamp | pivotGear | releaseGear | startClear | stopClear =>
      refine iff_of_true (light_kept rfl) ?_
      rw [current]
      exact ⟨nofun, nofun⟩

theorem truthful_iff_undisturbed (holds : Holds s) (e : Event) : Truthful s e ↔ Undisturbed s e := by
  rw [truthful_iff holds e]
  have change := Turns.step_change GearCommand.behaviour s e.turn
  cases e with
  | start activated now => exact light_preempt rfl holds change
  | cancel now => exact light_preempt rfl holds change
  | run now => exact iff_of_true (light_run change) trivial

/-- The intake and the light behave through a whole run of activations exactly
when no event of it disturbs a command that loads or deploys. -/
theorem indicator_truthful_iff (settings : Settings K) (release : ReleaseGear) (events : List Event) :
    Along Robot.step Truthful (Robot.initial settings release) events ↔
      Along Robot.step Undisturbed (Robot.initial settings release) events := by
  apply along_congr (I := Holds)
  · exact fun s e holds _ => holds_step holds e
  · exact fun s e holds => truthful_iff_undisturbed holds e
  · exact holds_initial settings release

/-- Loading, interrupted with the switch open, turns the light on. -/
theorem interrupted_loading_lights :
    let start : Robot ℤ := Robot.initial ⟨12, 8, 1000⟩ ⟨{}, 0, 0⟩
    let isOpen : Sensors := ⟨0, 0, false⟩
    let events := [.start .loadGear isOpen, .run isOpen, .run isOpen, .cancel isOpen]
    (run Robot.step start events).resource.loaded = true ∧ ¬Along Robot.step Truthful start events := by
  intro start isOpen events
  refine ⟨by decide, ?_⟩
  rintro ⟨_, _, _, interrupted, _⟩
  exact absurd (interrupted.becomesTrue rfl rfl).2 (by decide)

end Steamworks.Gear
