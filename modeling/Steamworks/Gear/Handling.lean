import Steamworks.Gear.Indicator

/-! What holds a gear while it is handled. Whatever command takes over from
another at whatever moment, the clamp lets go only while a gear is released, and
the pivot is raised only with the clamp shut. -/
namespace Steamworks.Gear
open Library Library.Activation Library.Run

set_option linter.unusedSectionVars false

variable {K : Type*} [Zero K] [Neg K]

def Loading.clamp (g : Loading K) : Clamp := g.release.gear.clamp

def Loading.pivot (g : Loading K) : Talon ℤ := g.release.gear.pivot

/-- In what is still to come the pivot is raised only after the clamp closed. -/
def Planned (waiting : List GearCommand) : Prop :=
  ∀ front c back, waiting = front ++ c :: .pivotGear :: back → c = .closeClamp

/-- The clamp and the photo switch are as the current command needs them, and a
pivot that is to be raised next finds the clamp shut. -/
structure Handled (s : Robot K) : Prop where
  released : s.resource.clamp = .release ↔ s.current = some .releaseGear
  loading : s.current = some .loadGear →
    s.resource.clamp = .shut ∧ s.resource.normallyOpen = some true
  deploying : s.current = some .deployGear →
    s.resource.clamp = .stage ∧ s.resource.normallyOpen = some false
  closing : s.current = some .closeClamp ∨ s.current = some .pivotGear → s.resource.clamp = .shut
  next : s.waiting.head? = some .pivotGear →
    s.resource.clamp = .shut ∧ (s.current = none ∨ s.current = some .closeClamp)
  planned : Planned s.waiting

/-- What an event does to the pivot: nothing, or it is sent up with the clamp
shut, down with it released, or level as it is shut again. -/
def PivotMoves (s : Robot K) (e : Event) (t : Robot K) : Prop :=
  t.resource.pivot.sent = s.resource.pivot.sent ∨
    ∃ position, t.resource.pivot.sent = .set position :: s.resource.pivot.sent ∧
      ((position = s.resource.settings.pivotUpPosition ∧ s.begins e = some .pivotGear ∧
          s.resource.clamp = .shut ∧ t.resource.clamp = .shut) ∨
        (position = -800 ∧ s.begins e = some .releaseGear ∧ t.resource.clamp = .release) ∨
        (position = 0 ∧ s.ends e = some .releaseGear ∧ s.resource.clamp = .release ∧
          t.resource.clamp = .shut))

/-- After the event the clamp and the photo switch are as the current command
needs them, and the event moves the pivot only as they allow. -/
structure MovesSafely (s : Robot K) (e : Event) : Prop where
  released : (s.step e).resource.clamp = .release ↔ (s.step e).current = some .releaseGear
  loading : (s.step e).current = some .loadGear →
    (s.step e).resource.clamp = .shut ∧ (s.step e).resource.normallyOpen = some true
  deploying : (s.step e).current = some .deployGear →
    (s.step e).resource.clamp = .stage ∧ (s.step e).resource.normallyOpen = some false
  pivot : PivotMoves s e (s.step e)

section Commands
variable {c : GearCommand} {g : Loading K}

/-- Where a command leaves the clamp as it is set up. -/
theorem init_clamp (c : GearCommand) (g : Loading K) : (c.init g).clamp =
    match c with
    | .loadGear | .closeClamp => .shut
    | .deployGear => .stage
    | .releaseGear => .release
    | .pivotGear | .startClear | .stopClear => g.clamp := by
  cases c with
  | pivotGear =>
    simp only [GearCommand.init, Loading.clamp, Loading.onLoader, GearLoader.pivotUp]
    split_ifs <;> rfl
  | _ => rfl

theorem isFinished_loader (c : GearCommand) (g : Loading K) (now : Sensors) :
    (c.isFinished now g).1.clamp = g.clamp ∧ (c.isFinished now g).1.pivot = g.pivot ∧
      (c.isFinished now g).1.normallyOpen = g.normallyOpen := by
  cases c with
  | releaseGear =>
    obtain ⟨_, step⟩ | ⟨_, step⟩ := isFinished_cases now.pivotPosition g.release <;>
      simp [GearCommand.isFinished, Loading.clamp, Loading.pivot, step]
  | _ => exact ⟨rfl, rfl, rfl⟩

theorem finish_clamp (c : GearCommand) (g : Loading K) :
    (c.finish g).clamp = if c = .releaseGear then .shut else g.clamp := by
  cases c <;> rfl

/-- A command as it is set up sends the pivot nowhere, up, or down. -/
theorem init_pivot (c : GearCommand) (g : Loading K) :
    (c.init g).pivot.sent = g.pivot.sent ∨
      (c = .pivotGear ∧ (c.init g).pivot.sent =
        .set g.settings.pivotUpPosition :: g.pivot.sent) ∨
      (c = .releaseGear ∧ (c.init g).pivot.sent = .set (-800) :: g.pivot.sent) := by
  cases c with
  | pivotGear =>
    simp only [GearCommand.init, Loading.pivot, Loading.onLoader, GearLoader.pivotUp]
    split_ifs with other
    · exact .inl rfl
    · exact .inr (.inl ⟨trivial, rfl⟩)
  | releaseGear => exact .inr (.inr ⟨rfl, rfl⟩)
  | loadGear | deployGear | closeClamp | startClear | stopClear => exact .inl rfl

theorem finish_pivot (c : GearCommand) (g : Loading K) :
    (c.finish g).pivot.sent = g.pivot.sent ∨
      (c = .releaseGear ∧ (c.finish g).pivot.sent = .set 0 :: g.pivot.sent) := by
  cases c with
  | releaseGear => exact .inr ⟨rfl, rfl⟩
  | loadGear | deployGear | closeClamp | pivotGear | startClear | stopClear => exact .inl rfl

end Commands

theorem planned_commands (activated : Activated) : Planned activated.commands := by
  intro front c back split
  cases activated with
  | stageGear =>
    rcases front with - | ⟨first, - | ⟨second, - | ⟨third, front⟩⟩⟩ <;>
      simp_all [Activated.commands]
  | loadGear | deployGear | releaseGear | startClear | stopClear =>
    have long := congrArg List.length split
    simp only [Activated.commands, List.length_append, List.length_cons, List.length_nil] at long
    omega

theorem head_commands (activated : Activated) : activated.commands.head? ≠ some .pivotGear := by
  cases activated <;> simp [Activated.commands]

theorem Planned.tail {c : GearCommand} {rest : List GearCommand} (planned : Planned (c :: rest)) :
    Planned rest ∧ (rest.head? = some .pivotGear → c = .closeClamp) := by
  constructor
  · rintro front d back rfl
    exact planned (c :: front) d back rfl
  · intro head
    obtain ⟨back, rfl⟩ := List.head?_eq_some_iff.mp head
    exact planned [] c back rfl

theorem planned_nil : Planned [] := by
  intro front c back split
  exact absurd (congrArg List.length split) (by simp)

variable {s : Robot K} {c : GearCommand}

theorem handled_initial (settings : Settings K) (release : ReleaseGear)
    (held : release.gear.clamp ≠ .release) : Handled (Robot.initial settings release) := by
  constructor
  · exact iff_of_false held nofun
  · exact nofun
  · exact nofun
  · rintro (closing | closing) <;> cases closing
  · exact nofun
  · exact planned_nil

theorem Handled.held (handled : Handled s) (other : s.current ≠ some .releaseGear) :
    s.resource.clamp ≠ .release :=
  fun released => other (handled.released.mp released)

/-- Set up, a command puts the clamp where it needs it, and the one that raises
the pivot finds it shut. -/
theorem handled_init (handled : Handled s) (free : s.current = none) {rest : List GearCommand}
    (next : s.waiting = c :: rest) :
    Handled (⟨c.init s.resource, some c, rest, c :: s.begun⟩ : Robot K) := by
  have planned := handled.planned
  rw [next] at planned
  obtain ⟨tail, head⟩ := planned.tail
  have held : s.resource.clamp ≠ .release := handled.held (by rw [free]; exact nofun)
  constructor
  · change (c.init s.resource).clamp = .release ↔ some c = some .releaseGear
    rw [init_clamp]
    cases c <;> simp [held]
  · intro loading
    obtain rfl := Option.some.inj loading
    exact ⟨rfl, rfl⟩
  · intro deploying
    obtain rfl := Option.some.inj deploying
    exact ⟨rfl, rfl⟩
  · rintro (closing | raising)
    · obtain rfl := Option.some.inj closing
      exact rfl
    · obtain rfl := Option.some.inj raising
      refine (init_clamp _ _).trans (handled.next ?_).1
      rw [next, List.head?_cons]
  · intro raise
    obtain rfl := head raise
    exact ⟨rfl, .inr rfl⟩
  · exact tail

/-- A command that ends leaves the clamp as it was, and shut if it released. -/
theorem finish_held (handled : Handled s) (current : s.current = some c) {g : Loading K}
    (same : g.clamp = s.resource.clamp) : (c.finish g).clamp ≠ .release := by
  rw [finish_clamp]
  split_ifs with releases
  · exact nofun
  · rw [same]
    apply handled.held
    rw [current]
    exact fun other => releases (Option.some.inj other)

theorem handled_finish (handled : Handled s) (current : s.current = some c) {g : Loading K}
    (same : g.clamp = s.resource.clamp) {waiting : List GearCommand} (planned : Planned waiting)
    (next : waiting.head? = some .pivotGear → s.resource.clamp = .shut) :
    Handled (⟨c.finish g, none, waiting, s.begun⟩ : Robot K) := by
  constructor
  · exact iff_of_false (finish_held handled current same) nofun
  · exact nofun
  · exact nofun
  · rintro (closing | closing) <;> cases closing
  · intro raise
    refine ⟨?_, .inl rfl⟩
    change (c.finish g).clamp = .shut
    rw [finish_clamp, same]
    split_ifs
    · rfl
    · exact next raise
  · exact planned

/-- Another group, of none or of commands of which none is to raise first. -/
theorem handled_preempt (handled : Handled s) {group : List GearCommand} {input : Sensors}
    {t : Robot K} (change : Turns.Change GearCommand.behaviour s (.preempt group input) t)
    (waits : t.waiting = group) (planned : Planned group)
    (head : group.head? ≠ some .pivotGear) : Handled t := by
  cases change with
  | idle free _ group =>
    obtain rfl := waits
    exact ⟨handled.released, handled.loading, handled.deploying, handled.closing,
      fun raise => absurd raise head, planned⟩
  | interrupted current =>
    exact handled_finish handled current rfl planned fun raise => absurd raise head

theorem handled_run (handled : Handled s) {now : Sensors} {t : Robot K}
    (change : Turns.Change GearCommand.behaviour s (.run now) t)
    (waits : t.waiting = if s.current.isNone then s.waiting.tail else s.waiting) : Handled t := by
  cases change with
  | idle free begins group =>
    obtain rfl : group = [] := by
      simp only [Turns.State.begins, free, Option.isNone_none, if_true,
        List.head?_eq_none_iff] at begins
      simpa [free, begins] using waits
    exact ⟨handled.released, handled.loading, handled.deploying, handled.closing, by simp,
      planned_nil⟩
  | begins free next => exact handled_init handled free next
  | @goes c _ current =>
    obtain ⟨clamp, -, switch⟩ := isFinished_loader c s.resource now
    refine ⟨?_, ?_, ?_, ?_, ?_, handled.planned⟩
    · exact (Eq.congr_left clamp).trans handled.released
    · exact fun loading => ⟨clamp.trans (handled.loading loading).1,
        switch.trans (handled.loading loading).2⟩
    · exact fun deploying => ⟨clamp.trans (handled.deploying deploying).1,
        switch.trans (handled.deploying deploying).2⟩
    · exact fun closing => clamp.trans (handled.closing closing)
    · exact fun raise => ⟨clamp.trans (handled.next raise).1, (handled.next raise).2⟩
  | @finishes c _ current =>
    exact handled_finish handled current (isFinished_loader c s.resource now).1 handled.planned
      fun raise => (handled.next raise).1

theorem handled_step (handled : Handled s) (e : Event) : Handled (s.step e) := by
  have change := Turns.step_change GearCommand.behaviour s e.turn
  have waits := Turns.step_waiting GearCommand.behaviour s e.turn
  cases e with
  | start activated now =>
    exact handled_preempt handled change waits (planned_commands activated)
      (head_commands activated)
  | cancel now => exact handled_preempt handled change waits planned_nil nofun
  | run now => exact handled_run handled change waits

/-- A command that ends moves the pivot only if it released the gear. -/
theorem finish_moves_pivot (handled : Handled s) (current : s.current = some c) {e : Event}
    (ends : s.ends e = some c) {g : Loading K}
    (pivot : g.pivot = s.resource.pivot) (waiting : List GearCommand) :
    PivotMoves s e ⟨c.finish g, none, waiting, s.begun⟩ := by
  rcases finish_pivot c g with still | ⟨rfl, level⟩
  · exact .inl (still.trans (congrArg Talon.sent pivot))
  · refine .inr ⟨0, level.trans (by rw [pivot]), .inr (.inr ⟨rfl, ends, ?_, finish_clamp _ _⟩)⟩
    exact handled.released.mpr current

theorem init_moves_pivot (handled : Handled s) (free : s.current = none) {now : Sensors}
    {rest : List GearCommand} (next : s.waiting = c :: rest) :
    PivotMoves s (.run now) ⟨c.init s.resource, some c, rest, c :: s.begun⟩ := by
  have begins : s.begins (.run now) = some c := by
    simp [Robot.begins, Event.turn, Turns.State.begins, free, next]
  rcases init_pivot c s.resource with still | ⟨rfl, up⟩ | ⟨rfl, down⟩
  · exact .inl still
  · have shut := (handled.next (by rw [next, List.head?_cons])).1
    exact .inr ⟨_, up, .inl ⟨rfl, begins, shut, (init_clamp _ _).trans shut⟩⟩
  · exact .inr ⟨_, down, .inr (.inl ⟨rfl, begins, init_clamp _ _⟩)⟩

theorem pivot_preempt (handled : Handled s) {e : Event} {group : List GearCommand} {t : Robot K}
    (ends : s.ends e = s.current)
    (change : Turns.Change GearCommand.behaviour s (.preempt group e.now) t) : PivotMoves s e t := by
  cases change with
  | idle => exact .inl rfl
  | interrupted current =>
    exact finish_moves_pivot handled current (ends.trans current) rfl _

theorem pivot_run (handled : Handled s) {now : Sensors} {t : Robot K}
    (change : Turns.Change GearCommand.behaviour s (.run now) t) : PivotMoves s (.run now) t := by
  cases change with
  | idle => exact .inl rfl
  | begins free next => exact init_moves_pivot handled free next
  | @goes c _ current => exact .inl (congrArg Talon.sent (isFinished_loader c _ now).2.1)
  | @finishes c _ current finished =>
    have ends : s.ends (.run now) = some c := by
      simp only [Robot.ends, Event.turn, Turns.State.ends, current, Option.filter_some, finished,
        if_true]
    exact finish_moves_pivot handled current ends (isFinished_loader c s.resource now).2.1 _

theorem pivot_moves (handled : Handled s) (e : Event) : PivotMoves s e (s.step e) := by
  have change := Turns.step_change GearCommand.behaviour s e.turn
  cases e with
  | start activated now => exact pivot_preempt handled rfl change
  | cancel now => exact pivot_preempt handled rfl change
  | run now => exact pivot_run handled change

/-- Whatever is started and cancelled when, the gear is let go only while it is
released, and the pivot moves only as the clamp allows. -/
theorem handled_safely (settings : Settings K) (release : ReleaseGear)
    (held : release.gear.clamp ≠ .release) (events : List Event) :
    Along Robot.step MovesSafely (Robot.initial settings release) events := by
  apply along_of_invariant (I := Handled)
  · exact fun s e handled => handled_step handled e
  · intro s e handled
    have after := handled_step handled e
    exact ⟨after.released, after.loading, after.deploying, pivot_moves handled e⟩
  · exact handled_initial settings release held

theorem handled_safely_interrupted :
    let start : Robot ℤ := Robot.initial ⟨12, 8, 1150⟩ ⟨{}, 0, 0⟩
    let now : Sensors := ⟨0, 0, false⟩
    let events : List Event :=
      [.start .releaseGear now, .run now, .start .stageGear now, .run now]
    (run Robot.step start events).resource.pivot.sent = [.set 0, .set (-800)] ∧
      Along Robot.step MovesSafely start events := by
  intro start now events
  have held : (⟨{}, 0, 0⟩ : ReleaseGear).gear.clamp ≠ .release := by
    intro released
    cases released
  exact ⟨by decide, handled_safely _ _ held events⟩

end Steamworks.Gear
