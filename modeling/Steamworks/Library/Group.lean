import Steamworks.Library.Activation

/-! A group of commands, stepped by a library as one: its entries come one after
the other, and commands started beside them are stepped until they finish, or
until a later entry needs what they need. The group can be cancelled, also by a
command of its own, and then what it runs is interrupted. The library itself is a
parameter; what it does to a group is assumed of it here, rule by rule. -/
namespace Library.Group
open Library.Run Relation

variable {S I C : Type*}

/-- A command of a group; what ends it tells whether it asks to cancel the group. -/
structure Member (S I : Type*) where
  init : I → S → S
  execute : I → S → S
  isFinished : I → S → S × Bool
  finish : I → S → S × Bool
  interrupted : I → S → S × Bool

/-- A wait lasts until no command runs beside the entries, or its time is up. -/
inductive Entry (C : Type*) where
  | sequential (command : C)
  | parallel (command : C)
  | waitForChildren

/-- The commands, which of them need something in common, and when a wait that was
stepped before is to give up. -/
structure Crew (S I C : Type*) where
  member : C → Member S I
  conflicts : C → C → Bool
  expired : I → Bool

/-- The entries from the current one on, whether that one was stepped, and the
commands beside it, each with whether it was stepped. -/
structure State (S C : Type*) where
  resource : S
  running : Bool
  cancelled : Bool
  rest : List (Entry C)
  started : Bool
  children : List (C × Bool)

/-- Whether a command needs what the command of an entry needs. -/
def Crew.meets (g : Crew S I C) : Entry C → C → Bool
  | .sequential command, child | .parallel command, child => g.conflicts command child
  | .waitForChildren, _ => false

/-- A command that leaves its group alone. -/
def Member.ofCommand (c : Activation.Command S I) : Member S I where
  init := c.init
  execute := c.execute
  isFinished := c.isFinished
  finish _ s := (c.finish s, false)
  interrupted _ s := (c.interrupted s, false)

/-- A command on a part of the resource that reads a part of the input. -/
def Member.lift {T J : Type*} (get : S → T) (put : T → S → S) (reads : I → J) (m : Member T J) :
    Member S I where
  init i s := put (m.init (reads i) (get s)) s
  execute i s := put (m.execute (reads i) (get s)) s
  isFinished i s :=
    let (part, finished) := m.isFinished (reads i) (get s)
    (put part s, finished)
  finish i s :=
    let (part, asks) := m.finish (reads i) (get s)
    (put part s, asks)
  interrupted i s :=
    let (part, asks) := m.interrupted (reads i) (get s)
    (put part s, asks)

/-- A step of a command, which is set up on its first. -/
def Member.step (m : Member S I) (input : I) (initialized : Bool) (s : S) : S × Bool :=
  m.isFinished input (m.execute input (if initialized then s else m.init input s))

namespace State

def idle (resource : S) : State S C := ⟨resource, false, false, [], false, []⟩

/-- Before its first entry, with nothing beside it. -/
def begun (resource : S) (entries : List (Entry C)) : State S C :=
  ⟨resource, true, false, entries, false, []⟩

/-- A command ended with this. -/
def ended (s : State S C) (result : S × Bool) : State S C :=
  { s with resource := result.1, cancelled := s.cancelled || result.2 }

/-- Nothing is called of a command that was not stepped yet. -/
def remove (g : Crew S I C) (input : I) (s : State S C) (child : C × Bool) : State S C :=
  if child.2 then s.ended ((g.member child.1).interrupted input s.resource) else s

/-- The current command once it was stepped, which it is when the entries stop at it. -/
def current (s : State S C) : List (C × Bool) :=
  match s.rest with
  | .sequential command :: _ => if s.started then [(command, true)] else []
  | _ => []

def active (s : State S C) : List (C × Bool) := s.current ++ s.children

/-- What was stepped before was not cancelled, nor were its children left unstepped. -/
def Resumed (s : State S C) : Prop :=
  s.started = true → s.cancelled = false ∧ ∀ child ∈ s.children, child.2 = true

/-- The entries are gone through for this tick. -/
def Held (s : State S C) : Prop := s.rest = [] ∨ s.started = true

end State

/-- What can happen within a tick: a child is dropped for the entry that is next,
the entry is gone past or stays, or a child is stepped. -/
inductive Change (g : Crew S I C) (input : I) (s : State S C) : State S C → Prop where
  | dropped {before after : List (C × Bool)} {child : C × Bool} {entry : Entry C}
      {rest : List (Entry C)} (next : s.rest = entry :: rest)
      (meets : g.meets entry child.1 = true) (among : s.children = before ++ child :: after) :
      Change g input s { s.remove g input child with children := before ++ after }
  | launched {command : C} {rest : List (Entry C)} (next : s.rest = .parallel command :: rest)
      (free : ∀ child ∈ s.children, g.conflicts command child.1 = false) :
      Change g input s
        { s with rest, started := false, children := s.children ++ [(command, false)] }
  | passed {rest : List (Entry C)} (next : s.rest = .waitForChildren :: rest)
      (resumed : s.Resumed) (due : s.children = [] ∨ s.started = true ∧ g.expired input = true) :
      Change g input s { s with rest, started := false }
  | waits {rest : List (Entry C)} (next : s.rest = .waitForChildren :: rest) :
      Change g input s { s with started := true }
  | goes {command : C} {rest : List (Entry C)} (next : s.rest = .sequential command :: rest)
      (unfinished : ((g.member command).step input s.started s.resource).2 = false)
      (free : s.started = false → ∀ child ∈ s.children, g.conflicts command child.1 = false) :
      Change g input s { s with
        resource := ((g.member command).step input s.started s.resource).1
        started := true }
  | finishes {command : C} {rest : List (Entry C)} (next : s.rest = .sequential command :: rest)
      (resumed : s.Resumed)
      (finished : ((g.member command).step input s.started s.resource).2 = true)
      (free : s.started = false → ∀ child ∈ s.children, g.conflicts command child.1 = false) :
      Change g input s { s.ended ((g.member command).finish input
        ((g.member command).step input s.started s.resource).1) with rest, started := false }
  | childGoes {before after : List (C × Bool)} {child : C × Bool} (held : s.Held)
      (among : s.children = before ++ child :: after)
      (unfinished : ((g.member child.1).step input child.2 s.resource).2 = false) :
      Change g input s { s with
        resource := ((g.member child.1).step input child.2 s.resource).1
        children := before ++ (child.1, true) :: after }
  | childFinishes {before after : List (C × Bool)} {child : C × Bool} (held : s.Held)
      (among : s.children = before ++ child :: after)
      (finished : ((g.member child.1).step input child.2 s.resource).2 = true) :
      Change g input s { s.ended ((g.member child.1).finish input
        ((g.member child.1).step input child.2 s.resource).1) with children := before ++ after }

/-- A tick: it makes such changes until the entries are gone through and every
command beside them was stepped; the group runs on while something is left of it. -/
structure Ticked (g : Crew S I C) (input : I) (s t : State S C) : Prop where
  changes : ReflTransGen (Change g input) s { t with running := s.running }
  held : t.Held
  stepped : ∀ child ∈ t.children, child.2 = true
  running : t.running = !(t.rest.isEmpty && t.children.isEmpty)

/-- The end of a group that is broken off: the commands under way are interrupted,
in some order. -/
def Closed (g : Crew S I C) (input : I) (s t : State S C) : Prop :=
  ∃ order : List (C × Bool), order.Perm s.active ∧
    t = .idle (order.foldl (State.remove g input) s).resource

/-- What is done to a group that was started. -/
inductive Signal (I : Type*) where
  | tick (input : I)
  | cancel
  | interrupt (input : I)

/-- A library that runs groups of commands: what `Start` does, and what its
scheduler does later. -/
structure Runner where
  start : ∀ {S C : Type}, List (Entry C) → State S C → State S C
  signal : ∀ {S I C : Type}, Crew S I C → State S C → Signal I → State S C

/-- What is assumed of the library: WPILib's own rules for its `CommandGroup`. -/
structure Runner.Lawful (r : Runner) : Prop where
  /-- A group starts before its first entry. -/
  starts : ∀ {S C : Type} (entries : List (Entry C)) (s : State S C), s.running = false →
    r.start entries s = .begun s.resource entries
  /-- One that runs is not started again. -/
  restarts : ∀ {S C : Type} (entries : List (Entry C)) (s : State S C), s.running = true →
    r.start entries s = s
  /-- It is stepped at every tick, once all beside its entries were stepped before. -/
  ticks : ∀ {S I C : Type} (g : Crew S I C) (s : State S C) (input : I), s.running = true →
    s.cancelled = false → (∀ child ∈ s.children, child.2 = true) →
      Ticked g input s (r.signal g s (.tick input))
  /-- One that was cancelled is broken off at the next tick. -/
  unwinds : ∀ {S I C : Type} (g : Crew S I C) (s : State S C) (input : I), s.running = true →
    s.cancelled = true → Closed g input s (r.signal g s (.tick input))
  /-- To cancel it only marks it. -/
  cancels : ∀ {S I C : Type} (g : Crew S I C) (s : State S C), s.running = true →
    r.signal g s (.cancel : Signal I) = { s with cancelled := true }
  /-- Another command that needs what it needs breaks it off at once. -/
  interrupts : ∀ {S I C : Type} (g : Crew S I C) (s : State S C) (input : I), s.running = true →
    Closed g input s (r.signal g s (.interrupt input))
  /-- Nothing is called of one that does not run. -/
  rests : ∀ {S I C : Type} (g : Crew S I C) (s : State S C) (signal : Signal I),
    s.running = false → r.signal g s signal = s

/-- A group as a command of another, which does to it what the scheduler does. -/
def Runner.asMember {S I C : Type} (r : Runner) (g : Crew S I C) (entries : List (Entry C)) :
    Member (State S C) I where
  init _ s := r.start entries (.idle s.resource)
  execute input s := r.signal g s (.tick input)
  isFinished _ s := (s, !s.running)
  finish input s := (r.signal g s (.interrupt input), false)
  interrupted input s := (r.signal g s (.interrupt input), false)

/-- While the group does not run, anything may happen to the resource. -/
inductive Event (S I : Type*) where
  | start
  | signal (signal : Signal I)
  | outside (resource : S)

/-- One event, for a group of these entries. -/
def Runner.next {S I C : Type} (r : Runner) (g : Crew S I C) (entries : List (Entry C))
    (s : State S C) : Event S I → State S C
  | .start => r.start entries s
  | .signal signal => r.signal g s signal
  | .outside resource => if s.running then s else .idle resource

section
variable {α : Type*} {all before behind : List α} {a b c : α} {P : α → Prop}

theorem mem_of_among (among : all = before ++ a :: behind) : a ∈ all := by
  rw [among]
  exact List.mem_append_cons_self

theorem forall_mem_remove (among : all = before ++ a :: behind) (each : ∀ x ∈ all, P x) :
    ∀ x ∈ before ++ behind, P x := by
  rw [among, List.forall_mem_append, List.forall_mem_cons] at each
  exact List.forall_mem_append.mpr ⟨each.1, each.2.2⟩

theorem forall_mem_replace (among : all = before ++ a :: behind) (each : ∀ x ∈ all, P x)
    (new : P b) : ∀ x ∈ before ++ b :: behind, P x := by
  rw [among, List.forall_mem_append, List.forall_mem_cons] at each
  exact List.forall_mem_append.mpr ⟨each.1, List.forall_mem_cons.mpr ⟨new, each.2.2⟩⟩

theorem mem_remove (among : all = before ++ a :: behind) (member : c ∈ all) (other : c ≠ a) :
    c ∈ before ++ behind := by
  rw [among, List.mem_append, List.mem_cons] at member
  rw [List.mem_append]
  exact member.imp_right fun later => later.resolve_left other

theorem mem_replace (among : all = before ++ a :: behind) (member : c ∈ all) (other : c ≠ a) :
    c ∈ before ++ b :: behind := by
  rw [among, List.mem_append, List.mem_cons] at member
  rw [List.mem_append, List.mem_cons]
  exact member.imp_right fun later => .inr (later.resolve_left other)

end

section
variable {g : Crew S I C} {i : I} {s t : State S C}

@[simp] theorem rest_remove (child : C × Bool) : (s.remove g i child).rest = s.rest := by
  unfold State.remove
  split_ifs <;> rfl

@[simp] theorem started_remove (child : C × Bool) :
    (s.remove g i child).started = s.started := by
  unfold State.remove
  split_ifs <;> rfl

theorem change_running {t : State S C} (change : Change g i s t) : t.running = s.running := by
  cases change with
  | dropped =>
    change (s.remove g i _).running = s.running
    unfold State.remove
    split_ifs <;> rfl
  | launched | passed | waits | goes | finishes | childGoes | childFinishes => rfl

/-- What no command that is interrupted breaks, closing the group keeps. -/
theorem Closed.invariant {P : S → Prop} (closed : Closed g i s t)
    (interrupted : ∀ command i r, P r → P ((g.member command).interrupted i r).1)
    (holds : P s.resource) : P t.resource := by
  obtain ⟨order, -, rfl⟩ := closed
  change P (order.foldl (State.remove g i) s).resource
  induction order generalizing s with
  | nil => exact holds
  | cons child rest ih =>
    apply ih
    unfold State.remove
    split_ifs
    · exact interrupted _ _ _ holds
    · exact holds

theorem Closed.running (closed : Closed g i s t) : t.running = false := by
  obtain ⟨order, -, rfl⟩ := closed
  rfl

end

/-- What one event does. -/
inductive Effect (g : Crew S I C) (entries : List (Entry C)) (s : State S C) :
    Event S I → State S C → Prop where
  | stays (e : Event S I) : Effect g entries s e s
  | starts (free : s.running = false) : Effect g entries s .start (.begun s.resource entries)
  | ticks {t : State S C} (running : s.running = true) (going : s.cancelled = false) (input : I)
      (ticked : Ticked g input s t) : Effect g entries s (.signal (.tick input)) t
  | cancels (running : s.running = true) :
      Effect g entries s (.signal .cancel) { s with cancelled := true }
  | closes {t : State S C} (running : s.running = true) (signal : Signal I) (input : I)
      (closed : Closed g input s t) : Effect g entries s (.signal signal) t
  | outside (free : s.running = false) (resource : S) :
      Effect g entries s (.outside resource) (.idle resource)

theorem Runner.Lawful.effect {S I C : Type} {r : Runner} (lawful : r.Lawful) (g : Crew S I C)
    (entries : List (Entry C)) (s : State S C) (e : Event S I)
    (stepped : s.running = true → s.cancelled = false → ∀ child ∈ s.children, child.2 = true) :
    Effect g entries s e (r.next g entries s e) := by
  cases running : s.running with
  | false =>
    cases e with
    | start =>
      rw [Runner.next, lawful.starts entries s running]
      exact .starts running
    | outside resource =>
      simp only [Runner.next, running, Bool.false_eq_true, if_false]
      exact .outside running resource
    | signal signal =>
      rw [Runner.next, lawful.rests g s signal running]
      exact .stays _
  | true =>
    cases e with
    | start =>
      rw [Runner.next, lawful.restarts entries s running]
      exact .stays _
    | outside resource =>
      simp only [Runner.next, running, if_true]
      exact .stays _
    | signal signal =>
      cases signal with
      | tick input =>
        cases going : s.cancelled with
        | true => exact .closes running _ input (lawful.unwinds g s input running going)
        | false => exact .ticks running going input (lawful.ticks g s input running going
            (stepped running going))
      | cancel =>
        rw [Runner.next, lawful.cancels g s running]
        exact .cancels running
      | interrupt input => exact .closes running _ input (lawful.interrupts g s input running)

/-- What holds while a group is under way, given the resource its tick began with:
from its start on, and whatever happens within a tick. -/
structure Outline (g : Crew S I C) (entries : List (Entry C)) (Holds : S → State S C → Prop) :
    Prop where
  starts : ∀ resource, Holds resource (.begun resource entries)
  changes : ∀ base input s t, Change g input s t → Holds base s → Holds base t
  rebase : ∀ base s, Holds base s → Holds s.resource s

/-- Between two ticks: once cancelled, nothing is left to hold. -/
def Between (Holds : S → State S C → Prop) (s : State S C) : Prop :=
  s.running = true → s.cancelled = false →
    Holds s.resource s ∧ ∀ child ∈ s.children, child.2 = true

namespace Outline
variable {g : Crew S I C} {entries : List (Entry C)} {Holds : S → State S C → Prop}
  (outline : Outline g entries Holds)
include outline

theorem ticked {s t : State S C} (between : Between Holds s) (running : s.running = true)
    (going : s.cancelled = false) {input : I} (ticked : Ticked g input s t) :
    Holds s.resource { t with running := s.running } := by
  have kept : ∀ u, ReflTransGen (Change g input) s u → Holds s.resource u := by
    intro u chain
    induction chain with
    | refl => exact (between running going).1
    | tail _ change ih => exact outline.changes _ _ _ _ change ih
  exact kept _ ticked.changes

theorem effect {s t : State S C} (between : Between Holds s) {e : Event S I}
    (effect : Effect g entries s e t) : Between Holds t := by
  intro running going
  cases effect with
  | stays => exact between running going
  | starts => exact ⟨outline.starts s.resource, fun _ member => absurd member List.not_mem_nil⟩
  | ticks wasRunning wasGoing input ticked =>
    have holds := outline.ticked between wasRunning wasGoing ticked
    have same : { t with running := s.running } = t := by rw [wasRunning, ← running]
    rw [same] at holds
    exact ⟨outline.rebase _ _ holds, ticked.stepped⟩
  | cancels => cases going
  | closes _ _ _ closed => exact absurd (closed.running.symm.trans running) Bool.false_ne_true
  | outside => cases running

end Outline
end Library.Group
