import Steamworks.Library.Activation

/-! Commands that take turns at one resource, by the rules assumed of WPILib's
scheduler and its command groups. The commands of a group come one after the other:
each is set up, stepped in later runs, and ended where it says it is finished.
Starting another group, or cancelling this one, interrupts the command that was set
up, and drops those to come, of which nothing is called. -/
namespace Library.Turns
open Library.Activation

variable {S I C : Type*}

/-- The command that was set up and did not end yet, those to come after it, and
all that were set up so far, newest first. -/
structure State (S C : Type*) where
  resource : S
  current : Option C
  waiting : List C
  begun : List C

/-- Either a group takes over, possibly of none, or the resource is run: the
next command is set up, or the current one stepped. -/
inductive Event (I C : Type*) where
  | preempt (group : List C) (input : I)
  | run (input : I)

namespace State
variable (behaviour : C → Command S I)

def close (s : State S C) (ending : Ending) : State S C :=
  match s.current with
  | none => s
  | some c => { s with resource := (behaviour c).close ending s.resource, current := none }

def run (s : State S C) (input : I) : State S C :=
  match s.current, s.waiting with
  | some c, _ =>
      let (resource, finished) := (behaviour c).tick input s.resource
      if finished then { s with resource := resource }.close behaviour .finished
      else { s with resource := resource }
  | none, [] => s
  | none, c :: rest => ⟨(behaviour c).init input s.resource, some c, rest, c :: s.begun⟩

def step (s : State S C) : Event I C → State S C
  | .preempt group _ => { s.close behaviour .interrupted with waiting := group }
  | .run input => s.run behaviour input

/-- The command the event sets up. -/
def begins (s : State S C) : Event I C → Option C
  | .preempt _ _ => none
  | .run _ => if s.current.isNone then s.waiting.head? else none

/-- The command the event ends. -/
def ends (s : State S C) : Event I C → Option C
  | .preempt _ _ => s.current
  | .run input => s.current.filter fun c => ((behaviour c).tick input s.resource).2

end State

/-- What an event does to the resource: nothing, or something of one command. -/
inductive Change (behaviour : C → Command S I) (s : State S C) : Event I C → State S C → Prop where
  | idle {e : Event I C} (free : s.current = none) (begins : s.begins e = none)
      (group : List C) : Change behaviour s e { s with waiting := group }
  | begins {c : C} {rest : List C} (free : s.current = none) (next : s.waiting = c :: rest)
      (input : I) : Change behaviour s (.run input)
        ⟨(behaviour c).init input s.resource, some c, rest, c :: s.begun⟩
  | goes {c : C} {input : I} (holds : s.current = some c)
      (unfinished : ((behaviour c).tick input s.resource).2 = false) : Change behaviour s (.run input)
        { s with resource := ((behaviour c).tick input s.resource).1 }
  | finishes {c : C} {input : I} (holds : s.current = some c)
      (finished : ((behaviour c).tick input s.resource).2 = true) : Change behaviour s (.run input)
        { s with
          resource := (behaviour c).finish ((behaviour c).tick input s.resource).1
          current := none }
  | interrupted {c : C} (holds : s.current = some c) (group : List C) (input : I) :
      Change behaviour s (.preempt group input)
        { s with
          resource := (behaviour c).interrupted s.resource
          current := none
          waiting := group }

variable {behaviour : C → Command S I} {s : State S C}

theorem step_change (behaviour : C → Command S I) (s : State S C) (e : Event I C) :
    Change behaviour s e (s.step behaviour e) := by
  cases e with
  | preempt group input =>
    cases holds : s.current with
    | none =>
      have same : s.close behaviour .interrupted = s := by simp only [State.close, holds]
      rw [State.step, same]
      exact .idle holds rfl group
    | some c =>
      have closed : s.close behaviour .interrupted =
          { s with resource := (behaviour c).interrupted s.resource, current := none } := by
        simp only [State.close, holds, Command.close]
      rw [State.step, closed]
      exact .interrupted holds group input
  | run input =>
    cases holds : s.current with
    | none =>
      cases next : s.waiting with
      | nil =>
        have same : s.step behaviour (.run input) = { s with waiting := s.waiting } := by
          simp only [State.step, State.run, holds, next]
        rw [same]
        exact .idle holds (by simp [State.begins, next]) s.waiting
      | cons c rest =>
        have begun : s.step behaviour (.run input) =
            ⟨(behaviour c).init input s.resource, some c, rest, c :: s.begun⟩ := by
          simp only [State.step, State.run, holds, next]
        rw [begun]
        exact .begins holds next input
    | some c =>
      cases finished : ((behaviour c).tick input s.resource).2 with
      | false =>
        have stepped : s.step behaviour (.run input) =
            { s with resource := ((behaviour c).tick input s.resource).1 } := by
          simp only [State.step, State.run, holds, finished, Bool.false_eq_true, if_false]
        rw [stepped]
        exact .goes holds finished
      | true =>
        have ended : s.step behaviour (.run input) =
            { s with
              resource := (behaviour c).finish ((behaviour c).tick input s.resource).1
              current := none } := by
          simp only [State.step, State.run, holds, finished, if_true, State.close, Command.close]
        rw [ended]
        exact .finishes holds finished

/-- A group that takes over is what waits, and the first of it no longer once it
is set up. -/
theorem step_waiting (behaviour : C → Command S I) (s : State S C) (e : Event I C) :
    (s.step behaviour e).waiting = match e with
      | .preempt group _ => group
      | .run _ => if s.current.isNone then s.waiting.tail else s.waiting := by
  cases e with
  | preempt group input => rfl
  | run input =>
    obtain ⟨resource, _ | current, waiting, begun⟩ := s
    · cases waiting <;> rfl
    · simp only [State.step, State.run, Option.isNone_some, Bool.false_eq_true, if_false]
      split_ifs <;> rfl

end Library.Turns
