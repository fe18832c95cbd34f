import Steamworks.Library.Activation

/-! Command scheduling over one resource, by the rules assumed of WPILib's scheduler.
In a run the triggers that fired, the last registered first, queue their commands.
The command that holds the resource is stepped, set up before its first step, and
ended where it says it is finished. Queued commands then take the resource in order;
each interrupts the holder, or is dropped where that refuses. -/
namespace Library.Scheduler
open Library.Activation

variable {S I C B : Type*}

/-- A command over the resource, whether it lets go of it, and the commands its
end starts. -/
structure Behaviour (S I C : Type*) extends Command S I where
  interruptible : Bool
  starts : List C

def Behaviour.Instant (b : Behaviour S I C) : Prop := ∀ input s, (b.isFinished input s).2 = true

/-- The command holding the resource, with whether it was stepped yet, and the
commands waiting for it. -/
structure State (S C : Type*) where
  resource : S
  current : Option (C × Bool)
  queue : List C

/-- One step of a command, which is set up on its first. -/
def Behaviour.run (b : Behaviour S I C) (input : I) (initialized : Bool) (resource : S) : S × Bool :=
  b.tick input (if initialized then resource else b.init input resource)

def stepCurrent (behaviour : C → Behaviour S I C) (input : I) (s : State S C) : State S C :=
  match s.current with
  | none => s
  | some (command, initialized) =>
      let (resource, finished) := (behaviour command).run input initialized s.resource
      if finished then
        ⟨(behaviour command).finish resource, none, s.queue ++ (behaviour command).starts⟩
      else ⟨resource, some (command, true), s.queue⟩

def offer (behaviour : C → Behaviour S I C) (s : State S C) (command : C) : State S C :=
  match s.current with
  | none => { s with current := some (command, false) }
  | some (holder, _) =>
      if (behaviour holder).interruptible then
        { s with resource := (behaviour holder).interrupted s.resource
                 current := some (command, false) }
      else s

def processQueue (behaviour : C → Behaviour S I C) (s : State S C) : State S C :=
  { s.queue.foldl (offer behaviour) s with queue := [] }

/-- One run of the scheduler, given the commands that triggers start. -/
def schedule (behaviour : C → Behaviour S I C) (started : List C) (input : I) (s : State S C) :
    State S C :=
  processQueue behaviour (stepCurrent behaviour input { s with queue := s.queue ++ started })

inductive Edge where
  | pressed
  | released

def Edge.occurs : Edge → Bool → Bool → Bool
  | .pressed, last, now => !last && now
  | .released, last, now => last && !now

structure Trigger (B C : Type*) where
  button : B
  edge : Edge
  command : C

/-- The commands of the triggers whose edge occurred, in reverse order of
registration. -/
def started (triggers : List (Trigger B C)) (last now : B → Bool) : List C :=
  triggers.reverse.filterMap fun t =>
    if t.edge.occurs (last t.button) (now t.button) then some t.command else none

variable {behaviour : C → Behaviour S I C} {input : I} {s : State S C}

theorem started_of_steady (triggers : List (Trigger B C)) (last : B → Bool) :
    started triggers last last = [] := by
  rw [started, List.filterMap_eq_nil_iff]
  intro trigger _
  cases trigger.edge <;> cases last trigger.button <;> rfl

/-- What stepping can do: nothing, the end of the holder, or one more step of it. -/
theorem stepCurrent_cases (behaviour : C → Behaviour S I C) (input : I) (s : State S C) :
    (s.current = none ∧ stepCurrent behaviour input s = s) ∨
      ∃ command initialized, s.current = some (command, initialized) ∧
        let polled := (behaviour command).run input initialized s.resource
        (polled.2 = true ∧ stepCurrent behaviour input s =
            ⟨(behaviour command).finish polled.1, none, s.queue ++ (behaviour command).starts⟩) ∨
          (polled.2 = false ∧
            stepCurrent behaviour input s = ⟨polled.1, some (command, true), s.queue⟩) := by
  cases holds : s.current with
  | none => exact .inl ⟨rfl, by simp only [stepCurrent, holds]⟩
  | some holder =>
    obtain ⟨command, initialized⟩ := holder
    refine .inr ⟨command, initialized, rfl, ?_⟩
    cases polled : ((behaviour command).run input initialized s.resource).2 with
    | true => exact .inl ⟨polled, by simp only [stepCurrent, holds, polled, if_true]⟩
    | false =>
      exact .inr ⟨polled, by simp only [stepCurrent, holds, polled, Bool.false_eq_true, if_false]⟩

theorem stepCurrent_queue (behaviour : C → Behaviour S I C) (input : I) (s : State S C) :
    ∃ commands, (stepCurrent behaviour input s).queue = s.queue ++ commands := by
  obtain ⟨_, same⟩ | ⟨command, initialized, _, ⟨_, ended⟩ | ⟨_, stepped⟩⟩ :=
    stepCurrent_cases behaviour input s
  · exact ⟨[], by rw [same, List.append_nil]⟩
  · exact ⟨_, by rw [ended]⟩
  · exact ⟨[], by rw [stepped, List.append_nil]⟩

/-- Where every command that refuses interruption is instant, the holder can be
interrupted once it was stepped. -/
theorem stepCurrent_interruptible (input : I) (s : State S C)
    (instant : ∀ command, (behaviour command).interruptible = false → (behaviour command).Instant)
    (holds : (stepCurrent behaviour input s).current = some (command, initialized)) :
    (behaviour command).interruptible = true := by
  by_contra refuses
  have finished := instant command (Bool.eq_false_of_not_eq_true refuses)
  obtain ⟨free, same⟩ | ⟨holder, _, _, ⟨_, ended⟩ | ⟨unfinished, stepped⟩⟩ :=
    stepCurrent_cases behaviour input s
  · rw [same, free] at holds
    contradiction
  · rw [ended] at holds
    contradiction
  · rw [stepped] at holds
    obtain rfl : holder = command := congrArg Prod.fst (Option.some.inj holds)
    exact Bool.noConfusion (unfinished.symm.trans (finished _ _))

/-- A holder that refuses keeps the resource through the whole queue. -/
theorem offer_refused (holds : s.current = some (command, initialized))
    (refuses : (behaviour command).interruptible = false) (queue : List C) :
    queue.foldl (offer behaviour) s = s := by
  induction queue with
  | nil => rfl
  | cons next rest ih =>
    have dropped : offer behaviour s next = s := by simp [offer, holds, refuses]
    rw [List.foldl_cons, dropped, ih]

theorem offer_free (free : ∀ holder initialized, s.current = some (holder, initialized) →
    (behaviour holder).interruptible = true) (command : C) :
    (offer behaviour s command).current = some (command, false) := by
  unfold offer
  split
  · rfl
  · rename_i holder initialized holds
    rw [if_pos (free holder initialized holds)]

/-- A command that refuses interruption and is started before any other takes
the resource, whoever holds it and whatever else is started in the same run. -/
theorem schedule_first
    (instant : ∀ command, (behaviour command).interruptible = false → (behaviour command).Instant)
    (empty : s.queue = []) (refuses : (behaviour command).interruptible = false)
    (rest : List C) :
    (schedule behaviour (command :: rest) input s).current = some (command, false) := by
  obtain ⟨commands, queue⟩ := stepCurrent_queue behaviour input
    { s with queue := s.queue ++ command :: rest }
  have taken := offer_free (fun _ _ holds => stepCurrent_interruptible input
    { s with queue := s.queue ++ command :: rest } instant holds) command
  unfold schedule processQueue
  rw [queue, empty, List.nil_append, List.cons_append, List.foldl_cons]
  rw [empty, List.nil_append] at taken
  rw [offer_refused taken refuses, taken]

/-- An instant command that starts nothing is gone after its first step. -/
theorem schedule_instant (input : I) (empty : s.queue = [])
    (holds : s.current = some (command, initialized))
    (instant : (behaviour command).Instant)
    (last : (behaviour command).starts = []) :
    schedule behaviour [] input s =
      ⟨(behaviour command).finish ((behaviour command).run input initialized s.resource).1,
        none, []⟩ := by
  have finished : ((behaviour command).run input initialized s.resource).2 = true := instant _ _
  simp only [schedule, stepCurrent, holds, empty, List.append_nil, finished, if_true, last,
    processQueue, List.foldl_nil]

theorem schedule_idle (behaviour : C → Behaviour S I C) (input : I) (empty : s.queue = [])
    (free : s.current = none) : schedule behaviour [] input s = s := by
  obtain ⟨resource, current, queue⟩ := s
  subst empty free
  rfl

/-- What holds of a resource and its holder whatever happens to a command: it
takes the resource, is stepped, ends by itself or is interrupted. -/
structure Preserved (behaviour : C → Behaviour S I C) (Holds : S → Option (C × Bool) → Prop) :
    Prop where
  taken : ∀ s command, Holds s none → Holds s (some (command, false))
  goes : ∀ s command initialized input, Holds s (some (command, initialized)) →
    ((behaviour command).run input initialized s).2 = false →
    Holds ((behaviour command).run input initialized s).1 (some (command, true))
  ends : ∀ s command initialized input, Holds s (some (command, initialized)) →
    ((behaviour command).run input initialized s).2 = true →
    Holds ((behaviour command).finish ((behaviour command).run input initialized s).1) none
  interrupted : ∀ s command initialized, Holds s (some (command, initialized)) →
    (behaviour command).interruptible = true → Holds ((behaviour command).interrupted s) none

section Preserved
variable {Holds : S → Option (C × Bool) → Prop} (preserved : Preserved behaviour Holds)
include preserved

theorem Preserved.offer (holds : Holds s.resource s.current) (command : C) :
    Holds (offer behaviour s command).resource (offer behaviour s command).current := by
  unfold Scheduler.offer
  cases current : s.current with
  | none =>
    rw [current] at holds
    exact preserved.taken _ _ holds
  | some holder =>
    obtain ⟨holder, initialized⟩ := holder
    rw [current] at holds
    cases interruptible : (behaviour holder).interruptible with
    | true =>
      simp only [interruptible, if_true]
      exact preserved.taken _ _ (preserved.interrupted _ _ _ holds interruptible)
    | false =>
      simp only [interruptible, Bool.false_eq_true, if_false, current]
      exact holds

theorem Preserved.stepCurrent (holds : Holds s.resource s.current) (input : I) :
    Holds (stepCurrent behaviour input s).resource (stepCurrent behaviour input s).current := by
  obtain ⟨_, same⟩ | ⟨command, initialized, current, step⟩ := stepCurrent_cases behaviour input s
  · rw [same]
    exact holds
  · rw [current] at holds
    rcases step with ⟨finished, ended⟩ | ⟨unfinished, stepped⟩
    · rw [ended]
      exact preserved.ends _ _ _ _ holds finished
    · rw [stepped]
      exact preserved.goes _ _ _ _ holds unfinished

theorem Preserved.schedule (holds : Holds s.resource s.current) (started : List C) (input : I) :
    Holds (schedule behaviour started input s).resource
      (schedule behaviour started input s).current := by
  have offers : ∀ (queue : List C) (s : State S C), Holds s.resource s.current →
      Holds (queue.foldl (Scheduler.offer behaviour) s).resource
        (queue.foldl (Scheduler.offer behaviour) s).current := by
    intro queue
    induction queue with
    | nil => exact fun _ holds => holds
    | cons next rest ih => exact fun s holds => ih _ (preserved.offer holds next)
  exact offers _ _
    (preserved.stepCurrent (s := { s with queue := s.queue ++ started }) holds input)

end Preserved

end Library.Scheduler
