import Mathlib

/-! Runs of a deterministic machine over any finite sequence of events. A step
may depend on everything the event carries, so an environment's choices are
events too. `Along` states a property of every step of a run. -/
namespace Library.Run

variable {S E : Type*} {step : S → E → S} {P Q : S → E → Prop} {I : S → Prop}

def run (step : S → E → S) : S → List E → S
  | s, [] => s
  | s, e :: rest => run step (step s e) rest

/-- The step property holds at every event of the run, in the state before it. -/
def Along (step : S → E → S) (P : S → E → Prop) : S → List E → Prop
  | _, [] => True
  | s, e :: rest => P s e ∧ Along step P (step s e) rest

@[simp] theorem run_nil (s : S) : run step s [] = s := rfl

@[simp] theorem run_cons (s : S) (e : E) (rest : List E) :
    run step s (e :: rest) = run step (step s e) rest := rfl

theorem run_append (s : S) (front back : List E) :
    run step s (front ++ back) = run step (run step s front) back := by
  induction front generalizing s with
  | nil => rfl
  | cons e rest ih => exact ih (step s e)

@[simp] theorem run_concat (s : S) (events : List E) (e : E) :
    run step s (events ++ [e]) = step (run step s events) e := by
  rw [run_append, run_cons, run_nil]

theorem run_invariant (preserves : ∀ s e, I s → I (step s e)) (initial : I s)
    (events : List E) : I (run step s events) := by
  induction events generalizing s with
  | nil => exact initial
  | cons e rest ih => exact ih (preserves s e initial)

/-- What is observed of a run is the run of what is observed. -/
theorem run_map {T : Type*} {next : T → E → T} {observe : S → T}
    (commutes : ∀ s e, observe (step s e) = next (observe s) e) (s : S) (events : List E) :
    observe (run step s events) = run next (observe s) events := by
  induction events generalizing s with
  | nil => rfl
  | cons e rest ih => rw [run_cons, run_cons, ih, commutes]

theorem run_frame {observe : S → α} (preserves : ∀ s e, observe (step s e) = observe s)
    (s : S) (events : List E) : observe (run step s events) = observe s :=
  run_invariant (I := fun t => observe t = observe s)
    (fun t e same => (preserves t e).trans same) rfl events

/-- Where each event writes what is observed, or leaves it, a run leaves what was
written last. -/
theorem run_last_write (observe : S → α) (wrote : E → Option α)
    (writes : ∀ s e, observe (step s e) = (wrote e).getD (observe s)) (s : S) (events : List E) :
    observe (run step s events) = (events.reverse.findSome? wrote).getD (observe s) := by
  induction events generalizing s with
  | nil => rfl
  | cons e rest ih =>
    rw [run_cons, ih, writes, List.reverse_cons, List.findSome?_append, List.findSome?_singleton]
    cases rest.reverse.findSome? wrote with
    | none => rfl
    | some a => rfl

@[simp] theorem along_nil (s : S) : Along step P s [] := trivial

@[simp] theorem along_cons (s : S) (e : E) (rest : List E) :
    Along step P s (e :: rest) ↔ P s e ∧ Along step P (step s e) rest := Iff.rfl

theorem along_append (s : S) (front back : List E) :
    Along step P s (front ++ back) ↔ Along step P s front ∧ Along step P (run step s front) back := by
  induction front generalizing s with
  | nil => simp
  | cons e rest ih => rw [List.cons_append, along_cons, along_cons, run_cons, ih, and_assoc]

/-- What an invariant has every step meet holds along every run. -/
theorem along_of_invariant (preserves : ∀ s e, I s → I (step s e)) (meets : ∀ s e, I s → P s e)
    (initial : I s) (events : List E) : Along step P s events := by
  induction events generalizing s with
  | nil => trivial
  | cons e rest ih => exact ⟨meets s e initial, ih (preserves s e initial)⟩

theorem along_of_forall (always : ∀ s e, P s e) (events : List E) : Along step P s events :=
  along_of_invariant (I := fun _ => True) (fun _ _ _ => trivial) (fun s e _ => always s e) trivial
    events

theorem along_of_mem {events : List E} (always : ∀ s, ∀ e ∈ events, P s e) : Along step P s events := by
  induction events generalizing s with
  | nil => trivial
  | cons e rest ih =>
    exact ⟨always s e List.mem_cons_self, ih fun s e member => always s e (List.mem_cons_of_mem _ member)⟩

/-- What the steps that meet a property keep holds after a run that meets it. -/
theorem run_invariant_along (preserves : ∀ s e, I s → P s e → I (step s e)) (initial : I s)
    (events : List E) (meets : Along step P s events) : I (run step s events) := by
  induction events generalizing s with
  | nil => exact initial
  | cons e rest ih =>
    obtain ⟨first, later⟩ := meets
    exact ih (preserves s e initial first) later

/-- Where the steps that meet a property keep an invariant, and with it meet
another, a run that meets the one meets the other. -/
theorem along_imp (preserves : ∀ s e, I s → P s e → I (step s e))
    (implies : ∀ s e, I s → P s e → Q s e) (initial : I s) (events : List E)
    (meets : Along step P s events) : Along step Q s events := by
  induction events generalizing s with
  | nil => trivial
  | cons e rest ih =>
    obtain ⟨first, later⟩ := meets
    exact ⟨implies s e initial first, ih (preserves s e initial first) later⟩

/-- A relation that two machines keep, step by step, relates what they reach. -/
theorem run_related_along {T : Type*} {next : T → E → T} {R : S → T → Prop}
    (preserves : ∀ s t e, R s t → P s e → R (step s e) (next t e)) {s : S} {t : T}
    (initial : R s t) (events : List E) (meets : Along step P s events) :
    R (run step s events) (run next t events) := by
  induction events generalizing s t with
  | nil => exact initial
  | cons e rest ih =>
    obtain ⟨first, later⟩ := meets
    exact ih (preserves s t e initial first) later

/-- Two step properties that agree under an invariant agree along every run in
the domain, provided its steps that meet the first keep the invariant. -/
theorem along_congr_within {D : S → E → Prop} (preserves : ∀ s e, I s → D s e → P s e → I (step s e))
    (agree : ∀ s e, I s → D s e → (P s e ↔ Q s e)) (initial : I s) (events : List E)
    (domain : Along step D s events) : Along step P s events ↔ Along step Q s events := by
  induction events generalizing s with
  | nil => exact Iff.rfl
  | cons e rest ih =>
    obtain ⟨inside, later⟩ := domain
    rw [along_cons, along_cons, ← agree s e initial inside]
    exact and_congr_right fun met => ih (preserves s e initial inside met) later

theorem along_congr (preserves : ∀ s e, I s → P s e → I (step s e))
    (agree : ∀ s e, I s → (P s e ↔ Q s e)) (initial : I s) (events : List E) :
    Along step P s events ↔ Along step Q s events :=
  along_congr_within (fun s e kept _ => preserves s e kept) (fun s e kept _ => agree s e kept)
    initial events (along_of_forall (fun _ _ => trivial) events)

/-- All entries of a log that steps only add to are as wanted exactly when
those added at each step of the run are. -/
theorem forall_log_iff (log : S → List α) (extends_ : ∀ s e, log s ⊆ log (step s e))
    (wanted : α → Prop) (s : S) (events : List E) :
    (∀ a ∈ log (run step s events), wanted a) ↔
      (∀ a ∈ log s, wanted a) ∧ Along step (fun s e => ∀ a ∈ log (step s e), wanted a) s events := by
  induction events generalizing s with
  | nil => simp
  | cons e rest ih =>
    rw [run_cons, ih (step s e), along_cons]
    constructor
    · rintro ⟨first, later⟩
      exact ⟨fun a member => first a (extends_ s e member), first, later⟩
    · rintro ⟨_, first, later⟩
      exact ⟨first, later⟩

end Library.Run
