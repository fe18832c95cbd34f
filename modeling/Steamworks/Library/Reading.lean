import Mathlib

/-! Interactive input: a source hands out one piece after another until there
is none yet, and a reader takes pieces from it. What is done with the pieces is
the same for two sources that hand out the same ones. -/
namespace Library.Reading

structure Source (S B : Type*) where
  next : S → Option (B × S)
  size : S → ℕ
  smaller : ∀ {s t : S} {piece : B}, next s = some (piece, t) → size t < size s

variable {S T B W : Type*}

/-- The pieces the source has to offer so far. -/
def Source.all (src : Source S B) (s : S) : List B :=
  match taken : src.next s with
  | none => []
  | some (piece, rest) =>
      have := src.smaller taken
      piece :: src.all rest
termination_by src.size s

inductive Source.Reaches (src : Source S B) : S → S → Prop where
  | refl (s : S) : src.Reaches s s
  | step {s t u : S} {piece : B} : src.next s = some (piece, t) → src.Reaches t u → src.Reaches s u

inductive Ended (S : Type*) where
  | returned (rest : S)
  | waiting
  | exited

def Ended.map (view : T → S) : Ended T → Ended S
  | .returned rest => .returned (view rest)
  | .waiting => .waiting
  | .exited => .exited

/-- A reader leaves the source where taking pieces from it leads. -/
structure Reader (src : Source S B) (W : Type*) where
  read : W → S → W × Ended S
  reaches : ∀ {w s rest}, (read w s).2 = .returned rest → src.Reaches s rest

variable {src : Source S B} {spec : Source T B}

theorem all_none {s : S} (nothing : src.next s = none) : src.all s = [] := by
  rw [Source.all]
  split
  · rfl
  · next taken => rw [nothing] at taken; cases taken

theorem all_some {s t : S} {piece : B} (taken : src.next s = some (piece, t)) :
    src.all s = piece :: src.all t := by
  rw [Source.all]
  split
  · next nothing => rw [nothing] at taken; cases taken
  · next other =>
    rw [taken] at other
    cases other
    rfl

theorem Source.Reaches.trans {s t u : S} (first : src.Reaches s t) (second : src.Reaches t u) :
    src.Reaches s u := by
  induction first with
  | refl => exact second
  | step taken _ ih => exact .step taken (ih second)

theorem Source.Reaches.size_le {s t : S} (reaches : src.Reaches s t) : src.size t ≤ src.size s := by
  induction reaches with
  | refl => exact le_refl _
  | step taken _ ih => exact ih.trans (src.smaller taken).le

/-- Where `fine` holds, the first source is the second as seen through `view`. -/
structure Simulation (src : Source S B) (spec : Source T B) where
  view : T → S
  fine : T → Prop
  next : ∀ {t}, fine t → src.next (view t) = (spec.next t).map fun taken => (taken.1, view taken.2)
  kept : ∀ {t u piece}, fine t → spec.next t = some (piece, u) → fine u

def Simulation.Agrees (sim : Simulation src spec) (r : Reader src W) (q : Reader spec W) : Prop :=
  ∀ w t, sim.fine t → r.read w (sim.view t) = ((q.read w t).1, (q.read w t).2.map sim.view)

variable (sim : Simulation src spec) {t u : T}

theorem Simulation.reaches (fine : sim.fine t) (reaches : spec.Reaches t u) : sim.fine u := by
  induction reaches with
  | refl => exact fine
  | step taken _ ih => exact ih (sim.kept fine taken)

theorem Simulation.next_none (fine : sim.fine t) (nothing : spec.next t = none) :
    src.next (sim.view t) = none := by
  rw [sim.next fine, nothing]
  rfl

theorem Simulation.next_some (fine : sim.fine t) {piece : B} (taken : spec.next t = some (piece, u)) :
    src.next (sim.view t) = some (piece, sim.view u) := by
  rw [sim.next fine, taken]
  rfl

theorem Simulation.all (fine : sim.fine t) : src.all (sim.view t) = spec.all t := by
  induction size : spec.size t using Nat.strong_induction_on generalizing t with
  | _ n ih =>
    cases taken : spec.next t with
    | none => rw [all_none taken, all_none (sim.next_none fine taken)]
    | some next =>
      obtain ⟨piece, u⟩ := next
      rw [all_some taken, all_some (sim.next_some fine taken),
        ih (spec.size u) (size ▸ spec.smaller taken) (sim.kept fine taken) rfl]

end Library.Reading
