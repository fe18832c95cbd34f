import Steamworks.Library.Run

/-! A command's activation: it is set up, then stepped with what its sensors
read until it says it is finished, or is interrupted before some step. -/
namespace Library.Activation
open Library.Run

variable {S I : Type*}

structure Command (S I : Type*) where
  init : I → S → S
  execute : I → S → S
  isFinished : I → S → S × Bool
  finish : S → S
  interrupted : S → S

def Command.tick (c : Command S I) (input : I) (s : S) : S × Bool :=
  c.isFinished input (c.execute input s)

/-- The state after these steps of an activation that is still going on. -/
inductive Ticks (c : Command S I) (first : I) (s : S) : List I → S → Prop where
  | init : Ticks c first s [] (c.init first s)
  | next {inputs : List I} {t u : S} {input : I} : Ticks c first s inputs t →
      c.tick input t = (u, false) → Ticks c first s (inputs ++ [input]) u

inductive Ending where
  | finished
  | interrupted
  deriving DecidableEq

/-- The state in which an activation with these steps comes to this end. -/
inductive Ends (c : Command S I) (first : I) (s : S) : List I → Ending → S → Prop where
  | finished {inputs : List I} {t u : S} {input : I} : Ticks c first s inputs t →
      c.tick input t = (u, true) → Ends c first s (inputs ++ [input]) .finished u
  | interrupted {inputs : List I} {t : S} : Ticks c first s inputs t →
      Ends c first s inputs .interrupted t

def Command.close (c : Command S I) : Ending → S → S
  | .finished => c.finish
  | .interrupted => c.interrupted

variable {c : Command S I} {first : I} {s t : S}

/-- A relation between the steps so far and the state that starts with the
set-up and survives every unfinished step holds while the activation goes on. -/
theorem Ticks.invariant {holds : List I → S → Prop} (initial : holds [] (c.init first s))
    (preserves : ∀ inputs t input u, holds inputs t → c.tick input t = (u, false) →
      holds (inputs ++ [input]) u)
    (ticks : Ticks c first s inputs t) : holds inputs t := by
  induction ticks with
  | init => exact initial
  | @next inputs t u input earlier unfinished ih => exact preserves inputs t input u ih unfinished

/-- A relation every step keeps, the last one included, also holds at the end. -/
theorem Ends.invariant {holds : List I → S → Prop} (initial : holds [] (c.init first s))
    (preserves : ∀ inputs t input, holds inputs t → holds (inputs ++ [input]) (c.tick input t).1)
    (ends : Ends c first s inputs ending t) : holds inputs t := by
  have running : ∀ inputs t, Ticks c first s inputs t → holds inputs t := by
    intro inputs t ticks
    apply ticks.invariant initial
    intro earlier before input after kept unfinished
    have step := preserves earlier before input kept
    rw [unfinished] at step
    exact step
  cases ends with
  | @finished earlier before _ input ticks finished =>
    have step := preserves earlier before input (running earlier before ticks)
    rw [finished] at step
    exact step
  | interrupted ticks => exact running inputs t ticks

section Run
variable {inputs : List I} {input : I}

/-- The state after a step, finished or not. -/
def Command.next (c : Command S I) (s : S) (input : I) : S := (c.tick input s).1

/-- The step does not finish the activation. -/
def Command.Goes (c : Command S I) (s : S) (input : I) : Prop := (c.tick input s).2 = false

/-- An activation goes on as long as no step finishes it. -/
theorem ticks_iff : Ticks c first s inputs t ↔
    Along c.next c.Goes (c.init first s) inputs ∧ run c.next (c.init first s) inputs = t := by
  constructor
  · intro ticks
    induction ticks with
    | init => exact ⟨trivial, rfl⟩
    | @next inputs t u input earlier unfinished ih =>
      obtain ⟨going, rfl⟩ := ih
      rw [along_append, run_concat]
      exact ⟨⟨going, congrArg Prod.snd unfinished, trivial⟩, congrArg Prod.fst unfinished⟩
  · rintro ⟨going, rfl⟩
    induction inputs using List.reverseRecOn with
    | nil => exact .init
    | append_singleton inputs input ih =>
      rw [along_append] at going
      rw [run_concat]
      exact (ih going.1).next (Prod.ext rfl going.2.1)

theorem finishes_iff : (∃ t, Ends c first s (inputs ++ [input]) .finished t) ↔
    Along c.next c.Goes (c.init first s) inputs ∧
      (c.tick input (run c.next (c.init first s) inputs)).2 = true := by
  constructor
  · rintro ⟨t, ends⟩
    generalize whole : inputs ++ [input] = steps at ends
    cases ends with
    | @finished earlier before _ last ticks finished =>
      obtain ⟨rfl, same⟩ := List.append_inj' whole rfl
      obtain rfl := List.singleton_inj.mp same
      obtain ⟨going, rfl⟩ := ticks_iff.mp ticks
      exact ⟨going, congrArg Prod.snd finished⟩
  · rintro ⟨going, finished⟩
    exact ⟨_, .finished (ticks_iff.mpr ⟨going, rfl⟩) (Prod.ext rfl finished)⟩

end Run

end Library.Activation
