import Mathlib

/-! Programs that need one entry after the other and stop at the first that they
cannot have: the fault of that entry says how they fail. -/
namespace Library.Required

universe u v

variable {Key Fault : Type*} {ε α β : Type u} {m : Type u → Type v} [Monad m]
  {fault : Key → Option Fault} {raises : Fault → ε → Prop}

/-- The program returns what was wanted if none of the entries has a fault, and
otherwise raises what the first fault calls for. -/
def Gathers (fault : Key → Option Fault) (raises : Fault → ε → Prop) (keys : List Key)
    (program : ExceptT ε m α) (wanted : α → Prop) : Prop :=
  match keys.findSome? fault with
  | none => ∃ a, program = pure a ∧ wanted a
  | some f => ∃ e, program = throw e ∧ raises f e

theorem gathers_pure {a : α} {wanted : α → Prop} (got : wanted a) :
    Gathers fault raises [] (pure a : ExceptT ε m α) wanted :=
  ⟨a, rfl, got⟩

theorem throw_bind [LawfulMonad m] (e : ε) (rest : α → ExceptT ε m β) :
    ((throw e : ExceptT ε m α) >>= rest) = throw e := by
  apply ExceptT.ext
  simp

/-- A program goes on with what its first part returned. -/
theorem gathers_bind [LawfulMonad m] {keys later : List Key} {program : ExceptT ε m α} {rest : α → ExceptT ε m β}
    {wanted : α → Prop} {done : β → Prop} (first : Gathers fault raises keys program wanted)
    (next : ∀ a, wanted a → Gathers fault raises later (rest a) done) :
    Gathers fault raises (keys ++ later) (program >>= rest) done := by
  unfold Gathers at first ⊢
  rw [List.findSome?_append]
  cases found : keys.findSome? fault with
  | none =>
    rw [found] at first
    obtain ⟨a, rfl, got⟩ := first
    rw [pure_bind, Option.none_or]
    exact next a got
  | some f =>
    rw [found] at first
    obtain ⟨e, rfl, raised⟩ := first
    exact ⟨e, throw_bind e rest, raised⟩

/-- One entry, read by itself. -/
theorem gathers_one {key : Key} {program : ExceptT ε m α} {wanted : α → Prop}
    (reads : match fault key with
      | none => ∃ a, program = pure a ∧ wanted a
      | some f => ∃ e, program = throw e ∧ raises f e) :
    Gathers fault raises [key] program wanted := by
  unfold Gathers
  rw [List.findSome?_singleton]
  exact reads

theorem gathers_ok {keys : List Key} {program : ExceptT ε m α} {wanted : α → Prop}
    (gathers : Gathers fault raises keys program wanted) (sound : keys.findSome? fault = none) :
    ∃ a, program = pure a ∧ wanted a := by
  rw [Gathers, sound] at gathers
  exact gathers

theorem gathers_error {keys : List Key} {program : ExceptT ε m α} {wanted : α → Prop} {f : Fault}
    (gathers : Gathers fault raises keys program wanted) (faulty : keys.findSome? fault = some f) :
    ∃ e, program = throw e ∧ raises f e := by
  rw [Gathers, faulty] at gathers
  exact gathers

end Library.Required
