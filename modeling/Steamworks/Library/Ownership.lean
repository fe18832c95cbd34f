import Mathlib

/-! Objects and who holds them. Every object is numbered as it is made, so one
that was deleted never comes back, and is held by at most one owner. -/
namespace Library.Ownership

variable {O : Type*}

structure Holding (O : Type*) where
  live : Finset ℕ
  created : ℕ
  held : O → Option ℕ

/-- Holders hold distinct live objects. -/
structure Owned (h : Holding O) : Prop where
  fresh : ∀ object ∈ h.live, object < h.created
  live : ∀ owner object, h.held owner = some object → object ∈ h.live
  apart : ∀ owner other object, h.held owner = some object → h.held other = some object →
    owner = other

/-- Made once, and deleted since. -/
def Dead (h : Holding O) (object : ℕ) : Prop := object < h.created ∧ object ∉ h.live

variable {h : Holding O} {object : ℕ}

theorem Owned.unheld (owned : Owned h) (owner : O) : h.held owner ≠ some h.created := by
  intro held
  have bound := owned.fresh _ (owned.live owner _ held)
  omega

variable [DecidableEq O]

namespace Holding

/-- The owner is given a new object. -/
def take (h : Holding O) (owner : O) : Holding O where
  live := insert h.created h.live
  created := h.created + 1
  held := Function.update h.held owner (some h.created)

/-- What the owner holds, if anything, is deleted. -/
def drop (h : Holding O) (owner : O) : Holding O where
  live := h.live \ (h.held owner).toFinset
  created := h.created
  held := Function.update h.held owner none

end Holding

theorem Owned.take (owned : Owned h) (owner : O) : Owned (h.take owner) := by
  refine ⟨?_, ?_, ?_⟩
  · intro object member
    rcases Finset.mem_insert.mp member with rfl | old
    · exact Nat.lt_succ_self _
    · exact (owned.fresh object old).trans (Nat.lt_succ_self _)
  · intro other object held
    by_cases same : other = owner
    · subst same
      simp only [Holding.take, Function.update_self, Option.some.injEq] at held
      exact Finset.mem_insert.mpr (.inl held.symm)
    · simp only [Holding.take, Function.update_of_ne same] at held
      exact Finset.mem_insert_of_mem (owned.live other object held)
  · intro left right object first second
    simp only [Holding.take, Function.update_apply] at first second
    split_ifs at first second with here there there
    · rw [here, there]
    · cases first
      exact absurd second (owned.unheld right)
    · cases second
      exact absurd first (owned.unheld left)
    · exact owned.apart left right object first second

theorem Owned.drop (owned : Owned h) (owner : O) : Owned (h.drop owner) := by
  have kept : ∀ other object, (h.drop owner).held other = some object →
      other ≠ owner ∧ h.held other = some object := by
    intro other object held
    simp only [Holding.drop, Function.update_apply] at held
    split_ifs at held with same
    exact ⟨same, held⟩
  refine ⟨?_, ?_, ?_⟩
  · intro object member
    exact owned.fresh object (Finset.mem_sdiff.mp member).1
  · intro other object held
    obtain ⟨different, held⟩ := kept other object held
    refine Finset.mem_sdiff.mpr ⟨owned.live other object held, ?_⟩
    intro deleted
    exact different (owned.apart other owner object held (Option.mem_toFinset.mp deleted))
  · intro left right object first second
    exact owned.apart left right object (kept left object first).2 (kept right object second).2

theorem Dead.take (dead : Dead h object) (owner : O) : Dead (h.take owner) object := by
  obtain ⟨made, deleted⟩ := dead
  refine ⟨made.trans (Nat.lt_succ_self _), ?_⟩
  intro member
  rcases Finset.mem_insert.mp member with rfl | old
  · omega
  · exact deleted old

theorem Dead.drop (dead : Dead h object) (owner : O) : Dead (h.drop owner) object :=
  ⟨dead.1, fun member => dead.2 (Finset.mem_sdiff.mp member).1⟩

theorem drop_dead (owned : Owned h) {owner : O} (held : h.held owner = some object) :
    Dead (h.drop owner) object := by
  refine ⟨owned.fresh object (owned.live owner object held), ?_⟩
  intro member
  exact (Finset.mem_sdiff.mp member).2 (Option.mem_toFinset.mpr held)

end Library.Ownership
