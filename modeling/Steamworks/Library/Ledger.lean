import Steamworks.Library.Ownership

/-! A ledger of objects: for whom and as what each was made, and as what each
was deleted. While it balances, an owner has one object alive at most, and none
is deleted twice or as what it was not made. -/
namespace Library.Ownership

variable {O K : Type*}

/-- `kind` is what an owner takes the object it holds for. -/
structure Ledger (O K : Type*) where
  holding : Holding O
  kind : O → K
  made : ℕ → Option (O × K)
  deleted : List (K × ℕ)

namespace Ledger
variable [DecidableEq O]

def take (l : Ledger O K) (owner : O) (kind : K) : Ledger O K where
  holding := l.holding.take owner
  kind := Function.update l.kind owner kind
  made := Function.update l.made l.holding.created (some (owner, kind))
  deleted := l.deleted

def drop (l : Ledger O K) (owner : O) : Ledger O K where
  holding := l.holding.drop owner
  kind := l.kind
  made := l.made
  deleted := ((l.holding.held owner).map (l.kind owner, ·)).toList ++ l.deleted

end Ledger

structure Balanced (l : Ledger O K) : Prop where
  owned : Owned l.holding
  accounted : ∀ object ∈ l.holding.live, ∃ owner,
    l.made object = some (owner, l.kind owner) ∧ l.holding.held owner = some object
  dead : ∀ entry ∈ l.deleted, Dead l.holding entry.2
  matching : ∀ entry ∈ l.deleted, ∃ owner, l.made entry.2 = some (owner, entry.1)
  once : (l.deleted.map Prod.snd).Nodup

variable {l : Ledger O K} {owner : O} {object : ℕ}

theorem Balanced.made_of_held (balanced : Balanced l) (held : l.holding.held owner = some object) :
    l.made object = some (owner, l.kind owner) := by
  obtain ⟨other, made, also⟩ :=
    balanced.accounted object (balanced.owned.live owner object held)
  rw [made, balanced.owned.apart other owner object also held]

/-- A live object is held by whom it was made for, as what it was made. -/
theorem Balanced.holder (balanced : Balanced l) {kind : K} (live : object ∈ l.holding.live)
    (made : l.made object = some (owner, kind)) :
    l.holding.held owner = some object ∧ l.kind owner = kind := by
  obtain ⟨other, maker, held⟩ := balanced.accounted object live
  rw [made, Option.some.injEq, Prod.mk.injEq] at maker
  obtain ⟨rfl, rfl⟩ := maker
  exact ⟨held, rfl⟩

theorem Balanced.single (balanced : Balanced l) {other : ℕ} {kind otherKind : K}
    (live : object ∈ l.holding.live) (made : l.made object = some (owner, kind))
    (otherLive : other ∈ l.holding.live) (otherMade : l.made other = some (owner, otherKind)) :
    object = other := by
  have first := (balanced.holder live made).1
  have second := (balanced.holder otherLive otherMade).1
  exact Option.some.inj (first.symm.trans second)

theorem Balanced.undeleted (balanced : Balanced l) (live : object ∈ l.holding.live) :
    object ∉ l.deleted.map Prod.snd := by
  intro deleted
  obtain ⟨entry, member, rfl⟩ := List.mem_map.mp deleted
  exact (balanced.dead entry member).2 live

variable [DecidableEq O]

theorem mem_drop_deleted {entry : K × ℕ} (member : entry ∈ (l.drop owner).deleted) :
    (l.holding.held owner = some entry.2 ∧ l.kind owner = entry.1) ∨ entry ∈ l.deleted := by
  rcases List.mem_append.mp member with now | before
  · obtain ⟨object, held, rfl⟩ := Option.map_eq_some_iff.mp (Option.mem_toList.mp now)
    exact .inl ⟨held, rfl⟩
  · exact .inr before

/-- An owner that holds nothing is given a new object. -/
theorem Balanced.take (balanced : Balanced l) (empty : l.holding.held owner = none) (kind : K) :
    Balanced (l.take owner kind) := by
  have kept : ∀ old, old < l.holding.created → (l.take owner kind).made old = l.made old :=
    fun old before => Function.update_of_ne before.ne _ _
  refine ⟨balanced.owned.take owner, ?_, ?_, ?_, balanced.once⟩
  · intro object member
    rcases Finset.mem_insert.mp member with rfl | old
    · refine ⟨owner, ?_, Function.update_self _ _ _⟩
      simp only [Ledger.take, Function.update_self]
    · obtain ⟨other, made, held⟩ := balanced.accounted object old
      have apart : other ≠ owner := by
        rintro rfl
        rw [empty] at held
        cases held
      refine ⟨other, ?_, (Function.update_of_ne apart _ _).trans held⟩
      rw [kept object (balanced.owned.fresh object old), made]
      simp only [Ledger.take, Function.update_of_ne apart]
  · intro entry member
    exact (balanced.dead entry member).take owner
  · intro entry member
    rw [kept entry.2 (balanced.dead entry member).1]
    exact balanced.matching entry member

/-- What an owner holds is deleted as what the owner takes it for. -/
theorem Balanced.drop (balanced : Balanced l) (owner : O) : Balanced (l.drop owner) := by
  refine ⟨balanced.owned.drop owner, ?_, ?_, ?_, ?_⟩
  · intro object member
    obtain ⟨live, undropped⟩ := Finset.mem_sdiff.mp member
    obtain ⟨other, made, held⟩ := balanced.accounted object live
    have apart : other ≠ owner := by
      rintro rfl
      exact undropped (Option.mem_toFinset.mpr held)
    exact ⟨other, made, (Function.update_of_ne apart _ _).trans held⟩
  · intro entry member
    rcases mem_drop_deleted member with ⟨held, _⟩ | before
    · exact drop_dead balanced.owned held
    · exact (balanced.dead entry before).drop owner
  · intro entry member
    rcases mem_drop_deleted member with ⟨held, kind⟩ | before
    · exact ⟨owner, kind ▸ balanced.made_of_held held⟩
    · exact balanced.matching entry before
  · cases held : l.holding.held owner with
    | none =>
      rw [Ledger.drop, held]
      exact balanced.once
    | some object =>
      have undeleted := balanced.undeleted (balanced.owned.live owner object held)
      rw [Ledger.drop, held]
      exact List.nodup_cons.mpr ⟨undeleted, balanced.once⟩

/-- The owner's object is replaced by a new one. -/
theorem Balanced.replace (balanced : Balanced l) (owner : O) (kind : K) :
    Balanced ((l.drop owner).take owner kind) :=
  (balanced.drop owner).take (Function.update_self _ _ _) kind

end Library.Ownership
