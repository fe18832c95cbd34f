import Mathlib

/-! Counting consecutive successes. The counter compares each reading with the
one before and starts over when the two are not related; it reaches a number
exactly when that many last comparisons succeeded. -/
namespace Library.Streak

variable {α : Type*} (related : α → α → Prop) [DecidableRel related]

/-- The reading to compare with next, and the successes so far. -/
def advance (s : α × ℕ) (reading : α) : α × ℕ :=
  (reading, if related s.1 reading then s.2 + 1 else 0)

def count (first : α) (readings : List α) : α × ℕ := readings.foldl (advance related) (first, 0)

theorem count_concat (first : α) (readings : List α) (reading : α) :
    count related first (readings ++ [reading]) =
      advance related (count related first readings) reading := by
  rw [count, List.foldl_concat]
  rfl

theorem count_last (first : α) (readings : List α) :
    (first :: readings).getLast? = some (count related first readings).1 := by
  induction readings using List.reverseRecOn with
  | nil => rfl
  | append_singleton readings reading ih =>
    rw [count_concat, ← List.cons_append, List.getLast?_concat]
    rfl

theorem le_count_iff (first : α) (readings : List α) (n : ℕ) :
    n ≤ (count related first readings).2 ↔
      n ≤ readings.length ∧ ((first :: readings).rtake (n + 1)).IsChain related := by
  induction readings using List.reverseRecOn generalizing n with
  | nil =>
    constructor
    · intro none
      obtain rfl := Nat.le_zero.mp none
      exact ⟨le_refl 0, by simp [List.rtake]⟩
    · exact And.left
  | append_singleton readings reading ih =>
    rw [count_concat, ← List.cons_append, List.rtake_concat_succ, List.length_append]
    cases n with
    | zero => simp [List.rtake]
    | succ n =>
      have last : ((first :: readings).rtake (n + 1)).getLast? =
          some (count related first readings).1 := by
        rw [← count_last related first readings, List.rtake, List.getLast?_drop, if_neg]
        rw [List.length_cons]
        omega
      rw [List.isChain_append, last]
      by_cases success : related (count related first readings).1 reading
      · simp [advance, success, ih n]
      · simp [advance, success]

end Library.Streak
