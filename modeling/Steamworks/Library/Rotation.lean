import Mathlib

/-! Places used in rotation, one at a time. A place is taken, held for a while
and given back; the next one taken is the one after, and after the last the
first again. While a place is held nothing else is granted. -/
namespace Library.Rotation

/-- How many places were taken since the last restart, and whether the last of
them is still held. -/
structure State where
  taken : ℕ := 0
  held : Bool := false

inductive Request where
  | take
  | release
  | restart

def step (s : State) : Request → State
  | .take => if s.held then s else ⟨s.taken + 1, true⟩
  | .release => { s with held := false }
  | .restart => if s.held then s else {}

/-- The place of the last one taken, among `n`; before the first of all, the
place is the one ahead of it. -/
def index (n : ℕ) : ℕ → ℤ
  | 0 => -1
  | k + 1 => (k % n : ℕ)

variable {n : ℕ}

theorem index_range (places : 0 < n) (taken : ℕ) : -1 ≤ index n taken ∧ index n taken < n := by
  cases taken with
  | zero =>
    rw [index]
    omega
  | succ k =>
    have inside := Nat.mod_lt k places
    rw [index]
    omega

/-- From the last place on, the rotation starts over. -/
theorem index_succ (places : 0 < n) (taken : ℕ) :
    index n (taken + 1) = (if index n taken = n - 1 then -1 else index n taken) + 1 := by
  cases taken with
  | zero =>
    have apart : (-1 : ℤ) ≠ n - 1 := by omega
    rw [index, index, if_neg apart, Nat.zero_mod]
    rfl
  | succ k =>
    have inside := Nat.mod_lt k places
    rw [index, index, Nat.add_mod_eq_ite]
    rcases Nat.lt_or_ge 1 n with several | one
    · rw [Nat.mod_eq_of_lt several]
      split_ifs <;> omega
    · obtain rfl : n = 1 := by omega
      simp [Nat.mod_one]

end Library.Rotation
