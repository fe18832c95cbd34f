import Steamworks.Library.Run

/-! A window on the last elements of a sequence, kept in a circle of cells. The
cells past the elements are unrestricted; once all are in use a new element takes
the place of the oldest. -/
namespace Library.Circle
open Library.Run

structure Window (α : Type*) where
  capacity : ℕ
  cells : ℕ → α
  head : ℕ
  count : ℕ
  headLt : head < capacity
  countLe : count ≤ capacity

namespace Window
variable {α : Type*} (b : Window α) (a : α)

theorem capacity_pos : 0 < b.capacity := Nat.zero_lt_of_lt b.headLt

/-- The cell of the element after so many. -/
def index (i : ℕ) : ℕ := (b.head + i) % b.capacity

theorem index_lt (i : ℕ) : b.index i < b.capacity := Nat.mod_lt _ b.capacity_pos

@[simp] theorem index_zero : b.index 0 = b.head := Nat.mod_eq_of_lt b.headLt

@[simp] theorem index_capacity : b.index b.capacity = b.head := by
  rw [index, Nat.add_mod_right, Nat.mod_eq_of_lt b.headLt]

theorem index_inj {i j : ℕ} (first : i < b.capacity) (second : j < b.capacity) :
    b.index i = b.index j ↔ i = j := by
  constructor
  · intro same
    have congruent : i ≡ j [MOD b.capacity] := Nat.ModEq.add_left_cancel' b.head same
    rw [Nat.ModEq, Nat.mod_eq_of_lt first, Nat.mod_eq_of_lt second] at congruent
    exact congruent
  · rintro rfl
    rfl

/-- The elements, oldest first. -/
def contents : List α := (List.range b.count).map fun i => b.cells (b.index i)

@[simp] theorem length_contents : b.contents.length = b.count := by simp [contents]

/-- The next cell to write: past the last element, or that of the oldest. -/
def tail : ℕ := b.index b.count

/-- A circle without elements. -/
def empty (capacity : ℕ) (cells : ℕ → α) (positive : 0 < capacity) : Window α where
  capacity := capacity
  cells := cells
  head := 0
  count := 0
  headLt := positive
  countLe := positive.le

def Full : Prop := b.count = b.capacity

instance : Decidable b.Full := inferInstanceAs (Decidable (_ = _))

theorem push_headLt : (if b.Full then b.index 1 else b.head) < b.capacity := by
  split_ifs
  · exact b.index_lt 1
  · exact b.headLt

theorem push_countLe : (if b.Full then b.count else b.count + 1) ≤ b.capacity := by
  split_ifs with full
  · exact b.countLe
  · exact Nat.lt_of_le_of_ne b.countLe full

def push : Window α where
  capacity := b.capacity
  cells := Function.update b.cells b.tail a
  head := if b.Full then b.index 1 else b.head
  count := if b.Full then b.count else b.count + 1
  headLt := b.push_headLt
  countLe := b.push_countLe

variable {b}

theorem push_cells : (b.push a).cells = Function.update b.cells b.tail a := rfl

@[simp] theorem push_capacity : (b.push a).capacity = b.capacity := rfl

theorem push_head : (b.push a).head = if b.Full then b.index 1 else b.head := rfl

theorem push_count : (b.push a).count = if b.Full then b.count else b.count + 1 := rfl

theorem contents_push_room (room : ¬b.Full) : (b.push a).contents = b.contents ++ [a] := by
  have fits : b.count < b.capacity := Nat.lt_of_le_of_ne b.countLe room
  have same : ∀ i, (b.push a).index i = b.index i := by simp [push, index, room]
  have more : (b.push a).count = b.count + 1 := by rw [push_count, if_neg room]
  rw [contents, more, List.range_succ, List.map_append, List.map_singleton]
  congr 1
  · apply List.map_congr_left
    intro i member
    have before : i < b.count := List.mem_range.mp member
    rw [same, push_cells, Function.update_of_ne]
    exact fun equal => before.ne ((b.index_inj (before.trans fits) fits).mp equal)
  · rw [same, push_cells]
    exact congrArg (fun x => [x]) (Function.update_self b.tail a b.cells)

/-- The oldest element makes room for the new one. -/
theorem contents_push_full (full : b.Full) : (b.push a).contents = b.contents.tail ++ [a] := by
  have whole : b.count = b.capacity := full
  obtain ⟨others, size⟩ : ∃ others, b.capacity = others + 1 :=
    ⟨b.capacity - 1, (Nat.succ_pred_eq_of_pos b.capacity_pos).symm⟩
  have tail : b.tail = b.index 0 := by rw [Window.tail, whole, index_capacity, index_zero]
  have next : ∀ i, (b.push a).index i = b.index (i + 1) := by
    intro i
    simp only [push, index, full, if_true, Nat.mod_add_mod]
    rw [Nat.add_assoc, Nat.add_comm 1 i]
  have kept : (b.push a).count = others + 1 := by rw [push_count, if_pos full, whole, size]
  have rest : b.contents.tail = (List.range others).map fun i => b.cells (b.index (i + 1)) := by
    rw [contents, whole, size, List.range_succ_eq_map, List.map_cons, List.tail_cons, List.map_map]
    rfl
  rw [contents, kept, rest, List.range_succ, List.map_append, List.map_singleton]
  congr 1
  · apply List.map_congr_left
    intro i member
    have inside : i + 1 < b.capacity := by
      have before := List.mem_range.mp member
      omega
    rw [next, push_cells, Function.update_of_ne]
    intro equal
    rw [tail] at equal
    exact Nat.succ_ne_zero i ((b.index_inj inside b.capacity_pos).mp equal)
  · rw [next, ← size, index_capacity, ← index_zero, ← tail, push_cells]
    exact congrArg (fun x => [x]) (Function.update_self b.tail a b.cells)

theorem tail_push : (b.push a).tail = (b.tail + 1) % b.capacity := by
  by_cases full : b.Full
  · have whole : b.count = b.capacity := full
    simp [tail, index, push, full, whole]
  · simp [tail, index, push, full, Nat.add_assoc]

/-- The ends coincide only where all cells are in use, if any is. -/
theorem head_eq_tail_iff (filled : 0 < b.count) : b.head = b.tail ↔ b.Full := by
  constructor
  · intro same
    by_contra room
    have fits : b.count < b.capacity := Nat.lt_of_le_of_ne b.countLe room
    rw [← index_zero] at same
    exact filled.ne ((b.index_inj b.capacity_pos fits).mp same)
  · intro full
    have whole : b.count = b.capacity := full
    rw [tail, whole, index_capacity]

theorem contents_cons (filled : 0 < b.count) : b.contents = b.cells b.head :: b.contents.tail := by
  obtain ⟨others, size⟩ : ∃ others, b.count = others + 1 :=
    ⟨b.count - 1, (Nat.succ_pred_eq_of_pos filled).symm⟩
  rw [contents, size, List.range_succ_eq_map, List.map_cons, List.tail_cons, index_zero]

end Window

open Window

variable {α : Type*} {capacity : ℕ}

theorem rtake_of_short {elements : List α} (short : elements.length ≤ capacity) :
    elements.rtake capacity = elements := by
  rw [List.rtake, Nat.sub_eq_zero_of_le short, List.drop_zero]

/-- The last of a list with one more element are those it had, the oldest left
out if they are too many. -/
theorem rtake_concat_of_long (positive : 0 < capacity) {elements : List α}
    (long : capacity ≤ elements.length) (a : α) :
    (elements ++ [a]).rtake capacity = (elements.rtake capacity).tail ++ [a] := by
  obtain ⟨others, rfl⟩ : ∃ others, capacity = others + 1 :=
    ⟨capacity - 1, (Nat.succ_pred_eq_of_pos positive).symm⟩
  rw [List.rtake_concat_succ, List.rtake, List.rtake, List.tail_drop]
  congr 2
  omega

theorem length_rtake (elements : List α) :
    (elements.rtake capacity).length = min capacity elements.length := by
  rw [List.rtake, List.length_drop]
  omega

/-- Whatever was pushed, the window holds the last of it. -/
theorem contents_run (cells : ℕ → α) (positive : 0 < capacity) (elements : List α) :
    (run push (empty capacity cells positive) elements).contents = elements.rtake capacity := by
  have same : ∀ elements : List α, (run push (empty capacity cells positive) elements).capacity =
      capacity := run_frame (fun b a => push_capacity a) _
  induction elements using List.reverseRecOn with
  | nil => simp [empty, contents, List.rtake]
  | append_singleton elements a ih =>
    have count := congrArg List.length ih
    rw [length_contents, length_rtake] at count
    rw [run_concat]
    by_cases full : (run push (empty capacity cells positive) elements).Full
    · have long : capacity ≤ elements.length := by
        rw [Full, same, count] at full
        omega
      rw [contents_push_full a full, ih, rtake_concat_of_long positive long]
    · have short : elements.length < capacity := by
        rw [Full, same, count] at full
        omega
      rw [contents_push_room a full, ih, rtake_of_short short.le, rtake_of_short]
      rw [List.length_append, List.length_singleton]
      exact short

end Library.Circle
