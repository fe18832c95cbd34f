import Steamworks.Library.Circle

/-! The simple moving average of the last values from a joystick. The values are
kept in a circle between two pointers, which are offsets here; they coincide when
it is full, and their sum is cached. -/
namespace Steamworks.Oi
open Library.Circle Library.Run

variable {K : Type*}

structure SMA (K : Type*) where
  period : ℕ
  window : ℕ → K
  head : Option ℕ
  tail : Option ℕ
  total : K

namespace SMA

/-- The window is not initialised. -/
def construct [Zero K] (period : ℕ) (memory : ℕ → K) : SMA K := ⟨period, memory, none, none, 0⟩

/-- One further, or back to the start of the window. -/
def inc (s : SMA K) (p : ℕ) : ℕ := if s.period ≤ p + 1 then 0 else p + 1

def size (s : SMA K) : ℤ :=
  match s.head, s.tail with
  | some head, some tail =>
      if head = tail then s.period else ((s.period : ℤ) + tail - head) % s.period
  | _, _ => 0

variable [Field K]

/-- The part of the call that adds the value. -/
def add (s : SMA K) (val : K) : SMA K :=
  match s.head, s.tail with
  | some head, some tail =>
      let s := if head = tail then
          { s with total := s.total - s.window head, head := some (s.inc head) }
        else s
      { s with
        window := Function.update s.window tail val
        tail := some (s.inc tail)
        total := s.total + val }
  | _, _ =>
      { s with
        head := some 0
        window := Function.update s.window 0 val
        tail := some (s.inc 0)
        total := val }

def operatorCall (s : SMA K) (val : K) : SMA K × K := (s.add val, (s.add val).total / (s.add val).size)

/-- The values between the pointers, oldest first. -/
def held (s : SMA K) : List K :=
  match s.head with
  | none => []
  | some head => (List.range s.size.toNat).map fun i => s.window ((head + i) % s.period)

end SMA

open SMA

/-- The pointers and the sum are those of a window of values. -/
structure Represents [AddCommMonoid K] (s : SMA K) (b : Window K) : Prop where
  period : s.period = b.capacity
  window : s.window = b.cells
  head : s.head = some b.head
  tail : s.tail = some b.tail
  total : s.total = b.contents.sum
  filled : 0 < b.count

variable {s : SMA K} {b : Window K}

theorem inc_eq {p : ℕ} (inside : p < s.period) : s.inc p = (p + 1) % s.period := by
  unfold inc
  split_ifs with last
  · have whole : p + 1 = s.period := by omega
    rw [whole, Nat.mod_self]
  · rw [Nat.mod_eq_of_lt (by omega)]

variable [Field K]

theorem represents_size (represents : Represents s b) : s.size = b.count := by
  rw [size, represents.head, represents.tail, represents.period]
  simp only [Window.head_eq_tail_iff represents.filled]
  split_ifs with full
  · rw [Window.Full] at full
    rw [full]
  · have fits : b.count < b.capacity := Nat.lt_of_le_of_ne b.countLe full
    have ahead := b.headLt
    rw [Window.tail, Window.index]
    by_cases wraps : b.head + b.count < b.capacity
    · rw [Nat.mod_eq_of_lt wraps, Nat.cast_add]
      have sum : (b.capacity : ℤ) + (b.head + b.count) - b.head = b.count + b.capacity := by ring
      rw [sum, Int.add_emod_right, Int.emod_eq_of_lt (by omega) (by omega)]
    · have back : (b.head + b.count) % b.capacity = b.head + b.count - b.capacity := by
        rw [Nat.mod_eq_sub_mod (by omega), Nat.mod_eq_of_lt (by omega)]
      rw [back, Nat.cast_sub (by omega), Nat.cast_add]
      have sum : (b.capacity : ℤ) + (b.head + b.count - b.capacity) - b.head = b.count := by ring
      rw [sum, Int.emod_eq_of_lt (by omega) (by omega)]

theorem represents_held (represents : Represents s b) : s.held = b.contents := by
  rw [held, represents.head, represents_size represents, represents.window, represents.period,
    Int.toNat_natCast]
  rfl

/-- Adding the first value is pushing it into an empty window. -/
theorem represents_first {period : ℕ} (positive : 0 < period) (memory : ℕ → K) (val : K) :
    Represents ((construct period memory).add val) ((Window.empty period memory positive).push val) := by
  have room : ¬(Window.empty period memory positive).Full := positive.ne
  have start : (Window.empty period memory positive).tail = 0 := Nat.zero_mod period
  have next : (construct period memory).inc 0 = (0 + 1) % period := inc_eq positive
  refine ⟨rfl, ?_, ?_, ?_, ?_, ?_⟩
  · rw [Window.push_cells, start]
    rfl
  · rw [Window.push_head, if_neg room]
    rfl
  · rw [Window.tail_push, start]
    exact congrArg some next
  · rw [Window.contents_push_room val room]
    simp [Window.contents, Window.empty, add, construct]
  · rw [Window.push_count, if_neg room]
    exact Nat.zero_lt_succ _

/-- Adding any other is pushing it into the window there is. -/
theorem represents_add (represents : Represents s b) (val : K) : Represents (s.add val) (b.push val) := by
  obtain ⟨period, window, head, tail, total, filled⟩ := represents
  have inside : b.tail < s.period := by
    rw [period]
    exact b.index_lt b.count
  have next : s.inc b.tail = (b.push val).tail := by rw [inc_eq inside, Window.tail_push, period]
  by_cases full : b.Full
  · have same : b.head = b.tail := (Window.head_eq_tail_iff filled).mpr full
    have start : b.head < s.period := by
      rw [period]
      exact b.headLt
    have added : s.add val = ⟨s.period, Function.update s.window b.tail val, some (s.inc b.head),
        some (s.inc b.tail), s.total - s.window b.head + val⟩ := by
      simp only [add, head, tail, same, if_true]
      rfl
    rw [added]
    refine ⟨period, ?_, ?_, congrArg some next, ?_, ?_⟩
    · rw [Window.push_cells, window]
    · rw [Window.push_head, if_pos full, inc_eq start, period]
      rfl
    · rw [Window.contents_push_full val full, List.sum_append, List.sum_singleton, total, window,
        Window.contents_cons filled, List.sum_cons, add_sub_cancel_left, List.tail_cons]
    · rw [Window.push_count, if_pos full]
      exact filled
  · have apart : ¬b.head = b.tail := fun same => full ((Window.head_eq_tail_iff filled).mp same)
    have added : s.add val = ⟨s.period, Function.update s.window b.tail val, some b.head,
        some (s.inc b.tail), s.total + val⟩ := by
      simp only [add, head, tail, apart, if_false]
    rw [added]
    refine ⟨period, ?_, ?_, congrArg some next, ?_, ?_⟩
    · rw [Window.push_cells, window]
    · rw [Window.push_head, if_neg full]
    · rw [Window.contents_push_room val full, List.sum_append, List.sum_singleton, total]
    · rw [Window.push_count, if_neg full]
      exact Nat.succ_pos _

theorem represents_run {period : ℕ} (positive : 0 < period) (memory : ℕ → K) (values : List K)
    (val : K) : Represents (run add (construct period memory) (values ++ [val]))
      (run Window.push (Window.empty period memory positive) (values ++ [val])) := by
  induction values using List.reverseRecOn generalizing val with
  | nil => exact represents_first positive memory val
  | append_singleton values earlier ih =>
    rw [run_concat (e := val), run_concat (e := val)]
    exact represents_add (ih earlier) val

/-- The state after these values, and what the call with another returns. -/
structure Averaging (period : ℕ) (values : List K) (s : SMA K) : Prop where
  size : s.size = min period values.length
  head : ∀ p, s.head = some p → p < period
  tail : ∀ p, s.tail = some p → p < period
  held : s.held = values.rtake period
  total : s.total = s.held.sum
  call : ∀ val, (s.operatorCall val).2 =
    ((values ++ [val]).rtake period).sum / ((values ++ [val]).rtake period).length

/-- What is known of the state after some values. -/
theorem after_values {period : ℕ} (positive : 0 < period) (memory : ℕ → K) (values : List K) (val : K) :
    let s := run add (construct period memory) (values ++ [val])
    s.size = ((values ++ [val]).rtake period).length ∧ s.held = (values ++ [val]).rtake period ∧
      s.total = ((values ++ [val]).rtake period).sum := by
  intro s
  have represents : Represents s _ := represents_run positive memory values val
  have contents := contents_run memory positive (values ++ [val])
  refine ⟨?_, ?_, ?_⟩
  · rw [represents_size represents, ← Window.length_contents, contents]
  · rw [represents_held represents, contents]
  · rw [represents.total, contents]

theorem ends_inside {period : ℕ} (positive : 0 < period) (memory : ℕ → K) (values : List K) :
    ∀ p, (run add (construct period memory) values).head = some p ∨
      (run add (construct period memory) values).tail = some p → p < period := by
  rcases List.eq_nil_or_concat values with rfl | ⟨values, val, rfl⟩
  · rintro p (head | tail)
    · cases head
    · cases tail
  · rw [List.concat_eq_append]
    have represents := represents_run positive memory values val
    have capacity : (run Window.push (Window.empty period memory positive)
        (values ++ [val])).capacity = period := run_frame (fun b a => Window.push_capacity a) _ _
    rintro p (head | tail)
    · obtain rfl := Option.some.inj (represents.head.symm.trans head)
      exact (Window.headLt _).trans_eq capacity
    · obtain rfl := Option.some.inj (represents.tail.symm.trans tail)
      exact (Window.index_lt _ _).trans_eq capacity

/-- With any period and any values it returns the mean of the last of them. -/
theorem average_of_last (period : ℕ) (positive : 1 ≤ period) (memory : ℕ → K) (values : List K) :
    Averaging period values (run add (construct period memory) values) := by
  have inside := ends_inside positive memory values
  have call : ∀ val, ((run add (construct period memory) values).operatorCall val).2 =
      ((values ++ [val]).rtake period).sum / ((values ++ [val]).rtake period).length := by
    intro val
    obtain ⟨size, _, total⟩ := after_values positive memory values val
    rw [run_concat] at size total
    rw [operatorCall, size, total, Int.cast_natCast]
  rcases List.eq_nil_or_concat values with rfl | ⟨earlier, last, rfl⟩
  · refine ⟨?_, fun p head => inside p (.inl head), fun p tail => inside p (.inr tail), ?_, ?_, call⟩
    · simp [SMA.size, construct]
    · simp [SMA.held, construct, List.rtake]
    · simp [SMA.held, construct]
  · rw [List.concat_eq_append] at inside call ⊢
    obtain ⟨size, held, total⟩ := after_values positive memory earlier last
    refine ⟨?_, fun p head => inside p (.inl head), fun p tail => inside p (.inr tail), held, ?_, call⟩
    · rw [size, length_rtake, Nat.cast_min]
    · rw [total, held]

theorem average_of_last_three :
    Averaging 3 [1, 2, 4, 6] (run add (construct 3 fun _ => (0 : ℚ)) [1, 2, 4, 6]) :=
  average_of_last 3 (by decide) _ _

end Steamworks.Oi
