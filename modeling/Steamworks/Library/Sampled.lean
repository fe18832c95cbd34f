import Steamworks.Library.Activation
import Steamworks.Library.Run

/-! A stability counter that judges the sample it stored last. A tick may read a
new sample, and may judge; what it judges need not be what it read, so the
count can exceed the number of good samples read in a row. -/
namespace Library.Sampled
open Library.Activation Library.Run

/-- What a tick reads, and whether it was good; and whether it judges. -/
structure Tick where
  sample : Option Bool
  judges : Bool
  deriving DecidableEq

/-- Whether the stored sample was good, and the count. -/
structure Counter where
  stored : Bool
  count : ℕ
  deriving DecidableEq

def Tick.Good (t : Tick) : Prop := t.sample = some true

instance (t : Tick) : Decidable t.Good := inferInstanceAs (Decidable (_ = _))

def Counter.step (c : Counter) (t : Tick) : Counter :=
  let stored := t.sample.getD c.stored
  ⟨stored, if t.judges then (if stored then c.count + 1 else 0) else c.count⟩

/-- A tick finishes when it judges and the count then is what is required. -/
def Counter.finishes (required : ℕ) (c : Counter) (t : Tick) : Bool :=
  t.judges && (c.step t).count == required

/-- The tick reads a good sample, or leaves no count behind: it judges a stored
sample that is not good, or does not judge and there was none. -/
def Steady (c : Counter) (t : Tick) : Prop :=
  t.Good ∨ (if t.judges then t.sample.getD c.stored = false else c.count = 0)

instance (c : Counter) (t : Tick) : Decidable (Steady c t) := inferInstanceAs (Decidable (_ ∨ _))

/-- Each of the last ticks, as many as required, read a good sample. -/
def Fresh (required : ℕ) (ticks : List Tick) : Prop :=
  required ≤ ticks.length ∧ ∀ t ∈ ticks.rtake required, t.Good

instance (required : ℕ) (ticks : List Tick) : Decidable (Fresh required ticks) :=
  inferInstanceAs (Decidable (_ ∧ _))

theorem Fresh.concat (fresh : Fresh n ticks) (good : Tick.Good t) : Fresh (n + 1) (ticks ++ [t]) := by
  refine ⟨by simpa using fresh.1, ?_⟩
  rw [List.rtake_concat_succ]
  intro u member
  rcases List.mem_append.mp member with earlier | last
  · exact fresh.2 u earlier
  · rw [List.mem_singleton.mp last]
    exact good

theorem fresh_zero (ticks : List Tick) : Fresh 0 ticks := ⟨Nat.zero_le _, by simp⟩

theorem fresh_map (f : α → Tick) (xs : List α) (required : ℕ) :
    Fresh required (xs.map f) ↔ required ≤ xs.length ∧ ∀ x ∈ xs.rtake required, (f x).Good := by
  rw [Fresh, List.rtake, List.rtake, List.length_map, ← List.map_drop, List.forall_mem_map]

theorem Fresh.mono (fresh : Fresh n ticks) (le : m ≤ n) : Fresh m ticks := by
  refine ⟨le.trans fresh.1, fun t member => fresh.2 t ?_⟩
  rw [List.rtake] at member ⊢
  exact (List.drop_sublist_drop_left ticks (by omega)).subset member

/-- One steady tick: what is counted was read, before and so after. -/
theorem step_fresh {c : Counter} (fresh : Fresh c.count ticks) (steady : Steady c t) :
    Fresh (c.step t).count (ticks ++ [t]) := by
  rcases steady with good | settled
  · have next := fresh.concat good
    have stored : t.sample.getD c.stored = true := by rw [good, Option.getD_some]
    simp only [Counter.step, stored, if_true]
    split_ifs
    · exact next
    · exact next.mono (Nat.le_succ _)
  · have none : (c.step t).count = 0 := by
      unfold Counter.step
      split_ifs at settled with judges
      · simp [judges, settled]
      · simp [judges, settled]
    rw [none]
    exact fresh_zero _

theorem run_fresh (c : Counter) (start : c.count = 0) (ticks : List Tick)
    (steady : Along Counter.step Steady c ticks) : Fresh (run Counter.step c ticks).count ticks := by
  induction ticks using List.reverseRecOn with
  | nil =>
    rw [run_nil, start]
    exact fresh_zero []
  | append_singleton ticks t ih =>
    rw [along_append] at steady
    rw [run_concat]
    exact step_fresh (ih steady.1) steady.2.1

def Unfinished (required : ℕ) (c : Counter) (ticks : List Tick) : Prop :=
  Along Counter.step (fun c t => c.finishes required t = false) c ticks

def steadyTick : Tick := ⟨some true, true⟩

/-- A tick that is not steady leaves a count, though it read no good sample. -/
theorem unsteady_counts {c : Counter} (unsteady : ¬Steady c t) : ¬t.Good ∧ 0 < (c.step t).count := by
  obtain ⟨bad, kept⟩ := not_or.mp unsteady
  refine ⟨bad, ?_⟩
  unfold Counter.step
  split_ifs at kept with judges
  · have stored : t.sample.getD c.stored = true := by simpa using kept
    simp [judges, stored]
  · simpa [judges] using Nat.pos_of_ne_zero kept

theorem not_fresh (front rest : List Tick) (bad : ¬t.Good) (near : rest.length < n) :
    ¬Fresh n (front ++ t :: rest) := by
  intro fresh
  apply bad (fresh.2 t _)
  rw [List.rtake, List.drop_append_of_le_length (by simp; omega)]
  simp

theorem step_below {c : Counter} (below : c.count < required) (positive : 0 < required)
    (going : c.finishes required t = false) : (c.step t).count < required := by
  cases judges : t.judges with
  | false => simpa [Counter.step, judges] using below
  | true =>
    cases stored : t.sample.getD c.stored with
    | false => simpa [Counter.step, judges, stored] using positive
    | true =>
      simp [Counter.finishes, Counter.step, judges, stored] at going ⊢
      omega

/-- The command counts what its ticks read as the counter does. -/
structure Counts (c : Command S I) (required : ℕ) (inside : S → Prop) (reads : I → Tick)
    (observe : S → Counter) : Prop where
  init : ∀ i s, inside s → inside (c.init i s) ∧ observe (c.init i s) = ⟨(observe s).stored, 0⟩
  tick : ∀ i s, inside s → inside (c.tick i s).1 ∧
    observe (c.tick i s).1 = (observe s).step (reads i) ∧
    (c.tick i s).2 = (observe s).finishes required (reads i)

namespace Counts
variable {c : Command S I} {required : ℕ} {inside : S → Prop} {reads : I → Tick}
  {observe : S → Counter} {first : I} {s t : S} {inputs : List I}

/-- The run lemma: what is observed runs as the counter does, finished or not. -/
theorem observed (counts : Counts c required inside reads observe) (started : inside s) (first : I)
    (inputs : List I) : inside (run c.next (c.init first s) inputs) ∧
      observe (run c.next (c.init first s) inputs) =
        run Counter.step ⟨(observe s).stored, 0⟩ (inputs.map reads) := by
  induction inputs using List.reverseRecOn with
  | nil => exact counts.init first s started
  | append_singleton inputs input ih =>
    obtain ⟨kept, same⟩ := ih
    obtain ⟨next, counted, _⟩ := counts.tick input _ kept
    rw [run_concat, List.map_append, List.map_singleton, run_concat, ← same]
    exact ⟨next, counted⟩

theorem ticks (counts : Counts c required inside reads observe) (started : inside s)
    (ticks : Ticks c first s inputs t) : inside t ∧
      observe t = run Counter.step ⟨(observe s).stored, 0⟩ (inputs.map reads) := by
  obtain ⟨_, rfl⟩ := ticks_iff.mp ticks
  exact counts.observed started first inputs

theorem result (counts : Counts c required inside reads observe) (started : inside s) (first : I)
    (inputs : List I) (input : I) : (c.tick input (run c.next (c.init first s) inputs)).2 =
      (run Counter.step ⟨(observe s).stored, 0⟩ (inputs.map reads)).finishes required
        (reads input) := by
  obtain ⟨kept, same⟩ := counts.observed started first inputs
  rw [(counts.tick input _ kept).2.2, same]

theorem goes_iff (counts : Counts c required inside reads observe) (started : inside s) (first : I)
    (inputs : List I) : Along c.next c.Goes (c.init first s) inputs ↔
      Unfinished required ⟨(observe s).stored, 0⟩ (inputs.map reads) := by
  induction inputs using List.reverseRecOn with
  | nil => exact Iff.rfl
  | append_singleton inputs input ih =>
    rw [Unfinished, List.map_append, along_append, along_append, ih]
    refine and_congr Iff.rfl ?_
    rw [List.map_singleton, along_cons, along_cons, Command.Goes, counts.result started]
    exact Iff.rfl

/-- What the counter says can happen does happen to the command. -/
theorem ends (counts : Counts c required inside reads observe) (started : inside s) (first : I)
    (earlier : List I) (last : I)
    (going : Unfinished required ⟨(observe s).stored, 0⟩ (earlier.map reads))
    (finished : (run Counter.step ⟨(observe s).stored, 0⟩ (earlier.map reads)).finishes required
      (reads last) = true) : ∃ t, Ends c first s (earlier ++ [last]) .finished t := by
  refine finishes_iff.mpr ⟨(counts.goes_iff started first earlier).mpr going, ?_⟩
  rw [counts.result started]
  exact finished

theorem below (counts : Counts c required inside reads observe) (started : inside s)
    (positive : 0 < required) (ticks : Ticks c first s inputs t) : (observe t).count < required := by
  induction ticks with
  | init =>
    rw [(counts.init first s started).2]
    exact positive
  | @next inputs t u input earlier unfinished ih =>
    obtain ⟨_, observed, result⟩ := counts.tick input t (counts.ticks started earlier).1
    rw [unfinished] at observed result
    rw [observed]
    exact step_below ih positive result.symm

/-- By induction on what the count lacks: each steady tick adds one, and the
last of them finishes. -/
theorem fills (counts : Counts c required inside reads observe) (started : inside s) (good : I)
    (steady : reads good = steadyTick) (n : ℕ) :
    ∀ {inputs : List I} {t : S}, Ticks c first s inputs t → (observe t).count + (n + 1) = required →
      ∃ u, Ends c first s (inputs ++ List.replicate (n + 1) good) .finished u := by
  induction n with
  | zero =>
    intro inputs t ticks lacks
    obtain ⟨_, _, result⟩ := counts.tick good t (counts.ticks started ticks).1
    have reached : (observe t).finishes required steadyTick = true := by
      simp [Counter.finishes, Counter.step, steadyTick, lacks]
    rw [steady, reached] at result
    exact ⟨_, .finished ticks (Prod.ext rfl result)⟩
  | succ n ih =>
    intro inputs t ticks lacks
    obtain ⟨_, observed, result⟩ := counts.tick good t (counts.ticks started ticks).1
    have counted : ((observe t).step steadyTick).count = (observe t).count + 1 := rfl
    have going : (observe t).finishes required steadyTick = false := by
      simp only [Counter.finishes, counted, Bool.and_eq_false_iff, beq_eq_false_iff_ne]
      exact .inr (by omega)
    rw [steady] at observed result
    rw [going] at result
    obtain ⟨u, ends⟩ := ih (ticks.next (Prod.ext rfl result)) (by rw [observed, counted]; omega)
    rw [List.append_assoc, List.singleton_append, ← List.replicate_succ] at ends
    exact ⟨u, ends⟩

/-- The condition is exact: after a tick that breaks it, steady ticks alone let
the command finish too early. -/
theorem misfires (counts : Counts c required inside reads observe) (started : inside s)
    (positive : 0 < required) {input : I} (good : I) (steady : reads good = steadyTick)
    (ticks : Ticks c first s inputs t) (unsteady : ¬Steady (observe t) (reads input)) :
    ∃ n u, Ends c first s (inputs ++ input :: List.replicate n good) .finished u ∧
      ¬Fresh required ((inputs ++ input :: List.replicate n good).map reads) := by
  obtain ⟨bad, counted⟩ := unsteady_counts unsteady
  obtain ⟨_, observed, result⟩ := counts.tick input t (counts.ticks started ticks).1
  have early (n : ℕ) (near : n < required) :
      ¬Fresh required ((inputs ++ input :: List.replicate n good).map reads) := by
    rw [List.map_append, List.map_cons]
    exact not_fresh _ _ bad (by simpa using near)
  cases finished : (observe t).finishes required (reads input) with
  | true =>
    rw [finished] at result
    exact ⟨0, _, .finished ticks (Prod.ext rfl result), early 0 positive⟩
  | false =>
    rw [finished] at result
    have next := ticks.next (Prod.ext rfl result)
    have below := counts.below started positive next
    rw [observed] at below
    obtain ⟨n, lacks⟩ := Nat.exists_eq_add_of_lt below
    obtain ⟨u, ends⟩ := counts.fills started good steady n next (by rw [observed]; omega)
    rw [List.append_assoc, List.singleton_append] at ends
    exact ⟨n + 1, u, ends, early (n + 1) (by omega)⟩

/-- Finishing after steady ticks only, the command read good samples in its last
ticks, as many as it requires. -/
theorem finished_fresh (counts : Counts c required inside reads observe) (started : inside s)
    (ends : Ends c first s inputs .finished t)
    (steady : Along Counter.step Steady ⟨(observe s).stored, 0⟩ (inputs.map reads)) :
    Fresh required (inputs.map reads) := by
  cases ends with
  | @finished earlier before _ input ticks finished =>
    obtain ⟨kept, same⟩ := counts.ticks started ticks
    obtain ⟨_, _, result⟩ := counts.tick input before kept
    rw [finished, same] at result
    obtain ⟨_, reached⟩ := Bool.and_eq_true_iff.mp result.symm
    have fresh := run_fresh _ rfl _ steady
    rw [List.map_append, List.map_singleton, run_concat, beq_iff_eq.mp reached] at fresh
    rw [List.map_append, List.map_singleton]
    exact fresh

end Counts
end Library.Sampled
