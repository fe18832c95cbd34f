import Mathlib

/-! A cursor over intervals laid end to end, moved by at most one interval at
each sample of a distance. It keeps up with samples that start below and rise
by less than the shortest interval, also where the ends are summed inexactly, as
long as no end falls to a sample that is short of it. -/
namespace Library.Cursor

variable {K : Type*} [AddCommGroup K] [LinearOrder K] (add : K → K → K)

/-- Where the first `k` intervals end. -/
def endOf (lengths : List K) (k : ℕ) : K := (lengths.take k).foldl add 0

/-- The number of intervals started, once the sample is seen. -/
def advance (lengths : List K) (k : ℕ) (sample : K) : ℕ :=
  if endOf add lengths k ≤ sample ∧ k < lengths.length then k + 1 else k

def started (lengths samples : List K) : ℕ := samples.foldl (advance add lengths) 0

/-- The sample lies in the last interval started, or beyond them all. -/
structure Active (lengths : List K) (sample : K) (k : ℕ) : Prop where
  started : 1 ≤ k
  within : k ≤ lengths.length
  begun : endOf add lengths (k - 1) ≤ sample
  ahead : sample < endOf add lengths k ∨ k = lengths.length

def Paced (lengths : List K) (sample next : K) : Prop :=
  sample ≤ next ∧ ∀ length ∈ lengths, next - sample < length

/-- What the sums keep of exact ones, for these samples. -/
structure Sums (lengths : List K) (Sample : K → Prop) : Prop where
  zero_add : ∀ length ∈ lengths, add 0 length = length
  lt_add : ∀ k (inside : k < lengths.length) sample next, Sample sample → Sample next →
    sample ≤ next → sample < endOf add lengths k → next - sample < lengths[k] →
      next < add (endOf add lengths k) lengths[k]

variable {add} {lengths : List K} {sample next : K} {k : ℕ}

omit [LinearOrder K] in
@[simp] theorem endOf_zero (lengths : List K) : endOf add lengths 0 = 0 := rfl

omit [LinearOrder K] in
theorem endOf_succ (inside : k < lengths.length) :
    endOf add lengths (k + 1) = add (endOf add lengths k) lengths[k] := by
  rw [endOf, List.take_add_one, List.getElem?_eq_getElem inside, List.foldl_append]
  rfl

theorem started_concat (lengths samples : List K) (sample : K) :
    started add lengths (samples ++ [sample]) =
      advance add lengths (started add lengths samples) sample := by
  simp [started]

theorem advance_cases (lengths : List K) (k : ℕ) (sample : K) :
    (advance add lengths k sample = k + 1 ∧ endOf add lengths k ≤ sample ∧ k < lengths.length) ∨
      (advance add lengths k sample = k ∧
        ¬(endOf add lengths k ≤ sample ∧ k < lengths.length)) := by
  unfold advance
  split_ifs with moves
  · exact .inl ⟨rfl, moves⟩
  · exact .inr ⟨rfl, moves⟩

/-- What carries over from one sample to the next: the first finds the cursor
unstarted at zero. -/
structure Near (add : K → K → K) (lengths : List K) (sample : K) (k : ℕ) : Prop where
  within : k ≤ lengths.length
  begun : endOf add lengths (k - 1) ≤ sample
  near : k = 0 ∧ sample = 0 ∨ sample < endOf add lengths k ∨ k = lengths.length

theorem Near.zero (lengths : List K) : Near add lengths 0 0 where
  within := Nat.zero_le _
  begun := le_refl 0
  near := .inl ⟨rfl, rfl⟩

theorem Active.near (active : Active add lengths sample k) : Near add lengths sample k :=
  ⟨active.within, active.begun, .inr active.ahead⟩

variable {Sample : K → Prop} (sums : Sums add lengths Sample)
include sums

theorem Near.advance (near : Near add lengths sample k) (nonempty : lengths ≠ [])
    (paced : Paced lengths sample next) (sampled : Sample sample) (samples : Sample next) :
    Active add lengths next (advance add lengths k next) := by
  obtain ⟨rising, short⟩ := paced
  rcases advance_cases lengths k next with ⟨moves, reached, inside⟩ | ⟨stays, below⟩
  · have step := short _ (List.getElem_mem inside)
    rw [moves]
    refine ⟨Nat.succ_pos k, inside, reached, .inl ?_⟩
    rw [endOf_succ inside]
    rcases near.near with ⟨rfl, rfl⟩ | behind
    · rw [endOf_zero, sums.zero_add _ (List.getElem_mem inside)]
      rwa [sub_zero] at step
    · exact sums.lt_add k inside _ _ sampled samples rising (behind.resolve_right inside.ne) step
  · have begun := near.begun.trans rising
    rw [stays]
    refine ⟨?_, near.within, begun, ?_⟩
    · -- an unstarted cursor is at zero, which every sample has reached
      by_contra unstarted
      obtain rfl : k = 0 := by omega
      exact below ⟨begun, List.length_pos_iff.mpr nonempty⟩
    · rcases near.within.lt_or_eq with inside | last
      · exact .inl (not_le.mp fun reached => below ⟨reached, inside⟩)
      · exact .inr last

/-- Whatever the number of samples, the last one lies in the interval the
cursor started last. -/
theorem active_of_paced (nonempty : lengths ≠ []) (samples : List K) (sample : K)
    (paced : (0 :: (samples ++ [sample])).IsChain (Paced lengths))
    (each : ∀ x ∈ 0 :: (samples ++ [sample]), Sample x) :
    Active add lengths sample (started add lengths (samples ++ [sample])) := by
  induction samples using List.reverseRecOn generalizing sample with
  | nil =>
    rw [started_concat]
    exact (Near.zero lengths).advance sums nonempty (List.isChain_pair.mp paced)
      (each 0 (by simp)) (each sample (by simp))
  | append_singleton samples last ih =>
    rw [List.append_assoc, List.singleton_append, ← List.cons_append,
      List.isChain_append_cons_cons] at paced
    have earlier : ∀ x ∈ 0 :: (samples ++ [last]), Sample x := by
      intro x member
      apply each x
      rw [← List.cons_append] at member ⊢
      exact List.mem_append_left _ member
    rw [started_concat]
    exact (ih last paced.1 earlier).near.advance sums nonempty paced.2.1
      (earlier last (by simp)) (each sample (by simp))

end Library.Cursor
