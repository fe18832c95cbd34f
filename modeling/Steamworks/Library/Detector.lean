import Steamworks.Library.Run

/-! Detecting that something came to rest. Readings are ignored until one arms
the detector; from then on it counts quiet readings in a row, and fires when they
are as many as required. -/
namespace Library.Detector
open Library.Run

variable {R : Type*} (arms quiet : R → Prop) [DecidablePred arms] [DecidablePred quiet]

structure State where
  armed : Bool := false
  count : ℕ := 0

def step (s : State) (r : R) : State :=
  if !s.armed then { s with armed := decide (arms r) }
  else { s with count := if quiet r then s.count + 1 else 0 }

def fires (required : ℕ) (s : State) (r : R) : Bool :=
  s.armed && (step arms quiet s r).count == required

/-- Some reading armed it, and of those since then the last were all quiet. -/
def Due (required : ℕ) (readings : List R) : Prop :=
  ∃ before arm since, readings = before ++ arm :: since ∧ arms arm ∧
    required ≤ since.length ∧ ∀ r ∈ since.rtake required, quiet r

/-- It is due after the last of these readings and after none before. -/
def FirstDue (required : ℕ) (readings : List R) : Prop :=
  Due arms quiet required readings ∧
    ∀ earlier, earlier <+: readings → earlier ≠ readings → ¬Due arms quiet required earlier

variable {arms quiet} {required : ℕ} {s : State} {r : R}

omit [DecidablePred arms] [DecidablePred quiet] in
theorem due_zero (readings : List R) :
    Due arms quiet 0 readings ↔ ∃ r ∈ readings, arms r := by
  constructor
  · rintro ⟨before, arm, since, rfl, armed, _⟩
    exact ⟨arm, by simp, armed⟩
  · rintro ⟨arm, member, armed⟩
    obtain ⟨before, since, rfl⟩ := List.append_of_mem member
    exact ⟨before, arm, since, rfl, armed, Nat.zero_le _, by simp⟩

omit [DecidablePred arms] [DecidablePred quiet] in
theorem due_concat (required : ℕ) (readings : List R) (r : R) :
    Due arms quiet (required + 1) (readings ++ [r]) ↔ quiet r ∧ Due arms quiet required readings := by
  constructor
  · rintro ⟨before, arm, since, same, armed, enough, last⟩
    rcases List.eq_nil_or_concat since with rfl | ⟨since, x, rfl⟩
    · exact absurd enough (Nat.not_succ_le_zero required)
    · rw [List.concat_eq_append, ← List.cons_append, ← List.append_assoc] at same
      obtain ⟨rfl, now⟩ := List.append_inj' same rfl
      obtain rfl : r = x := List.singleton_inj.mp now
      rw [List.concat_eq_append, List.rtake_concat_succ] at last
      rw [List.concat_eq_append, List.length_append, List.length_singleton] at enough
      exact ⟨last r (by simp), before, arm, since, rfl, armed, by omega,
        fun x member => last x (List.mem_append_left [r] member)⟩
  · rintro ⟨now, before, arm, since, rfl, armed, enough, last⟩
    refine ⟨before, arm, since ++ [r], by simp, armed, by simpa using enough, ?_⟩
    rw [List.rtake_concat_succ]
    simpa [or_imp, forall_and] using ⟨last, now⟩

omit [DecidablePred arms] [DecidablePred quiet] in
theorem due_replicate (arming : arms r) (quieting : quiet r) (required n : ℕ) :
    Due arms quiet required (List.replicate n r) ↔ required < n := by
  induction required generalizing n with
  | zero => simp [due_zero, arming, Nat.pos_iff_ne_zero]
  | succ required ih =>
    cases n with
    | zero => simp [Due]
    | succ n =>
      rw [List.replicate_succ', due_concat, ih, and_iff_right quieting]
      omega

omit [DecidablePred arms] [DecidablePred quiet] in
/-- The same reading again and again, which arms the detector and is quiet. -/
theorem firstDue_replicate (arming : arms r) (quieting : quiet r) (required : ℕ) :
    FirstDue arms quiet required (List.replicate (required + 1) r) := by
  refine ⟨(due_replicate arming quieting required _).mpr (Nat.lt_succ_self _), ?_⟩
  intro earlier front other due
  obtain ⟨short, same⟩ := List.prefix_replicate_iff.mp front
  rw [same, due_replicate arming quieting] at due
  have whole : earlier.length = required + 1 := by omega
  rw [whole] at same
  exact other same

theorem step_of_armed (armed : s.armed = true) :
    step arms quiet s r = { s with count := if quiet r then s.count + 1 else 0 } := by
  simp [step, armed]

theorem step_of_unarmed (unarmed : s.armed = false) :
    step arms quiet s r = { s with armed := decide (arms r) } := by
  simp [step, unarmed]

/-- Nothing is counted until a reading arms the detector. -/
theorem run_unarmed (readings : List R) :
    (run (step arms quiet) {} readings).armed = false →
      (run (step arms quiet) {} readings).count = 0 := by
  apply run_invariant (I := fun s : State => s.armed = false → s.count = 0)
  · intro s r kept
    cases armed : s.armed with
    | false =>
      intro _
      rw [step_of_unarmed armed]
      exact kept armed
    | true =>
      rw [step_of_armed armed]
      intro unarmed
      exact absurd armed (Bool.eq_false_iff.mp unarmed)
  · exact fun _ => rfl

/-- The count is the number of quiet readings in a row since it was armed. -/
theorem due_iff (readings : List R) (n : ℕ) : Due arms quiet n readings ↔
    (run (step arms quiet) {} readings).armed = true ∧
      n ≤ (run (step arms quiet) {} readings).count := by
  induction readings using List.reverseRecOn generalizing n with
  | nil => simp [Due]
  | append_singleton readings r ih =>
    rw [run_concat]
    cases armed : (run (step arms quiet) {} readings).armed with
    | true =>
      rw [step_of_armed armed]
      cases n with
      | zero =>
        have due := (ih 0).mpr ⟨armed, Nat.zero_le _⟩
        rw [due_zero] at due ⊢
        simpa [armed] using Or.inl due
      | succ n => by_cases now : quiet r <;> simp [due_concat, ih, armed, now]
    | false =>
      have none : (run (step arms quiet) {} readings).count = 0 := run_unarmed readings armed
      rw [step_of_unarmed armed]
      cases n with
      | zero =>
        have before : ¬Due arms quiet 0 readings := by simp [ih, armed]
        rw [due_zero] at before ⊢
        simpa [or_and_right, exists_or] using
          fun x member arming => absurd ⟨x, member, arming⟩ before
      | succ n => simp [due_concat, ih, armed, none]

theorem fires_iff (positive : 0 < required) {readings : List R}
    (before : ¬Due arms quiet required readings) (r : R) :
    fires arms quiet required (run (step arms quiet) {} readings) r = true ↔
      Due arms quiet required (readings ++ [r]) := by
  rw [due_iff] at before
  rw [due_iff, run_concat, fires]
  cases armed : (run (step arms quiet) {} readings).armed with
  | false =>
    have none : (run (step arms quiet) {} readings).count = 0 := run_unarmed readings armed
    simp [step_of_unarmed armed, none, positive.ne']
  | true =>
    simp only [armed, true_and, not_le] at before
    rw [step_of_armed armed]
    by_cases now : quiet r
    · simp only [armed, now, if_true, Bool.true_and, beq_iff_eq, true_and]
      omega
    · simp only [armed, now, if_false, Bool.true_and, beq_iff_eq, true_and]
      omega

theorem unfired_iff (positive : 0 < required) (readings : List R) :
    Along (step arms quiet) (fun s r => fires arms quiet required s r = false) {} readings ↔
      ∀ earlier, earlier <+: readings → ¬Due arms quiet required earlier := by
  induction readings using List.reverseRecOn with
  | nil => simp [Due]
  | append_singleton readings r ih =>
    simp only [along_append, along_cons, along_nil, and_true, ih, List.prefix_concat_iff,
      or_imp, forall_and, forall_eq]
    constructor
    · rintro ⟨never, quietly⟩
      refine ⟨fun due => ?_, never⟩
      have fired := (fires_iff positive (never readings (List.prefix_refl _)) r).mpr due
      rw [quietly] at fired
      cases fired
    · rintro ⟨now, never⟩
      refine ⟨never, ?_⟩
      rw [← Bool.not_eq_true, fires_iff positive (never readings (List.prefix_refl _))]
      exact now

/-- The detector fires first at the last of these readings exactly when it is
first due there. -/
theorem fires_first_iff (positive : 0 < required) (readings : List R) (r : R) :
    (Along (step arms quiet) (fun s r => fires arms quiet required s r = false) {} readings ∧
        fires arms quiet required (run (step arms quiet) {} readings) r = true) ↔
      FirstDue arms quiet required (readings ++ [r]) := by
  rw [unfired_iff positive, FirstDue]
  constructor
  · rintro ⟨never, fired⟩
    refine ⟨(fires_iff positive (never readings (List.prefix_refl _)) r).mp fired, ?_⟩
    intro earlier front other
    exact never earlier ((List.prefix_concat_iff.mp front).resolve_left other)
  · rintro ⟨due, first⟩
    have never : ∀ earlier, earlier <+: readings → ¬Due arms quiet required earlier := by
      intro earlier front
      refine first earlier (front.trans (List.prefix_append _ _)) ?_
      rintro rfl
      exact absurd front.length_le (by simp)
    exact ⟨never, (fires_iff positive (never readings (List.prefix_refl _)) r).mpr due⟩

section Agreement
variable {arms' quiet' : R → Prop} [DecidablePred arms'] [DecidablePred quiet']

/-- In this state the reading is taken alike under both criteria. -/
def Alike (arms quiet arms' quiet' : R → Prop) (s : State) (r : R) : Prop :=
  (s.armed = false → (arms r ↔ arms' r)) ∧ (s.armed = true → (quiet r ↔ quiet' r))

theorem step_alike (alike : Alike arms quiet arms' quiet' s r) :
    step arms quiet s r = step arms' quiet' s r := by
  cases armed : s.armed with
  | false => simp [step_of_unarmed armed, alike.1 armed]
  | true => simp [step_of_armed armed, alike.2 armed]

theorem run_alike (readings : List R)
    (alike : Along (step arms quiet) (Alike arms quiet arms' quiet') s readings) :
    run (step arms quiet) s readings = run (step arms' quiet') s readings := by
  induction readings generalizing s with
  | nil => rfl
  | cons r rest ih =>
    obtain ⟨now, later⟩ := alike
    rw [run_cons, run_cons, ih later, step_alike now]

theorem due_alike (readings : List R)
    (alike : Along (step arms quiet) (Alike arms quiet arms' quiet') {} readings) :
    Due arms quiet required readings ↔ Due arms' quiet' required readings := by
  rw [due_iff, due_iff, run_alike readings alike]

/-- Where every reading of a run is taken alike, both are first due together. -/
theorem firstDue_alike (readings : List R)
    (alike : Along (step arms quiet) (Alike arms quiet arms' quiet') {} readings) :
    FirstDue arms quiet required readings ↔ FirstDue arms' quiet' required readings := by
  have front : ∀ earlier, earlier <+: readings →
      (Due arms quiet required earlier ↔ Due arms' quiet' required earlier) := by
    rintro earlier ⟨rest, rfl⟩
    rw [along_append] at alike
    exact due_alike earlier alike.1
  refine and_congr (front readings (List.prefix_refl _)) ?_
  refine forall_congr' fun earlier => forall_congr' fun shorter => ?_
  rw [front earlier shorter]

end Agreement

end Library.Detector
