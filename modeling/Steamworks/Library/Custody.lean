import Steamworks.Library.Group

/-! Commands of a group that need one thing. They exclude each other, so at most one
has it at a time. While none has it, it is idle, as long as each hands it back so or
is followed at once by one that takes it as it was left. -/
namespace Library.Group

variable {S I C : Type*}

/-- Which commands have the thing, and what it is like while none does, while one
does, and where it was handed back loose. -/
structure Custody (S C : Type*) where
  owns : C → Bool
  loose : C → Bool
  recovers : C → Bool
  Idle : S → Prop
  Loose : S → Prop
  Under : C → S → Prop

namespace Custody

section
variable (k : Custody S C) (g : Crew S I C)

/-- What happens to the rest of the resource. -/
structure Leaves (r t : S) : Prop where
  idle : k.Idle r → k.Idle t
  loose : k.Loose r → k.Loose t
  under : ∀ c, k.Under c r → k.Under c t

def Returned (c : C) (r : S) : Prop := k.Idle r ∨ k.loose c = true ∧ k.Loose r

/-- After a step of a command that has the thing. -/
structure Stepped (c : C) (i : I) (r : S × Bool) : Prop where
  goes : r.2 = false → k.Under c r.1
  finishes : r.2 = true → k.Returned c ((g.member c).finish i r.1).1

/-- The commands treat the thing so. -/
structure Observed : Prop where
  exclusive : ∀ c d, k.owns c = true → k.owns d = true → g.conflicts c d = true
  steps : ∀ c, k.owns c = false → ∀ i begun r, k.Leaves r ((g.member c).step i begun r).1
  finishes : ∀ c, k.owns c = false → ∀ i r, k.Leaves r ((g.member c).finish i r).1
  interrupts : ∀ c, k.owns c = false → ∀ i r, k.Leaves r ((g.member c).interrupted i r).1
  begins : ∀ c, k.owns c = true → ∀ i r, k.Idle r ∨ k.recovers c = true ∧ k.Loose r →
    k.Stepped g c i ((g.member c).step i false r)
  goes : ∀ c, k.owns c = true → ∀ i r, k.Under c r → k.Stepped g c i ((g.member c).step i true r)
  interrupted : ∀ c, k.owns c = true → ∀ i r, k.Under c r →
    k.Returned c ((g.member c).interrupted i r).1

/-- The next command that is waited for takes the thing as it is. -/
def reaches : List (Entry C) → Bool
  | .parallel c :: rest => !k.owns c && reaches rest
  | .sequential c :: _ => k.owns c && k.recovers c
  | _ => false

/-- After a command that hands the thing back loose, one is reached that takes it so. -/
def covered : List (Entry C) → Bool
  | [] => true
  | .sequential c :: rest => (!k.loose c || k.reaches rest) && covered rest
  | .parallel c :: rest => !k.loose c && covered rest
  | .waitForChildren :: rest => covered rest

/-- At most one of these has, or is about to have, the thing. -/
def Sole (active : List (C × Bool)) : Prop :=
  (active.map Prod.fst).Pairwise fun c d => ¬(k.owns c = true ∧ k.owns d = true)

/-- One has it, or it is idle. -/
def Kept (active : List (C × Bool)) (r : S) : Prop :=
  (∃ c, k.owns c = true ∧ (c, true) ∈ active ∧ k.Under c r) ∨
    (∀ a ∈ active, k.owns a.1 = true → a.2 = false) ∧ k.Idle r

/-- It was handed back loose, and will be taken before the entries stop. -/
structure Adrift (s : State S C) : Prop where
  loose : k.Loose s.resource
  reaches : k.reaches s.rest = true
  fresh : s.started = false
  free : ∀ a ∈ s.active, k.owns a.1 = false

/-- Within a tick. -/
structure Held (s : State S C) : Prop where
  covered : k.covered s.rest = true
  firm : ∀ child ∈ s.children, k.loose child.1 = false
  sole : k.Sole s.active
  kept : k.Kept s.active s.resource ∨ k.Adrift s

/-- Between two ticks. -/
structure Steady (s : State S C) : Prop where
  covered : k.covered s.rest = true
  firm : ∀ child ∈ s.children, k.loose child.1 = false
  sole : k.Sole s.active
  kept : k.Kept s.active s.resource
  stepped : ∀ child ∈ s.children, child.2 = true

end

section
variable {k : Custody S C} {active before behind : List (C × Bool)} {a : C × Bool} {c : C}
  {begun : Bool} {r t : S}

theorem Sole.others (sole : k.Sole (before ++ a :: behind)) (own : k.owns a.1 = true) :
    ∀ x ∈ before ++ behind, k.owns x.1 = false := by
  rw [Sole, List.map_append, List.map_cons, List.pairwise_append, List.pairwise_cons] at sole
  obtain ⟨-, ⟨after, -⟩, across⟩ := sole
  intro x member
  rw [← Bool.not_eq_true]
  intro owned
  rcases List.mem_append.mp member with earlier | later
  · exact across x.1 (List.mem_map_of_mem earlier) a.1 List.mem_cons_self ⟨owned, own⟩
  · exact after x.1 (List.mem_map_of_mem later) ⟨own, owned⟩

theorem Sole.remove (sole : k.Sole (before ++ a :: behind)) : k.Sole (before ++ behind) :=
  sole.sublist (((List.Sublist.refl before).append (List.sublist_cons_self a behind)).map _)

theorem Sole.replace (sole : k.Sole (before ++ (c, begun) :: behind)) (stepped : Bool) :
    k.Sole (before ++ (c, stepped) :: behind) := by
  simpa [Sole] using sole

theorem Sole.cons (sole : k.Sole active)
    (free : k.owns c = true → ∀ x ∈ active, k.owns x.1 = false) (stepped : Bool) :
    k.Sole ((c, stepped) :: active) := by
  rw [Sole, List.map_cons, List.pairwise_cons]
  refine ⟨fun d member both => ?_, sole⟩
  obtain ⟨x, among, rfl⟩ := List.mem_map.mp member
  exact Bool.false_ne_true ((free both.1 x among).symm.trans both.2)

theorem Sole.concat (sole : k.Sole active)
    (free : k.owns c = true → ∀ x ∈ active, k.owns x.1 = false) (stepped : Bool) :
    k.Sole (active ++ [(c, stepped)]) := by
  rw [Sole, List.map_append, List.pairwise_append]
  refine ⟨sole, List.pairwise_singleton _ _, fun d member e last both => ?_⟩
  obtain ⟨x, among, rfl⟩ := List.mem_map.mp member
  obtain rfl : e = c := by simpa using last
  exact Bool.false_ne_true ((free both.2 x among).symm.trans both.1)

/-- What is not the thing's changes, and the others stay. -/
theorem Kept.leaves {left : List (C × Bool)} (kept : k.Kept active r) (leaves : k.Leaves r t)
    (same : ∀ x, k.owns x.1 = true → (x ∈ left ↔ x ∈ active)) : k.Kept left t := by
  rcases kept with ⟨c, own, member, under⟩ | ⟨waiting, idle⟩
  · exact .inl ⟨c, own, (same (c, true) own).mpr member, leaves.under c under⟩
  · exact .inr ⟨fun x member own => waiting x ((same x own).mp member) own, leaves.idle idle⟩

theorem Kept.idle (kept : k.Kept active r) (free : ∀ x ∈ active, k.owns x.1 = false) :
    k.Idle r := by
  rcases kept with ⟨c, own, member, -⟩ | ⟨-, idle⟩
  · exact absurd ((free _ member).symm.trans own) Bool.false_ne_true
  · exact idle

theorem kept_of_idle (free : ∀ x ∈ active, k.owns x.1 = false) (idle : k.Idle r) :
    k.Kept active r :=
  .inr ⟨fun x member own => absurd ((free x member).symm.trans own) Bool.false_ne_true, idle⟩

variable (sole : k.Sole (before ++ (c, begun) :: behind)) (own : k.owns c = true)
  (kept : k.Kept (before ++ (c, begun) :: behind) r)
include sole own kept

/-- The command that has it is the one under way. -/
theorem Kept.under (under : begun = true) : k.Under c r := by
  rcases kept with ⟨d, owned, member, underway⟩ | ⟨waiting, -⟩
  · by_cases same : (d, true) = (c, begun)
    · cases same
      exact underway
    · have among := mem_remove rfl member same
      exact absurd ((sole.others own _ among).symm.trans owned) Bool.false_ne_true
  · have fresh := waiting (c, begun) List.mem_append_cons_self own
    exact absurd (fresh.symm.trans under) Bool.false_ne_true

/-- A command that was not stepped finds it idle. -/
theorem Kept.fresh (fresh : begun = false) : k.Idle r := by
  rcases kept with ⟨d, owned, member, -⟩ | ⟨-, idle⟩
  · have among : (d, true) ∈ before ++ behind := by
      refine mem_remove rfl member fun same => ?_
      cases same
      cases fresh
    exact absurd ((sole.others own _ among).symm.trans owned) Bool.false_ne_true
  · exact idle

end

section
variable {k : Custody S C} {g : Crew S I C} {i : I} {s t : State S C}
  {before behind : List (C × Bool)} {rest : List (Entry C)} {c : C}

theorem Leaves.refl (r : S) : k.Leaves r r := ⟨id, id, fun _ => id⟩

theorem Leaves.trans {q r t : S} (first : k.Leaves q r) (second : k.Leaves r t) : k.Leaves q t where
  idle := second.idle ∘ first.idle
  loose := second.loose ∘ first.loose
  under c := second.under c ∘ first.under c

theorem active_of_started (next : s.rest = .sequential c :: rest) (started : s.started = true) :
    s.active = (c, true) :: s.children := by
  rw [State.active, State.current, next, started]
  rfl

theorem active_of_fresh (fresh : s.started = false) : s.active = s.children := by
  rw [State.active, State.current, fresh]
  split <;> rfl

theorem active_of_ended (ticked : Ticked g i s t) (ended : t.running = false) : t.active = [] := by
  have gone := ticked.running.symm.trans ended
  rw [Bool.not_eq_false', Bool.and_eq_true, List.isEmpty_iff, List.isEmpty_iff] at gone
  rw [State.active, State.current, gone.1, gone.2, List.append_nil]

theorem Held.free_of_reaches (held : k.Held s) (stops : k.reaches s.rest = false) :
    k.Kept s.active s.resource :=
  held.kept.resolve_right fun adrift =>
    absurd (stops.symm.trans adrift.reaches) Bool.false_ne_true

theorem ne_of_owns {x : C × Bool} (own : k.owns c = false) (owned : k.owns x.1 = true)
    (begun : Bool) : x ≠ (c, begun) := by
  rintro rfl
  exact absurd (own.symm.trans owned) Bool.false_ne_true

/-- What happens to one child: it goes, or stays and is under way. -/
theorem Held.child (held : k.Held s) {child : C × Bool}
    (among : s.children = before ++ child :: behind) (rest : t.rest = s.rest)
    (started : t.started = s.started) (stays : Bool)
    (children : t.children = before ++ ((if stays then [(child.1, true)] else []) ++ behind))
    (own : k.owns child.1 = true → (child.2 = true → k.Under child.1 s.resource) →
      (child.2 = false → k.Idle s.resource) →
        if stays then k.Under child.1 t.resource else k.Idle t.resource)
    (other : k.owns child.1 = false → k.Leaves s.resource t.resource) : k.Held t := by
  obtain ⟨c, begun⟩ := child
  have current : t.current = s.current := by rw [State.current, State.current, rest, started]
  have was : s.active = (s.current ++ before) ++ (c, begun) :: behind := by
    rw [State.active, among, List.append_assoc]
  have now : t.active =
      (s.current ++ before) ++ ((if stays then [(c, true)] else []) ++ behind) := by
    rw [State.active, current, children, List.append_assoc]
  have sole := held.sole
  rw [was] at sole
  refine ⟨rest ▸ held.covered, ?_, ?_, ?_⟩
  · rw [children]
    cases stays with
    | true => exact forall_mem_replace among held.firm (held.firm (c, begun) (mem_of_among among))
    | false => exact forall_mem_remove among held.firm
  · rw [now]
    cases stays with
    | true => exact sole.replace true
    | false => exact sole.remove
  · cases owned : k.owns c with
    | true =>
      have others := sole.others owned
      have kept : k.Kept ((s.current ++ before) ++ (c, begun) :: behind) s.resource := by
        rw [← was]
        refine held.kept.resolve_right fun adrift => ?_
        have member : (c, begun) ∈ s.active := was ▸ List.mem_append_cons_self
        exact absurd ((adrift.free _ member).symm.trans owned) Bool.false_ne_true
      have after := own owned (kept.under sole owned) (kept.fresh sole owned)
      refine .inl ?_
      rw [now]
      cases stays with
      | true => exact .inl ⟨c, owned, by simp, after⟩
      | false => exact kept_of_idle others after
    | false =>
      have same : ∀ x : C × Bool, k.owns x.1 = true → (x ∈ t.active ↔ x ∈ s.active) := by
        intro x own
        have different := ne_of_owns owned own
        rw [now, was]
        cases stays <;> simp [different]
      have leaves := other owned
      rcases held.kept with kept | adrift
      · exact .inl (kept.leaves leaves same)
      · refine .inr ⟨leaves.loose adrift.loose, rest ▸ adrift.reaches, started.trans adrift.fresh, ?_⟩
        intro x member
        rw [← Bool.not_eq_true]
        intro own
        have free := adrift.free x ((same x own).mp member)
        exact absurd (free.symm.trans own) Bool.false_ne_true

theorem Held.children_sole (held : k.Held s) : k.Sole s.children := by
  have sole := held.sole
  rw [State.active, Sole, List.map_append, List.pairwise_append] at sole
  exact sole.2.1

variable (observed : k.Observed g)
include observed

theorem Observed.others {children : List (C × Bool)}
    (free : ∀ child ∈ children, g.conflicts c child.1 = false) (own : k.owns c = true) :
    ∀ child ∈ children, k.owns child.1 = false := by
  intro child member
  rw [← Bool.not_eq_true]
  intro both
  have clash := observed.exclusive c child.1 own both
  exact absurd ((free child member).symm.trans clash) Bool.false_ne_true

/-- The current command, where it needs the thing. -/
theorem Held.steps_current (held : k.Held s) (next : s.rest = .sequential c :: rest)
    (free : s.started = false → ∀ child ∈ s.children, g.conflicts c child.1 = false)
    (own : k.owns c = true) :
    k.Stepped g c i ((g.member c).step i s.started s.resource) ∧
      ∀ child ∈ s.children, k.owns child.1 = false := by
  cases started : s.started with
  | true =>
    have active := active_of_started next started
    have sole : k.Sole ([] ++ (c, true) :: s.children) := active ▸ held.sole
    have kept := held.kept.resolve_right fun adrift =>
      absurd (adrift.fresh.symm.trans started) Bool.false_ne_true
    rw [active] at kept
    exact ⟨observed.goes c own i _ (Kept.under sole own kept rfl), sole.others own⟩
  | false =>
    have others := observed.others (free started) own
    refine ⟨observed.begins c own i _ ?_, others⟩
    rcases held.kept with kept | adrift
    · rw [active_of_fresh started] at kept
      exact .inl (kept.idle others)
    · have onward := adrift.reaches
      rw [next, reaches, Bool.and_eq_true] at onward
      exact .inr ⟨onward.2, adrift.loose⟩

theorem held_change (change : Change g i s t) (held : k.Held s) : k.Held t := by
  have afar : ∀ {entry : Entry C} {rest : List (Entry C)}, s.rest = entry :: rest →
      (∀ command, entry ≠ .sequential command) → s.active = s.children := by
    intro entry rest next other
    rw [State.active, State.current, next]
    cases entry with
    | sequential command => exact absurd rfl (other command)
    | parallel | waitForChildren => rfl
  have covered := held.covered
  cases change with
  | @dropped before behind child entry rest next meets among =>
    refine held.child among (rest_remove child) (started_remove child) false rfl
      (fun own under idle => ?_) (fun other => ?_)
    · change k.Idle (s.remove g i child).resource
      unfold State.remove
      split_ifs with begun
      · refine (observed.interrupted _ own i _ (under begun)).resolve_right fun loose => ?_
        have firm := held.firm child (mem_of_among among)
        exact absurd (firm.symm.trans loose.1) Bool.false_ne_true
      · exact idle (by simpa using begun)
    · change k.Leaves s.resource (s.remove g i child).resource
      unfold State.remove
      split_ifs
      · exact observed.interrupts _ other i _
      · exact .refl _
  | @launched command rest next free =>
    have active := afar next nofun
    rw [next, Custody.covered, Bool.and_eq_true, Bool.not_eq_true'] at covered
    have now : ({ s with rest, started := false, children := s.children ++ [(command, false)] } :
        State S C).active = s.children ++ [(command, false)] := active_of_fresh rfl
    refine ⟨covered.2, fun child member => ?_, ?_, ?_⟩
    · rcases List.mem_append.mp member with old | new
      · exact held.firm child old
      · rw [List.mem_singleton.mp new]
        exact covered.1
    · rw [now]
      exact held.children_sole.concat (observed.others free) false
    · rw [now]
      rcases held.kept with kept | adrift
      · refine .inl ?_
        rw [active] at kept
        rcases kept with ⟨c, own, member, under⟩ | ⟨waiting, idle⟩
        · exact .inl ⟨c, own, List.mem_append_left _ member, under⟩
        · refine .inr ⟨fun x member own => ?_, idle⟩
          rcases List.mem_append.mp member with old | new
          · exact waiting x old own
          · rw [List.mem_singleton.mp new]
      · have onward := adrift.reaches
        rw [next, reaches, Bool.and_eq_true, Bool.not_eq_true'] at onward
        refine .inr ⟨adrift.loose, onward.2, rfl, fun x member => ?_⟩
        rw [now] at member
        rcases List.mem_append.mp member with old | new
        · exact adrift.free x (active ▸ old)
        · rw [List.mem_singleton.mp new]
          exact onward.1
  | @passed rest next resumed due =>
    have kept := held.free_of_reaches (by rw [next]; rfl)
    rw [next] at covered
    have active := afar next nofun
    have now : ({ s with rest, started := false } : State S C).active = s.active :=
      (active_of_fresh rfl).trans active.symm
    exact ⟨covered, held.firm, now ▸ held.sole, .inl (now ▸ kept)⟩
  | @waits rest next =>
    have kept := held.free_of_reaches (by rw [next]; rfl)
    have active := afar next nofun
    have now : ({ s with started := true } : State S C).active = s.active := by
      rw [active, State.active, State.current]
      simp only [next, List.nil_append]
    exact ⟨covered, held.firm, now ▸ held.sole, .inl (now ▸ kept)⟩
  | @goes command rest next unfinished free =>
    have now : ∀ resource, ({ s with resource, started := true } : State S C).active =
        (command, true) :: s.children := fun _ => active_of_started next rfl
    have children := held.children_sole
    cases own : k.owns command with
    | true =>
      obtain ⟨step, others⟩ := held.steps_current (i := i) observed next free own
      refine ⟨covered, held.firm, ?_, .inl ?_⟩
      · rw [now]
        exact children.cons (fun _ => others) true
      · rw [now]
        exact .inl ⟨command, own, List.mem_cons_self, step.goes unfinished⟩
    | false =>
      have kept := held.free_of_reaches (by rw [next, reaches, own]; rfl)
      refine ⟨covered, held.firm, ?_, .inl ?_⟩
      · rw [now]
        exact children.cons (fun owned => absurd (own.symm.trans owned) Bool.false_ne_true) true
      · rw [now]
        refine kept.leaves (observed.steps command own i s.started s.resource) fun x owned => ?_
        have different := ne_of_owns own owned true
        cases started : s.started with
        | true => rw [active_of_started next started]
        | false => simp [active_of_fresh started, different]
  | @finishes command rest next resumed finished free =>
    have now : ∀ resource cancelled, (⟨resource, s.running, cancelled, rest, false, s.children⟩ :
        State S C).active = s.children := fun _ _ => active_of_fresh rfl
    have children := held.children_sole
    cases own : k.owns command with
    | true =>
      obtain ⟨step, others⟩ := held.steps_current (i := i) observed next free own
      rw [next, Custody.covered, Bool.and_eq_true, Bool.or_eq_true, Bool.not_eq_true'] at covered
      refine ⟨covered.2, held.firm, ?_, ?_⟩
      · exact (now _ _).symm ▸ children
      · rcases step.finishes finished with idle | ⟨loose, back⟩
        · exact .inl ((now _ _).symm ▸ kept_of_idle others idle)
        · have onward := covered.1.resolve_left fun firm =>
            absurd (firm.symm.trans loose) Bool.false_ne_true
          exact .inr ⟨back, onward, rfl, (now _ _).symm ▸ others⟩
    | false =>
      have kept := held.free_of_reaches (by rw [next, reaches, own]; rfl)
      rw [next, Custody.covered, Bool.and_eq_true] at covered
      refine ⟨covered.2, held.firm, (now _ _).symm ▸ children, .inl ?_⟩
      have leaves := (observed.steps command own i s.started s.resource).trans
        (observed.finishes command own i _)
      refine kept.leaves leaves fun x owned => ?_
      have different := ne_of_owns own owned true
      refine (iff_of_eq (congrArg (x ∈ ·) (now _ _))).trans ?_
      cases started : s.started with
      | true => simp [active_of_started next started, different]
      | false => rw [active_of_fresh started]
  | @childGoes before behind child _ among unfinished =>
    obtain ⟨c, begun⟩ := child
    refine held.child among rfl rfl true rfl (fun own under idle => ?_) (fun other => ?_)
    · cases begun with
      | true => exact (observed.goes c own i _ (under rfl)).goes unfinished
      | false => exact (observed.begins c own i _ (.inl (idle rfl))).goes unfinished
    · exact observed.steps c other i begun _
  | @childFinishes before behind child _ among finished =>
    obtain ⟨c, begun⟩ := child
    refine held.child among rfl rfl false rfl (fun own under idle => ?_) (fun other => ?_)
    · have firm := held.firm (c, begun) (mem_of_among among)
      have step : k.Stepped g c i ((g.member c).step i begun s.resource) := by
        cases begun with
        | true => exact observed.goes c own i _ (under rfl)
        | false => exact observed.begins c own i _ (.inl (idle rfl))
      refine (step.finishes finished).resolve_right fun loose => ?_
      exact absurd (firm.symm.trans loose.1) Bool.false_ne_true
    · exact (observed.steps c other i begun _).trans (observed.finishes c other i _)

omit observed in
theorem steady_start {r : S} (idle : k.Idle r) {entries : List (Entry C)}
    (covered : k.covered entries = true) : k.Steady (.begun r entries) := by
  have alone : (State.begun r entries).active = [] := active_of_fresh rfl
  refine ⟨covered, ?_, ?_, ?_, ?_⟩
  · exact fun _ member => absurd member List.not_mem_nil
  · rw [alone]
    exact List.Pairwise.nil
  · rw [alone]
    exact kept_of_idle (fun _ member => absurd member List.not_mem_nil) idle
  · exact fun _ member => absurd member List.not_mem_nil

/-- What a run of a group keeps between its ticks. -/
theorem Steady.ticked (steady : k.Steady s) (ticked : Ticked g i s t) : k.Steady t := by
  obtain ⟨changes, ends, stepped, -⟩ := ticked
  have held : ∀ u, Relation.ReflTransGen (Change g i) s u → k.Held u := by
    intro u chain
    induction chain with
    | refl => exact ⟨steady.covered, steady.firm, steady.sole, .inl steady.kept⟩
    | tail _ change ih => exact held_change observed change ih
  obtain ⟨covered, firm, sole, kept⟩ := held _ changes
  refine ⟨covered, firm, sole, kept.resolve_right fun adrift => ?_, stepped⟩
  rcases ends with past | started
  · have onward := adrift.reaches
    rw [show ({ t with running := s.running } : State S C).rest = [] from past] at onward
    cases onward
  · exact absurd (adrift.fresh.symm.trans started) Bool.false_ne_true

/-- Interrupting what does not have the thing. -/
theorem removed_leaves {active : List (C × Bool)} (free : ∀ x ∈ active, k.owns x.1 = false)
    (s : State S C) : k.Leaves s.resource (active.foldl (State.remove g i) s).resource := by
  induction active generalizing s with
  | nil => exact .refl _
  | cons a active ih =>
    rw [List.forall_mem_cons] at free
    refine Leaves.trans ?_ (ih free.2 (s.remove g i a))
    unfold State.remove
    split_ifs
    · exact observed.interrupts _ free.1 i _
    · exact .refl _

/-- What has the thing hands it back when all are interrupted. -/
theorem removed_returned {active : List (C × Bool)} (sole : k.Sole active) (s : State S C)
    (kept : k.Kept active s.resource) :
    k.Idle (active.foldl (State.remove g i) s).resource ∨
      ∃ c, k.owns c = true ∧ k.loose c = true ∧ (c, true) ∈ active ∧
        k.Loose (active.foldl (State.remove g i) s).resource := by
  induction active generalizing s with
  | nil => exact .inl (kept.idle fun _ member => absurd member List.not_mem_nil)
  | cons a active ih =>
    obtain ⟨c, begun⟩ := a
    have first : k.Sole ([] ++ (c, begun) :: active) := sole
    rw [List.foldl_cons]
    cases own : k.owns c with
    | true =>
      have others := first.others own
      have leaves := removed_leaves (i := i) observed others (s.remove g i (c, begun))
      cases begun with
      | true =>
        have under := Kept.under first own kept rfl
        rcases observed.interrupted c own i _ under with idle | ⟨loose, back⟩
        · exact .inl (leaves.idle idle)
        · exact .inr ⟨c, own, loose, List.mem_cons_self, leaves.loose back⟩
      | false => exact .inl (leaves.idle (Kept.fresh first own kept rfl))
    | false =>
      have leaves : k.Leaves s.resource (s.remove g i (c, begun)).resource := by
        cases begun with
        | true => exact observed.interrupts c own i _
        | false => exact .refl _
      have keptNext : k.Kept active (s.remove g i (c, begun)).resource :=
        kept.leaves leaves fun x owned => by simp [ne_of_owns own owned]
      rcases ih first.remove (s.remove g i (c, begun)) keptNext with idle | found
      · exact .inl idle
      · obtain ⟨d, own, loose, member, back⟩ := found
        exact .inr ⟨d, own, loose, List.mem_cons_of_mem _ member, back⟩

omit observed in
theorem Sole.perm {active order : List (C × Bool)} (sole : k.Sole active) (same : order.Perm active) :
    k.Sole order :=
  (same.map Prod.fst).symm.pairwise sole fun apart both => apart both.symm

/-- A group that is closed hands the thing back, whichever command had it. -/
theorem Steady.closed (steady : k.Steady s) (closed : Closed g i s t) :
    k.Idle t.resource ∨
      ∃ c, k.owns c = true ∧ k.loose c = true ∧ (c, true) ∈ s.active ∧ k.Loose t.resource := by
  obtain ⟨order, same, rfl⟩ := closed
  have kept : k.Kept order s.resource := steady.kept.leaves (.refl _) fun _ _ => same.mem_iff
  rcases removed_returned (i := i) observed (steady.sole.perm same) s kept with idle | found
  · exact .inl idle
  · obtain ⟨c, own, loose, member, back⟩ := found
    exact .inr ⟨c, own, loose, same.mem_iff.mp member, back⟩

end

section
variable {S I C : Type} {k : Custody S C} {g : Crew S I C} {s : State S C} {r : Runner}
  (observed : k.Observed g) (lawful : r.Lawful)
include observed lawful

/-- A signal to a group that runs leaves it steady, and if it ends, with the thing
idle or as the command left it that had it. -/
theorem Steady.signal (steady : k.Steady s) (running : s.running = true) (signal : Signal I) :
    ((r.signal g s signal).running = true → k.Steady (r.signal g s signal)) ∧
      ((r.signal g s signal).running = false → k.Idle (r.signal g s signal).resource ∨
        ∃ c, k.owns c = true ∧ k.loose c = true ∧ (c, true) ∈ s.active ∧
          k.Loose (r.signal g s signal).resource) := by
  have effect := lawful.effect g [] s (.signal signal) fun _ _ => steady.stepped
  rw [Runner.next] at effect
  generalize r.signal g s signal = t at effect
  cases effect with
  | stays => exact ⟨fun _ => steady, fun ended => absurd (ended.symm.trans running) Bool.false_ne_true⟩
  | cancels =>
    refine ⟨fun _ => ?_, fun ended => absurd (ended.symm.trans running) Bool.false_ne_true⟩
    exact ⟨steady.covered, steady.firm, steady.sole, steady.kept, steady.stepped⟩
  | ticks _ _ input ticked =>
    have next := steady.ticked observed ticked
    refine ⟨fun _ => next, fun ended => .inl (next.kept.idle ?_)⟩
    rw [active_of_ended ticked ended]
    exact fun _ member => absurd member List.not_mem_nil
  | closes _ _ input closed =>
    refine ⟨fun still => ?_, fun _ => steady.closed observed closed⟩
    exact absurd (closed.running.symm.trans still) Bool.false_ne_true

end
end Custody
end Library.Group
