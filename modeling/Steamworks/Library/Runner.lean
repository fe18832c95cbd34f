import Steamworks.Library.Group

/-! A library that runs groups as it is assumed to, entry by entry and child by
child. -/
namespace Library.Group

variable {S I C : Type*}

namespace State
variable (g : Crew S I C) (input : I)

/-- The children are visited in order; those that stay are put back. -/
def sweep (visit : State S C → C × Bool → State S C × Option (C × Bool)) :
    State S C → List (C × Bool) → State S C
  | s, [] => s
  | s, child :: later =>
    let (next, left) := visit s child
    sweep visit { next with children := s.children ++ left.toList } later

def visitChildren (visit : State S C → C × Bool → State S C × Option (C × Bool)) (s : State S C) :
    State S C :=
  sweep visit { s with children := [] } s.children

def dropConflict (entry : Entry C) (s : State S C) (child : C × Bool) :
    State S C × Option (C × Bool) :=
  if g.meets entry child.1 then (s.remove g input child, none) else (s, some child)

def cancelConflicts (entry : Entry C) (s : State S C) : State S C :=
  s.visitChildren (dropConflict g input entry)

def stepChild (s : State S C) (child : C × Bool) : State S C × Option (C × Bool) :=
  let (resource, finished) := (g.member child.1).step input child.2 s.resource
  let s := { s with resource }
  if finished then (s.ended ((g.member child.1).finish input s.resource), none)
  else (s, some (child.1, true))

/-- The entries are gone through until one has to be stepped again. -/
def advance (s : State S C) : List (Entry C) → State S C
  | [] => s
  | .parallel command :: rest =>
    let s := s.cancelConflicts g input (.parallel command)
    advance { s with rest, started := false, children := s.children ++ [(command, false)] } rest
  | .waitForChildren :: rest =>
    if s.children.isEmpty || s.started && g.expired input then
      advance { s with rest, started := false } rest
    else { s with started := true }
  | .sequential command :: rest =>
    let s := if s.started then s else s.cancelConflicts g input (.sequential command)
    let (resource, finished) := (g.member command).step input s.started s.resource
    let s := { s with resource }
    if finished then
      advance { s.ended ((g.member command).finish input s.resource) with rest, started := false } rest
    else { s with started := true }

/-- Everything under way is interrupted, the current command first. -/
def close (s : State S C) : State S C := .idle (s.active.foldl (remove g input) s).resource

def stepped (s : State S C) : State S C :=
  (s.advance g input s.rest).visitChildren (stepChild g input)

def tick (s : State S C) : State S C :=
  let s := s.stepped g input
  { s with running := !(s.rest.isEmpty && s.children.isEmpty) }

end State

def entryByEntry : Runner where
  start entries s := if s.running then s else .begun s.resource entries
  signal g s
    | .tick input =>
      if !s.running then s else if s.cancelled then s.close g input else s.tick g input
    | .cancel => if s.running then { s with cancelled := true } else s
    | .interrupt input => if s.running then s.close g input else s

section
variable {g : Crew S I C} {i : I} {s : State S C}
open Relation

theorem remove_children (child : C × Bool) (children left : List (C × Bool)) :
    { ({ s with children } : State S C).remove g i child with children := left } =
      ({ s.remove g i child with children := left } : State S C) := by
  unfold State.remove
  dsimp only
  split_ifs <;> rfl

section
variable {R : State S C → State S C → Prop} (Keeps : State S C → Prop) (Stays : C × Bool → Prop)
  {visit : State S C → C × Bool → State S C × Option (C × Bool)}
  (visits : ∀ s child later, Keeps s →
    ReflTransGen R { s with children := s.children ++ child :: later }
      { (visit s child).1 with children := s.children ++ (visit s child).2.toList ++ later })
  (keeps : ∀ s child children, Keeps s → Keeps { (visit s child).1 with children })
  (stays : ∀ s child left, (visit s child).2 = some left → Stays left)
include visits keeps stays

theorem sweep_changes (later : List (C × Bool)) (kept : Keeps s)
    (stayed : ∀ child ∈ s.children, Stays child) :
    ReflTransGen R { s with children := s.children ++ later } (s.sweep visit later) ∧
      Keeps (s.sweep visit later) ∧ ∀ child ∈ (s.sweep visit later).children, Stays child := by
  induction later generalizing s with
  | nil =>
    rw [List.append_nil]
    exact ⟨.refl, kept, stayed⟩
  | cons child later ih =>
    let next : State S C :=
      { (visit s child).1 with children := s.children ++ (visit s child).2.toList }
    have stayedNext : ∀ c ∈ next.children, Stays c := by
      intro c member
      rcases List.mem_append.mp member with old | new
      · exact stayed c old
      · exact stays s child c (Option.mem_toList.mp new)
    obtain ⟨chain, keptLast, stayedLast⟩ := ih (s := next) (keeps s child _ kept) stayedNext
    exact ⟨(visits s child later kept).trans chain, keptLast, stayedLast⟩

/-- Visits of single children, and what they keep and leave, make a visit of all. -/
theorem visitChildren_changes (kept : Keeps { s with children := [] }) :
    ReflTransGen R s (s.visitChildren visit) ∧ Keeps (s.visitChildren visit) ∧
      ∀ child ∈ (s.visitChildren visit).children, Stays child :=
  sweep_changes Keeps Stays visits keeps stays s.children kept
    fun _ member => absurd member List.not_mem_nil

end

theorem cancelConflicts_changes {entry : Entry C} {rest : List (Entry C)}
    (next : s.rest = entry :: rest) :
    ReflTransGen (Change g i) s (s.cancelConflicts g i entry) ∧
      ((s.cancelConflicts g i entry).rest = entry :: rest ∧
        (s.cancelConflicts g i entry).started = s.started) ∧
      ∀ child ∈ (s.cancelConflicts g i entry).children, g.meets entry child.1 = false := by
  apply visitChildren_changes (fun t => t.rest = entry :: rest ∧ t.started = s.started)
    (fun child => g.meets entry child.1 = false)
  · rintro t child later ⟨nextEntry, -⟩
    unfold State.dropConflict
    cases meets : g.meets entry child.1 with
    | true =>
      rw [if_pos rfl, Option.toList_none, List.append_nil, ← remove_children]
      exact .single (.dropped nextEntry meets rfl)
    | false =>
      rw [if_neg Bool.false_ne_true, Option.toList_some, List.append_assoc]
      exact .refl
  · rintro t child children ⟨nextEntry, same⟩
    unfold State.dropConflict
    split_ifs
    · exact ⟨(rest_remove child).trans nextEntry, (started_remove child).trans same⟩
    · exact ⟨nextEntry, same⟩
  · intro t child left visited
    unfold State.dropConflict at visited
    cases meets : g.meets entry child.1 with
    | true => simp [meets] at visited
    | false =>
      obtain rfl : child = left := by simpa [meets] using visited
      exact meets
  · exact ⟨next, rfl⟩

theorem stepChildren_changes (held : s.Held) :
    ReflTransGen (Change g i) s (s.visitChildren (State.stepChild g i)) ∧
      (s.visitChildren (State.stepChild g i)).Held ∧
      ∀ child ∈ (s.visitChildren (State.stepChild g i)).children, child.2 = true := by
  apply visitChildren_changes State.Held (fun child => child.2 = true)
  · intro s child later held
    unfold State.stepChild
    cases finished : ((g.member child.1).step i child.2 s.resource).2 with
    | true =>
      simp only [finished, if_true, Option.toList_none, List.append_nil]
      exact .single (.childFinishes (s := { s with children := s.children ++ child :: later }) held
        rfl finished)
    | false =>
      simp only [finished, Bool.false_eq_true, if_false, Option.toList_some, List.append_assoc]
      exact .single (.childGoes (s := { s with children := s.children ++ child :: later }) held
        rfl finished)
  · intro s child children held
    unfold State.stepChild
    dsimp only
    split_ifs <;> exact held
  · intro s child left visited
    unfold State.stepChild at visited
    cases finished : ((g.member child.1).step i child.2 s.resource).2 with
    | true => simp [finished] at visited
    | false =>
      obtain rfl : (child.1, true) = left := by simpa [finished] using visited
      rfl
  · exact held

theorem advance_changes (entries : List (Entry C)) (s : State S C) (next : s.rest = entries)
    (resumed : s.Resumed) :
    ReflTransGen (Change g i) s (s.advance g i entries) ∧
      (s.advance g i entries).Held := by
  induction entries generalizing s with
  | nil => exact ⟨.refl, .inl next⟩
  | cons entry rest ih =>
    cases entry with
    | parallel command =>
      obtain ⟨dropping, ⟨nextEntry, -⟩, free⟩ :=
        cancelConflicts_changes (g := g) (i := i) next
      rw [State.advance]
      obtain ⟨chain, held⟩ := ih { s.cancelConflicts g i (.parallel command) with
        rest, started := false
        children := (s.cancelConflicts g i (.parallel command)).children ++ [(command, false)] }
        rfl fun started => absurd started Bool.false_ne_true
      exact ⟨(dropping.tail (.launched nextEntry free)).trans chain, held⟩
    | waitForChildren =>
      rw [State.advance]
      split_ifs with due
      · rw [Bool.or_eq_true, Bool.and_eq_true, List.isEmpty_iff] at due
        obtain ⟨chain, held⟩ := ih { s with rest, started := false } rfl
          fun started => absurd started Bool.false_ne_true
        exact ⟨.head (.passed next resumed due) chain, held⟩
      · exact ⟨.single (.waits next), .inr rfl⟩
    | sequential command =>
      have ready : ∃ t : State S C, ReflTransGen (Change g i) s t ∧
          t = (if s.started then s else s.cancelConflicts g i (.sequential command)) ∧
          (t.rest = .sequential command :: rest ∧ t.Resumed) ∧
          (t.started = false → ∀ child ∈ t.children, g.conflicts command child.1 = false) := by
        cases started : s.started with
        | true =>
          exact ⟨s, .refl, rfl, ⟨next, resumed⟩, fun fresh => by simp [started] at fresh⟩
        | false =>
          obtain ⟨dropping, ⟨nextEntry, same⟩, free⟩ :=
            cancelConflicts_changes (g := g) (i := i) next
          have fresh := same.trans started
          exact ⟨_, dropping, rfl, ⟨nextEntry, fun started => by simp [fresh] at started⟩, fun _ => free⟩
      obtain ⟨t, dropping, same, ⟨nextEntry, resumed⟩, free⟩ := ready
      rw [State.advance, ← same]
      cases finished : ((g.member command).step i t.started t.resource).2 with
      | true =>
        simp only [finished, if_true]
        obtain ⟨chain, held⟩ := ih { t.ended ((g.member command).finish i
          ((g.member command).step i t.started t.resource).1) with rest, started := false }
          rfl fun started => absurd started Bool.false_ne_true
        exact ⟨(dropping.tail (.finishes nextEntry resumed finished free)).trans chain, held⟩
      | false =>
        simp only [finished, Bool.false_eq_true, if_false]
        exact ⟨dropping.tail (.goes nextEntry finished free), .inr rfl⟩

/-- A tick is a chain of changes, after which every child was stepped. -/
theorem stepped_changes (resumed : s.Resumed) :
    ReflTransGen (Change g i) s (s.stepped g i) ∧ (s.stepped g i).Held ∧
      ∀ child ∈ (s.stepped g i).children, child.2 = true := by
  obtain ⟨entries, held⟩ := advance_changes (g := g) (i := i) s.rest s rfl resumed
  obtain ⟨children, rest⟩ := stepChildren_changes (g := g) (i := i) held
  exact ⟨entries.trans children, rest⟩

theorem tick_ticked (stepped : ∀ child ∈ s.children, child.2 = true) (going : s.cancelled = false) :
    Ticked g i s (s.tick g i) := by
  obtain ⟨chain, held, steppedLast⟩ :=
    stepped_changes (g := g) (i := i) (s := s) fun _ => ⟨going, stepped⟩
  have kept : (s.stepped g i).running = s.running := by
    generalize s.stepped g i = t at chain
    induction chain with
    | refl => rfl
    | tail _ change ih => exact (change_running change).trans ih
  refine ⟨?_, held, steppedLast, rfl⟩
  have same : { s.tick g i with running := s.running } = s.stepped g i := by
    rw [← kept]
    rfl
  rwa [same]

end

/-- The assumptions can be met. -/
theorem entryByEntry_lawful : entryByEntry.Lawful := by
  constructor
  · intro S C entries s free
    simp only [entryByEntry, free, Bool.false_eq_true, if_false]
  · intro S C entries s running
    simp only [entryByEntry, running, if_true]
  · intro S I C g s input running going stepped
    simp only [entryByEntry, running, going, Bool.not_true, Bool.false_eq_true, if_false]
    exact tick_ticked stepped going
  · intro S I C g s input running cancelled
    simp only [entryByEntry, running, cancelled, Bool.not_true, Bool.false_eq_true, if_false, if_true]
    exact ⟨s.active, .refl _, rfl⟩
  · intro S I C g s running
    simp only [entryByEntry, running, if_true]
  · intro S I C g s input running
    simp only [entryByEntry, running, if_true]
    exact ⟨s.active, .refl _, rfl⟩
  · intro S I C g s signal free
    cases signal <;> simp [entryByEntry, free]

end Library.Group
