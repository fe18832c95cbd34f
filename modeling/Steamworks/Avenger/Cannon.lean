import Steamworks.Library.Rotation
import Steamworks.Library.Run

/-! The T-shirt cannon. `Fire` and `Reset` come from the robot's loop and
`CloseSolenoid` from the notifier's thread; each holds the mutex from its first
line to its last, so a run is any order of them. -/
namespace Steamworks.Avenger
open Library Library.Run Library.Rotation

/-- The members that change; of a solenoid, whether it is open. -/
structure Cannon where
  solenoids : List Bool
  barrel : ℤ
  firing : Bool

namespace Cannon

def construct : Cannon where
  solenoids := List.replicate 8 false
  barrel := -1
  firing := false

/-- `solenoids_[barrel]->Set(on)`; there is none outside of the vector. -/
def set (c : Cannon) (barrel : ℤ) (on : Bool) : Option Cannon :=
  if 0 ≤ barrel ∧ barrel < c.solenoids.length then
    some { c with solenoids := c.solenoids.set barrel.toNat on }
  else none

/-- The cannon after `Fire`, and the barrel a callback was asked for. -/
def fire (c : Cannon) : Option (Cannon × Option ℤ) :=
  if c.firing then some (c, none)
  else do
    let barrel := (if c.barrel = 7 then -1 else c.barrel) + 1
    let c ← { c with barrel }.set barrel true
    return ({ c with firing := true }, some barrel)

def closeSolenoid (c : Cannon) : Option Cannon := do
  let c ← c.set c.barrel false
  return { c with firing := false }

def reset (c : Cannon) : Cannon :=
  if c.firing then c else { c with barrel := -1 }

end Cannon

/-- The cannon and, for each callback still to come, the barrel that its `Fire`
opened. -/
structure Robot where
  cannon : Cannon
  due : List ℤ

/-- One of the entry points; a callback is for one of those still to come, and
none without. -/
inductive Event where
  | fire
  | reset
  | closeSolenoid (which : ℕ)

namespace Robot

def construct : Robot := ⟨Cannon.construct, []⟩

def step (r : Robot) : Event → Option Robot
  | .fire => do
    let (cannon, opened) ← r.cannon.fire
    return ⟨cannon, r.due ++ opened.toList⟩
  | .reset => some { r with cannon := r.cannon.reset }
  | .closeSolenoid which =>
    if which < r.due.length then do
      let cannon ← r.cannon.closeSolenoid
      return ⟨cannon, r.due.eraseIdx which⟩
    else some r

/-- A run stops where nothing is defined. -/
def next (r : Option Robot) (e : Event) : Option Robot := r.bind (step · e)

end Robot

/-- What the barrels are for: a `Fire` takes the next one, its callback gives it
back, a `Reset` starts over. There is never a second callback to come. -/
def follow (s : State) : Event → State
  | .fire => Rotation.step s .take
  | .reset => Rotation.step s .restart
  | .closeSolenoid 0 => Rotation.step s .release
  | .closeSolenoid (_ + 1) => s

/-- Of eight barrels, in the state after these events, one at most is open: the
one that the last `Fire` opened, until its callback. The next `Fire` that is
accepted is number `taken + 1` since the last effective `Reset`. -/
structure InRotation (s : State) (r : Robot) : Prop where
  firing : r.cannon.firing = s.held
  barrel : r.cannon.barrel = index 8 s.taken
  range : -1 ≤ r.cannon.barrel ∧ r.cannon.barrel ≤ 7
  opened_iff : ∀ i : ℕ, r.cannon.solenoids[i]? = some true ↔
    r.cannon.firing = true ∧ (i : ℤ) = r.cannon.barrel
  due : r.due.length = if r.cannon.firing then 1 else 0
  callback : ∀ opened ∈ r.due, ∃ i : ℕ, opened = i ∧ r.cannon.solenoids[i]? = some true ∧
    r.cannon.closeSolenoid =
      some { r.cannon with solenoids := r.cannon.solenoids.set i false, firing := false }
  accepted : r.cannon.firing = false → ∃ after, r.step .fire = some after ∧
    after.cannon.solenoids[s.taken % 8]? = some true ∧ after.due = [((s.taken % 8 : ℕ) : ℤ)]
  refused : r.cannon.firing = true → r.step .fire = some r ∧ r.step .reset = some r

/-- All eight solenoids closed but, while one is held, the place's own. -/
def valves (s : State) : List Bool :=
  if s.held then (List.replicate 8 false).set (index 8 s.taken).toNat true else List.replicate 8 false

/-- The members and the callbacks are those of the rotation. -/
structure Shows (s : State) (r : Robot) : Prop where
  started : s.held = true → 0 < s.taken
  cannon : r.cannon = ⟨valves s, index 8 s.taken, s.held⟩
  due : r.due = if s.held then [index 8 s.taken] else []

theorem valves_length (s : State) : (valves s).length = 8 := by
  unfold valves
  split_ifs <;> simp

/-- Taken some, the place is one of the eight. -/
theorem index_inside {taken : ℕ} (some : 0 < taken) :
    0 ≤ index 8 taken ∧ index 8 taken < 8 := by
  obtain ⟨k, rfl⟩ := Nat.exists_eq_succ_of_ne_zero some.ne'
  have inside := Nat.mod_lt k (show 0 < 8 by decide)
  rw [index]
  omega

theorem set_valves {s : State} {barrel : ℤ} (inside : 0 ≤ barrel ∧ barrel < 8) (old : ℤ) (firing on : Bool) :
    (Cannon.mk (valves s) old firing).set barrel on =
      some ⟨(valves s).set barrel.toNat on, old, firing⟩ := by
  rw [Cannon.set, valves_length]
  exact if_pos inside

theorem valves_released {s : State} (held : s.held = true) :
    (valves s).set (index 8 s.taken).toNat false = List.replicate 8 false := by
  rw [valves, if_pos held, List.set_set, List.set_replicate_self]

theorem none_open (n i : ℕ) : (List.replicate n false)[i]? ≠ some true := by
  rw [List.getElem?_replicate]
  split_ifs <;> simp

/-- Open is the place's own solenoid, and only while it is held. -/
theorem valves_open_iff {s : State} (started : s.held = true → 0 < s.taken) (i : ℕ) :
    (valves s)[i]? = some true ↔ s.held = true ∧ (i : ℤ) = index 8 s.taken := by
  cases held : s.held with
  | false =>
    rw [valves, held]
    exact iff_of_false (none_open 8 i) fun open_ => Bool.false_ne_true open_.1
  | true =>
    obtain ⟨lower, upper⟩ := index_inside (started held)
    obtain ⟨k, same⟩ := Int.eq_ofNat_of_zero_le lower
    rw [valves, if_pos held, same, Int.toNat_natCast, Nat.cast_inj, and_iff_right rfl]
    by_cases here : k = i
    · subst here
      have inside : k < 8 := by omega
      simp [inside]
    · rw [List.getElem?_set_ne here]
      exact iff_of_false (none_open 8 i) (Ne.symm here)

section
variable {s : State} {r : Robot} (shown : Shows s r)
include shown

theorem fire_free (free : s.held = false) :
    r.step .fire = some ⟨⟨valves ⟨s.taken + 1, true⟩, index 8 (s.taken + 1), true⟩,
      [index 8 (s.taken + 1)]⟩ := by
  obtain ⟨cannon, due⟩ := r
  obtain ⟨_, rfl, rfl⟩ := shown
  have next := index_succ (n := 8) (by decide) s.taken
  have inside := index_inside (Nat.succ_pos s.taken)
  rw [show ((8 : ℕ) : ℤ) - 1 = 7 by rfl] at next
  simp only [Robot.step, Cannon.fire, free, Bool.false_eq_true, if_false, ← next]
  rw [set_valves inside]
  simp [valves, free]

theorem firing_refuses (firing : s.held = true) : r.step .fire = some r ∧ r.step .reset = some r := by
  obtain ⟨cannon, due⟩ := r
  obtain ⟨_, rfl, rfl⟩ := shown
  simp [Robot.step, Cannon.fire, Cannon.reset, firing]

/-- The callback finds the barrel that its `Fire` opened. -/
theorem close_held (firing : s.held = true) : r.cannon.closeSolenoid =
    some ⟨List.replicate 8 false, index 8 s.taken, false⟩ := by
  obtain ⟨started, same, _⟩ := shown
  rw [same, Cannon.closeSolenoid, set_valves (index_inside (started firing)), valves_released firing]
  rfl

/-- One event: nothing undefined happens, and the rotation follows. -/
theorem step_shows (e : Event) : ∃ after, r.step e = some after ∧ Shows (follow s e) after := by
  cases held : s.held with
  | false =>
    cases e with
    | fire =>
      refine ⟨_, fire_free shown held, ?_⟩
      simp only [follow, Rotation.step, held, Bool.false_eq_true, if_false]
      exact ⟨fun _ => Nat.succ_pos _, rfl, rfl⟩
    | reset =>
      refine ⟨_, rfl, ?_⟩
      obtain ⟨cannon, due⟩ := r
      obtain ⟨_, rfl, rfl⟩ := shown
      simp only [follow, Rotation.step, Cannon.reset, held, Bool.false_eq_true, if_false]
      exact ⟨fun firing => absurd firing Bool.false_ne_true, by simp [valves, held, index], rfl⟩
    | closeSolenoid which =>
      have none : ¬which < r.due.length := by simp [shown.due, held]
      refine ⟨r, if_neg none, ?_⟩
      have same : follow s (.closeSolenoid which) = s := by
        obtain ⟨taken, held⟩ := s
        subst held
        cases which <;> rfl
      rw [same]
      exact shown
  | true =>
    cases e with
    | fire =>
      refine ⟨r, (firing_refuses shown held).1, ?_⟩
      rw [follow, Rotation.step, if_pos held]
      exact shown
    | reset =>
      refine ⟨r, (firing_refuses shown held).2, ?_⟩
      rw [follow, Rotation.step, if_pos held]
      exact shown
    | closeSolenoid which =>
      have one : r.due = [index 8 s.taken] := by simp [shown.due, held]
      cases which with
      | zero =>
        refine ⟨⟨⟨List.replicate 8 false, index 8 s.taken, false⟩, []⟩, ?_, ?_⟩
        · simp [Robot.step, one, close_held shown held]
        · exact ⟨fun firing => absurd firing Bool.false_ne_true, rfl, rfl⟩
      | succ which =>
        refine ⟨r, ?_, shown⟩
        simp [Robot.step, one]

theorem callback_closes (firing : s.held = true) : ∃ i : ℕ, index 8 s.taken = i ∧
    r.cannon.solenoids[i]? = some true ∧ r.cannon.closeSolenoid =
      some { r.cannon with solenoids := r.cannon.solenoids.set i false, firing := false } := by
  obtain ⟨i, same⟩ := Int.eq_ofNat_of_zero_le (index_inside (shown.started firing)).1
  refine ⟨i, same, ?_, ?_⟩
  · rw [shown.cannon]
    exact (valves_open_iff shown.started i).mpr ⟨firing, same.symm⟩
  · have closed := valves_released firing
    rw [same, Int.toNat_natCast] at closed
    rw [close_held shown firing, shown.cannon, closed]

theorem inRotation_of_shows : InRotation s r where
  firing := by rw [shown.cannon]
  barrel := by rw [shown.cannon]
  range := by
    obtain ⟨lower, upper⟩ := index_range (n := 8) (by decide) s.taken
    rw [shown.cannon]
    exact ⟨lower, Int.le_of_lt_add_one upper⟩
  opened_iff i := by
    rw [shown.cannon]
    exact valves_open_iff shown.started i
  due := by
    rw [shown.due, shown.cannon]
    cases s.held <;> rfl
  callback opened member := by
    rw [shown.due] at member
    split_ifs at member with held
    · rw [List.mem_singleton.mp member]
      exact callback_closes shown held
    · cases member
  accepted free := by
    rw [shown.cannon] at free
    have started : (State.mk (s.taken + 1) true).held = true → 0 < s.taken + 1 :=
      fun _ => Nat.succ_pos _
    exact ⟨_, fire_free shown free, (valves_open_iff started _).mpr ⟨rfl, rfl⟩, rfl⟩
  refused firing := by
    rw [shown.cannon] at firing
    exact firing_refuses shown firing

end

theorem construct_shows : Shows {} Robot.construct :=
  ⟨fun held => absurd held Bool.false_ne_true, rfl, rfl⟩

/-- Every order of events, by induction on the last. -/
theorem run_shows (events : List Event) : ∃ r,
    run Robot.next (some Robot.construct) events = some r ∧ Shows (run follow {} events) r := by
  induction events using List.reverseRecOn with
  | nil => exact ⟨_, rfl, construct_shows⟩
  | append_singleton events e ih =>
    obtain ⟨r, reached, shown⟩ := ih
    obtain ⟨after, stepped, next⟩ := step_shows shown e
    refine ⟨after, ?_, ?_⟩
    · rw [run_concat, reached]
      exact stepped
    · rw [run_concat]
      exact next

/-- In every run of the three entry points the barrels fire one at a time and in
rotation. -/
theorem barrels_in_rotation (events : List Event) : ∃ r,
    run Robot.next (some Robot.construct) events = some r ∧
      InRotation (run follow {} events) r := by
  obtain ⟨r, reached, shown⟩ := run_shows events
  exact ⟨r, reached, inRotation_of_shows shown⟩

-- the ninth shot is the first barrel's again
example : (run Robot.next (some Robot.construct)
    (List.replicate 9 [.fire, .closeSolenoid 0]).flatten).map (·.cannon.barrel) = some 0 := by
  decide

end Steamworks.Avenger
