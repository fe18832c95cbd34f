import Steamworks.Grapher.Sampling
import Steamworks.Library.Ledger

/-! The objects of the DIO pins over any calls, with a ledger: what was deleted, and
as what, the registry tells itself, and which call made an object is read off the
number of them made. -/
namespace Steamworks.Grapher
open Library.Ownership Library.Run

/-- The class of what the union points to, going by the flag. -/
def DigitalBoth.member (both : DigitalBoth) : DeviceClass :=
  if both.isInput then .digitalInput else .digitalOutput

namespace Registry

def classOf (r : Registry) : Owner → DeviceClass
  | .talon _ => .canTalon
  | .pin id => (r.allDigitalBoths id).member

/-- The bundles registered for a pin. -/
def bundles (r : Registry) (pin : Pin) : List DeviceBundle :=
  r.devices.filter (DeviceBundle.named DeviceType.dio (UInt8.ofInt pin.id))

def eraseIndex (r : Registry) (pin : Pin) : ℤ :=
  indexOfBundleWithID r.devices DeviceType.dio pin.id

end Registry

namespace Call

/-- For whom a call makes an object, if it makes one. -/
def owner : Call → Owner
  | .possiblyCreateTalon id => .talon id
  | .possiblyCreateDigitalInput pin | .possiblyCreateDigitalOutput pin => .pin pin.id

def makes : Call → DeviceClass
  | .possiblyCreateTalon _ => .canTalon
  | .possiblyCreateDigitalInput _ => .digitalInput
  | .possiblyCreateDigitalOutput _ => .digitalOutput

end Call

structure Trace where
  registry : Registry := {}
  made : ℕ → Option (Owner × DeviceClass) := fun _ => none

namespace Trace

def next (t : Trace) (c : Call) : Trace where
  registry := t.registry.next c
  made object :=
    if t.registry.created ≤ object ∧ object < (t.registry.next c).created then some (c.owner, c.makes)
    else t.made object

def ledger (t : Trace) : Ledger Owner DeviceClass where
  holding := t.registry.holding
  kind := t.registry.classOf
  made := t.made
  deleted := t.registry.deleted

/-- A live object that was made for the pin. -/
def Owns (t : Trace) (pin : Pin) (object : ℕ) : Prop :=
  object ∈ t.registry.live ∧ ∃ kind, t.made object = some (.pin pin.id, kind)

/-- The pin is in input mode, and holds this live `DigitalInput`. -/
structure Reads (t : Trace) (pin : Pin) (object : ℕ) : Prop where
  isInput : (t.registry.allDigitalBoths pin.id).isInput
  holds : (t.registry.allDigitalBoths pin.id).object = some object
  live : object ∈ t.registry.live
  made : t.made object = some (.pin pin.id, .digitalInput)

end Trace

variable {r s : Registry} {t : Trace} {c : Call}

theorem classOf_update {id : ℤ} {both : DigitalBoth}
    (boths : s.allDigitalBoths = Function.update r.allDigitalBoths id both) :
    s.classOf = Function.update r.classOf (.pin id) both.member := by
  funext owner
  cases owner with
  | talon other => simp [Registry.classOf]
  | pin other =>
    simp only [Registry.classOf, boths, Function.update_apply, Owner.pin.injEq]
    split_ifs <;> rfl

theorem classOf_talon (boths : s.allDigitalBoths = r.allDigitalBoths) (id : ℤ) :
    s.classOf = Function.update r.classOf (.talon id) .canTalon := by
  funext owner
  cases owner with
  | talon other => simp [Registry.classOf, Function.update_apply]
  | pin other => simp [Registry.classOf, boths]

/-- One more object was made, for the caller. -/
theorem made_next (one : (t.registry.next c).created = t.registry.created + 1) :
    (t.next c).made = Function.update t.made t.registry.created (some (c.owner, c.makes)) := by
  funext object
  simp only [Trace.next, one, Function.update_apply]
  have only : t.registry.created ≤ object ∧ object < t.registry.created + 1 ↔
      object = t.registry.created := by omega
  simp only [only]

theorem ledger_same (same : t.registry.next c = t.registry) : (t.next c).ledger = t.ledger := by
  have none : ∀ object, ¬(t.registry.created ≤ object ∧ object < t.registry.created) :=
    fun object both => absurd both.1 (not_le.mpr both.2)
  simp [Trace.ledger, Trace.next, same, none]

theorem ledger_take (holding : (t.registry.next c).holding = t.registry.holding.take c.owner)
    (kind : (t.registry.next c).classOf = Function.update t.registry.classOf c.owner c.makes)
    (deleted : (t.registry.next c).deleted = t.registry.deleted) :
    (t.next c).ledger = t.ledger.take c.owner c.makes := by
  have one : (t.registry.next c).created = t.registry.created + 1 :=
    congrArg Holding.created holding
  have made := made_next one
  rw [Trace.ledger, made]
  simp only [Trace.next, holding, kind, deleted]
  rfl

theorem ledger_replace
    (holding : (t.registry.next c).holding = (t.registry.holding.drop c.owner).take c.owner)
    (kind : (t.registry.next c).classOf = Function.update t.registry.classOf c.owner c.makes)
    (deleted : (t.registry.next c).deleted = ((t.registry.holding.held c.owner).map
      (t.registry.classOf c.owner, ·)).toList ++ t.registry.deleted) :
    (t.next c).ledger = (t.ledger.drop c.owner).take c.owner c.makes := by
  have one : (t.registry.next c).created = t.registry.created + 1 :=
    congrArg Holding.created holding
  have made := made_next one
  rw [Trace.ledger, made]
  simp only [Trace.next, holding, kind, deleted]
  rfl

theorem balanced_talon (balanced : Balanced t.ledger) (id : ℤ) :
    Balanced (t.next (.possiblyCreateTalon id)).ledger := by
  by_cases null : t.registry.allTalons id = none
  · have next : t.registry.next (.possiblyCreateTalon id) = t.registry.newTalon id := if_pos null
    have taken : (t.next (.possiblyCreateTalon id)).ledger = t.ledger.take (.talon id) .canTalon := by
      refine ledger_take ?_ ?_ ?_ <;> rw [next]
      · exact holding_newTalon t.registry id
      · exact classOf_talon rfl id
      · rfl
    have empty : t.ledger.holding.held (.talon id) = none := null
    rw [taken]
    exact balanced.take empty _
  · have same : t.registry.next (.possiblyCreateTalon id) = t.registry := if_neg null
    rw [ledger_same same]
    exact balanced

theorem balanced_input (sound : Sound t.registry) (balanced : Balanced t.ledger) (pin : Pin) :
    Balanced (t.next (.possiblyCreateDigitalInput pin)).ledger := by
  by_cases input : (t.registry.allDigitalBoths pin.id).isInput
  · have same : t.registry.next (.possiblyCreateDigitalInput pin) = t.registry :=
      possiblyCreateDigitalInput_input sound input
    rw [ledger_same same]
    exact balanced
  · have next : t.registry.next (.possiblyCreateDigitalInput pin) =
        (t.registry.clear .digitalOutput pin.id).newInput pin.id :=
      possiblyCreateDigitalInput_output input
    have boths : ((t.registry.clear .digitalOutput pin.id).newInput pin.id).allDigitalBoths =
        Function.update t.registry.allDigitalBoths pin.id ⟨true, some t.registry.created⟩ :=
      Function.update_idem _ _ _
    have replaced : (t.next (.possiblyCreateDigitalInput pin)).ledger =
        (t.ledger.drop (.pin pin.id)).take (.pin pin.id) .digitalInput := by
      refine ledger_replace ?_ ?_ ?_
      · rw [next, holding_newInput, holding_clear]
        rfl
      · rw [next]
        exact classOf_update boths
      · have kind : t.registry.classOf (.pin pin.id) = .digitalOutput := if_neg input
        rw [next, Call.owner, kind]
        rfl
    rw [replaced]
    exact balanced.replace _ _

theorem balanced_output (sound : Sound t.registry) (balanced : Balanced t.ledger) (pin : Pin) :
    Balanced (t.next (.possiblyCreateDigitalOutput pin)).ledger := by
  by_cases input : (t.registry.allDigitalBoths pin.id).isInput
  · obtain ⟨front, back, s, done, switched⟩ := switch sound pin input
    have next : t.registry.next (.possiblyCreateDigitalOutput pin) = s := by
      rw [Registry.next, Registry.call, done, Option.getD_some]
    have replaced : (t.next (.possiblyCreateDigitalOutput pin)).ledger =
        (t.ledger.drop (.pin pin.id)).take (.pin pin.id) .digitalOutput := by
      refine ledger_replace ?_ ?_ ?_
      · rw [next, switched.holding]
        rfl
      · rw [next]
        exact classOf_update switched.allDigitalBoths
      · have kind : t.registry.classOf (.pin pin.id) = .digitalInput := if_pos input
        rw [next, Call.owner, kind, switched.deleted]
        rfl
    rw [replaced]
    exact balanced.replace _ _
  · have done := possiblyCreateDigitalOutput_output input
    by_cases null : (t.registry.allDigitalBoths pin.id).object = none
    · have next : t.registry.next (.possiblyCreateDigitalOutput pin) =
          t.registry.newOutput pin.id := by
        rw [Registry.next, Registry.call, done, if_pos null, Option.getD_some]
      have taken : (t.next (.possiblyCreateDigitalOutput pin)).ledger =
          t.ledger.take (.pin pin.id) .digitalOutput := by
        refine ledger_take ?_ ?_ ?_ <;> rw [next]
        · exact holding_newOutput t.registry pin.id
        · have boths : (t.registry.newOutput pin.id).allDigitalBoths =
              Function.update t.registry.allDigitalBoths pin.id ⟨false, some t.registry.created⟩ := rfl
          exact classOf_update boths
        · rfl
      have empty : t.ledger.holding.held (.pin pin.id) = none := null
      rw [taken]
      exact balanced.take empty _
    · have same : t.registry.next (.possiblyCreateDigitalOutput pin) = t.registry := by
        rw [Registry.next, Registry.call, done, if_neg null, Option.getD_some]
      rw [ledger_same same]
      exact balanced

structure TraceSound (t : Trace) : Prop where
  registry : Sound t.registry
  balanced : Balanced t.ledger

theorem traceSound_next (sound : TraceSound t) (c : Call) : TraceSound (t.next c) := by
  constructor
  · obtain ⟨s, outcome⟩ := call_outcome sound.registry c
    have next : (t.next c).registry = s := by
      rw [Trace.next, Registry.next, outcome.done, Option.getD_some]
    rw [next]
    exact outcome.sound
  · cases c with
    | possiblyCreateTalon id => exact balanced_talon sound.balanced id
    | possiblyCreateDigitalInput pin => exact balanced_input sound.registry sound.balanced pin
    | possiblyCreateDigitalOutput pin => exact balanced_output sound.registry sound.balanced pin

theorem traceSound_empty : TraceSound {} := by
  refine ⟨sound_empty, sound_empty.owned, ?_, ?_, ?_, List.nodup_nil⟩
  · intro object member
    exact absurd member (Finset.notMem_empty object)
  · rintro entry ⟨⟩
  · rintro entry ⟨⟩

theorem traceSound_calls (calls : List Call) : TraceSound (run Trace.next {} calls) :=
  run_invariant (I := TraceSound) (fun _ c sound => traceSound_next sound c) traceSound_empty calls

/-- An input's bundle is the only one registered for its pin. -/
theorem bundles_input (sound : Sound r) (pin : Pin) (input : (r.allDigitalBoths pin.id).isInput) :
    r.bundles pin = [r.inputBundle pin.id] := by
  obtain ⟨front, back, split, single, _⟩ := listed_once sound pin input
  have here : (r.inputBundle pin.id).named DeviceType.dio (UInt8.ofInt pin.id) = true := by
    simp [DeviceBundle.named, Registry.inputBundle]
  have none : (front ++ back).filter (DeviceBundle.named DeviceType.dio (UInt8.ofInt pin.id)) = [] := by
    rw [List.filter_eq_nil_iff]
    intro bundle member
    simp [single bundle member]
  rw [List.filter_append, List.append_eq_nil_iff] at none
  obtain ⟨early, late⟩ := none
  rw [Registry.bundles, split, List.filter_append, List.filter_cons_of_pos here, early, late]
  rfl

theorem reads_iff (sound : TraceSound t) (pin : Pin) (object : ℕ) :
    t.Reads pin object ↔
      t.registry.bundles pin = [⟨DeviceType.dio, UInt8.ofInt pin.id, some object⟩] := by
  constructor
  · intro reads
    rw [bundles_input sound.registry pin reads.isInput, Registry.inputBundle, reads.holds]
  · intro registered
    have listed : (⟨DeviceType.dio, UInt8.ofInt pin.id, some object⟩ : DeviceBundle) ∈
        t.registry.bundles pin := by
      rw [registered]
      exact List.mem_singleton_self _
    have member := (List.mem_filter.mp listed).1
    obtain ⟨id, input, same⟩ := sound.registry.dios _ member rfl
    obtain rfl := sound.registry.pin_eq input pin (congrArg DeviceBundle.id same).symm
    have holds : t.ledger.holding.held (.pin pin.id) = some object :=
      (congrArg DeviceBundle.objectPointer same).symm
    have made := sound.balanced.made_of_held holds
    have kind : t.ledger.kind (.pin pin.id) = .digitalInput := if_pos input
    rw [kind] at made
    exact ⟨input, holds, sound.registry.owned.live (.pin pin.id) object holds, made⟩

theorem eraseIndex_valid (sound : Sound r) (pin : Pin)
    (input : (r.allDigitalBoths pin.id).isInput) :
    0 ≤ r.eraseIndex pin ∧ r.eraseIndex pin < r.devices.length := by
  obtain ⟨front, back, split, _, found⟩ := listed_once sound pin input
  have length : r.devices.length = front.length + (back.length + 1) := by
    rw [split, List.length_append, List.length_cons]
  rw [Registry.eraseIndex, found, length]
  omega

/-- What a call deletes is what the pin holds, which is alive. -/
theorem deleted_live (sound : Sound r) (c : Call) : ∃ now, (r.next c).deleted = now ++ r.deleted ∧
    ∀ entry ∈ now, entry.2 ∈ r.live := by
  have same (next : (r.next c).deleted = r.deleted) :
      ∃ now, (r.next c).deleted = now ++ r.deleted ∧ ∀ entry ∈ now, entry.2 ∈ r.live :=
    ⟨[], next, fun _ member => absurd member List.not_mem_nil⟩
  have held (pin : Pin) (as : DeviceClass) (entry : DeviceClass × ℕ)
      (member : entry ∈ ((r.allDigitalBoths pin.id).object.map (as, ·)).toList) :
      entry.2 ∈ r.live := by
    obtain ⟨object, holds, rfl⟩ := Option.map_eq_some_iff.mp (Option.mem_toList.mp member)
    exact sound.owned.live (.pin pin.id) object holds
  cases c with
  | possiblyCreateTalon id =>
    apply same
    change (r.possiblyCreateTalon id).deleted = r.deleted
    unfold Registry.possiblyCreateTalon
    split_ifs <;> rfl
  | possiblyCreateDigitalInput pin =>
    by_cases input : (r.allDigitalBoths pin.id).isInput
    · exact same (congrArg Registry.deleted (possiblyCreateDigitalInput_input sound input))
    · refine ⟨_, ?_, held pin .digitalOutput⟩
      exact congrArg Registry.deleted (possiblyCreateDigitalInput_output input)
  | possiblyCreateDigitalOutput pin =>
    by_cases input : (r.allDigitalBoths pin.id).isInput
    · obtain ⟨front, back, s, done, switched⟩ := switch sound pin input
      refine ⟨_, ?_, held pin .digitalInput⟩
      rw [Registry.next, Registry.call, done, Option.getD_some, switched.deleted]
    · apply same
      rw [Registry.next, Registry.call, possiblyCreateDigitalOutput_output input, Option.getD_some]
      split_ifs <;> rfl

/-- After any calls a pin owns one live object at most; it reads an input
exactly when the one bundle registered for it is that input's; what was deleted
was deleted once and as what it was made; and the next call, whichever it is,
deletes only what is alive and erases only where a bundle is. -/
theorem pins_owned (calls : List Call) :
    let t := run Trace.next {} calls
    (∀ pin first second, t.Owns pin first → t.Owns pin second → first = second) ∧
      (∀ pin object, t.Reads pin object ↔
        t.registry.bundles pin = [⟨DeviceType.dio, UInt8.ofInt pin.id, some object⟩]) ∧
      (t.registry.deleted.map Prod.snd).Nodup ∧
      (∀ entry ∈ t.registry.deleted, ∃ owner, t.made entry.2 = some (owner, entry.1)) ∧
      ∀ c, (t.registry.call c).isSome ∧
        (∃ now, (t.registry.next c).deleted = now ++ t.registry.deleted ∧
          ∀ entry ∈ now, entry.2 ∈ t.registry.live) ∧
        ∀ pin, c = .possiblyCreateDigitalOutput pin →
          (t.registry.allDigitalBoths pin.id).isInput →
          0 ≤ t.registry.eraseIndex pin ∧ t.registry.eraseIndex pin < t.registry.devices.length := by
  intro t
  have sound : TraceSound t := traceSound_calls calls
  refine ⟨?_, reads_iff sound, sound.balanced.once, sound.balanced.matching, ?_⟩
  · rintro pin first second ⟨live, kind, made⟩ ⟨otherLive, otherKind, otherMade⟩
    exact sound.balanced.single live made otherLive otherMade
  · intro c
    obtain ⟨s, outcome⟩ := call_outcome sound.registry c
    refine ⟨?_, deleted_live sound.registry c, fun pin _ => eraseIndex_valid sound.registry pin⟩
    rw [outcome.done]
    rfl

end Steamworks.Grapher
