import Steamworks.Library.Ownership
import Steamworks.Library.Run
import Steamworks.Grapher.Thread

/-! The devices the tool makes and deletes, and the vector of them it shares with
the thread. A pin holds an input or an output in one place; only inputs are
listed. -/
namespace Steamworks.Grapher
open Library.Ownership Library.Run

/-- What a pin holds; the two pointers are a union. -/
structure DigitalBoth where
  isInput : Bool := false
  object : Option ℕ := none

inductive DeviceClass where
  | canTalon
  | digitalInput
  | digitalOutput
  deriving DecidableEq

/-- Beside the tool's own: the objects alive, how many were made, and which were
deleted, each with the class it was deleted as. -/
structure Registry where
  devices : List DeviceBundle := []
  allTalons : ℤ → Option ℕ := fun _ => none
  allDigitalBoths : ℤ → DigitalBoth := fun _ => {}
  live : Finset ℕ := ∅
  created : ℕ := 0
  deleted : List (DeviceClass × ℕ) := []

/-- A pin, as both menus ask until they are given one. -/
structure Pin where
  id : ℤ
  lower : 0 ≤ id
  upper : id ≤ 9

namespace Registry

def new (r : Registry) : Registry :=
  { r with live := insert r.created r.live, created := r.created + 1 }

/-- Deleting null does nothing. -/
def delete (r : Registry) (as : DeviceClass) (object : Option ℕ) : Registry :=
  { r with
    live := r.live \ object.toFinset
    deleted := (object.map (as, ·)).toList ++ r.deleted }

def hold (r : Registry) (id : ℤ) (both : DigitalBoth) : Registry :=
  { r with allDigitalBoths := Function.update r.allDigitalBoths id both }

/-- The ID of a bundle is a byte. -/
def push (r : Registry) (type : UInt8) (id : ℤ) (object : ℕ) : Registry :=
  { r with devices := r.devices ++ [⟨type, UInt8.ofInt id, some object⟩] }

def newTalon (r : Registry) (id : ℤ) : Registry :=
  { r.new.push DeviceType.talon id r.created with
    allTalons := Function.update r.allTalons id (some r.created) }

def possiblyCreateTalon (r : Registry) (id : ℤ) : Registry :=
  if r.allTalons id = none then r.newTalon id else r

def newInput (r : Registry) (id : ℤ) : Registry :=
  (r.new.hold id ⟨true, some r.created⟩).push DeviceType.dio id r.created

/-- What the pin holds is deleted through a member of the union, and its pointer
cleared. -/
def clear (r : Registry) (as : DeviceClass) (id : ℤ) : Registry :=
  let both := r.allDigitalBoths id
  (r.delete as both.object).hold id { both with object := none }

def dropOutput (r : Registry) (id : ℤ) : Registry :=
  if (r.allDigitalBoths id).isInput then r else r.clear .digitalOutput id

def possiblyCreateDigitalInput (r : Registry) (id : ℤ) : Registry :=
  let r := r.dropOutput id
  if (r.allDigitalBoths id).object = none then r.newInput id else r

def newOutput (r : Registry) (id : ℤ) : Registry := r.new.hold id ⟨false, some r.created⟩

/-- The bundle of a deleted input is erased where it is found; erasing before
the first has no meaning. -/
def dropInput (r : Registry) (id : ℤ) : Option Registry :=
  if (r.allDigitalBoths id).isInput then
    let index := indexOfBundleWithID r.devices DeviceType.dio id
    if index < 0 then none
    else some { r.clear .digitalInput id with devices := r.devices.eraseIdx index.toNat }
  else some r

def possiblyCreateDigitalOutput (r : Registry) (id : ℤ) : Option Registry :=
  (r.dropInput id).map fun r =>
    if (r.allDigitalBoths id).object = none then r.newOutput id else r

end Registry

inductive Call where
  | possiblyCreateTalon (id : ℤ)
  | possiblyCreateDigitalInput (pin : Pin)
  | possiblyCreateDigitalOutput (pin : Pin)

def Registry.call (r : Registry) : Call → Option Registry
  | .possiblyCreateTalon id => some (r.possiblyCreateTalon id)
  | .possiblyCreateDigitalInput pin => some (r.possiblyCreateDigitalInput pin.id)
  | .possiblyCreateDigitalOutput pin => r.possiblyCreateDigitalOutput pin.id

inductive Owner where
  | talon (id : ℤ)
  | pin (id : ℤ)
  deriving DecidableEq

namespace Registry

def holding (r : Registry) : Holding Owner where
  live := r.live
  created := r.created
  held
    | .talon id => r.allTalons id
    | .pin id => (r.allDigitalBoths id).object

/-- The bundle of a pin's input. -/
def inputBundle (r : Registry) (id : ℤ) : DeviceBundle :=
  ⟨DeviceType.dio, UInt8.ofInt id, (r.allDigitalBoths id).object⟩

end Registry

def DeviceBundle.named (type id : UInt8) (bundle : DeviceBundle) : Bool :=
  bundle.type == type && bundle.id == id

structure Sound (r : Registry) : Prop where
  owned : Owned r.holding
  held : ∀ id, (r.allDigitalBoths id).isInput → (r.allDigitalBoths id).object ≠ none
  pins : ∀ id, (r.allDigitalBoths id).isInput → 0 ≤ id ∧ id ≤ 9
  listed : ∀ id, (r.allDigitalBoths id).isInput → r.inputBundle id ∈ r.devices
  dios : ∀ bundle ∈ r.devices, bundle.type = DeviceType.dio →
    ∃ id, (r.allDigitalBoths id).isInput ∧ bundle = r.inputBundle id
  others : ∀ bundle ∈ r.devices, bundle.type ≠ DeviceType.dio → ∀ object,
    bundle.objectPointer = some object → ∃ id, r.allTalons id = some object
  once : ∀ id, r.devices.countP (DeviceBundle.named DeviceType.dio id) ≤ 1

variable {r : Registry}

theorem held_hold (r : Registry) (id : ℤ) (both : DigitalBoth) :
    (r.hold id both).holding.held = Function.update r.holding.held (.pin id) both.object := by
  funext owner
  cases owner with
  | talon other => simp [Registry.hold, Registry.holding]
  | pin other =>
    simp only [Registry.hold, Registry.holding, Function.update_apply, Owner.pin.injEq]
    split_ifs <;> rfl

theorem holding_newTalon (r : Registry) (id : ℤ) :
    (r.newTalon id).holding = r.holding.take (.talon id) := by
  have held : (r.newTalon id).holding.held = (r.holding.take (.talon id)).held := by
    funext owner
    cases owner with
    | talon other =>
      change Function.update r.allTalons id (some r.created) other = _
      simp [Holding.take, Registry.holding, Function.update_apply]
    | pin other =>
      change (r.allDigitalBoths other).object = _
      simp [Holding.take, Registry.holding]
  exact congrArg (Holding.mk _ _) held

theorem holding_newInput (r : Registry) (id : ℤ) :
    (r.newInput id).holding = r.holding.take (.pin id) :=
  congrArg (Holding.mk _ _) (held_hold r.new id ⟨true, some r.created⟩)

theorem holding_newOutput (r : Registry) (id : ℤ) :
    (r.newOutput id).holding = r.holding.take (.pin id) :=
  congrArg (Holding.mk _ _) (held_hold r.new id ⟨false, some r.created⟩)

theorem holding_clear (r : Registry) (as : DeviceClass) (id : ℤ) :
    (r.clear as id).holding = r.holding.drop (.pin id) :=
  congrArg (Holding.mk _ _) (held_hold (r.delete as (r.allDigitalBoths id).object) id
    { r.allDigitalBoths id with object := none })

theorem clear_null (r : Registry) (as : DeviceClass) (id : ℤ) :
    ((r.clear as id).allDigitalBoths id).object = none := by
  simp [Registry.clear, Registry.hold]

theorem byte_toNat {id : ℤ} (lower : 0 ≤ id) (upper : id ≤ 9) : ((UInt8.ofInt id).toNat : ℤ) = id := by
  have whole : id % 2 ^ 8 = id := Int.emod_eq_of_lt lower (by omega)
  have small : id.toNat < UInt8.size := by
    change id.toNat < 256
    omega
  rw [UInt8.ofInt, whole, UInt8.toNat_ofNat_of_lt' small, Int.toNat_of_nonneg lower]

theorem Sound.pin_eq (sound : Sound r) {id : ℤ} (input : (r.allDigitalBoths id).isInput)
    (pin : Pin) (same : UInt8.ofInt id = UInt8.ofInt pin.id) : id = pin.id := by
  obtain ⟨lower, upper⟩ := sound.pins id input
  have bytes := byte_toNat lower upper
  rw [same, byte_toNat pin.lower pin.upper] at bytes
  exact bytes.symm

/-- A device that is no DIO pin joins the list. -/
theorem sound_append (sound : Sound r) {s : Registry} {added : DeviceBundle}
    (noPin : added.type ≠ DeviceType.dio) (devices : s.devices = r.devices ++ [added])
    (boths : s.allDigitalBoths = r.allDigitalBoths)
    (talons : ∀ id object, r.allTalons id = some object → s.allTalons id = some object)
    (pointer : ∀ object, added.objectPointer = some object → ∃ id, s.allTalons id = some object)
    (owned : Owned s.holding) : Sound s := by
  refine ⟨owned, ?_, ?_, ?_, ?_, ?_, ?_⟩
  · rw [boths]
    exact sound.held
  · rw [boths]
    exact sound.pins
  · intro pin input
    rw [boths] at input
    rw [devices, Registry.inputBundle, boths]
    exact List.mem_append_left _ (sound.listed pin input)
  · intro bundle member dio
    rw [devices] at member
    rcases List.mem_append.mp member with old | new
    · obtain ⟨pin, input, same⟩ := sound.dios bundle old dio
      refine ⟨pin, ?_, ?_⟩
      · rw [boths]
        exact input
      · rw [Registry.inputBundle, boths]
        exact same
    · rw [List.mem_singleton.mp new] at dio
      exact absurd dio noPin
  · intro bundle member other object held
    rw [devices] at member
    rcases List.mem_append.mp member with old | new
    · obtain ⟨id, holds⟩ := sound.others bundle old other object held
      exact ⟨id, talons id object holds⟩
    · rw [List.mem_singleton.mp new] at held
      exact pointer object held
  · intro pin
    have unnamed : added.named DeviceType.dio pin = false := by
      simp [DeviceBundle.named, noPin]
    rw [devices, List.countP_append, List.countP_singleton, unnamed]
    exact sound.once pin

theorem sound_newTalon (sound : Sound r) {id : ℤ} (null : r.allTalons id = none) :
    Sound (r.newTalon id) := by
  have here : (r.newTalon id).allTalons id = some r.created := Function.update_self _ _ _
  have noPin : DeviceType.talon ≠ DeviceType.dio := by decide
  refine sound_append sound noPin rfl rfl ?_ ?_ ?_
  · intro owner object held
    refine (Function.update_of_ne ?_ _ _).trans held
    rintro rfl
    rw [null] at held
    cases held
  · exact fun object pointer => ⟨id, here.trans pointer⟩
  · rw [holding_newTalon]
    exact sound.owned.take _

/-- A pin that came to be an output is no input any more; the inputs are others. -/
theorem input_apart {s : Registry} {id : ℤ} {object : Option ℕ}
    (boths : s.allDigitalBoths = Function.update r.allDigitalBoths id ⟨false, object⟩) (pin : ℤ)
    (input : (s.allDigitalBoths pin).isInput) :
    pin ≠ id ∧ s.allDigitalBoths pin = r.allDigitalBoths pin := by
  rw [boths] at input ⊢
  have apart : pin ≠ id := by
    rintro rfl
    rw [Function.update_self] at input
    cases input
  exact ⟨apart, Function.update_of_ne apart _ _⟩

/-- The inputs are some of those there were, and as listed as before. -/
theorem sound_fewer (sound : Sound r) {s : Registry} (owned : Owned s.holding)
    (talons : s.allTalons = r.allTalons) (shorter : s.devices.Sublist r.devices)
    (same : ∀ id, (s.allDigitalBoths id).isInput → s.allDigitalBoths id = r.allDigitalBoths id)
    (listed : ∀ id, (s.allDigitalBoths id).isInput → r.inputBundle id ∈ s.devices)
    (stays : ∀ id, (r.allDigitalBoths id).isInput → r.inputBundle id ∈ s.devices →
      (s.allDigitalBoths id).isInput) : Sound s := by
  have bundle (id : ℤ) (input : (s.allDigitalBoths id).isInput) :
      s.inputBundle id = r.inputBundle id := by
    rw [Registry.inputBundle, same id input]
    rfl
  refine ⟨owned, ?_, ?_, ?_, ?_, ?_, ?_⟩
  · intro id input
    have old := same id input
    rw [old] at input ⊢
    exact sound.held id input
  · intro id input
    rw [same id input] at input
    exact sound.pins id input
  · intro id input
    rw [bundle id input]
    exact listed id input
  · intro found member dio
    obtain ⟨id, input, rfl⟩ := sound.dios found (shorter.subset member) dio
    have still := stays id input member
    exact ⟨id, still, (bundle id still).symm⟩
  · rw [talons]
    exact fun found member => sound.others found (shorter.subset member)
  · exact fun id => shorter.countP_le.trans (sound.once id)

/-- What a pin without an input comes to hold concerns no input. -/
theorem sound_output (sound : Sound r) {id : ℤ} {object : Option ℕ} {s : Registry}
    (output : (r.allDigitalBoths id).isInput = false) (devices : s.devices = r.devices)
    (talons : s.allTalons = r.allTalons)
    (boths : s.allDigitalBoths = Function.update r.allDigitalBoths id ⟨false, object⟩)
    (owned : Owned s.holding) : Sound s := by
  have same := fun pin input => (input_apart boths pin input).2
  refine sound_fewer sound owned talons (devices ▸ List.Sublist.refl _) same ?_ ?_
  · intro pin input
    rw [same pin input] at input
    rw [devices]
    exact sound.listed pin input
  · intro pin input _
    have apart : pin ≠ id := by
      rintro rfl
      rw [output] at input
      cases input
    rw [boths, Function.update_of_ne apart]
    exact input

theorem sound_dropOutput (sound : Sound r) (id : ℤ) : Sound (r.dropOutput id) := by
  by_cases input : (r.allDigitalBoths id).isInput
  · have kept : r.dropOutput id = r := if_pos input
    rw [kept]
    exact sound
  · have output := Bool.eq_false_of_not_eq_true input
    have cleared : r.dropOutput id = r.clear .digitalOutput id := if_neg input
    have boths : (r.clear .digitalOutput id).allDigitalBoths =
        Function.update r.allDigitalBoths id ⟨false, none⟩ := by
      rw [Registry.clear, output]
      rfl
    rw [cleared]
    refine sound_output sound output rfl rfl boths ?_
    rw [holding_clear]
    exact sound.owned.drop _

theorem sound_newOutput (sound : Sound r) {id : ℤ}
    (output : (r.allDigitalBoths id).isInput = false) : Sound (r.newOutput id) := by
  refine sound_output sound output rfl rfl rfl ?_
  rw [holding_newOutput]
  exact sound.owned.take _

/-- A pin without an input is not listed. -/
theorem unlisted (sound : Sound r) (pin : Pin) (output : (r.allDigitalBoths pin.id).isInput = false) :
    r.devices.countP (DeviceBundle.named DeviceType.dio (UInt8.ofInt pin.id)) = 0 := by
  rw [List.countP_eq_zero]
  intro bundle member named
  obtain ⟨dio, byte⟩ := (Bool.and_eq_true _ _).mp named
  obtain ⟨other, input, rfl⟩ := sound.dios bundle member (eq_of_beq dio)
  rw [sound.pin_eq input pin (eq_of_beq byte), output] at input
  cases input

theorem once_newInput (sound : Sound r) (pin : Pin)
    (output : (r.allDigitalBoths pin.id).isInput = false) (id : UInt8) :
    (r.newInput pin.id).devices.countP (DeviceBundle.named DeviceType.dio id) ≤ 1 := by
  have added : (r.newInput pin.id).devices.countP (DeviceBundle.named DeviceType.dio id) =
      r.devices.countP (DeviceBundle.named DeviceType.dio id) +
        [(⟨DeviceType.dio, UInt8.ofInt pin.id, some r.created⟩ : DeviceBundle)].countP
          (DeviceBundle.named DeviceType.dio id) := List.countP_append
  by_cases same : UInt8.ofInt pin.id = id
  · rw [added, ← same, unlisted sound pin output, Nat.zero_add]
    exact List.countP_le_length
  · rw [added, List.countP_singleton, if_neg, Nat.add_zero]
    · exact sound.once id
    · simpa [DeviceBundle.named] using same

theorem sound_newInput (sound : Sound r) (pin : Pin)
    (output : (r.allDigitalBoths pin.id).isInput = false) : Sound (r.newInput pin.id) := by
  have here : (r.newInput pin.id).allDigitalBoths pin.id = ⟨true, some r.created⟩ :=
    Function.update_self _ _ _
  have there : ∀ other, other ≠ pin.id →
      (r.newInput pin.id).allDigitalBoths other = r.allDigitalBoths other := fun other apart =>
    Function.update_of_ne apart _ _
  have old : ∀ other, (r.allDigitalBoths other).isInput → other ≠ pin.id := by
    rintro _ input rfl
    rw [output] at input
    cases input
  refine ⟨?_, ?_, ?_, ?_, ?_, ?_, ?_⟩
  · rw [holding_newInput]
    exact sound.owned.take _
  · intro other input
    by_cases same : other = pin.id
    · rw [same, here]
      exact Option.some_ne_none _
    · rw [there other same] at input ⊢
      exact sound.held other input
  · intro other input
    by_cases same : other = pin.id
    · rw [same]
      exact ⟨pin.lower, pin.upper⟩
    · rw [there other same] at input
      exact sound.pins other input
  · intro other input
    by_cases same : other = pin.id
    · rw [same, Registry.inputBundle, here]
      exact List.mem_append_right _ (List.mem_singleton.mpr rfl)
    · rw [there other same] at input
      rw [Registry.inputBundle, there other same]
      exact List.mem_append_left _ (sound.listed other input)
  · intro bundle member dio
    rcases List.mem_append.mp member with before | new
    · obtain ⟨other, input, same⟩ := sound.dios bundle before dio
      refine ⟨other, ?_, ?_⟩
      · rw [there other (old other input)]
        exact input
      · rw [Registry.inputBundle, there other (old other input)]
        exact same
    · refine ⟨pin.id, ?_, ?_⟩
      · rw [here]
      · rw [Registry.inputBundle, here]
        exact List.mem_singleton.mp new
  · intro bundle member other
    rcases List.mem_append.mp member with before | new
    · exact sound.others bundle before other
    · exact absurd (congrArg DeviceBundle.type (List.mem_singleton.mp new)) other
  · exact once_newInput sound pin output

/-- An input is listed once, and that is where the search finds it. -/
theorem listed_once (sound : Sound r) (pin : Pin) (input : (r.allDigitalBoths pin.id).isInput) :
    ∃ front back, r.devices = front ++ r.inputBundle pin.id :: back ∧
      (∀ bundle ∈ front ++ back, bundle.named DeviceType.dio (UInt8.ofInt pin.id) = false) ∧
      indexOfBundleWithID r.devices DeviceType.dio pin.id = front.length := by
  obtain ⟨front, back, split⟩ := List.append_of_mem (sound.listed pin.id input)
  have here : (r.inputBundle pin.id).named DeviceType.dio (UInt8.ofInt pin.id) = true := by
    simp [DeviceBundle.named, Registry.inputBundle]
  have once := sound.once (UInt8.ofInt pin.id)
  rw [split, List.countP_append, List.countP_cons_of_pos here] at once
  have early : ∀ bundle ∈ front, ¬bundle.named DeviceType.dio (UInt8.ofInt pin.id) := by
    apply List.countP_eq_zero.mp
    omega
  have late : ∀ bundle ∈ back, ¬bundle.named DeviceType.dio (UInt8.ofInt pin.id) := by
    apply List.countP_eq_zero.mp
    omega
  refine ⟨front, back, split, ?_, ?_⟩
  · intro bundle member
    apply Bool.eq_false_of_not_eq_true
    rcases List.mem_append.mp member with first | second
    · exact early bundle first
    · exact late bundle second
  · have found : r.devices.findIdx? (DeviceBundle.named DeviceType.dio (UInt8.ofInt pin.id)) =
        some front.length := by
      have missed := List.findIdx?_eq_none_iff.mpr fun bundle first =>
        Bool.eq_false_of_not_eq_true (early bundle first)
      rw [split, List.findIdx?_append, missed, List.findIdx?_cons, here]
      simp
    rw [← byte_toNat pin.lower pin.upper]
    exact indexOfBundleWithID_found found

/-- An input of the pin became an output: its bundle is gone from between these. -/
structure Switched (r : Registry) (pin : Pin) (front back : List DeviceBundle) (s : Registry) :
    Prop where
  input : (r.allDigitalBoths pin.id).isInput
  split : r.devices = front ++ r.inputBundle pin.id :: back
  single : ∀ bundle ∈ front ++ back, bundle.named DeviceType.dio (UInt8.ofInt pin.id) = false
  devices : s.devices = front ++ back
  allTalons : s.allTalons = r.allTalons
  allDigitalBoths : s.allDigitalBoths =
    Function.update r.allDigitalBoths pin.id ⟨false, some r.created⟩
  holding : s.holding = (r.holding.drop (.pin pin.id)).take (.pin pin.id)
  deleted : s.deleted =
    ((r.allDigitalBoths pin.id).object.map (DeviceClass.digitalInput, ·)).toList ++ r.deleted

theorem switch (sound : Sound r) (pin : Pin) (input : (r.allDigitalBoths pin.id).isInput) :
    ∃ front back s, r.possiblyCreateDigitalOutput pin.id = some s ∧ Switched r pin front back s := by
  obtain ⟨front, back, split, single, found⟩ := listed_once sound pin input
  have erased : r.devices.eraseIdx front.length = front ++ back := by
    rw [split, List.eraseIdx_append_of_length_le (le_refl _), Nat.sub_self]
    rfl
  have dropped : r.dropInput pin.id =
      some { r.clear .digitalInput pin.id with devices := front ++ back } := by
    rw [Registry.dropInput, if_pos input, if_neg (by omega), found, Int.toNat_natCast, erased]
  have created : r.possiblyCreateDigitalOutput pin.id =
      some (Registry.newOutput { r.clear .digitalInput pin.id with devices := front ++ back }
        pin.id) := by
    rw [Registry.possiblyCreateDigitalOutput, dropped, Option.map_some]
    exact congrArg some (if_pos (clear_null r _ pin.id))
  refine ⟨front, back, _, created, input, split, single, rfl, rfl, ?_, ?_, rfl⟩
  · exact Function.update_idem _ _ _
  · rw [holding_newOutput, ← holding_clear r .digitalInput]
    rfl

theorem sound_switched (sound : Sound r) {pin : Pin} {s : Registry}
    (switched : Switched r pin front back s) : Sound s := by
  have inputs := input_apart switched.allDigitalBoths
  have owned : Owned s.holding := by
    rw [switched.holding]
    exact (sound.owned.drop _).take _
  have shorter : s.devices.Sublist r.devices := by
    rw [switched.devices, switched.split]
    exact List.Sublist.append_left (List.sublist_cons_self _ _) _
  refine sound_fewer sound owned switched.allTalons shorter (fun id input => (inputs id input).2) ?_ ?_
  · intro id input
    obtain ⟨apart, same⟩ := inputs id input
    rw [same] at input
    have member := sound.listed id input
    rw [switched.split] at member
    rw [switched.devices]
    rcases List.mem_append.mp member with first | later
    · exact List.mem_append_left _ first
    · rcases List.mem_cons.mp later with here | second
      · exact absurd (sound.pin_eq input pin (congrArg DeviceBundle.id here)) apart
      · exact List.mem_append_right _ second
  · intro id input member
    have apart : id ≠ pin.id := by
      rintro rfl
      rw [switched.devices] at member
      have unnamed := switched.single _ member
      simp [DeviceBundle.named, Registry.inputBundle] at unnamed
    rw [switched.allDigitalBoths, Function.update_of_ne apart]
    exact input

/-- What a call does to the devices: it adds some, or switches an input. -/
inductive Called (r : Registry) (c : Call) (s : Registry) : Prop where
  | added (added : List DeviceBundle) (devices : s.devices = r.devices ++ added)
      (unswitched : ∀ pin, c = .possiblyCreateDigitalOutput pin →
        (r.allDigitalBoths pin.id).isInput = false)
  | switched (pin : Pin) (front back : List DeviceBundle)
      (call : c = .possiblyCreateDigitalOutput pin) (switched : Switched r pin front back s)

structure Outcome (r : Registry) (c : Call) (s : Registry) : Prop where
  done : r.call c = some s
  sound : Sound s
  dead : ∀ object, Dead r.holding object → Dead s.holding object
  called : Called r c s

theorem outcome_same (sound : Sound r) {c : Call} (done : r.call c = some r)
    (unswitched : ∀ pin, c = .possiblyCreateDigitalOutput pin →
      (r.allDigitalBoths pin.id).isInput = false) : Outcome r c r :=
  ⟨done, sound, fun _ dead => dead, .added [] (List.append_nil _).symm unswitched⟩

theorem outcome_talon (sound : Sound r) (id : ℤ) : ∃ s, Outcome r (.possiblyCreateTalon id) s := by
  by_cases null : r.allTalons id = none
  · refine ⟨r.newTalon id, congrArg some (if_pos null), sound_newTalon sound null, ?_,
      .added _ rfl fun _ other => nomatch other⟩
    rw [holding_newTalon]
    exact fun object dead => dead.take _
  · exact ⟨r, outcome_same sound (congrArg some (if_neg null)) fun _ other => nomatch other⟩

/-- An input is left as it is. -/
theorem possiblyCreateDigitalInput_input (sound : Sound r) {id : ℤ}
    (input : (r.allDigitalBoths id).isInput) : r.possiblyCreateDigitalInput id = r := by
  have kept : r.dropOutput id = r := if_pos input
  rw [Registry.possiblyCreateDigitalInput, kept]
  exact if_neg (sound.held id input)

/-- Whatever else the pin holds is replaced by an input. -/
theorem possiblyCreateDigitalInput_output {id : ℤ} (input : ¬(r.allDigitalBoths id).isInput) :
    r.possiblyCreateDigitalInput id = (r.clear .digitalOutput id).newInput id := by
  have cleared : r.dropOutput id = r.clear .digitalOutput id := if_neg input
  rw [Registry.possiblyCreateDigitalInput, cleared]
  exact if_pos (clear_null r _ id)

/-- A pin that is no input is given an output if it has none. -/
theorem possiblyCreateDigitalOutput_output {id : ℤ} (input : ¬(r.allDigitalBoths id).isInput) :
    r.possiblyCreateDigitalOutput id =
      some (if (r.allDigitalBoths id).object = none then r.newOutput id else r) := by
  have kept : r.dropInput id = some r := if_neg input
  rw [Registry.possiblyCreateDigitalOutput, kept, Option.map_some]

theorem outcome_input (sound : Sound r) (pin : Pin) :
    ∃ s, Outcome r (.possiblyCreateDigitalInput pin) s := by
  by_cases input : (r.allDigitalBoths pin.id).isInput
  · have same := possiblyCreateDigitalInput_input sound input
    exact ⟨r, outcome_same sound (congrArg some same) fun _ other => nomatch other⟩
  · have made := possiblyCreateDigitalInput_output input
    have cleared : r.dropOutput pin.id = r.clear .digitalOutput pin.id := if_neg input
    have dropped := sound_dropOutput sound pin.id
    rw [cleared] at dropped
    have output : ((r.clear .digitalOutput pin.id).allDigitalBoths pin.id).isInput = false := by
      simpa [Registry.clear, Registry.hold] using input
    refine ⟨_, congrArg some made, sound_newInput dropped pin output, ?_,
      .added _ rfl fun _ other => nomatch other⟩
    rw [holding_newInput, holding_clear]
    exact fun object dead => (dead.drop _).take _

theorem outcome_output (sound : Sound r) (pin : Pin) :
    ∃ s, Outcome r (.possiblyCreateDigitalOutput pin) s := by
  by_cases input : (r.allDigitalBoths pin.id).isInput
  · obtain ⟨front, back, s, done, switched⟩ := switch sound pin input
    refine ⟨s, done, sound_switched sound switched, ?_, .switched pin front back rfl switched⟩
    rw [switched.holding]
    exact fun object dead => (dead.drop _).take _
  · have output := Bool.eq_false_of_not_eq_true input
    have unswitched : ∀ other, Call.possiblyCreateDigitalOutput pin = .possiblyCreateDigitalOutput other →
        (r.allDigitalBoths other.id).isInput = false := by
      rintro _ ⟨⟩
      exact output
    have done := possiblyCreateDigitalOutput_output input
    by_cases null : (r.allDigitalBoths pin.id).object = none
    · have made : r.possiblyCreateDigitalOutput pin.id = some (r.newOutput pin.id) := by
        rw [done, if_pos null]
      refine ⟨_, made, sound_newOutput sound output, ?_,
        .added [] (List.append_nil _).symm unswitched⟩
      rw [holding_newOutput]
      exact fun object dead => dead.take _
    · have same : r.possiblyCreateDigitalOutput pin.id = some r := by
        rw [done, if_neg null]
      exact ⟨r, outcome_same sound same unswitched⟩

theorem call_outcome (sound : Sound r) (c : Call) : ∃ s, Outcome r c s := by
  cases c with
  | possiblyCreateTalon id => exact outcome_talon sound id
  | possiblyCreateDigitalInput pin => exact outcome_input sound pin
  | possiblyCreateDigitalOutput pin => exact outcome_output sound pin

end Steamworks.Grapher
