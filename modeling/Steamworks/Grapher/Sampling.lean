import Steamworks.Grapher.RoundTrip
import Steamworks.Grapher.Registry

/-! Sampling while the tool goes on making and deleting devices: a slot keeps
the pointer it found when it was subscribed. Calls, messages and the sampling of
each slot are steps that interleave in any way. -/
namespace Steamworks.Grapher
open Library.Ownership Library.Run

structure Tool where
  registry : Registry
  grapher : Grapher

inductive Event where
  | call (c : Call)
  | updateSubscription (index deviceType deviceID propertyID : UInt8)
  | sample (slot : Fin maxNumberOfDatapoints)

def Registry.next (r : Registry) (c : Call) : Registry := (r.call c).getD r

/-- The last property a Talon is asked for, `AnalogIn`; others are made up. -/
def analogIn : UInt8 := 13

/-- The object a sampled value is read from. -/
def Subscription.dereferenced (s : Subscription) : Option ℕ :=
  if s.propertyID = 255 ∨ (s.bundle = none ∧ s.deviceType ≠ DeviceType.roboRIO) then none
  else if s.deviceType = DeviceType.roboRIO then none
  else if s.deviceType = DeviceType.talon then
    if s.propertyID ≤ analogIn then s.bundle else none
  else if s.deviceType = DeviceType.dio then s.bundle
  else none

namespace Tool

/-- The thread starts when these calls were made, if any. -/
def start (before : List Call) (subscriptions : Fin maxNumberOfDatapoints → Subscription)
    (packetSpace : Fin maxPacketSize → UInt8) : Tool :=
  let registry := run Registry.next {} before
  let grapher := Grapher.start registry.devices subscriptions packetSpace
  ⟨{ registry with devices := grapher.devices }, grapher⟩

/-- The vector the thread reads is the one the calls change. -/
def thread (t : Tool) : Grapher := { t.grapher with devices := t.registry.devices }

def step (t : Tool) : Event → Option Tool
  | .call c => (t.registry.call c).map fun r => { t with registry := r }
  | .updateSubscription index deviceType deviceID propertyID =>
      (t.thread.process (Message.datagram
        (.updateSubscription index deviceType deviceID propertyID))).2.map fun g =>
          { t with grapher := g }
  | .sample _ => some t

def slot (t : Tool) (slot : Fin maxNumberOfDatapoints) : Subscription := t.grapher.subscriptions slot

/-- The device registered under a slot's type and ID. -/
def registered (t : Tool) (slot : Fin maxNumberOfDatapoints) : Option DeviceBundle :=
  Grapher.registered t.registry.devices (t.slot slot).deviceType (t.slot slot).deviceID

end Tool

/-- A message names a registered device. -/
def Tool.Names (t : Tool) : Event → Prop
  | .updateSubscription _ deviceType deviceID _ =>
      (Grapher.registered t.registry.devices deviceType deviceID).isSome
  | _ => True

/-- The step keeps to its memory, and a sampled object is live and the one that
is registered. -/
def Tool.Safe (t : Tool) (e : Event) : Prop :=
  (t.step e).isSome ∧ ∀ slot, e = .sample slot → ∀ object,
    (t.slot slot).dereferenced = some object →
      object ∈ t.registry.live ∧ (t.registered slot).bind DeviceBundle.objectPointer = some object

/-- With it, which slots show an input that was switched to an output since they
were subscribed. -/
structure Watched where
  tool : Tool
  switched : Fin maxNumberOfDatapoints → Bool

namespace Watched

def next (w : Watched) (e : Event) : Watched where
  tool := (w.tool.step e).getD w.tool
  switched slot :=
    match e with
    | .updateSubscription index _ _ _ => w.switched slot && index.toNat != slot
    | .call (.possiblyCreateDigitalOutput pin) => w.switched slot ||
        (w.tool.registry.allDigitalBoths pin.id).isInput &&
          (w.tool.slot slot).deviceType == DeviceType.dio &&
            (w.tool.slot slot).deviceID == UInt8.ofInt pin.id
    | _ => w.switched slot

def start (before : List Call) (subscriptions : Fin maxNumberOfDatapoints → Subscription)
    (packetSpace : Fin maxPacketSize → UInt8) : Watched :=
  ⟨Tool.start before subscriptions packetSpace, fun _ => false⟩

/-- Messages address a slot there is, and no slot in use is sampled after its
input was switched. -/
def Kept (w : Watched) : Event → Prop
  | .call _ => True
  | .updateSubscription index _ _ _ => index.toNat < maxNumberOfDatapoints
  | .sample slot => (w.tool.slot slot).propertyID ≠ 255 → w.switched slot = false

end Watched

/-- A slot in use shows what is registered, or a deleted input. -/
structure SlotSound (w : Watched) (slot : Fin maxNumberOfDatapoints) : Prop where
  current : w.switched slot = false → ∃ device, w.tool.registered slot = some device ∧
    device.objectPointer = (w.tool.slot slot).bundle
  gone : w.switched slot = true → (w.tool.slot slot).deviceType = DeviceType.dio ∧
    ∃ object, (w.tool.slot slot).bundle = some object ∧ Dead w.tool.registry.holding object

structure WatchSound (w : Watched) : Prop where
  registry : Sound w.tool.registry
  slots : ∀ slot, (w.tool.slot slot).propertyID ≠ 255 → SlotSound w slot

theorem sound_empty : Sound {} := by
  refine ⟨⟨?_, ?_, ?_⟩, ?_, ?_, ?_, ?_, ?_, ?_⟩
  · intro object member
    exact absurd member (Finset.notMem_empty object)
  · rintro (id | id) object ⟨⟩
  · rintro (id | id) other object ⟨⟩
  · rintro id ⟨⟩
  · rintro id ⟨⟩
  · rintro id ⟨⟩
  · rintro bundle ⟨⟩
  · rintro bundle ⟨⟩
  · exact fun id => Nat.zero_le 1

theorem sound_calls (before : List Call) : Sound (run Registry.next {} before) := by
  refine run_invariant ?_ sound_empty before
  intro r c sound
  obtain ⟨s, outcome⟩ := call_outcome sound c
  rw [Registry.next, outcome.done]
  exact outcome.sound

theorem sound_robot {r : Registry} (sound : Sound r) :
    Sound { r with devices := r.devices ++ [⟨DeviceType.roboRIO, 0, none⟩] } :=
  sound_append sound (by decide) rfl rfl (fun _ _ held => held) (fun _ none => nomatch none)
    sound.owned

theorem watch_start (before : List Call) (subscriptions : Fin maxNumberOfDatapoints → Subscription)
    (packetSpace : Fin maxPacketSize → UInt8) :
    WatchSound (.start before subscriptions packetSpace) := by
  refine ⟨sound_robot (sound_calls before), ?_⟩
  intro slot used
  exact absurd rfl used

theorem listed_live {r : Registry} (sound : Sound r) {device : DeviceBundle}
    (member : device ∈ r.devices) {object : ℕ} (pointer : device.objectPointer = some object) :
    object ∈ r.live := by
  by_cases dio : device.type = DeviceType.dio
  · obtain ⟨id, _, rfl⟩ := sound.dios device member dio
    exact sound.owned.live (.pin id) object pointer
  · obtain ⟨id, held⟩ := sound.others device member dio object pointer
    exact sound.owned.live (.talon id) object held

theorem registered_eq (devices : List DeviceBundle) (type id : UInt8) :
    registered devices type id = devices.find? (DeviceBundle.named type id) := rfl

theorem registered_append {devices : List DeviceBundle} {type id : UInt8} {device : DeviceBundle}
    (found : registered devices type id = some device) (added : List DeviceBundle) :
    registered (devices ++ added) type id = some device := by
  rw [registered_eq, List.find?_append, ← registered_eq, found, Option.some_or]

theorem registered_mem {devices : List DeviceBundle} {type id : UInt8} {device : DeviceBundle}
    (found : registered devices type id = some device) :
    device ∈ devices ∧ device.type = type ∧ device.id = id := by
  have named := List.find?_some found
  simp only [Bool.and_eq_true, beq_iff_eq] at named
  exact ⟨List.mem_of_find?_eq_some found, named⟩

/-- Erasing a bundle leaves what is registered under another name. -/
theorem registered_erase {front back : List DeviceBundle} {bundle : DeviceBundle} {type id : UInt8}
    (apart : bundle.named type id = false) :
    registered (front ++ back) type id = registered (front ++ bundle :: back) type id := by
  have skipped : (bundle :: back).find? (DeviceBundle.named type id) =
      back.find? (DeviceBundle.named type id) :=
    List.find?_cons_of_neg (by rw [apart]; exact Bool.false_ne_true)
  rw [registered_eq, registered_eq, List.find?_append, List.find?_append, skipped]

/-- What is registered under the pin's name before the switch is its input. -/
theorem registered_switched {r s : Registry} {pin : Pin} {front back : List DeviceBundle}
    (switched : Switched r pin front back s) {device : DeviceBundle}
    (found : registered r.devices DeviceType.dio (UInt8.ofInt pin.id) = some device) :
    device = r.inputBundle pin.id := by
  obtain ⟨member, type, id⟩ := registered_mem found
  rw [switched.split] at member
  have named : device.named DeviceType.dio (UInt8.ofInt pin.id) = true := by
    simp [DeviceBundle.named, type, id]
  have outside : device ∉ front ++ back := by
    intro inside
    rw [switched.single device inside] at named
    cases named
  rcases List.mem_append.mp member with first | later
  · exact absurd (List.mem_append_left _ first) outside
  · rcases List.mem_cons.mp later with here | second
    · exact here
    · exact absurd (List.mem_append_right _ second) outside

variable {w : Watched}

/-- Devices are only added: what a slot shows is as it was. -/
theorem slots_added (sound : WatchSound w) {r : Registry} {added : List DeviceBundle}
    (devices : r.devices = w.tool.registry.devices ++ added)
    (dead : ∀ object, Dead w.tool.registry.holding object → Dead r.holding object)
    {slot : Fin maxNumberOfDatapoints} (used : (w.tool.slot slot).propertyID ≠ 255)
    {switched : Fin maxNumberOfDatapoints → Bool} (same : switched slot = w.switched slot) :
    SlotSound ⟨{ w.tool with registry := r }, switched⟩ slot := by
  obtain ⟨current, gone⟩ := sound.slots slot used
  constructor
  · intro shown
    obtain ⟨device, found, pointer⟩ := current (same ▸ shown)
    refine ⟨device, ?_, pointer⟩
    change registered r.devices _ _ = _
    rw [devices]
    exact registered_append found added
  · intro shown
    obtain ⟨dio, object, pointer, deleted⟩ := gone (same ▸ shown)
    exact ⟨dio, object, pointer, dead object deleted⟩

/-- The slots of the pin now show its deleted input, the others what they did. -/
theorem slots_switched (sound : WatchSound w) {r : Registry} {pin : Pin}
    {front back : List DeviceBundle} (switch : Switched w.tool.registry pin front back r)
    {slot : Fin maxNumberOfDatapoints} (used : (w.tool.slot slot).propertyID ≠ 255)
    {switched : Fin maxNumberOfDatapoints → Bool}
    (marked : switched slot = (w.switched slot || (w.tool.slot slot).deviceType == DeviceType.dio &&
      (w.tool.slot slot).deviceID == UInt8.ofInt pin.id)) :
    SlotSound ⟨{ w.tool with registry := r }, switched⟩ slot := by
  obtain ⟨current, gone⟩ := sound.slots slot used
  have dead : ∀ object, Dead (w.tool.registry.holding.drop (.pin pin.id)) object →
      Dead r.holding object := by
    intro object deleted
    rw [switch.holding]
    exact deleted.take _
  constructor
  · intro shown
    obtain ⟨kept, apart⟩ := Bool.or_eq_false_iff.mp (marked.symm.trans shown)
    obtain ⟨device, found, pointer⟩ := current kept
    refine ⟨device, ?_, pointer⟩
    have unnamed : (w.tool.registry.inputBundle pin.id).named (w.tool.slot slot).deviceType
        (w.tool.slot slot).deviceID = false := by
      rw [Bool.eq_false_iff] at apart ⊢
      intro named
      apply apart
      rw [DeviceBundle.named, Bool.and_eq_true, beq_iff_eq, beq_iff_eq] at named
      rw [Bool.and_eq_true, beq_iff_eq, beq_iff_eq]
      exact ⟨named.1.symm, named.2.symm⟩
    change registered r.devices (w.tool.slot slot).deviceType (w.tool.slot slot).deviceID = _
    rw [switch.devices, registered_erase unnamed, ← switch.split]
    exact found
  · intro shown
    rcases (Bool.or_eq_true _ _).mp (marked.symm.trans shown) with earlier | now
    · obtain ⟨dio, object, pointer, deleted⟩ := gone earlier
      exact ⟨dio, object, pointer, dead object (deleted.drop _)⟩
    · rw [Bool.and_eq_true, beq_iff_eq, beq_iff_eq] at now
      obtain ⟨dio, id⟩ := now
      cases before : w.switched slot with
      | true =>
        obtain ⟨_, object, pointer, deleted⟩ := gone before
        exact ⟨dio, object, pointer, dead object (deleted.drop _)⟩
      | false =>
        obtain ⟨device, found, pointer⟩ := current before
        change registered w.tool.registry.devices _ _ = _ at found
        rw [dio, id] at found
        obtain ⟨object, held⟩ := Option.ne_none_iff_exists'.mp
          (sound.registry.held pin.id switch.input)
        have input := registered_switched switch found
        refine ⟨dio, object, ?_, dead object (drop_dead sound.registry.owned held)⟩
        change (w.tool.slot slot).bundle = some object
        rw [← pointer, input]
        exact held

theorem watch_call (sound : WatchSound w) (c : Call) :
    (w.tool.step (.call c)).isSome ∧ WatchSound (w.next (.call c)) := by
  obtain ⟨r, outcome⟩ := call_outcome sound.registry c
  have stepped : w.tool.step (.call c) = some { w.tool with registry := r } := by
    rw [Tool.step, outcome.done, Option.map_some]
  have next : (w.next (.call c)).tool = { w.tool with registry := r } := by
    rw [Watched.next, stepped, Option.getD_some]
  refine ⟨by rw [stepped]; rfl, ?_, ?_⟩
  · rw [next]
    exact outcome.sound
  · intro slot used
    rw [next] at used
    have same : w.next (.call c) = ⟨{ w.tool with registry := r }, (w.next (.call c)).switched⟩ := by
      rw [← next]
    rw [same]
    cases outcome.called with
    | added added devices unswitched =>
      refine slots_added sound devices outcome.dead used ?_
      cases c with
      | possiblyCreateTalon id => rfl
      | possiblyCreateDigitalInput pin => rfl
      | possiblyCreateDigitalOutput pin =>
        simp [Watched.next, unswitched pin rfl]
    | switched pin front back call switch =>
      subst call
      refine slots_switched sound switch used ?_
      simp [Watched.next, switch.input]

theorem step_outside (t : Tool) {index : UInt8} (outside : ¬index.toNat < maxNumberOfDatapoints)
    (deviceType deviceID propertyID : UInt8) :
    t.step (.updateSubscription index deviceType deviceID propertyID) = none := by
  have whole : 5 ≤ (Message.datagram
      (.updateSubscription index deviceType deviceID propertyID)).bytes.length := le_refl 5
  have stuck := (updateSubscription_whole (g := t.thread) whole).trans (dif_neg outside)
  exact congrArg (Option.map _) stuck

/-- A message for a slot and a registered device sets the slot and no other. -/
theorem step_subscribed (t : Tool) {index deviceType deviceID : UInt8}
    (inside : index.toNat < maxNumberOfDatapoints) (propertyID : UInt8) {device : DeviceBundle}
    (found : registered t.registry.devices deviceType deviceID = some device) :
    ∃ u, t.step (.updateSubscription index deviceType deviceID propertyID) = some u ∧
      u.registry = t.registry ∧ u.grapher.subscriptions =
        Function.update t.grapher.subscriptions ⟨index.toNat, inside⟩
          ⟨deviceType, deviceID, propertyID, device.objectPointer⟩ := by
  have whole : 5 ≤ (Message.datagram
      (.updateSubscription index deviceType deviceID propertyID)).bytes.length := le_refl 5
  have named : registered t.thread.devices deviceType deviceID = some device := found
  have updated := (updateSubscription_whole (g := t.thread) whole).trans (dif_pos inside)
  change _ = (registered t.thread.devices deviceType deviceID).map _ at updated
  rw [named, Option.map_some] at updated
  exact ⟨_, congrArg (Option.map _) updated, rfl, rfl⟩

theorem watch_update (sound : WatchSound w) {index deviceType deviceID : UInt8}
    (inside : index.toNat < maxNumberOfDatapoints) (propertyID : UInt8)
    (named : w.tool.Names (.updateSubscription index deviceType deviceID propertyID)) :
    (w.tool.step (.updateSubscription index deviceType deviceID propertyID)).isSome ∧
      WatchSound (w.next (.updateSubscription index deviceType deviceID propertyID)) := by
  obtain ⟨device, found⟩ := Option.isSome_iff_exists.mp named
  obtain ⟨u, stepped, registry, subscriptions⟩ := step_subscribed w.tool inside propertyID found
  have next : (w.next (.updateSubscription index deviceType deviceID propertyID)).tool = u := by
    rw [Watched.next, stepped, Option.getD_some]
  refine ⟨by rw [stepped]; rfl, ?_, ?_⟩
  · rw [next, registry]
    exact sound.registry
  · intro slot used
    by_cases here : index.toNat = slot
    · have set : u.slot slot = ⟨deviceType, deviceID, propertyID, device.objectPointer⟩ := by
        have addressed : (⟨index.toNat, inside⟩ : Fin maxNumberOfDatapoints) = slot := Fin.ext here
        rw [Tool.slot, subscriptions, addressed, Function.update_self]
      constructor
      · intro _
        refine ⟨device, ?_, ?_⟩
        · rw [next, Tool.registered, set, registry]
          exact found
        · rw [next, set]
      · intro shown
        have still : (w.switched slot && index.toNat != slot) = true := shown
        simp [here] at still
    · have kept : u.slot slot = w.tool.slot slot := by
        rw [Tool.slot, subscriptions]
        apply Function.update_of_ne
        rintro rfl
        exact here rfl
      have same : (w.next (.updateSubscription index deviceType deviceID propertyID)).switched slot =
          w.switched slot := by
        change (w.switched slot && index.toNat != slot) = _
        simp [here]
      rw [next, kept] at used
      obtain ⟨current, gone⟩ := sound.slots slot used
      constructor
      · rw [same, next, Tool.registered, kept, registry]
        exact current
      · rw [same, next, kept, registry]
        exact gone

/-- Under the invariant a slot in use reads a live registered object exactly
when its input was not switched. -/
theorem sample_safe (sound : WatchSound w) (slot : Fin maxNumberOfDatapoints) :
    w.tool.Safe (.sample slot) ↔ w.Kept (.sample slot) := by
  constructor
  · rintro ⟨_, safe⟩ used
    by_contra shown
    obtain ⟨dio, object, pointer, deleted⟩ :=
      (sound.slots slot used).gone (Bool.eq_true_of_not_eq_false shown)
    have read : (w.tool.slot slot).dereferenced = some object := by
      simp [Subscription.dereferenced, used, dio, pointer, DeviceType.dio, DeviceType.roboRIO,
        DeviceType.talon]
    exact deleted.2 (safe slot rfl object read).1
  · intro kept
    refine ⟨rfl, ?_⟩
    rintro _ ⟨⟩ object read
    have used : (w.tool.slot slot).propertyID ≠ 255 := by
      intro unused
      rw [Subscription.dereferenced, if_pos (.inl unused)] at read
      cases read
    have pointer : (w.tool.slot slot).bundle = some object := by
      unfold Subscription.dereferenced at read
      split_ifs at read <;> exact read
    obtain ⟨device, found, same⟩ := (sound.slots slot used).current (kept used)
    have listed : device.objectPointer = some object := same.trans pointer
    refine ⟨?_, by rw [found, Option.bind_some, listed]⟩
    exact listed_live sound.registry (registered_mem found).1 listed

/-- Sampling reads live registered objects along a run of messages that name
registered devices exactly when each addresses one of the slots and no slot in
use is sampled after its input was switched to an output. -/
theorem sampling_safe_iff (before : List Call)
    (subscriptions : Fin maxNumberOfDatapoints → Subscription)
    (packetSpace : Fin maxPacketSize → UInt8) (events : List Event)
    (named : Along Watched.next (fun w e => w.tool.Names e)
      (.start before subscriptions packetSpace) events) :
    Along Watched.next (fun w e => w.tool.Safe e) (.start before subscriptions packetSpace) events ↔
      Along Watched.next Watched.Kept (.start before subscriptions packetSpace) events := by
  refine along_congr_within ?_ ?_ (watch_start before subscriptions packetSpace) events named
  · intro w e sound names safe
    cases e with
    | call c => exact (watch_call sound c).2
    | updateSubscription index deviceType deviceID propertyID =>
      have inside : index.toNat < maxNumberOfDatapoints := by
        by_contra outside
        have done := safe.1
        rw [step_outside w.tool outside] at done
        cases done
      exact (watch_update sound inside propertyID names).2
    | sample slot => exact sound
  · intro w e sound names
    cases e with
    | call c => exact ⟨fun _ => trivial, fun _ => ⟨(watch_call sound c).1, fun _ other => nomatch other⟩⟩
    | updateSubscription index deviceType deviceID propertyID =>
      constructor
      · rintro ⟨done, _⟩
        by_contra outside
        rw [step_outside w.tool outside] at done
        cases done
      · intro inside
        exact ⟨(watch_update sound inside propertyID names).1, fun _ other => nomatch other⟩
    | sample slot => exact sample_safe sound slot

def thirdPin : Pin := ⟨3, by decide, by decide⟩

/-- Pin 3 is read, and shown in the first slot. -/
def shownInput : List Event :=
  [.call (.possiblyCreateDigitalInput thirdPin), .updateSubscription 0 1 3 0,
    .sample 0]

def freshWatch : Watched := .start [] (fun _ => ⟨0, 0, 0, none⟩) fun _ => 0

theorem shown_input_safe : Along Watched.next (fun w e => w.tool.Safe e) freshWatch shownInput := by
  have named : Along Watched.next (fun w e => w.tool.Names e) freshWatch shownInput :=
    ⟨trivial, rfl, trivial, trivial⟩
  have addressed : (0 : UInt8).toNat < maxNumberOfDatapoints := by decide
  exact (sampling_safe_iff [] _ _ shownInput named).mpr
    ⟨trivial, addressed, fun _ => rfl, trivial⟩

/-- The pin is then written to, and the slot sampled: the input it reads is deleted. -/
def switchedInput : List Event :=
  [.call (.possiblyCreateDigitalInput thirdPin), .updateSubscription 0 1 3 0,
    .call (.possiblyCreateDigitalOutput thirdPin), .sample 0]

theorem switched_input_unsafe :
    Along Watched.next (fun w e => w.tool.Names e) freshWatch switchedInput ∧
      ¬Along Watched.next (fun w e => w.tool.Safe e) freshWatch switchedInput := by
  refine ⟨⟨trivial, rfl, trivial, trivial, trivial⟩, ?_⟩
  rintro ⟨_, _, _, ⟨_, safe⟩, _⟩
  obtain ⟨live, _⟩ := safe 0 rfl 0 rfl
  exact absurd live (by decide)

end Steamworks.Grapher
