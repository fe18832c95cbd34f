import Steamworks.Grapher.Thread

/-! Which datagrams the thread handles safely: those that are whole and name
what exists. Nothing of this is checked where they are received. -/
namespace Steamworks.Grapher

namespace Datagram

/-- A byte of the message, where it has one. -/
def byte (d : Datagram) (position : ℕ) : UInt8 := d.bytes.getD position 0

end Datagram

/-- The message is whole, addresses a slot and names a registered device; a
request for the device list fits the response. -/
structure WellFormed (g : Grapher) (d : Datagram) : Prop where
  request : d.byte 0 = MessageID.deviceListRequest → g.devices.length ≤ maxNumberOfDevices
  subscription : d.byte 0 = MessageID.updateSubscription → 5 ≤ d.bytes.length ∧
    (d.byte 1).toNat < maxNumberOfDatapoints ∧ (registered g.devices (d.byte 2) (d.byte 3)).isSome
  rate : d.byte 0 = MessageID.changeUpdateRate → 5 ≤ d.bytes.length

/-- What must leave the state as it was: a truncated message, one for no slot, or
one for a device that is not registered. -/
def Rejected (g : Grapher) (d : Datagram) : Prop :=
  (d.byte 0 = MessageID.updateSubscription ∧ (d.bytes.length < 5 ∨
      maxNumberOfDatapoints ≤ (d.byte 1).toNat ∨ registered g.devices (d.byte 2) (d.byte 3) = none)) ∨
    (d.byte 0 = MessageID.changeUpdateRate ∧ d.bytes.length < 5)

/-- What a datagram may do to the state. -/
structure Confined (g : Grapher) (d : Datagram) (t : Grapher) : Prop where
  devices : t.devices = g.devices
  subscriptions : ∀ slot, t.subscriptions slot ≠ g.subscriptions slot →
    d.byte 0 = MessageID.updateSubscription ∧ (d.byte 1).toNat = slot
  rate : t.millisecondsToWait ≠ g.millisecondsToWait → d.byte 0 = MessageID.changeUpdateRate
  rejected : Rejected g d → t.subscriptions = g.subscriptions ∧
    t.millisecondsToWait = g.millisecondsToWait

/-- An access inside its array, and inside the datagram for the packet. -/
def Access.Within (g : Grapher) (d : Datagram) : Access → Prop
  | .packet position => position < d.bytes.length
  | .subscription index => index < maxNumberOfDatapoints
  | .device index => 0 ≤ index ∧ index < g.devices.length
  | .response index => index < maxNumberOfDevices

structure Safe (g : Grapher) (d : Datagram) : Prop where
  accesses : ∀ access ∈ (g.process d).1, access.Within g d
  effect : ∃ t, (g.process d).2 = some t ∧ Confined g d t

variable {g : Grapher} {d : Datagram}

theorem receive_byte {position : Fin maxPacketSize} (inside : position < d.bytes.length) :
    (g.receive d).packetSpace position = d.byte position := by
  rw [Grapher.receive, Datagram.byte]
  simp only [List.getD_eq_getElem?_getD, List.getElem?_eq_getElem inside, Option.getD_some]

theorem receive_header : (g.receive d).header = d.byte 0 := receive_byte d.nonempty

theorem sendDeviceList_within (fits : g.devices.length ≤ maxNumberOfDevices) :
    ∀ access ∈ (g.receive d).sendDeviceList.1, access.Within g d := by
  intro access member
  obtain ⟨i, range, access_eq⟩ := List.mem_flatMap.mp member
  have bound : i < g.devices.length := List.mem_range.mp range
  rw [List.mem_cons, List.mem_singleton] at access_eq
  rcases access_eq with rfl | rfl
  · exact ⟨by omega, by exact_mod_cast bound⟩
  · exact bound.trans_le fits

theorem confined_same {t : Grapher} (devices : t.devices = g.devices)
    (subscriptions : t.subscriptions = g.subscriptions)
    (rate : t.millisecondsToWait = g.millisecondsToWait) : Confined g d t where
  devices := devices
  subscriptions slot changed := absurd (congrFun subscriptions slot) changed
  rate changed := absurd rate changed
  rejected _ := ⟨subscriptions, rate⟩

/-- Safety by what the switch does with the received datagram. -/
theorem safe_iff_handled {handled : List Access × Option Grapher}
    (dispatched : (g.receive d).dispatch = handled) :
    Safe g d ↔ (∀ access ∈ handled.1, access.Within g d) ∧
      ∃ t, handled.2 = some t ∧ Confined g d t := by
  subst dispatched
  have header : Access.Within g d (.packet 0) := d.nonempty
  constructor
  · intro safe
    exact ⟨fun access member => safe.accesses access (List.mem_cons_of_mem _ member), safe.effect⟩
  · rintro ⟨accesses, effect⟩
    refine ⟨?_, effect⟩
    intro access member
    rcases List.mem_cons.mp member with rfl | later
    · exact header
    · exact accesses access later

theorem safe_request (request : d.byte 0 = MessageID.deviceListRequest) :
    Safe g d ↔ g.devices.length ≤ maxNumberOfDevices := by
  have handled : (g.receive d).dispatch = (g.receive d).sendDeviceList := by
    rw [Grapher.dispatch, receive_header, if_pos request]
  rw [safe_iff_handled handled]
  constructor
  · rintro ⟨_, t, done, _⟩
    by_contra many
    have stuck : (g.receive d).sendDeviceList.2 = none := if_neg many
    rw [stuck] at done
    cases done
  · intro fits
    exact ⟨sendDeviceList_within fits, _, if_pos fits, confined_same rfl rfl rfl⟩

theorem safe_rate (rate : d.byte 0 = MessageID.changeUpdateRate) :
    Safe g d ↔ 5 ≤ d.bytes.length := by
  have handled : (g.receive d).dispatch = (g.receive d).changeUpdateRate := by
    rw [Grapher.dispatch, receive_header, rate]
    rfl
  rw [safe_iff_handled handled]
  constructor
  · rintro ⟨accesses, _⟩
    exact accesses (.packet 4) (by simp [Grapher.changeUpdateRate])
  · intro whole
    constructor
    · intro access member
      simp only [Grapher.changeUpdateRate, List.mem_cons, List.not_mem_nil, or_false] at member
      rcases member with rfl | rfl | rfl | rfl
      all_goals
        change _ < d.bytes.length
        omega
    · refine ⟨_, rfl, rfl, ?_, fun _ => rate, ?_⟩
      · intro slot changed
        exact absurd rfl changed
      · rintro (⟨update, _⟩ | ⟨_, short⟩)
        · rw [rate] at update
          cases update
        · omega

theorem receive_message (whole : 5 ≤ d.bytes.length) :
    (g.receive d).packetSpace 1 = d.byte 1 ∧ (g.receive d).packetSpace 2 = d.byte 2 ∧
      (g.receive d).packetSpace 3 = d.byte 3 ∧ (g.receive d).packetSpace 4 = d.byte 4 := by
  have inside : ∀ position : Fin maxPacketSize, (position : ℕ) < 5 →
      (g.receive d).packetSpace position = d.byte position := fun position early =>
    receive_byte (by omega)
  exact ⟨inside 1 (by decide), inside 2 (by decide), inside 3 (by decide), inside 4 (by decide)⟩

/-- The subscription that a whole message asks for, of a device. -/
def Datagram.subscription (d : Datagram) (device : DeviceBundle) : Subscription :=
  ⟨d.byte 2, d.byte 3, d.byte 4, device.objectPointer⟩

theorem updateSubscription_whole (whole : 5 ≤ d.bytes.length) :
    (g.receive d).updateSubscription.2 =
      if slot : (d.byte 1).toNat < maxNumberOfDatapoints then
        (registered g.devices (d.byte 2) (d.byte 3)).map fun device =>
          { g.receive d with subscriptions :=
              Function.update g.subscriptions ⟨(d.byte 1).toNat, slot⟩ (d.subscription device) }
      else none := by
  obtain ⟨first, second, third, fourth⟩ := receive_message (g := g) whole
  simp only [Grapher.updateSubscription, first, second, third, fourth, elementAt_index]
  rfl

theorem updateSubscription_within (whole : 5 ≤ d.bytes.length)
    (slot : (d.byte 1).toNat < maxNumberOfDatapoints)
    (found : registered g.devices (d.byte 2) (d.byte 3) ≠ none) :
    ∀ access ∈ (g.receive d).updateSubscription.1, access.Within g d := by
  obtain ⟨first, second, third, _⟩ := receive_message (g := g) whole
  obtain ⟨missing, _⟩ | ⟨index, device, there, _, same⟩ :=
    indexOfBundleWithID_cases g.devices (d.byte 2) (d.byte 3)
  · exact absurd missing found
  · obtain ⟨bound, _⟩ := List.getElem?_eq_some_iff.mp there
    have search : indexOfBundleWithID (g.receive d).devices (d.byte 2) (d.byte 3).toNat = index :=
      same
    intro access member
    simp only [Grapher.updateSubscription, first, second, third, search, List.mem_append,
      List.mem_cons, List.mem_map, List.mem_range, List.not_mem_nil, or_false] at member
    rcases member with (fields | ⟨i, searched, rfl⟩) | rfl
    · rcases fields with rfl | rfl | rfl | rfl | rfl
      · exact Nat.lt_of_lt_of_le (by decide) whole
      · exact Nat.lt_of_lt_of_le (by decide) whole
      · exact slot
      · exact Nat.lt_of_lt_of_le (by decide) whole
      · exact Nat.lt_of_lt_of_le (by decide) whole
    · rw [if_neg (by omega), Int.toNat_natCast] at searched
      exact ⟨by omega, by omega⟩
    · exact ⟨by omega, by omega⟩

theorem safe_subscription (update : d.byte 0 = MessageID.updateSubscription) :
    Safe g d ↔ 5 ≤ d.bytes.length ∧ (d.byte 1).toNat < maxNumberOfDatapoints ∧
      (registered g.devices (d.byte 2) (d.byte 3)).isSome := by
  have handled : (g.receive d).dispatch = (g.receive d).updateSubscription := by
    rw [Grapher.dispatch, receive_header, update]
    rfl
  rw [safe_iff_handled handled]
  constructor
  · rintro ⟨accesses, t, done, _⟩
    have whole : 4 < d.bytes.length := accesses (.packet 4) (by simp [Grapher.updateSubscription])
    rw [updateSubscription_whole whole] at done
    split_ifs at done with slot
    · cases found : registered g.devices (d.byte 2) (d.byte 3) with
      | none =>
        rw [found] at done
        cases done
      | some device => exact ⟨whole, slot, rfl⟩
  · rintro ⟨whole, slot, found⟩
    obtain ⟨device, found⟩ := Option.isSome_iff_exists.mp found
    have updated := updateSubscription_whole (g := g) whole
    rw [dif_pos slot, found] at updated
    constructor
    · exact updateSubscription_within whole slot (by rw [found]; exact Option.some_ne_none device)
    · refine ⟨_, updated, rfl, ?_, ?_, ?_⟩
      · intro other changed
        refine ⟨update, ?_⟩
        by_contra apart
        apply changed
        apply Function.update_of_ne
        rintro rfl
        exact apart rfl
      · intro changed
        exact absurd rfl changed
      · rintro (⟨_, short | outside | missing⟩ | ⟨rate, _⟩)
        · omega
        · omega
        · rw [found] at missing
          cases missing
        · rw [update] at rate
          cases rate

theorem safe_other (request : d.byte 0 ≠ MessageID.deviceListRequest)
    (update : d.byte 0 ≠ MessageID.updateSubscription)
    (rate : d.byte 0 ≠ MessageID.changeUpdateRate) : Safe g d := by
  have handled : (g.receive d).dispatch = ([], some (g.receive d)) := by
    rw [Grapher.dispatch, receive_header, if_neg request, if_neg update, if_neg rate]
  rw [safe_iff_handled handled]
  refine ⟨?_, _, rfl, confined_same rfl rfl rfl⟩
  intro access member
  cases member

theorem safe_iff_wellFormed (g : Grapher) (d : Datagram) : Safe g d ↔ WellFormed g d := by
  by_cases request : d.byte 0 = MessageID.deviceListRequest
  · rw [safe_request request]
    constructor
    · intro fits
      refine ⟨fun _ => fits, ?_, ?_⟩ <;> intro other <;> rw [request] at other <;> cases other
    · intro well
      exact well.request request
  · by_cases update : d.byte 0 = MessageID.updateSubscription
    · rw [safe_subscription update]
      constructor
      · intro names
        refine ⟨fun other => absurd other request, fun _ => names, ?_⟩
        intro other
        rw [update] at other
        cases other
      · intro well
        exact well.subscription update
    · by_cases rate : d.byte 0 = MessageID.changeUpdateRate
      · rw [safe_rate rate]
        constructor
        · intro whole
          exact ⟨fun other => absurd other request, fun other => absurd other update, fun _ => whole⟩
        · intro well
          exact well.rate rate
      · constructor
        · intro _
          exact ⟨fun other => absurd other request, fun other => absurd other update,
            fun other => absurd other rate⟩
        · intro _
          exact safe_other request update rate

/-- A subscription to a Talon that is not there: the search misses, and the
device before the first is read. -/
theorem missing_talon_unsafe :
    ¬Safe (Grapher.start [] (fun _ => ⟨0, 0, 0, none⟩) fun _ => 0) ⟨[2, 0, 0, 7, 1], by decide, by decide⟩ := by
  intro safe
  have before := safe.accesses (.device (-1)) (by decide)
  exact absurd before.1 (by decide)

end Steamworks.Grapher
