import Steamworks.Grapher.Datagrams

/-! What the robot side makes of the messages of the shared header, sent as the
structs are laid out, with the ID each starts with. -/
namespace Steamworks.Grapher

structure DeviceListRequest where
  id : UInt8 := MessageID.deviceListRequest

structure UpdateSubscription where
  id : UInt8 := MessageID.updateSubscription
  subscriptionIndex : UInt8
  deviceType : UInt8
  deviceID : UInt8
  propertyID : UInt8

structure ChangeUpdateRate where
  id : UInt8 := MessageID.subscriptionData
  millisecondsToWait : Fin 4 → UInt8

def DeviceListRequest.datagram (m : DeviceListRequest) : Datagram :=
  ⟨[m.id], by simp, by simp [maxPacketSize]⟩

def UpdateSubscription.datagram (m : UpdateSubscription) : Datagram :=
  ⟨[m.id, m.subscriptionIndex, m.deviceType, m.deviceID, m.propertyID], by simp, by simp [maxPacketSize]⟩

def ChangeUpdateRate.datagram (m : ChangeUpdateRate) : Datagram :=
  ⟨[m.id, m.millisecondsToWait 0, m.millisecondsToWait 1, m.millisecondsToWait 2,
    m.millisecondsToWait 3], by simp, by simp [maxPacketSize]⟩

namespace Grapher

/-- The top of the loop: the list is sent when the number of devices changed. -/
def check (g : Grapher) : Option Grapher :=
  let g := { g with currentSum := g.devices.length }
  if g.pastSum ≠ g.currentSum then g.sendDeviceList.2 else some g

/-- One iteration that received a datagram; sampling and sending the values
leaves all of this as it is. -/
def iteration (g : Grapher) (d : Datagram) : Option Grapher :=
  g.check.bind fun g => (g.process d).2

end Grapher

/-- Nothing but what is sent changed. -/
structure Kept (g t : Grapher) : Prop where
  devices : t.devices = g.devices
  subscriptions : t.subscriptions = g.subscriptions
  millisecondsToWait : t.millisecondsToWait = g.millisecondsToWait

/-- A response that says what is registered. -/
structure Lists (devices : List DeviceBundle) (response : DeviceListResponse) : Prop where
  number : response.numberOfDevices.toNat = devices.length
  types : response.deviceTypes = devices.map DeviceBundle.type
  ids : response.deviceIDs = devices.map DeviceBundle.id

inductive Message where
  | deviceListRequest
  | updateSubscription (subscriptionIndex deviceType deviceID propertyID : UInt8)
  | changeUpdateRate (millisecondsToWait : Fin 4 → UInt8)

/-- The bytes of the struct with its own ID. -/
def Message.datagram : Message → Datagram
  | .deviceListRequest => DeviceListRequest.datagram {}
  | .updateSubscription subscriptionIndex deviceType deviceID propertyID =>
      UpdateSubscription.datagram { subscriptionIndex, deviceType, deviceID, propertyID }
  | .changeUpdateRate millisecondsToWait => ChangeUpdateRate.datagram { millisecondsToWait }

/-- The effect a message asks for: a list in answer to a request, a slot (that
there is, for a device that is registered) set as given, or the interval. -/
def Understood (g : Grapher) : Message → Prop
  | .deviceListRequest => ∃ before t, g.check = some before ∧
      g.iteration (Message.datagram .deviceListRequest) = some t ∧ Kept g t ∧
      ∃ response, t.sent = response :: before.sent ∧ Lists g.devices response
  | .updateSubscription index deviceType deviceID propertyID =>
      ∀ slot : Fin maxNumberOfDatapoints, index.toNat = slot →
      ∀ device, registered g.devices deviceType deviceID = some device →
      ∃ t, g.iteration (Message.datagram (.updateSubscription index deviceType deviceID propertyID)) =
          some t ∧
        t.devices = g.devices ∧ t.millisecondsToWait = g.millisecondsToWait ∧
        t.subscriptions = Function.update g.subscriptions slot
          ⟨deviceType, deviceID, propertyID, device.objectPointer⟩
  | .changeUpdateRate millisecondsToWait =>
      ∃ t, g.iteration (Message.datagram (.changeUpdateRate millisecondsToWait)) = some t ∧
        t.devices = g.devices ∧ t.subscriptions = g.subscriptions ∧
        t.millisecondsToWait = millisecondsToWait

/-- The list need not be sent at the top of the loop, or fits the response. -/
def ListFits (g : Grapher) : Prop :=
  g.pastSum = g.devices.length ∨ g.devices.length ≤ maxNumberOfDevices

theorem check_cases (g : Grapher) :
    (ListFits g ∧ ∃ t, g.check = some t ∧ Kept g t ∧ t.currentSum = g.devices.length) ∨
      (¬ListFits g ∧ g.check = none) := by
  unfold Grapher.check ListFits
  by_cases changed : g.pastSum = g.devices.length
  · exact .inl ⟨.inl changed, _, if_neg (not_not.mpr changed), ⟨rfl, rfl, rfl⟩, rfl⟩
  · rw [if_pos changed]
    by_cases fits : g.devices.length ≤ maxNumberOfDevices
    · exact .inl ⟨.inr fits, _, if_pos fits, ⟨rfl, rfl, rfl⟩, rfl⟩
    · refine .inr ⟨?_, if_neg fits⟩
      rintro (same | few)
      · exact changed same
      · exact fits few

theorem iteration_checked {g t : Grapher} (checked : g.check = some t) (d : Datagram) :
    g.iteration d = (t.process d).2 := by
  rw [Grapher.iteration, checked, Option.bind_some]

theorem iteration_stuck {g : Grapher} (stuck : g.check = none) (d : Datagram) :
    g.iteration d = none := by
  rw [Grapher.iteration, stuck, Option.bind_none]

theorem understood_request (g : Grapher) :
    Understood g .deviceListRequest ↔ g.devices.length ≤ maxNumberOfDevices := by
  have handled : ∀ h : Grapher, (h.process (Message.datagram .deviceListRequest)).2 =
      (h.receive (Message.datagram .deviceListRequest)).sendDeviceList.2 := fun h => rfl
  constructor
  · rintro ⟨before, t, checked, done, _⟩
    by_contra many
    rcases check_cases g with ⟨_, u, same, kept, _⟩ | ⟨_, stuck⟩
    · rw [iteration_checked same, handled] at done
      have stopped : (u.receive (Message.datagram .deviceListRequest)).sendDeviceList.2 = none := by
        apply if_neg
        change ¬u.devices.length ≤ maxNumberOfDevices
        rw [kept.devices]
        exact many
      rw [stopped] at done
      cases done
    · rw [stuck] at checked
      cases checked
  · intro fits
    rcases check_cases g with ⟨_, u, checked, kept, sum⟩ | ⟨overfull, _⟩
    · have room : u.devices.length ≤ maxNumberOfDevices := by rw [kept.devices]; exact fits
      have answered : g.iteration (Message.datagram .deviceListRequest) = _ :=
        (iteration_checked checked _).trans ((handled u).trans (if_pos room))
      refine ⟨u, _, checked, answered, ⟨kept.devices, kept.subscriptions, kept.millisecondsToWait⟩,
        _, rfl, ?_, ?_, ?_⟩
      · change (UInt8.ofNat u.currentSum.toNat).toNat = g.devices.length
        rw [sum, Int.toNat_natCast]
        exact UInt8.toNat_ofNat_of_lt' (fits.trans_lt (by decide))
      · change u.devices.map _ = _
        rw [kept.devices]
      · change u.devices.map _ = _
        rw [kept.devices]
    · exact absurd (.inr fits) overfull

theorem understood_update (g : Grapher) (index deviceType deviceID propertyID : UInt8) :
    Understood g (.updateSubscription index deviceType deviceID propertyID) ↔
      (index.toNat < maxNumberOfDatapoints → (registered g.devices deviceType deviceID).isSome →
        ListFits g) := by
  constructor
  · intro understood slot found
    obtain ⟨device, found⟩ := Option.isSome_iff_exists.mp found
    obtain ⟨t, done, _⟩ := understood ⟨index.toNat, slot⟩ rfl device found
    rcases check_cases g with ⟨fits, _⟩ | ⟨_, stuck⟩
    · exact fits
    · rw [iteration_stuck stuck] at done
      cases done
  · intro fits slot same device found
    have inside : index.toNat < maxNumberOfDatapoints := same ▸ slot.isLt
    rcases check_cases g with ⟨_, u, checked, kept, _⟩ | ⟨overfull, _⟩
    · have whole : 5 ≤ (Message.datagram
          (.updateSubscription index deviceType deviceID propertyID)).bytes.length := le_refl 5
      have present : registered u.devices deviceType deviceID = some device := by
        rw [kept.devices]
        exact found
      have updated := updateSubscription_whole (g := u) whole
      change _ = (if slot : index.toNat < maxNumberOfDatapoints then
        (registered u.devices deviceType deviceID).map _ else none) at updated
      rw [dif_pos inside, present] at updated
      refine ⟨_, (iteration_checked checked _).trans updated, kept.devices,
        kept.millisecondsToWait, ?_⟩
      have addressed : (⟨index.toNat, inside⟩ : Fin maxNumberOfDatapoints) = slot := Fin.ext same
      change Function.update u.subscriptions ⟨index.toNat, inside⟩ _ = _
      rw [addressed, kept.subscriptions]
      rfl
    · exact absurd (fits inside (by rw [found]; rfl)) overfull

theorem understood_rate (g : Grapher) (millisecondsToWait : Fin 4 → UInt8) :
    Understood g (.changeUpdateRate millisecondsToWait) ↔
      ListFits g ∧ millisecondsToWait = g.millisecondsToWait := by
  have handled : ∀ h : Grapher, (h.process (Message.datagram (.changeUpdateRate
      millisecondsToWait))).2 = some (h.receive (Message.datagram (.changeUpdateRate
      millisecondsToWait))) := fun h => rfl
  constructor
  · rintro ⟨t, done, _, _, given⟩
    rcases check_cases g with ⟨fits, u, checked, kept, _⟩ | ⟨_, stuck⟩
    · rw [iteration_checked checked, handled] at done
      cases done
      exact ⟨fits, given.symm.trans kept.millisecondsToWait⟩
    · rw [iteration_stuck stuck] at done
      cases done
  · rintro ⟨fits, rfl⟩
    rcases check_cases g with ⟨_, u, checked, kept, _⟩ | ⟨overfull, _⟩
    · exact ⟨_, (iteration_checked checked _).trans (handled u), kept.devices, kept.subscriptions,
        kept.millisecondsToWait⟩
    · exact absurd fits overfull

/-- When a message has its effect: a list that is sent has room, and the rate,
which is sent under the ID of subscription data, is the one already set. -/
def Conveyed (g : Grapher) : Message → Prop
  | .deviceListRequest => g.devices.length ≤ maxNumberOfDevices
  | .updateSubscription index deviceType deviceID _ =>
      index.toNat < maxNumberOfDatapoints → (registered g.devices deviceType deviceID).isSome →
        ListFits g
  | .changeUpdateRate millisecondsToWait =>
      ListFits g ∧ millisecondsToWait = g.millisecondsToWait

theorem understood_iff_conveyed (g : Grapher) (m : Message) : Understood g m ↔ Conveyed g m := by
  cases m with
  | deviceListRequest => exact understood_request g
  | updateSubscription index deviceType deviceID propertyID =>
    exact understood_update g index deviceType deviceID propertyID
  | changeUpdateRate millisecondsToWait => exact understood_rate g millisecondsToWait

/-- A request for 20 milliseconds, while the thread waits the 50 it starts with. -/
theorem rate_not_understood :
    ¬Understood (Grapher.start [] (fun _ => ⟨0, 0, 0, none⟩) fun _ => 0)
      (.changeUpdateRate ![0, 0, 160, 65]) := by
  rintro ⟨t, done, _, _, given⟩
  cases done
  exact absurd (congrFun given 2) (by decide)

end Steamworks.Grapher
