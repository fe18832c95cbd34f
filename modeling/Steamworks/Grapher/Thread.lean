import Mathlib

/-! The grapher's robot side: one thread that reports its device list, takes a
datagram, updates its subscriptions and sends their values. Message layouts are
those of the shared header, all bytes. What a step indexes and reads is kept as
its accesses; a write or a fetch outside an array leaves no state to speak of. -/
namespace Steamworks.Grapher

abbrev maxNumberOfDevices : ℕ := 64
abbrev maxPacketSize : ℕ := 150
abbrev maxNumberOfDatapoints : ℕ := 16

namespace DeviceType

def talon : UInt8 := 0
def dio : UInt8 := 1
def roboRIO : UInt8 := 2

end DeviceType

namespace MessageID

def deviceListRequest : UInt8 := 0
def deviceListResponse : UInt8 := 1
def updateSubscription : UInt8 := 2
def subscriptionData : UInt8 := 3
def changeUpdateRate : UInt8 := 4

end MessageID

/-- A device; its object is a pointer, null for the RoboRIO. -/
structure DeviceBundle where
  type : UInt8
  id : UInt8
  objectPointer : Option ℕ
  deriving DecidableEq

structure Subscription where
  deviceType : UInt8
  deviceID : UInt8
  propertyID : UInt8
  bundle : Option ℕ
  deriving DecidableEq

/-- A device list as it is sent; entries that were not written are left out. -/
structure DeviceListResponse where
  numberOfDevices : UInt8
  deviceTypes : List UInt8
  deviceIDs : List UInt8
  deriving DecidableEq

/-- The vector, the thread's locals and the two sums; `millisecondsToWait` are
the bytes of the float. -/
structure Grapher where
  devices : List DeviceBundle
  subscriptions : Fin maxNumberOfDatapoints → Subscription
  millisecondsToWait : Fin 4 → UInt8
  packetSpace : Fin maxPacketSize → UInt8
  currentSum : ℤ
  pastSum : ℤ
  sent : List DeviceListResponse := []

inductive Access where
  | packet (position : ℕ)
  | subscription (index : ℕ)
  | device (index : ℤ)
  | response (index : ℕ)
  deriving DecidableEq

structure Datagram where
  bytes : List UInt8
  nonempty : 1 ≤ bytes.length
  fits : bytes.length ≤ maxPacketSize

/-- `IndexOfBundleWithID`, which misses with -1. -/
def indexOfBundleWithID (devices : List DeviceBundle) (targetDevice : UInt8) (id : ℤ) : ℤ :=
  match devices.findIdx? fun bundle => bundle.type == targetDevice && (bundle.id.toNat : ℤ) == id with
  | some index => index
  | none => -1

/-- An element of a vector, which is not checked for. -/
def elementAt (devices : List DeviceBundle) (index : ℤ) : Option DeviceBundle :=
  if index < 0 then none else devices[index.toNat]?

namespace Grapher

/-- The thread as it starts, the RoboRIO added to the devices, with the memory
it was given; the float is 50. -/
def start (devices : List DeviceBundle) (subscriptions : Fin maxNumberOfDatapoints → Subscription)
    (packetSpace : Fin maxPacketSize → UInt8) : Grapher where
  devices := devices ++ [⟨DeviceType.roboRIO, 0, none⟩]
  subscriptions slot := { subscriptions slot with deviceID := 255, propertyID := 255 }
  millisecondsToWait := ![0, 0, 72, 66]
  packetSpace := packetSpace
  currentSum := 0
  pastSum := -1

/-- A datagram overwrites the front of the packet space. -/
def receive (g : Grapher) (d : Datagram) : Grapher :=
  { g with packetSpace := fun position => d.bytes.getD position (g.packetSpace position) }

def header (g : Grapher) : UInt8 := g.packetSpace 0

def deviceListResponse (g : Grapher) : DeviceListResponse where
  numberOfDevices := UInt8.ofNat g.currentSum.toNat
  deviceTypes := g.devices.map DeviceBundle.type
  deviceIDs := g.devices.map DeviceBundle.id

/-- Every device of the vector is copied, into arrays of 64. -/
def sendDeviceList (g : Grapher) : List Access × Option Grapher :=
  ((List.range g.devices.length).flatMap fun (i : ℕ) => [.device i, .response i],
    if g.devices.length ≤ maxNumberOfDevices then
      some { g with sent := g.deviceListResponse :: g.sent, pastSum := g.currentSum }
    else none)

def updateSubscription (g : Grapher) : List Access × Option Grapher :=
  let index := (g.packetSpace 1).toNat
  let deviceType := g.packetSpace 2
  let deviceID := g.packetSpace 3
  let propertyID := g.packetSpace 4
  let bundleindex := indexOfBundleWithID g.devices deviceType deviceID.toNat
  let searched := if bundleindex < 0 then g.devices.length else bundleindex.toNat + 1
  ([.packet 1, .packet 2, .subscription index, .packet 3, .packet 4] ++
      (List.range searched).map (fun (i : ℕ) => .device i) ++ [.device bundleindex],
    if slot : index < maxNumberOfDatapoints then
      (elementAt g.devices bundleindex).map fun device =>
        let subscription := ⟨deviceType, deviceID, propertyID, device.objectPointer⟩
        { g with subscriptions := Function.update g.subscriptions ⟨index, slot⟩ subscription }
    else none)

def changeUpdateRate (g : Grapher) : List Access × Option Grapher :=
  ([.packet 1, .packet 2, .packet 3, .packet 4],
    some { g with millisecondsToWait :=
      ![g.packetSpace 1, g.packetSpace 2, g.packetSpace 3, g.packetSpace 4] })

/-- The switch on the header; the other messages are not handled. -/
def dispatch (g : Grapher) : List Access × Option Grapher :=
  if g.header = MessageID.deviceListRequest then g.sendDeviceList
  else if g.header = MessageID.updateSubscription then g.updateSubscription
  else if g.header = MessageID.changeUpdateRate then g.changeUpdateRate
  else ([], some g)

/-- What is done with a received datagram. -/
def process (g : Grapher) (d : Datagram) : List Access × Option Grapher :=
  let handled := (g.receive d).dispatch
  (.packet 0 :: handled.1, handled.2)

end Grapher
/-- The first device registered under a type and an ID. -/
def registered (devices : List DeviceBundle) (type id : UInt8) : Option DeviceBundle :=
  devices.find? fun bundle => bundle.type == type && bundle.id == id

theorem index_match (type id : UInt8) :
    (fun bundle : DeviceBundle => bundle.type == type && (bundle.id.toNat : ℤ) == (id.toNat : ℤ)) =
      fun bundle => bundle.type == type && bundle.id == id := by
  funext bundle
  have same : ((bundle.id.toNat : ℤ) == (id.toNat : ℤ)) = (bundle.id == id) := by
    rw [Bool.eq_iff_iff, beq_iff_eq, beq_iff_eq, Nat.cast_inj, UInt8.toNat_inj]
  rw [same]

theorem indexOfBundleWithID_found {devices : List DeviceBundle} {type id : UInt8} {index : ℕ}
    (found : (devices.findIdx? fun bundle => bundle.type == type && bundle.id == id) = some index) :
    indexOfBundleWithID devices type id.toNat = index := by
  rw [indexOfBundleWithID, index_match, found]

/-- The search finds the registered device, or misses. -/
theorem indexOfBundleWithID_cases (devices : List DeviceBundle) (type id : UInt8) :
    (registered devices type id = none ∧ indexOfBundleWithID devices type id.toNat = -1) ∨
      ∃ index bundle, devices[index]? = some bundle ∧ registered devices type id = some bundle ∧
        indexOfBundleWithID devices type id.toNat = (index : ℕ) := by
  unfold registered
  rw [List.find?_eq_bind_findIdx?_getElem?]
  cases found : devices.findIdx? fun bundle => bundle.type == type && bundle.id == id with
  | none =>
    left
    refine ⟨rfl, ?_⟩
    rw [indexOfBundleWithID, index_match, found]
  | some index =>
    obtain ⟨bound, _⟩ := List.findIdx?_eq_some_iff_getElem.mp found
    exact .inr ⟨index, devices[index], List.getElem?_eq_getElem bound,
      List.getElem?_eq_getElem bound, indexOfBundleWithID_found found⟩

theorem elementAt_index (devices : List DeviceBundle) (type id : UInt8) :
    elementAt devices (indexOfBundleWithID devices type id.toNat) = registered devices type id := by
  obtain ⟨missing, index⟩ | ⟨index, bundle, there, found, same⟩ :=
    indexOfBundleWithID_cases devices type id
  · rw [index, missing]
    rfl
  · rw [same, found, elementAt, if_neg (by omega), Int.toNat_natCast, there]

end Steamworks.Grapher
