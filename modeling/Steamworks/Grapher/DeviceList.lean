import Steamworks.Grapher.Sampling

/-! What the host is told of the devices. The number in a response is counted at
the top of the loop, the entries are copied later, and a change is noticed by
the number alone. Calls fall between any two of these. -/
namespace Steamworks.Grapher
open Library.Run

/-- One turn of the loop, and the calls made before it, between counting and
copying, and until a datagram is there. -/
structure Turn where
  earlier : List Call
  between : List Call
  waiting : List Call
  request : Bool

abbrev Listing := List (UInt8 × UInt8)

def DeviceListResponse.listing (response : DeviceListResponse) : Listing :=
  response.deviceTypes.zip response.deviceIDs

def Registry.listing (r : Registry) : Listing := r.devices.map fun bundle => (bundle.type, bundle.id)

namespace Tool

/-- Calls go through as long as the registry is sound. -/
def change (t : Tool) (calls : List Call) : Tool :=
  { t with registry := run Registry.next t.registry calls }

def count (t : Tool) : Tool :=
  { t with grapher := { t.grapher with currentSum := t.registry.devices.length } }

def request (t : Tool) : List Access × Option Grapher :=
  t.thread.process (Message.datagram .deviceListRequest)

/-- The thread's state after what was handled, where that has a meaning. -/
def handle (t : Tool) (handled : List Access × Option Grapher) : Tool :=
  { t with grapher := handled.2.getD t.grapher }

def counted (t : Tool) (turn : Turn) : Tool := (t.change turn.earlier).count

/-- The list is sent when its length is not the one last counted. -/
def Changed (t : Tool) (turn : Turn) : Prop :=
  (t.counted turn).grapher.pastSum ≠ (t.counted turn).grapher.currentSum

instance (t : Tool) (turn : Turn) : Decidable (t.Changed turn) := inferInstanceAs (Decidable (_ ≠ _))

def copying (t : Tool) (turn : Turn) : Tool := (t.counted turn).change turn.between

def checked (t : Tool) (turn : Turn) : Tool :=
  if t.Changed turn then (t.copying turn).handle (t.copying turn).thread.sendDeviceList
  else t.copying turn

def answering (t : Tool) (turn : Turn) : Tool := (t.checked turn).change turn.waiting

/-- One turn; sampling and sleeping change nothing here. -/
def iterate (t : Tool) (turn : Turn) : Tool :=
  if turn.request then (t.answering turn).handle (t.answering turn).request else t.answering turn

/-- The list last sent. -/
def lastSent (t : Tool) : Option Listing := t.grapher.sent.head?.map DeviceListResponse.listing

/-- A response is sent that says what is registered as it is, within the arrays. -/
def Told (t : Tool) (handled : List Access × Option Grapher) : Prop :=
  (∀ index, .response index ∈ handled.1 → index < maxNumberOfDevices) ∧
    ∃ g response, handled.2 = some g ∧ g.sent = response :: t.grapher.sent ∧
      Lists t.registry.devices response

/-- Every list sent in the turn is the registered one, and one is sent if the
list at its start is not the one sent last. -/
structure Learns (t : Tool) (turn : Turn) : Prop where
  changed : t.Changed turn → (t.copying turn).Told (t.copying turn).thread.sendDeviceList
  requested : turn.request → (t.answering turn).Told (t.answering turn).request
  news : t.lastSent ≠ some (t.counted turn).registry.listing →
    t.grapher.sent.length < (t.iterate turn).grapher.sent.length

def started (t : Tool) (turn : Turn) : Registry := run Registry.next t.registry turn.earlier

/-- The number of devices stays, and within the arrays, from counting to each
copy, and a list of the length of the last one but not the same is asked for. -/
structure Settled (t : Tool) (turn : Turn) : Prop where
  changed : t.lastSent.map List.length ≠ some (t.started turn).devices.length →
    (run Registry.next (t.started turn) turn.between).devices.length =
      (t.started turn).devices.length ∧ (t.started turn).devices.length ≤ maxNumberOfDevices
  requested : turn.request →
    (run Registry.next (t.started turn) (turn.between ++ turn.waiting)).devices.length =
      (t.started turn).devices.length ∧ (t.started turn).devices.length ≤ maxNumberOfDevices
  renamed : t.lastSent.map List.length = some (t.started turn).devices.length →
    t.lastSent ≠ some (t.started turn).listing → turn.request

end Tool

variable {r s : Registry} {t : Tool} {turn : Turn}

def DeviceBundle.isDio (bundle : DeviceBundle) : Bool := bundle.type == DeviceType.dio

def DeviceBundle.isOther (bundle : DeviceBundle) : Bool := !bundle.isDio

theorem inputs_nodup (sound : Sound r) :
    ((r.devices.filter DeviceBundle.isDio).map DeviceBundle.id).Nodup := by
  rw [List.nodup_iff_count_le_one]
  intro id
  rw [List.count, List.countP_map, List.countP_filter]
  refine le_trans (List.countP_mono_left ?_) (sound.once id)
  intro bundle _ named
  obtain ⟨same, dio⟩ := (Bool.and_eq_true _ _).mp named
  exact (Bool.and_eq_true _ _).mpr ⟨dio, same⟩

/-- No more inputs are listed than there are pins. -/
theorem inputs_few (sound : Sound r) : r.devices.countP DeviceBundle.isDio ≤ 10 := by
  have pins : ∀ id ∈ (r.devices.filter DeviceBundle.isDio).map DeviceBundle.id,
      id ∈ (List.range 10).map UInt8.ofNat := by
    intro id member
    obtain ⟨bundle, listed, rfl⟩ := List.mem_map.mp member
    obtain ⟨there, dio⟩ := List.mem_filter.mp listed
    obtain ⟨pin, input, rfl⟩ := sound.dios bundle there (eq_of_beq dio)
    obtain ⟨lower, upper⟩ := sound.pins pin input
    refine List.mem_map.mpr ⟨pin.toNat, List.mem_range.mpr (by omega), ?_⟩
    change UInt8.ofNat pin.toNat = UInt8.ofInt pin
    rw [UInt8.ofInt, Int.emod_eq_of_lt lower (by omega)]
  have bound := ((inputs_nodup sound).subperm pins).length_le
  rwa [List.length_map, ← List.countP_eq_length_filter, List.length_map, List.length_range] at bound

/-- A call takes away nothing but inputs. -/
theorem called_others {c : Call} (called : Called r c s) :
    r.devices.countP DeviceBundle.isOther ≤ s.devices.countP DeviceBundle.isOther := by
  cases called with
  | added added devices unswitched =>
    rw [devices, List.countP_append]
    exact Nat.le_add_right _ _
  | switched pin front back call switched =>
    have input : ¬(r.inputBundle pin.id).isOther = true := by
      simp [DeviceBundle.isOther, DeviceBundle.isDio, Registry.inputBundle]
    rw [switched.split, switched.devices, List.countP_append, List.countP_append,
      List.countP_cons_of_neg input]

theorem calls_sound (sound : Sound r) (calls : List Call) :
    Sound (run Registry.next r calls) ∧ r.devices.countP DeviceBundle.isOther ≤
      (run Registry.next r calls).devices.countP DeviceBundle.isOther := by
  refine run_invariant (I := fun s => Sound s ∧ r.devices.countP DeviceBundle.isOther ≤
    s.devices.countP DeviceBundle.isOther) ?_ ⟨sound, le_refl _⟩ calls
  rintro s c ⟨kept, more⟩
  obtain ⟨u, outcome⟩ := call_outcome kept c
  rw [Registry.next, outcome.done, Option.getD_some]
  exact ⟨outcome.sound, more.trans (called_others outcome.called)⟩

theorem length_eq_inputs_add_others (devices : List DeviceBundle) :
    devices.length = devices.countP DeviceBundle.isDio + devices.countP DeviceBundle.isOther := by
  induction devices with
  | nil => rfl
  | cons bundle rest ih =>
    by_cases dio : bundle.isDio = true
    · have named : ¬bundle.isOther = true := by simp [DeviceBundle.isOther, dio]
      rw [List.length_cons, List.countP_cons_of_pos dio, List.countP_cons_of_neg named]
      omega
    · have named : bundle.isOther = true := by simp [DeviceBundle.isOther, dio]
      rw [List.length_cons, List.countP_cons_of_neg dio, List.countP_cons_of_pos named]
      omega

theorem calls_length (sound : Sound r) (calls : List Call) :
    r.devices.length ≤ (run Registry.next r calls).devices.length + 10 := by
  obtain ⟨_, more⟩ := calls_sound sound calls
  have before := length_eq_inputs_add_others r.devices
  have after := List.countP_le_length (p := DeviceBundle.isOther)
    (l := (run Registry.next r calls).devices)
  have few := inputs_few sound
  omega

/-- The list is copied and sent, as it is when there is room. -/
structure Sends (t : Tool) (handled : List Access × Option Grapher) : Prop where
  copies : ∀ index, .response index ∈ handled.1 ↔ index < t.registry.devices.length
  sent : t.registry.devices.length ≤ maxNumberOfDevices → ∃ g, handled.2 = some g ∧
    g.sent = t.thread.deviceListResponse :: t.grapher.sent ∧
      g.pastSum = t.grapher.currentSum ∧ g.currentSum = t.grapher.currentSum
  stuck : ¬t.registry.devices.length ≤ maxNumberOfDevices → handled.2 = none

theorem sends_list (t : Tool) : Sends t t.thread.sendDeviceList := by
  refine ⟨?_, fun fits => ⟨_, if_pos fits, rfl, rfl, rfl⟩, fun many => if_neg many⟩
  intro index
  change Access.response index ∈ (List.range t.registry.devices.length).flatMap _ ↔ _
  simp

theorem sends_request (t : Tool) : Sends t t.request := by
  refine ⟨?_, fun fits => ⟨_, if_pos fits, rfl, rfl, rfl⟩, fun many => if_neg many⟩
  intro index
  change Access.response index ∈ .packet 0 :: (List.range t.registry.devices.length).flatMap _ ↔ _
  simp

theorem lists_iff (t : Tool) : Lists t.registry.devices t.thread.deviceListResponse ↔
    (UInt8.ofNat t.grapher.currentSum.toNat).toNat = t.registry.devices.length :=
  ⟨fun lists => lists.number, fun number => ⟨number, rfl, rfl⟩⟩

namespace Sends

variable {handled : List Access × Option Grapher}

theorem told_iff (sends : Sends t handled) : t.Told handled ↔
    (UInt8.ofNat t.grapher.currentSum.toNat).toNat = t.registry.devices.length ∧
      t.registry.devices.length ≤ maxNumberOfDevices := by
  constructor
  · rintro ⟨_, g, response, done, sent, lists⟩
    have fits : t.registry.devices.length ≤ maxNumberOfDevices := by
      by_contra many
      rw [sends.stuck many] at done
      cases done
    obtain ⟨u, same, listed, _⟩ := sends.sent fits
    rw [same, Option.some.injEq] at done
    subst done
    rw [listed, List.cons.injEq] at sent
    rw [← sent.1] at lists
    exact ⟨(lists_iff t).mp lists, fits⟩
  · rintro ⟨number, fits⟩
    obtain ⟨g, done, sent, _⟩ := sends.sent fits
    refine ⟨?_, g, _, done, sent, (lists_iff t).mpr number⟩
    intro index copied
    exact ((sends.copies index).mp copied).trans_le fits

theorem handled_of_fits (sends : Sends t handled)
    (fits : t.registry.devices.length ≤ maxNumberOfDevices) :
    (t.handle handled).grapher.sent = t.thread.deviceListResponse :: t.grapher.sent ∧
      (t.handle handled).grapher.pastSum = t.grapher.currentSum := by
  obtain ⟨g, done, sent, past, _⟩ := sends.sent fits
  rw [Tool.handle, done, Option.getD_some]
  exact ⟨sent, past⟩

theorem currentSum (sends : Sends t handled) :
    (t.handle handled).grapher.currentSum = t.grapher.currentSum := by
  rw [Tool.handle]
  by_cases fits : t.registry.devices.length ≤ maxNumberOfDevices
  · obtain ⟨g, done, _, _, current⟩ := sends.sent fits
    rw [done]
    exact current
  · rw [sends.stuck fits]
    rfl

end Sends

theorem listing_response (t : Tool) :
    t.thread.deviceListResponse.listing = t.registry.listing :=
  List.zip_map'

theorem copying_registry (t : Tool) (turn : Turn) :
    (t.copying turn).registry = run Registry.next (t.started turn) turn.between := rfl

theorem answering_registry (t : Tool) (turn : Turn) : (t.answering turn).registry =
    run Registry.next (t.started turn) (turn.between ++ turn.waiting) := by
  rw [run_append, ← copying_registry, Tool.answering, Tool.checked]
  split_ifs <;> rfl

theorem copying_currentSum (t : Tool) (turn : Turn) :
    (t.copying turn).grapher.currentSum = (t.started turn).devices.length := rfl

theorem answering_currentSum (t : Tool) (turn : Turn) :
    (t.answering turn).grapher.currentSum = (t.started turn).devices.length := by
  change (t.checked turn).grapher.currentSum = _
  rw [Tool.checked]
  split_ifs
  · rw [(sends_list _).currentSum, copying_currentSum]
  · exact copying_currentSum t turn

/-- Too few devices go between counting and copying for the byte to mislead. -/
theorem number_iff (sound : Sound r) (calls : List Call) :
    ((UInt8.ofNat (r.devices.length : ℤ).toNat).toNat = (run Registry.next r calls).devices.length ∧
      (run Registry.next r calls).devices.length ≤ maxNumberOfDevices) ↔
    ((run Registry.next r calls).devices.length = r.devices.length ∧
      r.devices.length ≤ maxNumberOfDevices) := by
  have few := calls_length sound calls
  rw [Int.toNat_natCast, UInt8.toNat_ofNat', maxNumberOfDevices]
  omega

theorem copying_told (sound : Sound t.registry) (turn : Turn) :
    (t.copying turn).Told (t.copying turn).thread.sendDeviceList ↔
      (run Registry.next (t.started turn) turn.between).devices.length =
        (t.started turn).devices.length ∧ (t.started turn).devices.length ≤ maxNumberOfDevices := by
  rw [(sends_list _).told_iff, copying_currentSum, copying_registry]
  exact number_iff (calls_sound sound turn.earlier).1 turn.between

theorem answering_told (sound : Sound t.registry) (turn : Turn) :
    (t.answering turn).Told (t.answering turn).request ↔
      (run Registry.next (t.started turn) (turn.between ++ turn.waiting)).devices.length =
        (t.started turn).devices.length ∧ (t.started turn).devices.length ≤ maxNumberOfDevices := by
  rw [(sends_request _).told_iff, answering_currentSum, answering_registry]
  exact number_iff (calls_sound sound turn.earlier).1 (turn.between ++ turn.waiting)

/-- The number kept is that of the list last sent, or -1 where there is none. -/
structure Heard (t : Tool) : Prop where
  registry : Sound t.registry
  pastSum : t.grapher.pastSum = t.lastSent.elim (-1) fun listing => (listing.length : ℤ)

theorem listing_length (r : Registry) : r.listing.length = r.devices.length := List.length_map _

theorem lastSent_of_sent {u v : Tool} {rest : List DeviceListResponse}
    (sent : v.grapher.sent = u.thread.deviceListResponse :: rest) :
    v.lastSent = some u.registry.listing := by
  rw [Tool.lastSent, sent, List.head?_cons, Option.map_some, listing_response]

/-- A list that was sent as it is registered is the one the number is of. -/
theorem pastSum_of_sends {handled : List Access × Option Grapher} (sends : Sends t handled)
    (fits : t.registry.devices.length ≤ maxNumberOfDevices)
    (counted : t.grapher.currentSum = t.registry.devices.length) :
    (t.handle handled).grapher.pastSum =
      (t.handle handled).lastSent.elim (-1) fun listing => (listing.length : ℤ) := by
  obtain ⟨sent, past⟩ := sends.handled_of_fits fits
  rw [past, counted, lastSent_of_sent sent, Option.elim_some, listing_length]

theorem changed_iff (heard : Heard t) (turn : Turn) : t.Changed turn ↔
    t.lastSent.map List.length ≠ some (t.started turn).devices.length := by
  change t.grapher.pastSum ≠ ((t.started turn).devices.length : ℤ) ↔ _
  rw [heard.pastSum]
  cases t.lastSent with
  | none =>
    rw [Option.elim_none, Option.map_none]
    constructor
    · intro _ none
      cases none
    · intro _ negative
      omega
  | some listing =>
    rw [Option.elim_some, Option.map_some, Ne, Ne, Nat.cast_inj, Option.some.injEq]

theorem checked_sent (heard : Heard t) (turn : Turn)
    (told : t.Changed turn → (t.copying turn).Told (t.copying turn).thread.sendDeviceList) :
    (t.checked turn).grapher.pastSum =
        (t.checked turn).lastSent.elim (-1) (fun listing => (listing.length : ℤ)) ∧
      t.grapher.sent.length ≤ (t.checked turn).grapher.sent.length ∧
      (t.Changed turn ↔ t.grapher.sent.length < (t.checked turn).grapher.sent.length) := by
  by_cases changed : t.Changed turn
  · obtain ⟨same, fits⟩ := (copying_told heard.registry turn).mp (told changed)
    have room : (t.copying turn).registry.devices.length ≤ maxNumberOfDevices := same.trans_le fits
    have counted : (t.copying turn).grapher.currentSum = (t.copying turn).registry.devices.length := by
      rw [copying_currentSum, copying_registry, same]
    have longer : t.grapher.sent.length < (t.checked turn).grapher.sent.length := by
      rw [Tool.checked, if_pos changed, ((sends_list _).handled_of_fits room).1]
      exact Nat.lt_succ_self _
    refine ⟨?_, longer.le, iff_of_true changed longer⟩
    rw [Tool.checked, if_pos changed]
    exact pastSum_of_sends (sends_list _) room counted
  · have same : (t.checked turn) = t.copying turn := if_neg changed
    rw [same]
    exact ⟨heard.pastSum, le_refl _, iff_of_false changed (lt_irrefl _)⟩

/-- What a turn that tells the truth leaves behind, and when it sent a list. -/
theorem iterate_sent (heard : Heard t) (turn : Turn)
    (told : t.Changed turn → (t.copying turn).Told (t.copying turn).thread.sendDeviceList)
    (answered : turn.request → (t.answering turn).Told (t.answering turn).request) :
    Heard (t.iterate turn) ∧
      (t.grapher.sent.length < (t.iterate turn).grapher.sent.length ↔
        t.Changed turn ∨ turn.request) := by
  obtain ⟨past, grown, sent⟩ := checked_sent heard turn told
  have sound : Sound (t.answering turn).registry := by
    rw [answering_registry]
    exact (calls_sound (calls_sound heard.registry turn.earlier).1 _).1
  by_cases request : turn.request
  · obtain ⟨same, fits⟩ := (answering_told heard.registry turn).mp (answered request)
    have room : (t.answering turn).registry.devices.length ≤ maxNumberOfDevices := by
      rw [answering_registry, same]
      exact fits
    have counted : (t.answering turn).grapher.currentSum =
        (t.answering turn).registry.devices.length := by
      rw [answering_currentSum, answering_registry, same]
    have handled : t.iterate turn = (t.answering turn).handle (t.answering turn).request :=
      if_pos request
    rw [handled]
    refine ⟨⟨sound, pastSum_of_sends (sends_request _) room counted⟩, ?_⟩
    refine iff_of_true ?_ (.inr request)
    rw [((sends_request _).handled_of_fits room).1, List.length_cons]
    exact Nat.lt_succ_of_le grown
  · have waited : t.iterate turn = t.answering turn := if_neg request
    rw [waited]
    refine ⟨⟨sound, past⟩, ?_⟩
    rw [or_iff_left request]
    exact sent.symm

theorem learns_iff_settled (heard : Heard t) (turn : Turn) : t.Learns turn ↔ t.Settled turn := by
  have listed : (t.counted turn).registry.listing = (t.started turn).listing := rfl
  constructor
  · intro learns
    obtain ⟨_, sent⟩ := iterate_sent heard turn learns.changed learns.requested
    refine ⟨?_, ?_, ?_⟩
    · intro differs
      exact (copying_told heard.registry turn).mp (learns.changed ((changed_iff heard turn).mpr differs))
    · intro request
      exact (answering_told heard.registry turn).mp (learns.requested request)
    · intro same news
      rcases sent.mp (learns.news news) with changed | request
      · exact absurd same ((changed_iff heard turn).mp changed)
      · exact request
  · intro settled
    have told : t.Changed turn → (t.copying turn).Told (t.copying turn).thread.sendDeviceList := by
      intro changed
      exact (copying_told heard.registry turn).mpr (settled.changed ((changed_iff heard turn).mp changed))
    have answered : turn.request → (t.answering turn).Told (t.answering turn).request := by
      intro request
      exact (answering_told heard.registry turn).mpr (settled.requested request)
    refine ⟨told, answered, ?_⟩
    intro news
    apply (iterate_sent heard turn told answered).2.mpr
    by_cases changed : t.Changed turn
    · exact .inl changed
    · have same := not_not.mp (mt (changed_iff heard turn).mpr changed)
      exact .inr (settled.renamed same news)

theorem heard_start (before : List Call) (subscriptions : Fin maxNumberOfDatapoints → Subscription)
    (packetSpace : Fin maxPacketSize → UInt8) : Heard (.start before subscriptions packetSpace) :=
  ⟨sound_robot (sound_calls before), rfl⟩

/-- The host learns the registered list in every turn of a run exactly when in
each the number of devices stays, within the arrays, from counting to each copy
and a list that only its entries tell from the last one is asked for. -/
theorem learns_along_iff (before : List Call)
    (subscriptions : Fin maxNumberOfDatapoints → Subscription)
    (packetSpace : Fin maxPacketSize → UInt8) (turns : List Turn) :
    Along Tool.iterate Tool.Learns (.start before subscriptions packetSpace) turns ↔
      Along Tool.iterate Tool.Settled (.start before subscriptions packetSpace) turns := by
  refine along_congr ?_ ?_ (heard_start before subscriptions packetSpace) turns
  · intro t turn heard learns
    exact (iterate_sent heard turn learns.changed learns.requested).1
  · intro t turn heard
    exact learns_iff_settled heard turn

/-- An input listed in the first turn makes way for a Talon before the second:
the list is as long as before, and is not sent. -/
def swappedDevices : List Turn :=
  [⟨[.possiblyCreateDigitalInput thirdPin], [], [], false⟩,
    ⟨[.possiblyCreateDigitalOutput thirdPin, .possiblyCreateTalon 5], [], [], false⟩]

theorem swapped_devices_missed :
    ¬Along Tool.iterate Tool.Learns (.start [] (fun _ => ⟨0, 0, 0, none⟩) fun _ => 0) swappedDevices := by
  rintro ⟨_, ⟨_, _, news⟩, _⟩
  exact absurd (news (by decide)) (by decide)

end Steamworks.Grapher
