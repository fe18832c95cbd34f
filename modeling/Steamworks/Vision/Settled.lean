import Steamworks.Vision.Provenance

/-! The link in order. Once the Jetson is in the mode the robot asked for last,
and neither side is given a datagram that is older than that, the first datagram
the robot receives makes its data fresh, and nothing makes it stale again before
another request. -/
namespace Steamworks.Vision
open Library.Run

/-- The robot asks for nothing more; the Jetson is sent only requests for this
camera, and the robot none of the first `n` datagrams. -/
def InOrder (camera : Camera) (n : ℕ) (w : World) : Event → Prop
  | .enable _ => False
  | .deliverRequest k => ∀ message, w.toJetson[k]? = some message → message = enableCamera camera
  | .deliverPacket k => n ≤ k
  | .poll | .frame _ => True

/-- The Jetson is in the camera's mode, also in the frame it processes. -/
structure Jetson.Serves (j : Jetson) (camera : Camera) : Prop where
  mode : j.linkMode = camera.solution
  processing : ∀ other, j.processing = some other → other = camera

/-- The datagrams from the `n`th on are of frames of this camera that were
processed after the latest request. -/
structure World.Settled (configured : Option String) (w : World) (camera : Camera) (n : ℕ) : Prop where
  linked : w.Linked configured
  serves : w.jetson.Serves camera
  later : ∀ packet ∈ w.toRobot.drop n,
    packet.frame.camera = camera ∧ packet.frame.requests = w.requests.length

/-- A target is fresh for a reader of this camera. -/
def World.Current (w : World) (camera : Camera) : Prop :=
  w.robot.hasTarget = true → w.Fresh camera

/-- The event delivers a datagram to the robot. -/
def Delivers (w : World) (e : Event) : Prop :=
  ∃ k packet, e = .deliverPacket k ∧ w.toRobot[k]? = some packet

/-- What the event does to the data a reader of this camera is given. -/
def KeepsCurrent (camera : Camera) (w : World) (e : Event) : Prop :=
  Delivers w e ∨ w.Current camera → (step w e).Current camera

variable {configured : Option String} {w : World} {camera : Camera} {n : ℕ}

theorem poll_serves {j : Jetson} (serves : j.Serves camera) : j.poll.Serves camera := by
  cases grabbed : j.processing with
  | some other =>
    have same : j.poll = j := by simp only [Jetson.poll, grabbed]
    exact same.symm ▸ serves
  | none =>
    have polled : j.poll = { j with currentMode := j.linkMode, processing := selected j.linkMode } := by
      simp only [Jetson.poll, grabbed]
    rw [polled]
    refine ⟨serves.mode, fun other chosen => ?_⟩
    change selected j.linkMode = some other at chosen
    rw [serves.mode, selected_solution] at chosen
    exact (Option.some.inj chosen).symm

theorem settled_step (settled : w.Settled configured camera n) (e : Event)
    (inOrder : InOrder camera n w e) : (step w e).Settled configured camera n := by
  have linked := step_linked settled.linked e
  cases e with
  | enable other => exact inOrder.elim
  | deliverRequest k =>
    cases sent : w.toJetson[k]? with
    | none => simpa only [step, sent] using settled
    | some message =>
      obtain rfl := inOrder message sent
      simp only [step, sent] at linked ⊢
      exact ⟨linked, ⟨rfl, settled.serves.processing⟩, settled.later⟩
  | poll => exact ⟨linked, poll_serves settled.serves, settled.later⟩
  | frame result =>
    cases grabbed : w.jetson.processing with
    | none => simpa only [step, grabbed] using settled
    | some other =>
      obtain rfl := settled.serves.processing other grabbed
      simp only [step, grabbed] at linked ⊢
      refine ⟨linked, ⟨settled.serves.mode, fun _ gone => ?_⟩, fun packet member => ?_⟩
      · cases gone
      · simp only [World.send, List.drop_append, List.mem_append] at member
        rcases member with old | new
        · exact settled.later packet old
        · obtain rfl := List.mem_singleton.mp (List.mem_of_mem_drop new)
          exact ⟨rfl, rfl⟩
  | deliverPacket k =>
    cases sent : w.toRobot[k]? with
    | none => simpa only [step, sent] using settled
    | some packet =>
      simp only [step, sent] at linked ⊢
      exact ⟨linked, settled.serves, settled.later⟩

/-- What is delivered in order is fresh, if it is a target at all. -/
theorem deliver_current (settled : w.Settled configured camera n) {k : ℕ} {packet : Packet}
    (sent : w.toRobot[k]? = some packet) (later : n ≤ k) : (w.deliver packet).Current camera := by
  intro target
  have member : packet ∈ w.toRobot.drop n := by
    obtain ⟨more, rfl⟩ := Nat.exists_eq_add_of_le later
    apply List.mem_of_getElem?
    rw [List.getElem?_drop]
    exact sent
  obtain ⟨ofCamera, latest⟩ := settled.later packet member
  obtain ⟨frame, shows⟩ :=
    (deliver_linked settled.linked (List.mem_of_getElem? sent)).target target
  obtain rfl : packet.frame = frame := Option.some.inj shows.received
  rw [← ofCamera]
  exact ⟨_, shows.processed, rfl, latest, shows.azimuthSource, shows.ownSource⟩

/-- Without a datagram and without a request a target stays fresh. -/
theorem World.Current.kept {u : World} (current : w.Current camera) (robot : u.robot = w.robot)
    (sources : u.sources = w.sources) (requests : u.requests = w.requests)
    (frames : w.frames ⊆ u.frames) : u.Current camera := by
  intro target
  rw [robot] at target
  obtain ⟨frame, processed, fresh⟩ := current target
  refine ⟨frame, frames processed, ?_⟩
  rw [sources, requests]
  exact fresh

theorem step_keepsCurrent (settled : w.Settled configured camera n) (e : Event)
    (inOrder : InOrder camera n w e) : KeepsCurrent camera w e := by
  rintro (⟨k, packet, rfl, sent⟩ | current)
  · simp only [step, sent]
    exact deliver_current settled sent inOrder
  · cases e with
    | enable other => exact inOrder.elim
    | deliverRequest k =>
      cases sent : w.toJetson[k]? with
      | none => simpa only [step, sent] using current
      | some message =>
        simp only [step, sent]
        exact current.kept rfl rfl rfl (List.Subset.refl _)
    | poll => exact current.kept rfl rfl rfl (List.Subset.refl _)
    | frame result =>
      cases grabbed : w.jetson.processing with
      | none => simpa only [step, grabbed] using current
      | some other =>
        simp only [step, grabbed]
        exact current.kept rfl rfl rfl (List.subset_cons_self _ _)
    | deliverPacket k =>
      cases sent : w.toRobot[k]? with
      | none => simpa only [step, sent] using current
      | some packet =>
        simp only [step, sent]
        exact deliver_current settled sent inOrder

/-- From any reachable state in which the Jetson serves the camera, however many
stale datagrams are still under way: while nothing older than that is delivered,
whatever the order otherwise, the first datagram makes the data fresh and it
stays so. -/
theorem in_order_fresh (configured : Option String) (azimuth centerline height : ℤ)
    (front tail : List Event)
    (serves : (run step (World.initial configured azimuth centerline height) front).jetson.Serves camera)
    (inOrder : Along step
      (InOrder camera (run step (World.initial configured azimuth centerline height) front).toRobot.length)
      (run step (World.initial configured azimuth centerline height) front) tail) :
    Along step (KeepsCurrent camera) (run step (World.initial configured azimuth centerline height) front)
      tail := by
  generalize start : run step (World.initial configured azimuth centerline height) front = w
    at serves inOrder ⊢
  have settled : w.Settled configured camera w.toRobot.length := by
    refine ⟨start ▸ run_linked configured azimuth centerline height front, serves, ?_⟩
    rw [List.drop_length]
    exact nofun
  apply along_imp (I := fun s => s.Settled configured camera w.toRobot.length) _ _ settled tail inOrder
  · exact fun s e settled ordered => settled_step settled e ordered
  · exact fun s e settled ordered => step_keepsCurrent settled e ordered

/-- A gear frame is under way when the boiler is asked for, and found. -/
theorem in_order_fresh_boiler :
    let front : List Event := [.enable .gear, .deliverRequest 0, .poll, .frame (some (5, 7)),
      .enable .boiler, .deliverRequest 1]
    let tail : List Event := [.poll, .frame (some (1, 2)), .deliverPacket 1]
    Along step (KeepsCurrent .boiler) (run step (World.initial (some "boiler") 0 0 0) front) tail := by
  intro front tail
  apply in_order_fresh (some "boiler") 0 0 0 front tail
  · exact ⟨rfl, nofun⟩
  · exact ⟨trivial, trivial, le_refl 1, trivial⟩

end Steamworks.Vision
