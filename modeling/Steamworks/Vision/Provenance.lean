import Steamworks.Vision.Protocol

/-! Where the robot's vision data comes from, over every interleaving. A target
is always the solution of the frame behind the last datagram received; nothing
ties that frame to the robot's latest request. -/
namespace Steamworks.Vision
open Library.Run

theorem selected_solution (camera : Camera) : selected camera.solution = some camera := by
  cases camera <;> rfl

theorem receive_solution (d : Deadeye V) (camera : Camera) (first second : V) :
    (d.receive ⟨camera.solution, first, second⟩).azimuthError = first ∧
      (d.receive ⟨camera.solution, first, second⟩).own camera = second := by
  cases camera <;> exact ⟨rfl, rfl⟩

theorem receive_noTarget (d : Deadeye V) (first second : V) :
    (d.receive ⟨kNoTargetMesg, first, second⟩).hasTarget = false := rfl

/-- The robot shows this frame: its datagram came last, and the fields its
camera writes are the frame's. -/
structure World.Shows (w : World) (frame : Frame) : Prop where
  received : w.received = some frame
  processed : frame ∈ w.frames
  values : frame.result = some (w.robot.azimuthError, w.robot.own frame.camera)
  azimuthSource : w.sources.azimuthError = some frame
  ownSource : w.sources.own frame.camera = some frame

/-- The camera was asked for, or is the one the Jetson starts with. -/
def World.Wanted (configured : Option String) (w : World) (camera : Camera) : Prop :=
  camera ∈ w.requests ∨ selected (loadConfigSettings configured) = some camera

/-- What every reachable state keeps: a camera is only used where it is wanted, a
datagram reports its frame, and a target is shown by one. -/
structure World.Linked (configured : Option String) (w : World) : Prop where
  asked : ∀ message ∈ w.toJetson, ∃ camera ∈ w.requests, message = enableCamera camera
  mode : ∀ camera, selected w.jetson.linkMode = some camera → w.Wanted configured camera
  processing : ∀ camera, w.jetson.processing = some camera → w.Wanted configured camera
  frames : ∀ frame ∈ w.frames, w.Wanted configured frame.camera ∧ frame.requests ≤ w.requests.length
  packets : ∀ packet ∈ w.toRobot, packet.frame ∈ w.frames ∧
    packet.message = processTarget packet.frame.camera packet.frame.result
  target : w.robot.hasTarget = true → ∃ frame, w.Shows frame

theorem initial_linked (configured : Option String) (azimuth centerline height : ℤ) :
    (World.initial configured azimuth centerline height).Linked configured where
  asked := by simp [World.initial]
  mode camera chosen := .inr chosen
  processing := by simp [World.initial]
  frames := by simp [World.initial]
  packets := by simp [World.initial]
  target := by simp [World.initial]

section Step
variable {configured : Option String} {w : World} (linked : w.Linked configured)
include linked

theorem enable_linked (camera : Camera) : (step w (.enable camera)).Linked configured where
  asked message member := by
    rcases List.mem_append.mp member with old | new
    · obtain ⟨earlier, request, same⟩ := linked.asked message old
      exact ⟨earlier, .tail _ request, same⟩
    · exact ⟨camera, .head _, List.mem_singleton.mp new⟩
  mode earlier chosen := (linked.mode earlier chosen).imp_left (.tail _)
  processing earlier grabbed := (linked.processing earlier grabbed).imp_left (.tail _)
  frames frame member := by
    obtain ⟨wanted, bound⟩ := linked.frames frame member
    exact ⟨wanted.imp_left (.tail _), bound.trans (Nat.le_succ _)⟩
  packets := linked.packets
  target found := by
    obtain ⟨frame, shows⟩ := linked.target found
    exact ⟨frame, { shows with }⟩

theorem receive_linked {message : Message ℤ} (member : message ∈ w.toJetson) :
    World.Linked configured { w with jetson := w.jetson.receive message } where
  asked := linked.asked
  mode camera chosen := by
    obtain ⟨requested, request, rfl⟩ := linked.asked message member
    have same : requested = camera :=
      Option.some.inj ((selected_solution requested).symm.trans chosen)
    exact .inl (same ▸ request)
  processing := linked.processing
  frames := linked.frames
  packets := linked.packets
  target found := by
    obtain ⟨frame, shows⟩ := linked.target found
    exact ⟨frame, { shows with }⟩

theorem poll_linked : (step w .poll).Linked configured where
  asked := linked.asked
  mode camera chosen := by
    apply linked.mode camera
    cases grabbed : w.jetson.processing <;> simpa [step, Jetson.poll, grabbed] using chosen
  processing camera chosen := by
    cases grabbed : w.jetson.processing with
    | none =>
      apply linked.mode camera
      simpa [step, Jetson.poll, grabbed] using chosen
    | some earlier =>
      apply linked.processing camera
      simpa [step, Jetson.poll, grabbed] using chosen
  frames := linked.frames
  packets := linked.packets
  target found := by
    obtain ⟨frame, shows⟩ := linked.target found
    exact ⟨frame, { shows with }⟩

theorem send_linked (frame : Frame) (wanted : w.Wanted configured frame.camera)
    (bound : frame.requests ≤ w.requests.length) : (w.send frame).Linked configured where
  asked := linked.asked
  mode := linked.mode
  processing _ grabbed := by simp [World.send] at grabbed
  frames other member := by
    rcases List.mem_cons.mp member with rfl | old
    · exact ⟨wanted, bound⟩
    · exact linked.frames other old
  packets packet member := by
    rcases List.mem_append.mp member with old | new
    · obtain ⟨processed, message⟩ := linked.packets packet old
      exact ⟨.tail _ processed, message⟩
    · rw [List.mem_singleton.mp new]
      exact ⟨.head _, rfl⟩
  target found := by
    obtain ⟨shown, shows⟩ := linked.target found
    exact ⟨shown, { shows with processed := .tail _ shows.processed }⟩

/-- A delivered datagram either reports no target or makes the robot show its
frame, whatever was shown before. -/
theorem deliver_linked {packet : Packet} (member : packet ∈ w.toRobot) :
    (w.deliver packet).Linked configured where
  asked := linked.asked
  mode := linked.mode
  processing := linked.processing
  frames := linked.frames
  packets := linked.packets
  target found := by
    obtain ⟨processed, message⟩ := linked.packets packet member
    cases result : packet.frame.result with
    | none =>
      rw [result] at message
      have lost : (w.deliver packet).robot.hasTarget = false := by
        rw [World.deliver, message]
        exact receive_noTarget w.robot 0 0
      rw [lost] at found
      contradiction
    | some values =>
      obtain ⟨azimuthError, other⟩ := values
      rw [result] at message
      have robot := receive_solution w.robot packet.frame.camera azimuthError other
      have sources := receive_solution w.sources packet.frame.camera
        (some packet.frame) (some packet.frame)
      refine ⟨packet.frame, rfl, processed, ?_, ?_, ?_⟩
      · simp only [World.deliver, message, processTarget, robot.1, robot.2, result]
      · simp only [World.deliver, message, processTarget, sources.1]
      · simp only [World.deliver, message, processTarget, sources.2]

theorem step_linked (event : Event) : (step w event).Linked configured := by
  cases event with
  | enable camera => exact enable_linked linked camera
  | deliverRequest k =>
    cases sent : w.toJetson[k]? with
    | none => simpa only [step, sent] using linked
    | some message =>
      simpa only [step, sent] using receive_linked linked (List.mem_of_getElem? sent)
  | poll => exact poll_linked linked
  | frame result =>
    cases grabbed : w.jetson.processing with
    | none => simpa only [step, grabbed] using linked
    | some camera =>
      simpa only [step, grabbed] using
        send_linked linked ⟨camera, result, w.requests.length⟩
          (linked.processing camera grabbed) (le_refl _)
  | deliverPacket k =>
    cases sent : w.toRobot[k]? with
    | none => simpa only [step, sent] using linked
    | some packet =>
      simpa only [step, sent] using deliver_linked linked (List.mem_of_getElem? sent)

/-- A target is stale as soon as a camera is asked for: every frame so far
was processed before that request. -/
theorem stale_at_request (camera : Camera) : ¬(step w (.enable camera)).Fresh camera := by
  rintro ⟨frame, processed, _, latest, _⟩
  have bound := (linked.frames frame processed).2
  have grown : frame.requests = w.requests.length + 1 := latest
  omega

end Step

theorem run_linked (configured : Option String) (azimuth centerline height : ℤ) (events : List Event) :
    (run step (World.initial configured azimuth centerline height) events).Linked configured :=
  run_invariant (I := World.Linked configured) (fun _ event linked => step_linked linked event)
    (initial_linked configured azimuth centerline height) events

/-- Over every interleaving, a target is the solution of the frame behind the
last datagram received, for a camera the robot did ask for or the Jetson started
with; a reader's data is fresh for a camera exactly when that frame is of it and
came after the latest request. -/
theorem target_provenance (configured : Option String) (azimuth centerline height : ℤ)
    (events : List Event)
    (target :
      (run step (World.initial configured azimuth centerline height) events).robot.hasTarget = true) :
    let w := run step (World.initial configured azimuth centerline height) events
    ∃ frame, w.Shows frame ∧ w.Wanted configured frame.camera ∧
      ∀ camera, w.Fresh camera ↔ frame.camera = camera ∧ frame.requests = w.requests.length := by
  intro w
  have linked := run_linked configured azimuth centerline height events
  obtain ⟨frame, shows⟩ := linked.target target
  refine ⟨frame, shows, (linked.frames frame shows.processed).1, fun camera => ⟨?_, ?_⟩⟩
  · rintro ⟨source, _, ofCamera, latest, azimuthSource, _⟩
    have same : source = frame := Option.some.inj (azimuthSource.symm.trans shows.azimuthSource)
    exact same ▸ ⟨ofCamera, latest⟩
  · rintro ⟨rfl, latest⟩
    exact ⟨frame, shows.processed, rfl, latest, shows.azimuthSource, shows.ownSource⟩

/-- The boiler is asked for while a gear frame of the start is processed, and found. -/
def boilerFound : List Event :=
  [.poll, .enable .boiler, .deliverRequest 0, .frame none, .poll, .frame (some (5, 7)),
    .deliverPacket 1]

theorem target_provenance_boiler :
    ∃ frame, (run step (World.initial (some "gear") 0 0 0) boilerFound).Shows frame ∧
      (run step (World.initial (some "gear") 0 0 0) boilerFound).Wanted (some "gear") frame.camera :=
  (target_provenance (some "gear") 0 0 0 boilerFound rfl).imp fun _ provenance =>
    ⟨provenance.1, provenance.2.1⟩

/-- The gear was found, then the boiler is asked for: there is a target, and
it is the gear's. -/
theorem gear_target_after_boiler_request :
    let w := run step (World.initial (some "boiler") 0 0 0)
      [.enable .gear, .deliverRequest 0, .poll, .frame (some (5, 7)), .deliverPacket 0,
        .enable .boiler]
    w.requests.head? = some .boiler ∧ w.robot.hasTarget = true ∧ ¬w.Fresh .boiler := by
  intro w
  exact ⟨rfl, rfl, stale_at_request (run_linked (some "boiler") 0 0 0 [.enable .gear,
    .deliverRequest 0, .poll, .frame (some (5, 7)), .deliverPacket 0]) .boiler⟩

end Steamworks.Vision
