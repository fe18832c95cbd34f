import Steamworks.Vision.BoilerCamera

/-! When the main loop uses the boiler camera according to its protocol. Only
iterations that switch the mode can break it, so the condition is on those. -/
namespace Steamworks.Vision
open Library.Run

/-- What a switch to a new mode asks of the camera it finds and of the replies:
no second `Connect` on a handle left connected, a start that succeeds on a
camera not left capturing, and nothing stopped that was not started. -/
structure SwitchesWell (b : BoilerCamera) (e : Iteration) : Prop where
  connects : e.mode = Link.boiler → b.connected = false → e.replies.Reaches → ¬b.HalfConnected
  starts : e.mode = Link.boiler →
    b.connected = true ∨ e.replies.Reaches ∧ e.replies.Completes → b.captureStarted = false →
    ¬b.LeftCapturing ∧ e.replies.startCapture = true
  stops : e.mode = Link.gear ∨ e.mode = Link.idle → b.connected = true →
    b.captureStarted = true ∨ b.LeftCapturing

namespace Deadeye.Loop

/-- The flags follow the hardware, and boiler mode has a connected camera
started. -/
structure Sound (s : Deadeye.Loop) : Prop where
  mirrors : s.camera.Mirrors
  allowed : s.camera.Allowed
  boiler : s.currentMode = Link.boiler → s.camera.connected = true →
    s.camera.captureStarted = true

theorem initial_sound : Sound {} where
  mirrors := ⟨fun h => h, fun h => h, fun h => h⟩
  allowed record member := by cases member
  boiler mode := by cases mode

variable {s : Deadeye.Loop} {e : Iteration}

/-- Boiler mode that goes on: the camera is connected and started, or neither. -/
theorem step_stay (sound : Sound s) (stay : e.mode = s.currentMode) :
    (s.step e).camera.Allowed ∧ Sound (s.step e) := by
  by_cases boiler : e.mode = Link.boiler
  · have started : s.camera.connected = true → s.camera.captureStarted = true :=
      sound.boiler (stay.symm.trans boiler)
    have running : s.camera.startCapture e.replies = s.camera := by
      unfold BoilerCamera.startCapture
      cases connected : s.camera.connected with
      | false => rfl
      | true => rw [started connected]; rfl
    have same : s.step e = ⟨e.mode, s.camera.capture e.replies⟩ := by
      rw [step, if_neg (not_not.mpr stay), if_pos boiler, BoilerCamera.capture, running]
    obtain ⟨allowed_iff, kept⟩ := BoilerCamera.capture_spec sound.mirrors e.replies
    have allowed : (s.camera.capture e.replies).Allowed := by
      refine allowed_iff.mpr ⟨sound.allowed, ?_⟩
      intro connected unstarted
      rw [started connected] at unstarted
      cases unstarted
    obtain ⟨mirrors, starts⟩ := kept allowed
    rw [same]
    exact ⟨allowed, mirrors, allowed, fun _ => starts⟩
  · have same : s.step e = ⟨e.mode, s.camera⟩ := by
      rw [step, if_neg (not_not.mpr stay), if_neg boiler]
    rw [same]
    exact ⟨sound.allowed, sound.mirrors, sound.allowed, fun mode => absurd mode boiler⟩

theorem boiler_not_elsewhere (boiler : e.mode = Link.boiler) :
    ¬(e.mode = Link.gear ∨ e.mode = Link.idle) := by
  rw [boiler]
  decide

theorem capture_switches (sound : Sound s) (boiler : e.mode = Link.boiler)
    (connected : s.camera.connected = true) :
    (s.camera.capture e.replies).Allowed ↔ SwitchesWell s.camera e := by
  obtain ⟨allowed_iff, _⟩ := BoilerCamera.capture_spec sound.mirrors e.replies
  refine allowed_iff.trans ⟨?_, ?_⟩
  · rintro ⟨_, starts⟩
    refine ⟨?_, fun _ _ => starts connected, fun other => absurd other (boiler_not_elsewhere boiler)⟩
    intro _ apart
    rw [connected] at apart
    cases apart
  · intro well
    exact ⟨sound.allowed, fun there => well.starts boiler (.inl there)⟩

theorem connect_switches (sound : Sound s) (boiler : e.mode = Link.boiler)
    (connected : s.camera.connected = false) :
    ((s.camera.connect e.replies).capture e.replies).Allowed ↔ SwitchesWell s.camera e := by
  obtain ⟨called, mirrors, reached, unstarted, still⟩ :=
    BoilerCamera.connect_spec sound.mirrors connected e.replies
  obtain ⟨allowed_iff, _⟩ := BoilerCamera.capture_spec mirrors e.replies
  obtain ⟨fresh, quiet⟩ := sound.mirrors.apart connected
  have kind : ¬s.camera.LeftCapturing := by
    rintro ⟨capturing, _⟩
    rw [quiet] at capturing
    cases capturing
  have rest : ¬(s.camera.connect e.replies).LeftCapturing := by
    rintro ⟨capturing, _⟩
    rw [still] at capturing
    cases capturing
  refine allowed_iff.trans ⟨?_, ?_⟩
  · rintro ⟨connects, starts⟩
    refine ⟨fun _ _ => (called.mp connects).2, ?_,
      fun other => absurd other (boiler_not_elsewhere boiler)⟩
    intro _ there _
    rcases there with there | completes
    · rw [connected] at there
      cases there
    · exact ⟨kind, (starts (reached.mpr completes) unstarted).2⟩
  · intro well
    refine ⟨called.mpr ⟨sound.allowed, well.connects boiler connected⟩, ?_⟩
    intro there _
    exact ⟨rest, (well.starts boiler (.inr (reached.mp there)) fresh).2⟩

theorem step_boiler (sound : Sound s) (change : e.mode ≠ s.currentMode)
    (boiler : e.mode = Link.boiler) :
    ((s.step e).camera.Allowed ↔ SwitchesWell s.camera e) ∧
      ((s.step e).camera.Allowed → Sound (s.step e)) := by
  have same : s.step e = ⟨e.mode, (if !s.camera.connected then s.camera.connect e.replies
      else s.camera).capture e.replies⟩ := by
    rw [step, if_pos change, if_pos boiler, BoilerCamera.switchMode, if_pos boiler]
    rfl
  have sound_of {b : BoilerCamera} (mirrors : b.Mirrors) (allowed : (b.capture e.replies).Allowed) :
      Sound ⟨e.mode, b.capture e.replies⟩ := by
    obtain ⟨mirrors, starts⟩ := (BoilerCamera.capture_spec mirrors e.replies).2 allowed
    exact ⟨mirrors, allowed, fun _ => starts⟩
  rw [same]
  cases connected : s.camera.connected with
  | true => exact ⟨capture_switches sound boiler connected, sound_of sound.mirrors⟩
  | false =>
    obtain ⟨_, mirrors, _⟩ := BoilerCamera.connect_spec sound.mirrors connected e.replies
    exact ⟨connect_switches sound boiler connected, sound_of mirrors⟩

theorem step_elsewhere (sound : Sound s) (change : e.mode ≠ s.currentMode)
    (elsewhere : e.mode ≠ Link.boiler) :
    ((s.step e).camera.Allowed ↔ SwitchesWell s.camera e) ∧
      ((s.step e).camera.Allowed → Sound (s.step e)) := by
  have same : s.step e = ⟨e.mode, s.camera.switchMode e.mode e.replies⟩ := by
    rw [step, if_pos change, if_neg elsewhere]
  rw [same, BoilerCamera.switchMode, if_neg elsewhere]
  by_cases stops : e.mode = Link.gear ∨ e.mode = Link.idle
  · have stopped : (if e.mode = Link.gear then s.camera.stopCapture e.replies
        else if e.mode = Link.idle then s.camera.stopCapture e.replies else s.camera) =
          s.camera.stopCapture e.replies := by
      rcases stops with gear | idle
      · rw [if_pos gear]
      · rw [idle]
        rfl
    obtain ⟨allowed_iff, mirrors⟩ := BoilerCamera.stopCapture_spec sound.mirrors e.replies
    rw [stopped]
    constructor
    · refine allowed_iff.trans ⟨?_, ?_⟩
      · rintro ⟨_, owed⟩
        exact ⟨fun mode => absurd mode elsewhere, fun mode => absurd mode elsewhere, fun _ => owed⟩
      · intro well
        exact ⟨sound.allowed, well.stops stops⟩
    · intro allowed
      exact ⟨mirrors, allowed, fun mode => absurd mode elsewhere⟩
  · obtain ⟨gear, idle⟩ := not_or.mp stops
    rw [if_neg gear, if_neg idle]
    constructor
    · refine ⟨fun _ => ⟨?_, ?_, ?_⟩, fun _ => sound.allowed⟩
      · exact fun mode => absurd mode elsewhere
      · exact fun mode => absurd mode elsewhere
      · exact fun mode => absurd mode stops
    · intro allowed
      exact ⟨sound.mirrors, allowed, fun mode => absurd mode elsewhere⟩

theorem step_allowed_iff (sound : Sound s) :
    ((s.step e).camera.Allowed ↔ (e.mode ≠ s.currentMode → SwitchesWell s.camera e)) ∧
      ((s.step e).camera.Allowed → Sound (s.step e)) := by
  by_cases stay : e.mode = s.currentMode
  · obtain ⟨allowed, kept⟩ := step_stay sound stay
    exact ⟨⟨fun _ change => absurd stay change, fun _ => allowed⟩, fun _ => kept⟩
  · have switch : ((s.step e).camera.Allowed ↔ SwitchesWell s.camera e) ∧
        ((s.step e).camera.Allowed → Sound (s.step e)) := by
      by_cases boiler : e.mode = Link.boiler
      · exact step_boiler sound stay boiler
      · exact step_elsewhere sound stay boiler
    exact ⟨switch.1.trans ⟨fun well _ => well, fun well => well stay⟩, switch.2⟩

theorem connect_calls (b : BoilerCamera) (r : Replies) : b.calls ⊆ (b.connect r).calls := by
  cases connected : b.connected with
  | true => simp [BoilerCamera.connect, connected]
  | false =>
    rw [BoilerCamera.connect_eq connected]
    split_ifs
    · exact List.subset_cons_self _ _
    · exact List.subset_cons_self _ _
    · exact List.Subset.refl _

theorem startCapture_calls (b : BoilerCamera) (r : Replies) :
    b.calls ⊆ (b.startCapture r).calls := by
  unfold BoilerCamera.startCapture
  split_ifs
  · exact List.Subset.refl _
  · exact List.Subset.refl _
  · exact List.subset_cons_self _ _

theorem stopCapture_calls (b : BoilerCamera) (r : Replies) :
    b.calls ⊆ (b.stopCapture r).calls := by
  unfold BoilerCamera.stopCapture
  split_ifs
  · exact List.Subset.refl _
  · exact List.subset_cons_self _ _

theorem processFrame_calls (b : BoilerCamera) (r : Replies) :
    b.calls ⊆ (b.processFrame r).1.calls := by
  rw [BoilerCamera.processFrame_eq]
  split_ifs
  · exact List.Subset.refl _
  · exact List.subset_cons_self _ _

theorem switchMode_calls (b : BoilerCamera) (mode : ℤ) (r : Replies) :
    b.calls ⊆ (b.switchMode mode r).calls := by
  unfold BoilerCamera.switchMode
  by_cases boiler : mode = Link.boiler
  · rw [if_pos boiler]
    refine List.Subset.trans ?_ (startCapture_calls _ r)
    split_ifs
    · exact connect_calls b r
    · exact List.Subset.refl _
  · rw [if_neg boiler]
    split_ifs
    · exact stopCapture_calls b r
    · exact stopCapture_calls b r
    · exact List.Subset.refl _

theorem step_calls (s : Deadeye.Loop) (e : Iteration) :
    s.camera.calls ⊆ (s.step e).camera.calls := by
  have switched : s.camera.calls ⊆
      (if e.mode ≠ s.currentMode then s.camera.switchMode e.mode e.replies
        else s.camera).calls := by
    split_ifs
    · exact switchMode_calls s.camera e.mode e.replies
    · exact List.Subset.refl _
  unfold step
  by_cases boiler : e.mode = Link.boiler
  · rw [if_pos boiler]
    exact List.Subset.trans switched (processFrame_calls _ e.replies)
  · rw [if_neg boiler]
    exact switched

end Deadeye.Loop

open Deadeye.Loop

/-- Along any run of the main loop the library's calls are all used as allowed
exactly when every switch of the mode is made well. -/
theorem calls_allowed_iff (iterations : List Iteration) :
    (∀ record ∈ (run Deadeye.Loop.step {} iterations).camera.calls,
        record.found.Allows record.call) ↔
      Along Deadeye.Loop.step
        (fun s e => e.mode ≠ s.currentMode → SwitchesWell s.camera e) {} iterations := by
  have nothing : ∀ record ∈ ({} : Deadeye.Loop).camera.calls, record.found.Allows record.call :=
    initial_sound.allowed
  rw [forall_log_iff (fun s : Deadeye.Loop => s.camera.calls) step_calls, and_iff_right nothing]
  apply along_congr (I := Sound)
  · intro s e sound allowed
    exact (step_allowed_iff sound).2 allowed
  · intro s e sound
    exact (step_allowed_iff sound).1
  · exact initial_sound

/-- Replies without an error and without a target. -/
def Replies.fine : Replies where
  numCameras := some 1
  cameraFromIndex := true
  connect := true
  valid := some true
  configuration := true
  startCapture := true
  stopCapture := true
  retrieveBuffer := true
  targets := none

/-- Boiler, gear, then idle: the camera that gear mode stopped is stopped again. -/
theorem idle_stops_stopped_camera :
    ¬∀ record ∈ (run Deadeye.Loop.step {} [⟨Link.boiler, .fine⟩, ⟨Link.gear, .fine⟩,
        ⟨Link.idle, .fine⟩]).camera.calls, record.found.Allows record.call := by
  intro allowed
  have again : Hardware.Allows ⟨true, false⟩ .stopCapture :=
    allowed ⟨.stopCapture, ⟨true, false⟩⟩ (by decide)
  cases again

end Steamworks.Vision
