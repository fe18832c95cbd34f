import Steamworks.Library.Run

/-! The boiler camera and the Jetson's main loop. Every call into the camera
library may fail; which calls fail in an iteration is its event's choice. Each
call whose use the library restricts is recorded with the state of the hardware
it found. -/
namespace Steamworks.Vision

namespace Link

def idle : ℤ := 0
def boiler : ℤ := 1
def gear : ℤ := 2

end Link

inductive Call where
  | connect
  | startCapture
  | stopCapture
  | retrieveBuffer
  deriving DecidableEq

structure Hardware where
  connected : Bool := false
  capturing : Bool := false
  deriving DecidableEq

/-- Capturing begins and ends with a successful call; a failed start leaves the
camera not capturing. -/
def Hardware.reply (h : Hardware) : Call → Bool → Hardware
  | .connect, ok => { h with connected := h.connected || ok }
  | .startCapture, ok => { h with capturing := ok }
  | .stopCapture, ok => { h with capturing := h.capturing && !ok }
  | .retrieveBuffer, _ => h

def Hardware.Allows (h : Hardware) : Call → Prop
  | .connect => h.connected = false
  | .startCapture => h.connected = true ∧ h.capturing = false
  | .stopCapture | .retrieveBuffer => h.capturing = true

structure Record where
  call : Call
  found : Hardware
  deriving DecidableEq

/-- What the calls of one iteration come to: an error, or what they return. -/
structure Replies where
  numCameras : Option ℕ
  cameraFromIndex : Bool
  connect : Bool
  valid : Option Bool
  configuration : Bool
  startCapture : Bool
  stopCapture : Bool
  retrieveBuffer : Bool
  targets : Option (ℤ × ℤ)

structure BoilerCamera where
  connected : Bool := false
  captureStarted : Bool := false
  hardware : Hardware := {}
  calls : List Record := []

namespace BoilerCamera

def perform (b : BoilerCamera) (call : Call) (ok : Bool) : BoilerCamera :=
  { b with hardware := b.hardware.reply call ok, calls := ⟨call, b.hardware⟩ :: b.calls }

/-- An error of `SetProperty`, the last call, is only logged. -/
def connect (b : BoilerCamera) (replies : Replies) : BoilerCamera :=
  if b.connected then b
  else
    match replies.numCameras with
    | none => b
    | some numCameras =>
      if numCameras < 1 then b
      else if !replies.cameraFromIndex then b
      else
        let b := b.perform .connect replies.connect
        if !replies.connect then b
        else
          match replies.valid with
          | none => b
          | some valid =>
            if !valid then b
            else if !replies.configuration then b
            else { b with connected := true }

/-- Started also when the library's call failed. -/
def startCapture (b : BoilerCamera) (replies : Replies) : BoilerCamera :=
  if !b.connected then b
  else if b.captureStarted then b
  else { b.perform .startCapture replies.startCapture with captureStarted := true }

def stopCapture (b : BoilerCamera) (replies : Replies) : BoilerCamera :=
  if !b.connected && !b.captureStarted then b
  else { b.perform .stopCapture replies.stopCapture with captureStarted := false }

def processFrame (b : BoilerCamera) (replies : Replies) : BoilerCamera × Option (ℤ × ℤ) :=
  if !b.connected && !b.captureStarted then (b, none)
  else
    let b := b.perform .retrieveBuffer replies.retrieveBuffer
    if !replies.retrieveBuffer then (b, none) else (b, replies.targets)

def switchMode (b : BoilerCamera) (mode : ℤ) (replies : Replies) : BoilerCamera :=
  if mode = Link.boiler then
    let b := if !b.connected then b.connect replies else b
    b.startCapture replies
  else if mode = Link.gear then b.stopCapture replies
  else if mode = Link.idle then b.stopCapture replies
  else b

end BoilerCamera

/-- `Deadeye::current_mode_` and its camera. -/
structure Deadeye.Loop where
  currentMode : ℤ := Link.idle
  camera : BoilerCamera := {}

structure Iteration where
  mode : ℤ
  replies : Replies

/-- One turn of the main loop. -/
def Deadeye.Loop.step (s : Deadeye.Loop) (e : Iteration) : Deadeye.Loop :=
  let camera := if e.mode ≠ s.currentMode then s.camera.switchMode e.mode e.replies else s.camera
  if e.mode = Link.boiler then ⟨e.mode, (camera.processFrame e.replies).1⟩ else ⟨e.mode, camera⟩

/-- The replies let `Connect` get as far as connecting the handle. -/
def Replies.Reaches (r : Replies) : Prop :=
  1 ≤ r.numCameras.getD 0 ∧ r.cameraFromIndex = true

/-- From there they let it come to its end. -/
def Replies.Completes (r : Replies) : Prop :=
  r.connect = true ∧ r.valid = some true ∧ r.configuration = true

instance (r : Replies) : Decidable r.Reaches := inferInstanceAs (Decidable (_ ∧ _))

instance (r : Replies) : Decidable r.Completes := inferInstanceAs (Decidable (_ ∧ _))

namespace BoilerCamera

theorem connect_eq {b : BoilerCamera} (apart : b.connected = false) (r : Replies) :
    b.connect r =
      if r.Reaches then
        if r.Completes then { b.perform .connect true with connected := true }
        else b.perform .connect r.connect
      else b := by
  obtain ⟨numCameras, guid, handle, valid, configuration, _, _, _, _⟩ := r
  simp only [connect, apart, Replies.Reaches, Replies.Completes]
  cases numCameras with
  | none => simp
  | some numCameras =>
    by_cases none : numCameras < 1
    · have few : ¬1 ≤ numCameras := not_le.mpr none
      simp [none, few]
    · have some : 1 ≤ numCameras := not_lt.mp none
      cases guid with
      | false => simp [none]
      | true =>
        cases handle with
        | false => simp [none, some]
        | true =>
          cases valid with
          | none => simp [none, some]
          | some valid => cases valid <;> cases configuration <;> simp [none, some]

/-- Every call so far found the hardware as the library requires. -/
def Allowed (b : BoilerCamera) : Prop := ∀ record ∈ b.calls, record.found.Allows record.call

/-- The handle was left connected by a `Connect` that failed after it. -/
def HalfConnected (b : BoilerCamera) : Prop :=
  b.hardware.connected = true ∧ b.connected = false

/-- The camera was left capturing by a `StopCapture` that failed. -/
def LeftCapturing (b : BoilerCamera) : Prop :=
  b.hardware.capturing = true ∧ b.captureStarted = false

/-- How the flags follow the hardware while every call is allowed. -/
structure Mirrors (b : BoilerCamera) : Prop where
  handle : b.connected = true → b.hardware.connected = true
  started : b.captureStarted = true → b.hardware.capturing = true
  capturing : b.hardware.capturing = true → b.connected = true

theorem allowed_perform (b : BoilerCamera) (call : Call) (ok : Bool) :
    (b.perform call ok).Allowed ↔ b.hardware.Allows call ∧ b.Allowed :=
  List.forall_mem_cons

/-- A camera the flags call disconnected is neither started nor capturing. -/
theorem Mirrors.apart {b : BoilerCamera} (mirrors : Mirrors b) (apart : b.connected = false) :
    b.captureStarted = false ∧ b.hardware.capturing = false := by
  have still : b.hardware.capturing = false := by
    by_contra capturing
    rw [mirrors.capturing (Bool.eq_true_of_not_eq_false capturing)] at apart
    cases apart
  refine ⟨?_, still⟩
  by_contra started
  rw [mirrors.started (Bool.eq_true_of_not_eq_false started)] at still
  cases still

theorem connect_spec {b : BoilerCamera} (mirrors : Mirrors b) (apart : b.connected = false)
    (r : Replies) :
    ((b.connect r).Allowed ↔ b.Allowed ∧ (r.Reaches → ¬b.HalfConnected)) ∧
      Mirrors (b.connect r) ∧ ((b.connect r).connected = true ↔ r.Reaches ∧ r.Completes) ∧
      (b.connect r).captureStarted = false ∧ (b.connect r).hardware.capturing = false := by
  obtain ⟨unstarted, still⟩ := mirrors.apart apart
  have free : b.hardware.Allows .connect ↔ ¬b.HalfConnected := by
    simp [Hardware.Allows, HalfConnected, apart]
  have performed : ∀ ok, (b.perform .connect ok).Allowed ↔ b.Allowed ∧ ¬b.HalfConnected := by
    intro ok
    rw [allowed_perform, free, and_comm]
  rw [connect_eq apart]
  by_cases reaches : r.Reaches
  · rw [if_pos reaches]
    by_cases completes : r.Completes
    · rw [if_pos completes]
      refine ⟨?_, ⟨?_, ?_, ?_⟩, ?_, unstarted, still⟩
      · exact (performed true).trans (by simp [reaches])
      · intro _
        simp [perform, Hardware.reply]
      · intro started
        exact mirrors.started started
      · intro _
        rfl
      · simp [reaches, completes]
    · rw [if_neg completes]
      refine ⟨?_, ⟨?_, ?_, ?_⟩, ?_, unstarted, still⟩
      · exact (performed r.connect).trans (by simp [reaches])
      · intro connected
        rw [perform, apart] at connected
        cases connected
      · exact mirrors.started
      · exact mirrors.capturing
      · simp [perform, apart, completes]
  · rw [if_neg reaches]
    refine ⟨?_, mirrors, ?_, unstarted, still⟩
    · simp [reaches]
    · simp [apart, reaches]

/-- What boiler mode does with the camera once it tried to connect: it starts
capturing unless started, and takes a frame. -/
def capture (b : BoilerCamera) (r : Replies) : BoilerCamera :=
  ((b.startCapture r).processFrame r).1

theorem processFrame_eq (b : BoilerCamera) (r : Replies) :
    (b.processFrame r).1 =
      if b.connected = false ∧ b.captureStarted = false then b
      else b.perform .retrieveBuffer r.retrieveBuffer := by
  unfold processFrame
  cases b.connected <;> cases b.captureStarted <;> cases r.retrieveBuffer <;> rfl

theorem capture_spec {b : BoilerCamera} (mirrors : Mirrors b) (r : Replies) :
    ((b.capture r).Allowed ↔ b.Allowed ∧ (b.connected = true → b.captureStarted = false →
        ¬b.LeftCapturing ∧ r.startCapture = true)) ∧
      ((b.capture r).Allowed → Mirrors (b.capture r) ∧
        ((b.capture r).connected = true → (b.capture r).captureStarted = true)) := by
  rw [capture]
  cases connected : b.connected with
  | false =>
    obtain ⟨unstarted, still⟩ := mirrors.apart connected
    have same : b.startCapture r = b := by simp [startCapture, connected]
    rw [same, processFrame_eq, if_pos ⟨connected, unstarted⟩]
    refine ⟨by simp, fun _ => ⟨mirrors, fun there => ?_⟩⟩
    rw [connected] at there
    cases there
  | true =>
    have handle := mirrors.handle connected
    cases started : b.captureStarted with
    | true =>
      have capturing := mirrors.started started
      have same : b.startCapture r = b := by simp [startCapture, connected, started]
      rw [same, processFrame_eq, if_neg (by simp [connected]), allowed_perform]
      refine ⟨?_, fun _ => ⟨⟨mirrors.handle, mirrors.started, mirrors.capturing⟩, fun _ => started⟩⟩
      simp [Hardware.Allows, capturing]
    | false =>
      have starts : b.startCapture r =
          { b.perform .startCapture r.startCapture with captureStarted := true } := by
        simp [startCapture, connected, started]
      have begun : ({ b.perform .startCapture r.startCapture with
          captureStarted := true } : BoilerCamera).Allowed ↔
            b.hardware.capturing = false ∧ b.Allowed := by
        refine (allowed_perform b .startCapture r.startCapture).trans ?_
        simp [Hardware.Allows, handle]
      rw [starts, processFrame_eq, if_neg (by simp), allowed_perform, begun]
      constructor
      · simp only [Hardware.Allows, perform, Hardware.reply, LeftCapturing, started,
          and_true, forall_const, Bool.not_eq_true]
        tauto
      · rintro ⟨capturing, _⟩
        exact ⟨⟨fun _ => handle, fun _ => capturing, fun _ => connected⟩, fun _ => rfl⟩

theorem stopCapture_spec {b : BoilerCamera} (mirrors : Mirrors b) (r : Replies) :
    ((b.stopCapture r).Allowed ↔
        b.Allowed ∧ (b.connected = true → b.captureStarted = true ∨ b.LeftCapturing)) ∧
      Mirrors (b.stopCapture r) := by
  cases connected : b.connected with
  | false =>
    obtain ⟨unstarted, still⟩ := mirrors.apart connected
    have same : b.stopCapture r = b := by simp [stopCapture, connected, unstarted]
    rw [same]
    exact ⟨by simp, mirrors⟩
  | true =>
    have stops : b.stopCapture r =
        { b.perform .stopCapture r.stopCapture with captureStarted := false } := by
      simp [stopCapture, connected]
    have found : (b.stopCapture r).Allowed ↔ b.hardware.capturing = true ∧ b.Allowed := by
      rw [stops]
      exact allowed_perform b .stopCapture r.stopCapture
    constructor
    · rw [found, and_comm]
      apply and_congr_right
      intro _
      constructor
      · intro capturing _
        cases started : b.captureStarted with
        | true => exact .inl rfl
        | false => exact .inr ⟨capturing, started⟩
      · intro owed
        rcases owed rfl with started | left
        · exact mirrors.started started
        · exact left.1
    · rw [stops]
      refine ⟨fun _ => mirrors.handle connected, ?_, fun _ => connected⟩
      intro started
      cases started

end BoilerCamera
end Steamworks.Vision
