import Steamworks.Vision.BoilerCamera

/-! The Jetson's main loop with both cameras, and the attempts it makes to start
them. The mode is current once it was switched to, whether or not its camera
started, so nothing tries again before another mode was requested. -/
namespace Steamworks.Vision
open Library.Run

structure GearCamera where
  connected : Bool := false

/-- The settings tool's error is only logged. -/
def GearCamera.connect (g : GearCamera) (opened : Bool) : GearCamera :=
  if g.connected then g
  else if !opened then g
  else { g with connected := true }

/-- The calls of `SwitchMode` that are to start a camera. -/
inductive Attempt where
  | boilerConnect
  | boilerStartCapture
  | gearConnect
  deriving DecidableEq

/-- One turn of the loop: the mode, what the boiler camera's library replies, and
whether the gear camera opens. -/
structure Turn where
  mode : ℤ
  replies : Replies
  opened : Bool

/-- The members, and the attempts of the last turn. -/
structure Deadeye.Cameras where
  currentMode : ℤ := Link.idle
  boilerCamera : BoilerCamera := {}
  gearCamera : GearCamera := {}
  attempts : List Attempt := []

namespace BoilerCamera
variable (b : BoilerCamera) (r : Replies)

theorem processFrame_flags : (b.processFrame r).1.connected = b.connected ∧
    (b.processFrame r).1.hardware.capturing = b.hardware.capturing := by
  rw [processFrame_eq]
  split_ifs <;> exact ⟨rfl, rfl⟩

theorem startCapture_flags : (b.startCapture r).connected = b.connected ∧
    (b.connected = true → (b.startCapture r).hardware.capturing =
      if b.captureStarted then b.hardware.capturing else r.startCapture) := by
  unfold startCapture
  cases connected : b.connected <;> cases started : b.captureStarted <;>
    simp [perform, Hardware.reply, connected, started]

theorem connect_flags (apart : b.connected = false) :
    ((b.connect r).connected = true ↔ r.Reaches ∧ r.Completes) ∧
      (b.connect r).captureStarted = b.captureStarted ∧
      (b.connect r).hardware.capturing = b.hardware.capturing := by
  rw [connect_eq apart]
  split_ifs with reaches completes
  · exact ⟨by simp [reaches, completes], rfl, rfl⟩
  · exact ⟨by simp [perform, apart, completes], rfl, rfl⟩
  · exact ⟨by simp [apart, reaches], rfl, rfl⟩

/-- Whether the camera captures once boiler mode was switched to. -/
theorem switch_running_iff :
    ((b.switchMode Link.boiler r).connected = true ∧
        (b.switchMode Link.boiler r).hardware.capturing = true) ↔
      (b.connected = true ∨ (r.Reaches ∧ r.Completes)) ∧
        if b.captureStarted then b.hardware.capturing = true else r.startCapture = true := by
  have started : ∀ c : BoilerCamera, c.captureStarted = b.captureStarted →
      c.hardware.capturing = b.hardware.capturing →
        (((c.startCapture r).connected = true ∧ (c.startCapture r).hardware.capturing = true) ↔
          c.connected = true ∧
            if b.captureStarted then b.hardware.capturing = true else r.startCapture = true) := by
    intro c flag capturing
    obtain ⟨connected, captures⟩ := c.startCapture_flags r
    rw [connected]
    apply and_congr_right
    intro there
    rw [captures there, flag, capturing]
    split_ifs <;> rfl
  rw [switchMode, if_pos rfl]
  cases connected : b.connected with
  | true =>
    rw [Bool.not_true, if_neg Bool.false_ne_true, started b rfl rfl, connected]
    simp
  | false =>
    obtain ⟨connects, flag, capturing⟩ := b.connect_flags r connected
    rw [Bool.not_false, if_pos rfl, started _ flag capturing, connects]
    simp

end BoilerCamera

namespace Deadeye.Cameras

def connectBoiler (d : Cameras) (replies : Replies) : Cameras :=
  { d with
    boilerCamera := d.boilerCamera.connect replies
    attempts := d.attempts ++ [.boilerConnect] }

def startCapture (d : Cameras) (replies : Replies) : Cameras :=
  { d with
    boilerCamera := d.boilerCamera.startCapture replies
    attempts := d.attempts ++ [.boilerStartCapture] }

def stopCapture (d : Cameras) (replies : Replies) : Cameras :=
  { d with boilerCamera := d.boilerCamera.stopCapture replies }

def connectGear (d : Cameras) (opened : Bool) : Cameras :=
  { d with gearCamera := d.gearCamera.connect opened, attempts := d.attempts ++ [.gearConnect] }

def switchMode (d : Cameras) (e : Turn) : Cameras :=
  if e.mode = Link.boiler then
    let d := if !d.boilerCamera.connected then d.connectBoiler e.replies else d
    d.startCapture e.replies
  else if e.mode = Link.gear then
    let d := d.stopCapture e.replies
    if !d.gearCamera.connected then d.connectGear e.opened else d
  else if e.mode = Link.idle then d.stopCapture e.replies
  else d

/-- Retrieving a frame changes neither camera's flags. -/
def process (d : Cameras) (e : Turn) : Cameras :=
  if e.mode = Link.boiler then
    { d with boilerCamera := (d.boilerCamera.processFrame e.replies).1 }
  else d

def step (d : Cameras) (e : Turn) : Cameras :=
  let d := { d with attempts := [] }
  let d := if e.mode ≠ d.currentMode then { d.switchMode e with currentMode := e.mode } else d
  d.process e

def loop (d : Cameras) : Deadeye.Loop := ⟨d.currentMode, d.boilerCamera⟩

/-- The camera of this mode is running; a mode without one needs none. -/
structure Running (d : Cameras) (mode : ℤ) : Prop where
  boiler : mode = Link.boiler →
    d.boilerCamera.connected = true ∧ d.boilerCamera.hardware.capturing = true
  gear : mode = Link.gear → d.gearCamera.connected = true

/-- A turn that asks for this mode tries to start its camera. -/
structure Attempts (d : Cameras) (mode : ℤ) : Prop where
  connect : mode = Link.boiler → d.boilerCamera.connected = false →
    ∀ e : Turn, e.mode = mode → .boilerConnect ∈ (d.step e).attempts
  startCapture : mode = Link.boiler →
    ∀ e : Turn, e.mode = mode → .boilerStartCapture ∈ (d.step e).attempts
  gear : mode = Link.gear → ∀ e : Turn, e.mode = mode → .gearConnect ∈ (d.step e).attempts

/-- After the turn its camera runs, or the next turn in this mode tries again. -/
def Retried (d : Cameras) (e : Turn) : Prop :=
  (d.step e).Running e.mode ∨ (d.step e).Attempts e.mode

/-- The turn finds the camera of its mode running, or it switches to the mode and
every call that takes succeeds. -/
structure Starts (d : Cameras) (e : Turn) : Prop where
  boiler : e.mode = Link.boiler →
    if d.currentMode = Link.boiler then
      d.boilerCamera.connected = true ∧ d.boilerCamera.hardware.capturing = true
    else
      (d.boilerCamera.connected = true ∨ (e.replies.Reaches ∧ e.replies.Completes)) ∧
        if d.boilerCamera.captureStarted then d.boilerCamera.hardware.capturing = true
        else e.replies.startCapture = true
  gear : e.mode = Link.gear →
    d.gearCamera.connected = true ∨ (d.currentMode ≠ Link.gear ∧ e.opened = true)

variable (d : Cameras) (e : Turn)

theorem switchMode_boilerCamera :
    (d.switchMode e).boilerCamera = d.boilerCamera.switchMode e.mode e.replies := by
  unfold switchMode BoilerCamera.switchMode
  dsimp only
  split_ifs <;> rfl

theorem switchMode_gearCamera (gear : e.mode = Link.gear) :
    (d.switchMode e).gearCamera.connected = true ↔
      d.gearCamera.connected = true ∨ e.opened = true := by
  have other : ¬Link.gear = Link.boiler := by decide
  rw [switchMode, gear, if_neg other, if_pos rfl]
  cases connected : d.gearCamera.connected <;> cases opened : e.opened <;>
    simp [connectGear, stopCapture, GearCamera.connect, connected]

theorem process_currentMode : (d.process e).currentMode = d.currentMode := by
  unfold process
  split_ifs <;> rfl

theorem process_attempts : (d.process e).attempts = d.attempts := by
  unfold process
  split_ifs <;> rfl

theorem process_running (mode : ℤ) : (d.process e).Running mode ↔ d.Running mode := by
  unfold process
  split_ifs
  · obtain ⟨connected, capturing⟩ := d.boilerCamera.processFrame_flags e.replies
    constructor
    · rintro ⟨boiler, gear⟩
      exact ⟨by simpa [connected, capturing] using boiler, gear⟩
    · rintro ⟨boiler, gear⟩
      exact ⟨by simpa [connected, capturing] using boiler, gear⟩
  · exact Iff.rfl

theorem step_currentMode : (d.step e).currentMode = e.mode := by
  unfold step
  rw [process_currentMode]
  split_ifs with change
  · rfl
  · exact (not_not.mp change).symm

/-- A turn in the mode it finds attempts nothing. -/
theorem step_stay (stay : e.mode = d.currentMode) :
    d.step e = { d with attempts := [] }.process e := by
  simp only [step, stay, ne_eq, not_true_eq_false, if_false]

theorem step_switch (change : e.mode ≠ d.currentMode) : d.step e =
    ({ ({ d with attempts := [] } : Cameras).switchMode e with currentMode := e.mode }).process
      e := by
  simp only [step, ne_eq, change, not_false_eq_true, if_true]

theorem attempts_stay (stay : e.mode = d.currentMode) : (d.step e).attempts = [] := by
  rw [step_stay d e stay, process_attempts]

/-- What is not running stays so while its mode does, and nothing is tried. -/
theorem running_stay (stay : e.mode = d.currentMode) (mode : ℤ) :
    (d.step e).Running mode ↔ d.Running mode := by
  rw [step_stay d e stay, process_running]
  exact ⟨fun ⟨boiler, gear⟩ => ⟨boiler, gear⟩, fun ⟨boiler, gear⟩ => ⟨boiler, gear⟩⟩

theorem not_attempts_step (camera : e.mode = Link.boiler ∨ e.mode = Link.gear) :
    ¬(d.step e).Attempts e.mode := by
  have none : ((d.step e).step e).attempts = [] :=
    attempts_stay _ e (step_currentMode d e).symm
  intro attempts
  rcases camera with boiler | gear
  · simpa [none] using attempts.startCapture boiler e rfl
  · simpa [none] using attempts.gear gear e rfl

/-- The boiler camera's part is the loop without the gear camera. -/
theorem loop_step : (d.step e).loop = d.loop.step ⟨e.mode, e.replies⟩ := by
  have current : d.loop.currentMode = d.currentMode := rfl
  by_cases stay : e.mode = d.currentMode
  · rw [step_stay d e stay]
    simp only [Deadeye.Loop.step, current, stay, process]
    split_ifs <;> simp_all [loop]
  · rw [step_switch d e stay]
    simp only [Deadeye.Loop.step, current, process]
    split_ifs <;> simp_all [loop, switchMode_boilerCamera]

theorem running_switch (change : e.mode ≠ d.currentMode) :
    (d.step e).Running e.mode ↔ d.Starts e := by
  let cleared : Cameras := { d with attempts := [] }
  have switched : (d.step e).Running e.mode ↔ (cleared.switchMode e).Running e.mode := by
    rw [step_switch d e change, process_running]
    exact ⟨fun ⟨boiler, gear⟩ => ⟨boiler, gear⟩, fun ⟨boiler, gear⟩ => ⟨boiler, gear⟩⟩
  have boiler (mode : e.mode = Link.boiler) :=
    BoilerCamera.switch_running_iff d.boilerCamera e.replies
  have camera := switchMode_boilerCamera cleared e
  rw [switched]
  constructor
  · rintro ⟨boilerRuns, gearRuns⟩
    refine ⟨fun mode => ?_, fun mode => ?_⟩
    · rw [if_neg (mode ▸ change.symm), ← BoilerCamera.switch_running_iff, ← mode]
      rw [camera] at boilerRuns
      exact boilerRuns mode
    · exact ((switchMode_gearCamera cleared e mode).mp (gearRuns mode)).imp_right fun opened =>
        ⟨mode ▸ change.symm, opened⟩
  · rintro ⟨boilerStarts, gearStarts⟩
    refine ⟨fun mode => ?_, fun mode => ?_⟩
    · have starts := boilerStarts mode
      rw [if_neg (mode ▸ change.symm), ← BoilerCamera.switch_running_iff, ← mode] at starts
      rw [camera]
      exact starts
    · exact (switchMode_gearCamera cleared e mode).mpr ((gearStarts mode).imp_right And.right)

theorem running_iff : (d.step e).Running e.mode ↔ d.Starts e := by
  by_cases stay : e.mode = d.currentMode
  · rw [running_stay d e stay]
    constructor
    · rintro ⟨boiler, gear⟩
      refine ⟨fun mode => ?_, fun mode => .inl (gear mode)⟩
      rw [if_pos (stay ▸ mode)]
      exact boiler mode
    · rintro ⟨boiler, gear⟩
      refine ⟨fun mode => ?_, fun mode => (gear mode).resolve_right fun other => ?_⟩
      · have running := boiler mode
        rwa [if_pos (stay ▸ mode)] at running
      · exact other.1 (stay ▸ mode)
  · exact running_switch d e stay

/-- Once its camera did not start, a mode stays without one and without another
attempt for as long as nothing else is requested. -/
theorem dead_stays {mode : ℤ} (current : d.currentMode = mode) (dead : ¬d.Running mode)
    (later : List Turn) (same : ∀ next ∈ later, next.mode = mode) :
    Along step (fun d next => (d.step next).attempts = [] ∧ ¬(d.step next).Running next.mode)
      d later := by
  induction later generalizing d with
  | nil => trivial
  | cons next rest ih =>
    obtain ⟨first, others⟩ := List.forall_mem_cons.mp same
    have stay : next.mode = d.currentMode := first.trans current.symm
    have still : ¬(d.step next).Running mode := by
      rw [running_stay d next stay]
      exact dead
    refine ⟨⟨attempts_stay d next stay, first ▸ still⟩, ih (d.step next) ?_ still others⟩
    rw [step_currentMode, first]

/-- Since no turn in the same mode attempts anything, a turn is made good only by
leaving its camera running. -/
theorem retried_iff_running : d.Retried e ↔ (d.step e).Running e.mode := by
  constructor
  · rintro (running | attempts)
    · exact running
    · have elsewhere : ¬(e.mode = Link.boiler ∨ e.mode = Link.gear) :=
        fun camera => not_attempts_step d e camera attempts
      exact ⟨fun boiler => (elsewhere (.inl boiler)).elim, fun gear => (elsewhere (.inr gear)).elim⟩
  · exact .inl

/-- In every run, each turn leaves its camera running or has the next turn try
again if and only if every turn starts its camera; where one does not, the mode
is left dead. -/
theorem retried_iff (turns : List Turn) :
    (Along step Retried d turns ↔ Along step Starts d turns) ∧
      ∀ d e, ¬Retried d e → ∀ later : List Turn, (∀ next ∈ later, next.mode = e.mode) →
        Along step (fun d next => (d.step next).attempts = [] ∧ ¬(d.step next).Running next.mode)
          (d.step e) later := by
  constructor
  · apply along_congr (I := fun _ => True)
    · exact fun _ _ _ _ => trivial
    · exact fun d e _ => (retried_iff_running d e).trans (running_iff d e)
    · trivial
  · intro d e failed later same
    rw [retried_iff_running] at failed
    exact dead_stays (d.step e) (step_currentMode d e) failed later same

end Deadeye.Cameras

/-- Nothing on the bus. -/
def Replies.noCamera : Replies := ⟨some 0, true, true, some true, true, true, true, true, none⟩

/-- One failed attempt to connect, for either camera. -/
theorem unplugged_camera_not_retried :
    ¬Deadeye.Cameras.Retried {} ⟨Link.boiler, .noCamera, true⟩ ∧
      ¬Deadeye.Cameras.Retried {} ⟨Link.gear, .noCamera, false⟩ := by
  constructor
  · rw [Deadeye.Cameras.retried_iff_running]
    intro running
    exact absurd (running.boiler rfl).1 (by decide)
  · rw [Deadeye.Cameras.retried_iff_running]
    intro running
    exact absurd (running.gear rfl) (by decide)

end Steamworks.Vision
