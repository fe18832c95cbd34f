import Steamworks.Library.Run

/-! The vision link. The robot asks for a camera, the Jetson polls the mode it
was last sent and processes frames, and datagrams of three integers cross both
ways over UDP. A link keeps every datagram it was given and a delivery takes
any of them, so delay, loss, duplication and reordering are choices of the run. -/
namespace Steamworks.Vision

def kNoTargetMesg : ℤ := 0
def kBoilerSolutionMesg : ℤ := 1
def kGearSolutionMesg : ℤ := 2
def kErrorMesg : ℤ := 5

structure Message (V : Type) where
  kind : ℤ
  first : V
  second : V

inductive Camera where
  | boiler
  | gear
  deriving DecidableEq

/-- The message in which the camera's frames are reported, also sent to ask for
that camera, and equal to its `Link::Mode`. -/
def Camera.solution : Camera → ℤ
  | .boiler => kBoilerSolutionMesg
  | .gear => kGearSolutionMesg

/-- The members of the robot's subsystem that its IO loop writes. The loop only
copies values, so it is the same for what they are and for where they came from. -/
structure Deadeye (V : Type) where
  hasTarget : Bool
  azimuthError : V
  centerlineError : V
  targetHeight : V

def Deadeye.receive (d : Deadeye V) (message : Message V) : Deadeye V :=
  if message.kind = kNoTargetMesg then { d with hasTarget := false }
  else if message.kind = kBoilerSolutionMesg then
    { d with hasTarget := true, azimuthError := message.first, centerlineError := message.second }
  else if message.kind = kGearSolutionMesg then
    { d with hasTarget := true, azimuthError := message.first, targetHeight := message.second }
  else if message.kind = kErrorMesg then d
  else { d with hasTarget := false }

def Deadeye.own (d : Deadeye V) : Camera → V
  | .boiler => d.centerlineError
  | .gear => d.targetHeight

/-- `EnableBoilerCamera` and `EnableGearCamera`: one datagram, nothing else. -/
def enableCamera (camera : Camera) : Message ℤ := ⟨camera.solution, 0, 0⟩

/-- `Link::current_mode_`, `Deadeye::current_mode_`, and the frame its loop is
in the middle of. -/
structure Jetson where
  linkMode : ℤ := 0
  currentMode : ℤ := 0
  processing : Option Camera := none

/-- The `LINK` table's `mode`, from which the Jetson starts: `Mode::boiler`,
`Mode::gear`, and `Mode::idle` for any other and for none. -/
def loadConfigSettings : Option String → ℤ
  | none => 0
  | some mode =>
    if mode = "boiler" then Camera.boiler.solution
    else if mode = "gear" then Camera.gear.solution
    else 0

def Jetson.receive (j : Jetson) (message : Message ℤ) : Jetson :=
  { j with linkMode := message.kind }

def selected (mode : ℤ) : Option Camera :=
  if mode = Camera.boiler.solution then some .boiler
  else if mode = Camera.gear.solution then some .gear
  else none

/-- The top of the main loop, up to the call that processes a frame. -/
def Jetson.poll (j : Jetson) : Jetson :=
  match j.processing with
  | some _ => j
  | none => { j with currentMode := j.linkMode, processing := selected j.linkMode }

/-- `ProcessBoilerTarget` and `ProcessGearTarget` with what the camera found. -/
def processTarget (camera : Camera) : Option (ℤ × ℤ) → Message ℤ
  | some (azimuthError, other) => ⟨camera.solution, azimuthError, other⟩
  | none => ⟨kNoTargetMesg, 0, 0⟩

/-- A frame that was processed: its camera, what was found in it, and how many
requests the robot had made by then. -/
structure Frame where
  camera : Camera
  result : Option (ℤ × ℤ)
  requests : ℕ

structure Packet where
  message : Message ℤ
  frame : Frame

/-- Both programs and both links. Below `toRobot` are observations no program
reads: the requests and frames so far, the frame behind the last datagram the
robot received, and the frame behind each of its fields. -/
structure World where
  robot : Deadeye ℤ
  jetson : Jetson := {}
  toJetson : List (Message ℤ) := []
  toRobot : List Packet := []
  requests : List Camera := []
  frames : List Frame := []
  received : Option Frame := none
  sources : Deadeye (Option Frame) := ⟨false, none, none, none⟩

inductive Event where
  | enable (camera : Camera)
  | deliverRequest (k : ℕ)
  | poll
  | frame (result : Option (ℤ × ℤ))
  | deliverPacket (k : ℕ)

def World.send (w : World) (frame : Frame) : World :=
  { w with
    jetson := { w.jetson with processing := none }
    toRobot := w.toRobot ++ [⟨processTarget frame.camera frame.result, frame⟩]
    frames := frame :: w.frames }

def World.deliver (w : World) (packet : Packet) : World :=
  { w with
    robot := w.robot.receive packet.message
    received := some packet.frame
    sources := w.sources.receive ⟨packet.message.kind, some packet.frame, some packet.frame⟩ }

def step (w : World) : Event → World
  | .enable camera =>
      { w with toJetson := w.toJetson ++ [enableCamera camera], requests := camera :: w.requests }
  | .deliverRequest k =>
      match w.toJetson[k]? with
      | some message => { w with jetson := w.jetson.receive message }
      | none => w
  | .poll => { w with jetson := w.jetson.poll }
  | .frame result =>
      match w.jetson.processing with
      | some camera => w.send ⟨camera, result, w.requests.length⟩
      | none => w
  | .deliverPacket k =>
      match w.toRobot[k]? with
      | some packet => w.deliver packet
      | none => w

/-- The fields a reader of this camera's data reads were both produced by a
frame of the camera that was processed after the latest request. -/
def World.Fresh (w : World) (camera : Camera) : Prop :=
  ∃ frame ∈ w.frames, frame.camera = camera ∧ frame.requests = w.requests.length ∧
    w.sources.azimuthError = some frame ∧ w.sources.own camera = some frame

/-- Power on: the subsystem has no target and its fields hold anything, the Jetson
starts in the mode of its configuration. -/
def World.initial (mode : Option String) (azimuthError centerlineError targetHeight : ℤ) : World where
  robot := ⟨false, azimuthError, centerlineError, targetHeight⟩
  jetson := { linkMode := loadConfigSettings mode }

end Steamworks.Vision
