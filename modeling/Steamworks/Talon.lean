import Mathlib

/-! A CAN Talon as the robot program sees it: the commands it was sent, newest
first, and the settings last written to it. The controller's own behaviour and
its sensors are environment; the program only reads those. -/
namespace Steamworks

inductive MotorCommand (K : Type*) where
  | set (value : K)
  | stopMotor
  deriving DecidableEq

inductive NeutralMode where
  | jumper
  | brake
  | coast
  deriving DecidableEq

inductive ControlMode where
  | voltage
  | position
  | velocity
  | motionMagic
  deriving DecidableEq

structure Talon (K : Type*) where
  sent : List (MotorCommand K) := []
  position : Option K := none
  neutralMode : NeutralMode := .brake
  controlMode : ControlMode := .voltage
  voltageRampRate : Option K := none
  currentLimit : Option K := none

namespace Talon
variable {K : Type*}

def set (t : Talon K) (value : K) : Talon K := { t with sent := .set value :: t.sent }

def stopMotor (t : Talon K) : Talon K := { t with sent := .stopMotor :: t.sent }

def setPosition (t : Talon K) (position : K) : Talon K :=
  { t with position := some position }

def configNeutralMode (t : Talon K) (mode : NeutralMode) : Talon K :=
  { t with neutralMode := mode }

def setControlMode (t : Talon K) (mode : ControlMode) : Talon K :=
  { t with controlMode := mode }

def setVoltageRampRate (t : Talon K) (rate : K) : Talon K :=
  { t with voltageRampRate := some rate }

def setCurrentLimit (t : Talon K) (amps : K) : Talon K :=
  { t with currentLimit := some amps }

def last (t : Talon K) : Option (MotorCommand K) := t.sent.head?

/-- The setpoint a Talon was last given; a fresh Talon holds zero. -/
def setpoint [Zero K] (t : Talon K) : K :=
  match t.last with
  | some (.set value) => value
  | _ => 0

section
variable (t : Talon K) (value : K)

@[simp] theorem sent_set : (t.set value).sent = .set value :: t.sent := rfl

@[simp] theorem sent_stopMotor : t.stopMotor.sent = .stopMotor :: t.sent := rfl

@[simp] theorem sent_setPosition : (t.setPosition value).sent = t.sent := rfl

@[simp] theorem sent_configNeutralMode (mode : NeutralMode) :
    (t.configNeutralMode mode).sent = t.sent := rfl

@[simp] theorem sent_setControlMode (mode : ControlMode) :
    (t.setControlMode mode).sent = t.sent := rfl

@[simp] theorem sent_setVoltageRampRate : (t.setVoltageRampRate value).sent = t.sent := rfl

@[simp] theorem sent_setCurrentLimit : (t.setCurrentLimit value).sent = t.sent := rfl

@[simp] theorem neutralMode_set : (t.set value).neutralMode = t.neutralMode := rfl

@[simp] theorem neutralMode_configNeutralMode (mode : NeutralMode) :
    (t.configNeutralMode mode).neutralMode = mode := rfl

@[simp] theorem last_set : (t.set value).last = some (.set value) := rfl

@[simp] theorem last_stopMotor : t.stopMotor.last = some .stopMotor := rfl

@[simp] theorem setpoint_set [Zero K] : (t.set value).setpoint = value := rfl

end

theorem last_eq_of_sent {t u : Talon K} (same : t.sent = u.sent) : t.last = u.last := by
  rw [last, last, same]

end Talon
end Steamworks
