import Steamworks.Library.Run

/-! The motor tool's Set menu and the paired limits of a Talon. Each action of
a pair asks for one half and takes the other from a variable that all Talons
share; labels and functions are tied by their position in two arrays. -/
namespace Steamworks.Bdc
open Library.Run

inductive Pair where
  | peakOutput
  | nominalOutput
  | softLimit
  deriving DecidableEq

inductive Half where
  | forward
  | reverse
  deriving DecidableEq

def Half.other : Half → Half
  | .forward => .reverse
  | .reverse => .forward

/-- What a function of the session keeps of each pair: `tempvar1A` and
`tempvar1B` for the peak output, 2 for the nominal output, 3 for the soft limit. -/
abbrev Halves (V : Type) := Pair → Half → V

variable {V : Type}

def Halves.put (h : Halves V) (pair : Pair) (half : Half) (value : V) : Halves V :=
  fun p s => if p = pair ∧ s = half then value else h p s

def Halves.config (h : Halves V) (pair : Pair) (forward reverse : V) : Halves V :=
  (h.put pair .forward forward).put pair .reverse reverse

/-- The shared variables, the IDs of the Talons in use, and every Talon's own
settings. -/
structure Session (V : Type) where
  tempvar : Halves V
  talonsCurrentlyUsing : List ℤ := []
  talons : ℤ → Halves V

namespace Session

def forEveryUsingTalon (s : Session V) (command : Halves V → Halves V) : Session V :=
  { s with talons := fun id =>
      if id ∈ s.talonsCurrentlyUsing then command (s.talons id) else s.talons id }

/-- Ask for one half and configure the pair with both variables. -/
def setHalf (pair : Pair) (half : Half) (value : V) (s : Session V) : Session V :=
  let s := { s with tempvar := s.tempvar.put pair half value }
  s.forEveryUsingTalon fun talon =>
    talon.config pair (s.tempvar pair .forward) (s.tempvar pair .reverse)

def setPeakCloseLoopOutForward : V → Session V → Session V := setHalf .peakOutput .forward
def setPeakCloseLoopOutReverse : V → Session V → Session V := setHalf .peakOutput .reverse
def setNominalCloseOutForward : V → Session V → Session V := setHalf .nominalOutput .forward
def setNominalCloseOutReverse : V → Session V → Session V := setHalf .nominalOutput .reverse
def configSoftLimitForward : V → Session V → Session V := setHalf .softLimit .forward
def configSoftLimitReverse : V → Session V → Session V := setHalf .softLimit .reverse

def changeTalons (id : ℤ) (s : Session V) : Session V :=
  { s with talonsCurrentlyUsing := s.talonsCurrentlyUsing ++ [id] }

def singularTalon (id : ℤ) (s : Session V) : Session V :=
  changeTalons id { s with talonsCurrentlyUsing := [] }

end Session

/-- The functions of the Set menu. -/
inductive SetFunction where
  | setTalonControlMode
  | setP
  | setI
  | setD
  | setF
  | setIzone
  | setPeakCloseLoopOutForward
  | setPeakCloseLoopOutReverse
  | setNominalCloseOutForward
  | setNominalCloseOutReverse
  | setVoltageRampRate
  | setSetCloseLoopRampRate
  | setAllowCloseLoopErr
  | edLimitSwitches
  | configForwardHLimit
  | configReverseHLimit
  | configSoftLimitForward
  | configSoftLimitReverse
  | setEncoderDeviceType
  | setQPosition
  | setEncoderDirection
  | setOutputDirection
  | setDIOPin
  | setStatusFrameRates
  | setCurrentLimit
  | setPulseLength
  | setMotionMagicCruiseVelocity
  | setMotionMagicAcceleration
  | setVelocityMeasurementPeriod
  | setVelocityMeasurementWindow
  deriving DecidableEq

/-- What a function does to the pairs; most touch none of them. -/
def SetFunction.call : SetFunction → V → Session V → Session V
  | .setPeakCloseLoopOutForward => Session.setPeakCloseLoopOutForward
  | .setPeakCloseLoopOutReverse => Session.setPeakCloseLoopOutReverse
  | .setNominalCloseOutForward => Session.setNominalCloseOutForward
  | .setNominalCloseOutReverse => Session.setNominalCloseOutReverse
  | .configSoftLimitForward => Session.configSoftLimitForward
  | .configSoftLimitReverse => Session.configSoftLimitReverse
  | _ => fun _ s => s

def functionNames : Fin 30 → String :=
  !["Control Mode", "P", "I", "D", "F", "I Zone", "Forward Peak Closed Loop Output",
    "Reverse Peak Closed Loop Output", "Forward Nominal Closed Loop Output",
    "Reverse Nominal Closed Loop Output", "Voltage Ramp Rate", "CloseLoop Ramp Rate",
    "Allowable Closed Loop Error", "Enable/Disable Hard Limit Switches",
    "Normally Open/Close Forward Hard Limit Switch",
    "Normally Open/Close Reverse Hard Limit Switch", "Forward Soft Limit", "Reverse Soft Limit",
    "Sensor Selection", "Sensor Position", "Encoder Direction", "Output Direction", "DIO Pin",
    "Status Frame Rates", "Current Limit", "Pulse Length", "Motion Magic Cruise Velocity",
    "Motion Magic Acceleration", "Velocity Measurement Period", "Velocity Measurement Window"]

def functionPointers : Fin 30 → SetFunction :=
  ![.setTalonControlMode, .setP, .setI, .setD, .setF, .setIzone, .setPeakCloseLoopOutForward,
    .setPeakCloseLoopOutReverse, .setNominalCloseOutForward, .setNominalCloseOutForward,
    .setVoltageRampRate, .setSetCloseLoopRampRate, .setAllowCloseLoopErr, .edLimitSwitches,
    .configForwardHLimit, .configReverseHLimit, .configSoftLimitForward, .configSoftLimitReverse,
    .setEncoderDeviceType, .setQPosition, .setEncoderDirection, .setOutputDirection, .setDIOPin,
    .setStatusFrameRates, .setCurrentLimit, .setPulseLength, .setMotionMagicCruiseVelocity,
    .setMotionMagicAcceleration, .setVelocityMeasurementPeriod, .setVelocityMeasurementWindow]

def Pair.label : Pair → Half → String
  | .peakOutput, .forward => "Forward Peak Closed Loop Output"
  | .peakOutput, .reverse => "Reverse Peak Closed Loop Output"
  | .nominalOutput, .forward => "Forward Nominal Closed Loop Output"
  | .nominalOutput, .reverse => "Reverse Nominal Closed Loop Output"
  | .softLimit, .forward => "Forward Soft Limit"
  | .softLimit, .reverse => "Reverse Soft Limit"

/-- A selection of Talons, or an option of the Set menu with the value entered. -/
inductive ToolEvent (V : Type) where
  | singularTalon (id : ℤ)
  | changeTalons (id : ℤ)
  | set (option : Fin 30) (value : V)

def Session.step (s : Session V) : ToolEvent V → Session V
  | .singularTalon id => s.singularTalon id
  | .changeTalons id => s.changeTalons id
  | .set option value => (functionPointers option).call value s

/-- The value goes to this half of the pair on every Talon in use; all else on
every Talon stays. -/
def SetsOnly (pair : Pair) (half : Half) (value : V) (s t : Session V) : Prop :=
  ∀ id, t.talons id =
    if id ∈ s.talonsCurrentlyUsing then (s.talons id).put pair half value else s.talons id

/-- An action does what its label says. -/
def LabelKept (s : Session V) : ToolEvent V → Prop
  | .set option value => ∀ pair half, functionNames option = pair.label half →
      SetsOnly pair half value s (s.step (.set option value))
  | _ => True

/-- The variable for the other half agrees with every Talon in use; for the
reverse nominal output, which sets the forward half, the value and every
Talon's forward half have to be zero. -/
def HalvesAgree [Zero V] (s : Session V) : ToolEvent V → Prop
  | .set option value => ∀ pair half, functionNames option = pair.label half →
      ∀ id ∈ s.talonsCurrentlyUsing,
        if pair = .nominalOutput ∧ half = .reverse then
          value = 0 ∧ s.talons id .nominalOutput .forward = 0
        else s.talons id pair half.other = s.tempvar pair half.other
  | _ => True

/-- The function that stands where the label stands. -/
def Pair.function : Pair → Half → SetFunction
  | .peakOutput, .forward => .setPeakCloseLoopOutForward
  | .peakOutput, .reverse => .setPeakCloseLoopOutReverse
  | .nominalOutput, _ => .setNominalCloseOutForward
  | .softLimit, .forward => .configSoftLimitForward
  | .softLimit, .reverse => .configSoftLimitReverse

theorem functionPointers_of_label {option : Fin 30} {pair : Pair} {half : Half}
    (labelled : functionNames option = pair.label half) :
    functionPointers option = pair.function half := by
  revert option
  cases pair <;> cases half <;> decide

theorem put_same (h : Halves V) (pair : Pair) (half : Half) (value : V) :
    h.put pair half value pair half = value := if_pos ⟨rfl, rfl⟩

theorem put_other (h : Halves V) {pair p : Pair} {half s : Half} (value : V)
    (apart : ¬(p = pair ∧ s = half)) : h.put pair half value p s = h p s := if_neg apart

theorem other_ne (half : Half) : half.other ≠ half := by
  cases half <;> simp [Half.other]

/-- Configuring a pair with the shared variables, one of them new. -/
theorem config_eq (talon shared : Halves V) (pair : Pair) (half : Half) (value : V) :
    talon.config pair (shared.put pair half value pair .forward)
        (shared.put pair half value pair .reverse) =
      (talon.put pair half value).put pair half.other (shared pair half.other) := by
  funext p s
  by_cases same : p = pair
  · subst same
    cases half <;> cases s <;> simp [Halves.config, Halves.put, Half.other]
  · simp [Halves.config, Halves.put, same]

theorem talons_setHalf (pair : Pair) (half : Half) (value : V) (s : Session V) (id : ℤ) :
    (s.setHalf pair half value).talons id =
      if id ∈ s.talonsCurrentlyUsing then
        ((s.talons id).put pair half value).put pair half.other (s.tempvar pair half.other)
      else s.talons id := by
  rw [← config_eq]
  rfl

theorem put_put_eq_iff (talon : Halves V) (pair : Pair) (half : Half) (value kept : V) :
    (talon.put pair half value).put pair half.other kept = talon.put pair half value ↔
      talon pair half.other = kept := by
  constructor
  · intro same
    have read := congrFun (congrFun same pair) half.other
    rw [put_same, put_other talon value (fun both => other_ne half both.2)] at read
    exact read.symm
  · rintro rfl
    funext p s
    by_cases both : p = pair ∧ s = half.other
    · obtain ⟨rfl, rfl⟩ := both
      rw [put_same, put_other talon value (fun both => other_ne half both.2)]
    · rw [put_other _ _ both]

/-- What a function of one half leaves on the Talons in use, held against what
the label of this or another half says. -/
theorem setsOnly_setHalf_iff (pair : Pair) (half own : Half) (value : V) (s : Session V) :
    SetsOnly pair half value s (s.setHalf pair own value) ↔
      ∀ id ∈ s.talonsCurrentlyUsing,
        ((s.talons id).put pair own value).put pair own.other (s.tempvar pair own.other) =
          (s.talons id).put pair half value := by
  constructor
  · intro only id inUse
    have talon := only id
    rw [talons_setHalf, if_pos inUse, if_pos inUse] at talon
    exact talon
  · intro same id
    rw [talons_setHalf]
    by_cases inUse : id ∈ s.talonsCurrentlyUsing
    · rw [if_pos inUse, if_pos inUse]
      exact same id inUse
    · rw [if_neg inUse, if_neg inUse]

/-- Setting the forward half in place of the reverse. -/
theorem swapped_eq_iff (talon : Halves V) (pair : Pair) (value kept : V) :
    (talon.put pair .forward value).put pair .reverse kept = talon.put pair .reverse value ↔
      value = kept ∧ talon pair .forward = kept := by
  constructor
  · intro same
    have forward := congrFun (congrFun same pair) .forward
    have reverse := congrFun (congrFun same pair) .reverse
    simp only [Halves.put, and_self, and_false, if_true, if_false, reduceCtorEq] at forward reverse
    exact ⟨reverse.symm, by rw [← forward, reverse]⟩
  · rintro ⟨rfl, same⟩
    funext p s
    by_cases pairs : p = pair
    · subst pairs
      cases s <;> simp [Halves.put, same]
    · simp [Halves.put, pairs]

theorem set_step {s : Session V} {option : Fin 30} {pair : Pair} {half : Half} (value : V)
    (labelled : functionNames option = pair.label half) :
    s.step (.set option value) =
      s.setHalf pair (if pair = .nominalOutput then .forward else half) value := by
  have pointer := functionPointers_of_label labelled
  rw [Session.step, pointer]
  cases pair <;> cases half <;> rfl

variable [Zero V]

/-- Nothing ever sets the variable of the reverse nominal output. -/
def ReverseNominalUnset (s : Session V) : Prop := s.tempvar .nominalOutput .reverse = 0

theorem labelKept_iff {s : Session V} (unset : ReverseNominalUnset s) (e : ToolEvent V) :
    LabelKept s e ↔ HalvesAgree s e := by
  cases e with
  | singularTalon id => exact Iff.rfl
  | changeTalons id => exact Iff.rfl
  | set option value =>
    apply forall_congr'
    intro pair
    apply forall_congr'
    intro half
    apply imp_congr_right
    intro labelled
    rw [set_step value labelled]
    rw [setsOnly_setHalf_iff]
    apply forall_congr'
    intro id
    apply imp_congr_right
    intro inUse
    by_cases swapped : pair = .nominalOutput ∧ half = .reverse
    · obtain ⟨rfl, rfl⟩ := swapped
      simp only [and_self, if_true]
      rw [Half.other, unset]
      exact swapped_eq_iff _ _ _ _
    · have own : (if pair = .nominalOutput then .forward else half) = half := by
        cases pair <;> cases half <;> simp_all
      rw [own, if_neg swapped]
      exact put_put_eq_iff _ _ _ _ _

theorem setHalf_unset {s : Session V} (unset : ReverseNominalUnset s) (pair : Pair) (half : Half)
    (value : V) (other : ¬(pair = .nominalOutput ∧ half = .reverse)) :
    ReverseNominalUnset (s.setHalf pair half value) := by
  have kept : ¬(Pair.nominalOutput = pair ∧ Half.reverse = half) := by
    rintro ⟨rfl, rfl⟩
    exact other ⟨rfl, rfl⟩
  exact (put_other s.tempvar value kept).trans unset

theorem functionPointers_ne (option : Fin 30) :
    functionPointers option ≠ .setNominalCloseOutReverse := by
  revert option
  decide

theorem step_unset {s : Session V} (unset : ReverseNominalUnset s) (e : ToolEvent V) :
    ReverseNominalUnset (s.step e) := by
  cases e with
  | singularTalon id => exact unset
  | changeTalons id => exact unset
  | set option value =>
    rw [Session.step]
    have never := functionPointers_ne option
    cases pointer : functionPointers option with
    | setNominalCloseOutReverse => exact absurd pointer never
    | setPeakCloseLoopOutForward => exact setHalf_unset unset _ _ value (by simp)
    | setPeakCloseLoopOutReverse => exact setHalf_unset unset _ _ value (by simp)
    | setNominalCloseOutForward => exact setHalf_unset unset _ _ value (by simp)
    | configSoftLimitForward => exact setHalf_unset unset _ _ value (by simp)
    | configSoftLimitReverse => exact setHalf_unset unset _ _ value (by simp)
    | _ => exact unset

/-- The session as the tool starts it, with the Talons as they were left. -/
def Session.start (talons : ℤ → Halves V) : Session V where
  tempvar _ _ := 0
  talons := talons

theorem labels_kept_iff (talons : ℤ → Halves V) (events : List (ToolEvent V)) :
    Along Session.step LabelKept (Session.start talons) events ↔
      Along Session.step HalvesAgree (Session.start talons) events := by
  apply along_congr (I := ReverseNominalUnset)
  · intro s e unset _
    exact step_unset unset e
  · intro s e unset
    exact labelKept_iff unset e
  · rfl

/-- Talons that put out up to 12 volts both ways; the forward peak output of one
is set to 8, and its reverse becomes 0. -/
theorem forward_peak_clears_reverse :
    ¬Along Session.step LabelKept
      (Session.start fun _ _ half => if half = .forward then 12 else (-12 : ℤ))
      [.singularTalon 1, .set 6 8] := by
  rintro ⟨_, kept, _⟩
  have talon := kept .peakOutput .forward rfl 1
  have reverse := congrFun (congrFun talon .peakOutput) .reverse
  revert reverse
  decide

end Steamworks.Bdc
