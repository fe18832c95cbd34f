import Steamworks.Library.Required
import Steamworks.Startup.Log

/-! The settings of a Talon, made of the entry of the config with its name. An
option that is read without a value gives what its memory was set up with; that
this happened is remembered. -/
namespace Steamworks.Startup
open Library.Required

inductive Thrown where
  | invalidArgument (what : String)
  | underflowError (what : String)
  | overflowError (what : String)
  deriving DecidableEq

/-- What may throw, and whether an absent option was dereferenced so far. -/
abbrev Creation := ExceptT Thrown (StateM Bool)

/-- The value of an option. -/
def deref [Inhabited α] : Option α → Creation α
  | some value => pure value
  | none => do
      set true
      pure default

namespace Table

def getTableArray (t : Table) (key : String) : Option (List Table) :=
  match t.lookup key with
  | some (.tableArray tables) => some tables
  | _ => none

/-- An integer is taken for a double, too. -/
def getDouble (t : Table) (key : String) : Option ℚ :=
  match t.lookup key with
  | some (.float value) => some value
  | some (.integer value) => some value
  | _ => none

def getInteger (t : Table) (key : String) : Option ℤ :=
  match t.lookup key with
  | some (.integer value) => some value
  | _ => none

/-- An integer that the type does not hold is not reported as missing. -/
def getWithin (t : Table) (low high : ℤ) (below key : String) : Creation (Option ℤ) :=
  match t.getInteger key with
  | none => pure none
  | some value =>
    if value < low then throw (.underflowError below)
    else if high < value then
      throw (.overflowError "T cannot represent the value requested in get")
    else pure (some value)

def getInt (t : Table) (key : String) : Creation (Option ℤ) :=
  t.getWithin (-2 ^ 31) (2 ^ 31 - 1) "T cannot represent the value requested in get" key

def getUnsigned (t : Table) (key : String) : Creation (Option ℤ) :=
  t.getWithin 0 (2 ^ 32 - 1) "T cannot store negative value in get" key

end Table

/-- What each setting but the last goes through: the option is checked, and then
dereferenced. -/
def required [Inhabited α] (option : Option α) (key : String) : Creation α :=
  if option.isNone then throw (.invalidArgument ("TALON " ++ key ++ " setting missing"))
  else deref option

/-- The enumerations are numbers here. -/
structure Settings where
  feedbackDevice : ℤ
  neutralMode : ℤ
  limitMode : ℤ
  voltageRampRate : ℚ
  encoderReversed : Bool
  outputReversed : Bool
  currentLimit : ℤ
  setpointMax : ℚ

structure PIDSettings extends Settings where
  p : ℚ
  i : ℚ
  d : ℚ
  f : ℚ
  iZone : ℤ
  allowableClosedLoopError : ℤ
  closeLoopRampRate : ℚ
  peakOutputVoltageForward : ℚ
  peakOutputVoltageReverse : ℚ
  nominalOutputVoltageForward : ℚ
  nominalOutputVoltageReverse : ℚ

structure MotionMagicSettings extends PIDSettings where
  cruiseVelocity : ℚ
  acceleration : ℚ

def requiredInt (config : Table) (key : String) : Creation ℤ := do
  required (← config.getInt key) key

def requiredUnsigned (config : Table) (key : String) : Creation ℤ := do
  required (← config.getUnsigned key) key

def requiredDouble (config : Table) (key : String) : Creation ℚ :=
  required (config.getDouble key) key

def requiredBool (config : Table) (key : String) : Creation Bool :=
  required (config.getBool key) key

def Settings.new (config : Table) : Creation Settings := do
  let feedbackDevice ← requiredInt config "feedback_device"
  let neutralMode ← requiredInt config "neutral_mode"
  let limitMode ← requiredInt config "limit_mode"
  let voltageRampRate ← requiredDouble config "voltage_ramp_rate"
  let encoderReversed ← requiredBool config "encoder_reversed"
  let outputReversed ← requiredBool config "output_reversed"
  let currentLimit ← requiredUnsigned config "current_limit"
  let setpointMax := (config.getDouble "setpoint_max").getD (-1)
  pure ⟨feedbackDevice, neutralMode, limitMode, voltageRampRate, encoderReversed, outputReversed,
    currentLimit, setpointMax⟩

def PIDSettings.new (config : Table) : Creation PIDSettings := do
  let settings ← Settings.new config
  let p ← requiredDouble config "P"
  let i ← requiredDouble config "I"
  let d ← requiredDouble config "D"
  let f ← requiredDouble config "F"
  let iZone ← requiredUnsigned config "I_zone"
  let allowableClosedLoopError ← requiredUnsigned config "allowable_closed_loop_error"
  let closeLoopRampRate ← requiredDouble config "close_loop_ramp_rate"
  let peakOutputVoltageForward ← requiredDouble config "peak_output_voltage_forward"
  let peakOutputVoltageReverse ← requiredDouble config "peak_output_voltage_reverse"
  let nominalOutputVoltageForward ← requiredDouble config "nominal_output_voltage_forward"
  let nominalOutputVoltageReverse ← requiredDouble config "nominal_output_voltage_reverse"
  pure ⟨settings, p, i, d, f, iZone, allowableClosedLoopError, closeLoopRampRate,
    peakOutputVoltageForward, peakOutputVoltageReverse, nominalOutputVoltageForward,
    nominalOutputVoltageReverse⟩

def MotionMagicSettings.new (config : Table) : Creation MotionMagicSettings := do
  let settings ← PIDSettings.new config
  let cruiseVelocity ← requiredDouble config "cruise_velocity"
  let acceleration ← requiredDouble config "acceleration"
  pure ⟨settings, cruiseVelocity, acceleration⟩

/-- The subclasses that the factory makes. -/
inductive TalonSettings where
  | voltage (settings : Settings)
  | position (settings : PIDSettings)
  | velocity (settings : PIDSettings)
  | motionMagic (settings : MotionMagicSettings)

/-- The factory method from where it knows the type. -/
def TalonSettings.ofType (talon : Table) (type : String) : Creation TalonSettings := do
  if type = "voltage" then return .voltage (← Settings.new talon)
  else if type = "position" then return .position (← PIDSettings.new talon)
  else if type = "velocity" then return .velocity (← PIDSettings.new talon)
  else if type = "motion_magic" then return .motionMagic (← MotionMagicSettings.new talon)
  else throw (.invalidArgument ("unrecognized type: " ++ type))

/-- The factory method. Where the type was read the check that follows is of the
entry, which was found, and not of the option. -/
def TalonSettings.create (config : Table) (name : String) : Creation TalonSettings :=
  match config.getTableArray "TALON" with
  | none => throw (.invalidArgument "TALON table array missing")
  | some talons =>
    match talons.find? fun c => name = (Table.getString c "name").getD "" with
    | none => throw (.invalidArgument ("TALON not found for name: " ++ name))
    | some talon => do TalonSettings.ofType talon (← deref (Table.getString talon "type"))

inductive Kind where
  | int
  | unsigned
  | double
  | boolean

/-- A key that is read, and what it is read as. -/
structure Key where
  name : String
  kind : Kind

inductive Fault where
  | missing
  | unfit

def Table.faultWithin (t : Table) (low high : ℤ) (key : String) : Option Fault :=
  match t.getInteger key with
  | none => some .missing
  | some value => if low ≤ value ∧ value ≤ high then none else some .unfit

/-- What is wrong with the entry under a key: that there is none of its kind, or
an integer that its type does not hold. -/
def Table.fault (t : Table) (key : Key) : Option Fault :=
  match key.kind with
  | .int => t.faultWithin (-2 ^ 31) (2 ^ 31 - 1) key.name
  | .unsigned => t.faultWithin 0 (2 ^ 32 - 1) key.name
  | .double => if (t.getDouble key.name).isSome then none else some .missing
  | .boolean => if (t.getBool key.name).isSome then none else some .missing

/-- A missing entry is an invalid argument; the other fault is another exception. -/
def raises (fault : Fault) (thrown : Thrown) : Prop :=
  match fault with
  | .missing => ∃ what, thrown = .invalidArgument what
  | .unfit => ∀ what, thrown ≠ .invalidArgument what

def commonKeys : List Key :=
  [⟨"feedback_device", .int⟩, ⟨"neutral_mode", .int⟩, ⟨"limit_mode", .int⟩,
    ⟨"voltage_ramp_rate", .double⟩, ⟨"encoder_reversed", .boolean⟩, ⟨"output_reversed", .boolean⟩,
    ⟨"current_limit", .unsigned⟩]

def pidKeys : List Key :=
  [⟨"P", .double⟩, ⟨"I", .double⟩, ⟨"D", .double⟩, ⟨"F", .double⟩, ⟨"I_zone", .unsigned⟩,
    ⟨"allowable_closed_loop_error", .unsigned⟩, ⟨"close_loop_ramp_rate", .double⟩,
    ⟨"peak_output_voltage_forward", .double⟩, ⟨"peak_output_voltage_reverse", .double⟩,
    ⟨"nominal_output_voltage_forward", .double⟩, ⟨"nominal_output_voltage_reverse", .double⟩]

def motionMagicKeys : List Key := [⟨"cruise_velocity", .double⟩, ⟨"acceleration", .double⟩]

/-- The settings hold what the entry says. -/
structure Settings.Match (t : Table) (s : Settings) : Prop where
  feedbackDevice : t.getInteger "feedback_device" = some s.feedbackDevice
  neutralMode : t.getInteger "neutral_mode" = some s.neutralMode
  limitMode : t.getInteger "limit_mode" = some s.limitMode
  voltageRampRate : t.getDouble "voltage_ramp_rate" = some s.voltageRampRate
  encoderReversed : t.getBool "encoder_reversed" = some s.encoderReversed
  outputReversed : t.getBool "output_reversed" = some s.outputReversed
  currentLimit : t.getInteger "current_limit" = some s.currentLimit
  setpointMax : s.setpointMax = (t.getDouble "setpoint_max").getD (-1)

structure PIDSettings.Match (t : Table) (s : PIDSettings) : Prop where
  settings : s.toSettings.Match t
  p : t.getDouble "P" = some s.p
  i : t.getDouble "I" = some s.i
  d : t.getDouble "D" = some s.d
  f : t.getDouble "F" = some s.f
  iZone : t.getInteger "I_zone" = some s.iZone
  allowableClosedLoopError :
    t.getInteger "allowable_closed_loop_error" = some s.allowableClosedLoopError
  closeLoopRampRate : t.getDouble "close_loop_ramp_rate" = some s.closeLoopRampRate
  peakOutputVoltageForward :
    t.getDouble "peak_output_voltage_forward" = some s.peakOutputVoltageForward
  peakOutputVoltageReverse :
    t.getDouble "peak_output_voltage_reverse" = some s.peakOutputVoltageReverse
  nominalOutputVoltageForward :
    t.getDouble "nominal_output_voltage_forward" = some s.nominalOutputVoltageForward
  nominalOutputVoltageReverse :
    t.getDouble "nominal_output_voltage_reverse" = some s.nominalOutputVoltageReverse

structure MotionMagicSettings.Match (t : Table) (s : MotionMagicSettings) : Prop where
  settings : s.toPIDSettings.Match t
  cruiseVelocity : t.getDouble "cruise_velocity" = some s.cruiseVelocity
  acceleration : t.getDouble "acceleration" = some s.acceleration

section Reads
variable {config : Table} {key : String}

/-- A checked option is dereferenced only with a value. -/
theorem required_eq [Inhabited α] (option : Option α) (key : String) : required option key =
    match option with
    | none => throw (.invalidArgument ("TALON " ++ key ++ " setting missing"))
    | some value => pure value := by
  cases option <;> rfl

theorem gathers_double : Gathers config.fault raises [⟨key, .double⟩] (requiredDouble config key)
    (fun value => config.getDouble key = some value) := by
  apply gathers_one
  rw [requiredDouble, required_eq, Table.fault]
  cases config.getDouble key with
  | none => exact ⟨_, rfl, _, rfl⟩
  | some value => exact ⟨value, rfl, rfl⟩

theorem gathers_bool : Gathers config.fault raises [⟨key, .boolean⟩] (requiredBool config key)
    (fun value => config.getBool key = some value) := by
  apply gathers_one
  rw [requiredBool, required_eq, Table.fault]
  cases config.getBool key with
  | none => exact ⟨_, rfl, _, rfl⟩
  | some value => exact ⟨value, rfl, rfl⟩

theorem gathers_within {kind : Kind} {low high : ℤ} (below : String)
    (fault : config.fault ⟨key, kind⟩ = config.faultWithin low high key) :
    Gathers config.fault raises [⟨key, kind⟩]
      (config.getWithin low high below key >>= fun option => required option key)
      (fun value => config.getInteger key = some value) := by
  apply gathers_one
  rw [fault, Table.getWithin, Table.faultWithin]
  cases config.getInteger key with
  | none => exact ⟨_, rfl, _, rfl⟩
  | some value =>
    by_cases under : value < low
    · have unfit : ¬(low ≤ value ∧ value ≤ high) := by omega
      simp only [under, unfit, if_true, if_false, throw_bind]
      exact ⟨_, rfl, nofun⟩
    · by_cases above : high < value
      · have unfit : ¬(low ≤ value ∧ value ≤ high) := by omega
        simp only [under, above, unfit, if_true, if_false, throw_bind]
        exact ⟨_, rfl, nofun⟩
      · have fits : low ≤ value ∧ value ≤ high := by omega
        simp only [under, above, fits, and_self, if_true, if_false, pure_bind]
        exact ⟨value, rfl, rfl⟩

theorem gathers_int : Gathers config.fault raises [⟨key, .int⟩] (requiredInt config key)
    (fun value => config.getInteger key = some value) :=
  gathers_within _ rfl

theorem gathers_unsigned : Gathers config.fault raises [⟨key, .unsigned⟩]
    (requiredUnsigned config key) (fun value => config.getInteger key = some value) :=
  gathers_within _ rfl

theorem gathers_settings (config : Table) : Gathers config.fault raises commonKeys
    (Settings.new config) (Settings.Match config) := by
  refine gathers_bind gathers_int fun feedbackDevice feedback => ?_
  refine gathers_bind gathers_int fun neutralMode neutral => ?_
  refine gathers_bind gathers_int fun limitMode limit => ?_
  refine gathers_bind gathers_double fun voltageRampRate ramp => ?_
  refine gathers_bind gathers_bool fun encoderReversed encoder => ?_
  refine gathers_bind gathers_bool fun outputReversed output => ?_
  refine gathers_bind gathers_unsigned fun currentLimit current => ?_
  exact gathers_pure ⟨feedback, neutral, limit, ramp, encoder, output, current, rfl⟩

theorem gathers_pid (config : Table) : Gathers config.fault raises (commonKeys ++ pidKeys)
    (PIDSettings.new config) (PIDSettings.Match config) := by
  refine gathers_bind (gathers_settings config) fun settings common => ?_
  refine gathers_bind gathers_double fun p first => ?_
  refine gathers_bind gathers_double fun i second => ?_
  refine gathers_bind gathers_double fun d third => ?_
  refine gathers_bind gathers_double fun f fourth => ?_
  refine gathers_bind gathers_unsigned fun iZone zone => ?_
  refine gathers_bind gathers_unsigned fun allowableClosedLoopError allowable => ?_
  refine gathers_bind gathers_double fun closeLoopRampRate ramp => ?_
  refine gathers_bind gathers_double fun peakForward peakF => ?_
  refine gathers_bind gathers_double fun peakReverse peakR => ?_
  refine gathers_bind gathers_double fun nominalForward nominalF => ?_
  refine gathers_bind gathers_double fun nominalReverse nominalR => ?_
  exact gathers_pure
    ⟨common, first, second, third, fourth, zone, allowable, ramp, peakF, peakR, nominalF, nominalR⟩

theorem gathers_motionMagic (config : Table) :
    Gathers config.fault raises ((commonKeys ++ pidKeys) ++ motionMagicKeys)
      (MotionMagicSettings.new config) (MotionMagicSettings.Match config) := by
  refine gathers_bind (gathers_pid config) fun settings pid => ?_
  refine gathers_bind gathers_double fun cruiseVelocity cruise => ?_
  refine gathers_bind gathers_double fun acceleration accelerates => ?_
  exact gathers_pure ⟨pid, cruise, accelerates⟩

end Reads

inductive TalonType where
  | voltage
  | position
  | velocity
  | motionMagic

namespace TalonType

def ofName (type : String) : Option TalonType :=
  if type = "voltage" then some .voltage
  else if type = "position" then some .position
  else if type = "velocity" then some .velocity
  else if type = "motion_magic" then some .motionMagic
  else none

/-- The keys that a type requires, in the order in which they are read. -/
def keys : TalonType → List Key
  | .voltage => commonKeys
  | .position | .velocity => commonKeys ++ pidKeys
  | .motionMagic => (commonKeys ++ pidKeys) ++ motionMagicKeys

end TalonType

/-- The settings are of the type the entry has and hold what it says. -/
def TalonSettings.Match (t : Table) : TalonSettings → Prop
  | .voltage s => t.getString "type" = some "voltage" ∧ s.Match t
  | .position s => t.getString "type" = some "position" ∧ s.Match t
  | .velocity s => t.getString "type" = some "velocity" ∧ s.Match t
  | .motionMagic s => t.getString "type" = some "motion_magic" ∧ s.Match t

/-- The first entry with the name. -/
def Table.entry (config : Table) (name : String) : Option Table :=
  ((config.getTableArray "TALON").getD []).find? fun t => Table.getString t "name" = some name

/-- There is no entry of the name, or it has no type that is known, or not all
the keys that this requires. -/
def Rejected (config : Table) (name : String) : Prop :=
  match config.entry name with
  | none => True
  | some talon =>
    match (Table.getString talon "type").bind TalonType.ofName with
    | none => True
    | some type => ∃ key ∈ type.keys, talon.fault key = some .missing

/-- What comes of the call, and whether an absent option was dereferenced. -/
def attempt (config : Table) (name : String) : Except Thrown TalonSettings × Bool :=
  ((TalonSettings.create config name).run).run false

/-- The call is as it should be. -/
structure Total (config : Table) (name : String) : Prop where
  outcome : (∃ what, (attempt config name).1 = .error (.invalidArgument what)) ∨
    ∃ settings talon, (attempt config name).1 = .ok settings ∧ config.entry name = some talon ∧
      settings.Match talon
  throws : (∃ what, (attempt config name).1 = .error (.invalidArgument what)) ↔ Rejected config name
  dereferences : (attempt config name).2 = false

/-- The entry has a type, and the first key that it requires and cannot have is
missing, rather than an integer that its type does not hold. -/
def Fitting (config : Table) (name : String) : Prop :=
  ∀ talon, config.entry name = some talon → ∃ type, Table.getString talon "type" = some type ∧
    ∀ known, TalonType.ofName type = some known → known.keys.findSome? talon.fault ≠ some .unfit

section Create
variable {config talon : Table} {name type : String}

theorem gathers_ofType {known : TalonType} (named : TalonType.ofName type = some known)
    (typed : talon.getString "type" = some type) :
    Gathers talon.fault raises known.keys (TalonSettings.ofType talon type)
      (TalonSettings.Match talon) := by
  unfold TalonType.ofName at named
  unfold TalonSettings.ofType
  split_ifs at named ⊢ with voltage position velocity motionMagic
  · obtain rfl := Option.some.inj named
    rw [← List.append_nil TalonType.voltage.keys]
    exact gathers_bind (gathers_settings talon) fun s same => gathers_pure ⟨voltage ▸ typed, same⟩
  · obtain rfl := Option.some.inj named
    rw [← List.append_nil TalonType.position.keys]
    exact gathers_bind (gathers_pid talon) fun s same => gathers_pure ⟨position ▸ typed, same⟩
  · obtain rfl := Option.some.inj named
    rw [← List.append_nil TalonType.velocity.keys]
    exact gathers_bind (gathers_pid talon) fun s same => gathers_pure ⟨velocity ▸ typed, same⟩
  · obtain rfl := Option.some.inj named
    rw [← List.append_nil TalonType.motionMagic.keys]
    exact gathers_bind (gathers_motionMagic talon) fun s same =>
      gathers_pure ⟨motionMagic ▸ typed, same⟩

theorem ofType_unknown (unnamed : TalonType.ofName type = none) : TalonSettings.ofType talon type =
    throw (.invalidArgument ("unrecognized type: " ++ type)) := by
  unfold TalonType.ofName at unnamed
  unfold TalonSettings.ofType
  split_ifs at unnamed ⊢
  rfl

/-- For a name that is not empty an entry without one is passed over. -/
theorem entry_eq (named : name ≠ "") (talons : List Table) :
    (talons.find? fun c => name = (Table.getString c "name").getD "") =
      talons.find? fun t => Table.getString t "name" = some name := by
  congr
  funext t
  cases Table.getString t "name" with
  | none => simp [named]
  | some other => simp [eq_comm]

theorem create_none (named : name ≠ "") (absent : config.entry name = none) :
    ∃ what, TalonSettings.create config name = throw (.invalidArgument what) := by
  unfold Table.entry at absent
  unfold TalonSettings.create
  cases found : config.getTableArray "TALON" with
  | none => exact ⟨_, rfl⟩
  | some talons =>
    rw [found, Option.getD_some, ← entry_eq named] at absent
    simp only [absent]
    exact ⟨_, rfl⟩

theorem create_some (named : name ≠ "") (found : config.entry name = some talon) :
    TalonSettings.create config name =
      (deref (talon.getString "type") >>= TalonSettings.ofType talon) := by
  unfold Table.entry at found
  unfold TalonSettings.create
  cases array : config.getTableArray "TALON" with
  | none =>
    rw [array] at found
    cases found
  | some talons =>
    rw [array, Option.getD_some, ← entry_eq named] at found
    simp only [found]

theorem attempt_ok {settings : TalonSettings}
    (created : TalonSettings.create config name = pure settings) :
    attempt config name = (.ok settings, false) := by
  rw [attempt, created]
  rfl

theorem attempt_error {thrown : Thrown} (created : TalonSettings.create config name = throw thrown) :
    attempt config name = (.error thrown, false) := by
  rw [attempt, created]
  rfl

/-- Without a type the option that has none is dereferenced. -/
theorem attempt_untyped (named : name ≠ "") (found : config.entry name = some talon)
    (untyped : talon.getString "type" = none) :
    attempt config name = (.error (.invalidArgument "unrecognized type: "), true) := by
  rw [attempt, create_some named found, untyped]
  rfl

theorem total_rejected {what : String} {read : Bool} (rejected : Rejected config name)
    (attempted : attempt config name = (.error (.invalidArgument what), read)) :
    Total config name ↔ read = false := by
  constructor
  · intro total
    have dereferences := total.dereferences
    rw [attempted] at dereferences
    exact dereferences
  · rintro rfl
    exact ⟨.inl ⟨what, by rw [attempted]⟩, iff_of_true ⟨what, by rw [attempted]⟩ rejected,
      by rw [attempted]⟩

/-- With a type that is known the first fault among the keys decides. -/
theorem total_known {known : TalonType} (found : config.entry name = some talon)
    (typed : talon.getString "type" = some type) (kind : TalonType.ofName type = some known)
    (created : TalonSettings.create config name = TalonSettings.ofType talon type) :
    Total config name ↔ known.keys.findSome? talon.fault ≠ some .unfit := by
  have gathers := gathers_ofType kind typed
  have rejected : Rejected config name ↔ ∃ key ∈ known.keys, talon.fault key = some .missing := by
    simp only [Rejected, found, typed, Option.bind_some, kind]
  rw [← created] at gathers
  cases faulty : known.keys.findSome? talon.fault with
  | none =>
    obtain ⟨settings, returned, same⟩ := gathers_ok gathers faulty
    have attempted := attempt_ok returned
    refine iff_of_true ⟨.inr ⟨settings, talon, by rw [attempted], found, same⟩, ?_,
      by rw [attempted]⟩ nofun
    rw [attempted, rejected]
    refine iff_of_false nofun ?_
    rintro ⟨key, member, missing⟩
    rw [List.findSome?_eq_none_iff.mp faulty key member] at missing
    cases missing
  | some fault =>
    obtain ⟨thrown, threw, raised⟩ := gathers_error gathers faulty
    have attempted := attempt_error threw
    cases fault with
    | missing =>
      obtain ⟨what, rfl⟩ := raised
      have rejects := rejected.mpr (List.exists_of_findSome?_eq_some faulty)
      rw [total_rejected rejects attempted]
      exact iff_of_true rfl nofun
    | unfit =>
      refine iff_of_false (fun total => ?_) (fun fits => fits rfl)
      have outcome := total.outcome
      rw [attempted] at outcome
      rcases outcome with ⟨what, same⟩ | ⟨settings, _, returned, _⟩
      · exact raised what (Except.error.inj same)
      · cases returned

end Create

/-- Called with a name that is not empty, the factory method throws and returns
as it should exactly when the entry has a type and no integer that does not fit
is reached. -/
theorem create_total_iff (config : Table) (name : String) (named : name ≠ "") :
    Total config name ↔ Fitting config name := by
  cases found : config.entry name with
  | none =>
    obtain ⟨what, created⟩ := create_none named found
    have rejected : Rejected config name := by simp only [Rejected, found]
    rw [total_rejected rejected (attempt_error created)]
    simp [Fitting, found]
  | some talon =>
    cases typed : talon.getString "type" with
    | none =>
      have rejected : Rejected config name := by
        simp only [Rejected, found, typed, Option.bind_none]
      rw [total_rejected rejected (attempt_untyped named found typed)]
      simp [Fitting, found, typed]
    | some type =>
      have created : TalonSettings.create config name = TalonSettings.ofType talon type := by
        rw [create_some named found, typed]
        rfl
      cases kind : TalonType.ofName type with
      | none =>
        have rejected : Rejected config name := by
          simp only [Rejected, found, typed, Option.bind_some, kind]
        rw [ofType_unknown kind] at created
        rw [total_rejected rejected (attempt_error created)]
        simp [Fitting, found, typed, kind]
      | some known =>
        rw [total_known found typed kind created]
        simp [Fitting, found, typed, kind]

/-- The loader of the competition config. -/
def loader : Table :=
  [("name", .string "loader"), ("type", .string "voltage"), ("feedback_device", .integer 0),
    ("neutral_mode", .integer 1), ("limit_mode", .integer 0), ("encoder_reversed", .boolean false),
    ("output_reversed", .boolean false), ("current_limit", .integer 0),
    ("voltage_ramp_rate", .float 0)]

theorem create_loader : Total [("TALON", .tableArray [loader])] "loader" := by
  refine (create_total_iff _ "loader" (by decide)).mpr ?_
  intro talon found
  obtain rfl : loader = talon := Option.some.inj found
  refine ⟨"voltage", rfl, ?_⟩
  intro known kind
  obtain rfl : TalonType.voltage = known := Option.some.inj kind
  have sound : TalonType.voltage.keys.findSome? loader.fault = none := rfl
  rw [sound]
  nofun

/-- An entry with a name and nothing else. -/
theorem untyped_dereferenced :
    ¬Total [("TALON", .tableArray [[("name", .string "loader")]])] "loader" := by
  intro total
  exact absurd total.dereferences (by decide)

end Steamworks.Startup
