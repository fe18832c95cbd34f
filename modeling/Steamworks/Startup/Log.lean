import Mathlib

/-! Logging set-up at start: the settings it reads from a parsed TOML table, the
registry of loggers, and `Log::Initialize`. An exception leaves the registry as
it was when thrown. -/
namespace Steamworks.Startup

inductive Toml where
  | string (value : String)
  | boolean (value : Bool)
  | integer (value : ℤ)
  | float (value : ℚ)
  | array (values : List Toml)
  | table (entries : List (String × Toml))
  | tableArray (tables : List (List (String × Toml)))

abbrev Table := List (String × Toml)

def Toml.asString : Toml → Option String
  | .string value => some value
  | _ => none

namespace Table

/-- A null pointer when the key is missing or is not a table. -/
def getTable (t : Table) (key : String) : Option Table :=
  match t.lookup key with
  | some (.table entries) => some entries
  | _ => none

def getBool (t : Table) (key : String) : Option Bool :=
  match t.lookup key with
  | some (.boolean value) => some value
  | _ => none

def getString (t : Table) (key : String) : Option String := (t.lookup key).bind Toml.asString

def getArrayOfString (t : Table) (key : String) : Option (List String) :=
  match t.lookup key with
  | some (.array values) => values.mapM Toml.asString
  | _ => none

end Table

inductive Level where
  | trace
  | debug
  | info
  | warn
  | err
  | critical
  | off
  deriving DecidableEq

def levelNames : List (String × Level) :=
  [("trace", .trace), ("debug", .debug), ("info", .info), ("warning", .warn), ("error", .err),
    ("critical", .critical), ("off", .off)]

inductive Sink where
  | stdout
  | stdoutColor
  | file
  deriving DecidableEq

structure Logger where
  name : String
  sink : Sink
  level : Level
  deriving DecidableEq

/-- The registry, newest first, the members of `Log`, and those of `Robot`. -/
structure Process where
  loggers : List Logger := []
  isInitialized : Bool := false
  defaultLevel : Level := .off
  config : Option Table := none
  logger : Option Logger := none

inductive Outcome where
  | returned
  | threw (what : String)
  | crashed
  deriving DecidableEq

namespace Process

def names (s : Process) : List String := s.loggers.map Logger.name

def get (s : Process) (name : String) : Option Logger :=
  s.loggers.find? fun logger => logger.name == name

def registerLogger (s : Process) (logger : Logger) : Except String Process :=
  if logger.name ∈ s.names then
    .error ("logger with name '" ++ logger.name ++ "' already exists")
  else .ok { s with loggers := logger :: s.loggers }

def drop (s : Process) (name : String) : Process :=
  { s with loggers := s.loggers.filter fun logger => logger.name != name }

def getLevel (s : Process) (level : String) : Level := (levelNames.lookup level).getD s.defaultLevel

def configureLogger (logging : Table) (isFile : Bool) (s : Process) (log : String) :
    Except String Process :=
  let level := match logging.getString log with
    | some levelName => s.getLevel levelName
    | none => s.defaultLevel
  s.registerLogger ⟨log, if isFile then .file else .stdoutColor, level⟩

def configureLoggers (logging : Table) (isFile : Bool) : List String → Process → Outcome × Process
  | [], s => (.returned, s)
  | log :: rest, s =>
      match s.configureLogger logging isFile log with
      | .error what => (.threw what, s)
      | .ok s => configureLoggers logging isFile rest s

def setDefaultLevel (s : Process) (logging : Table) : Process :=
  { s with defaultLevel := s.getLevel ((logging.getString "default").getD "trace") }

/-- The part of `Log::Initialize` after the settings were found; `sink` is what
opening the log file comes to. -/
def applySettings (s : Process) (logging : Table) (sink : Except String Unit) : Outcome × Process :=
  let isFile := (logging.getBool "file").getD false
  let s := s.setDefaultLevel logging
  match logging.getArrayOfString "loggers" with
  | none => (.returned, s)
  | some loggers =>
    match if isFile then sink else .ok () with
    | .error what => (.threw what, s)
    | .ok () =>
      match configureLoggers logging isFile loggers s with
      | (.returned, s) => (.returned, { s with isInitialized := true })
      | failed => failed

/-- A method called through a null pointer ends the program. -/
def initializeLog (s : Process) (config : Table) (sink : Except String Unit) : Outcome × Process :=
  if s.isInitialized then
    if (s.get "robot").isSome then (.returned, s) else (.crashed, s)
  else
    match s.registerLogger ⟨"log", .stdout, .info⟩ with
    | .error what => (.threw what, s)
    | .ok s =>
      match config.getTable "LOGGING" with
      | none => (.crashed, s)
      | some logging => s.applySettings logging sink

theorem registerLogger_ok {s : Process} {logger : Logger} (free : logger.name ∉ s.names) :
    s.registerLogger logger = .ok { s with loggers := logger :: s.loggers } := if_neg free

theorem registerLogger_error {s : Process} {logger : Logger} (taken : logger.name ∈ s.names) :
    s.registerLogger logger = .error ("logger with name '" ++ logger.name ++ "' already exists") :=
  if_pos taken

theorem get_isSome_iff (s : Process) (name : String) : (s.get name).isSome ↔ name ∈ s.names := by
  rw [get, List.find?_isSome, names, List.mem_map]
  constructor
  · rintro ⟨logger, member, same⟩
    exact ⟨logger, member, beq_iff_eq.mp same⟩
  · rintro ⟨logger, member, same⟩
    exact ⟨logger, member, beq_iff_eq.mpr same⟩

theorem get_registered {s : Process} {name : String} {logger : Logger}
    (found : s.get name = some logger) : logger ∈ s.loggers ∧ logger.name = name :=
  ⟨List.mem_of_find?_eq_some found, beq_iff_eq.mp (List.find?_some found :)⟩

/-- What setting up loggers leaves as it was: everything but the registry, which
keeps what it held. -/
structure OnlyRegisters (s t : Process) : Prop where
  initialized : t.isInitialized = s.isInitialized
  config : t.config = s.config
  logger : t.logger = s.logger
  kept : s.names ⊆ t.names

theorem OnlyRegisters.trans {s t u : Process} (first : OnlyRegisters s t)
    (second : OnlyRegisters t u) : OnlyRegisters s u where
  initialized := second.initialized.trans first.initialized
  config := second.config.trans first.config
  logger := second.logger.trans first.logger
  kept := List.Subset.trans first.kept second.kept

theorem register_only (s : Process) (logger : Logger) :
    OnlyRegisters s { s with loggers := logger :: s.loggers } :=
  ⟨rfl, rfl, rfl, List.subset_cons_self _ _⟩

variable {logging : Table} {isFile : Bool}

/-- Setting up one logger: its name is taken, or it joins the registry. -/
theorem configureLogger_cases (logging : Table) (isFile : Bool) (s : Process) (log : String) :
    (log ∈ s.names ∧ ∃ what, s.configureLogger logging isFile log = .error what) ∨
      (log ∉ s.names ∧ ∃ logger, logger.name = log ∧
        s.configureLogger logging isFile log = .ok { s with loggers := logger :: s.loggers }) := by
  by_cases taken : log ∈ s.names
  · exact .inl ⟨taken, _, registerLogger_error taken⟩
  · exact .inr ⟨taken, _, rfl, registerLogger_ok taken⟩

theorem configureLoggers_only (loggers : List String) (s : Process) :
    OnlyRegisters s (configureLoggers logging isFile loggers s).2 := by
  induction loggers generalizing s with
  | nil => exact ⟨rfl, rfl, rfl, List.Subset.refl _⟩
  | cons log rest ih =>
    rcases configureLogger_cases logging isFile s log with ⟨_, what, failed⟩ | ⟨_, logger, _, made⟩
    · rw [configureLoggers, failed]
      exact ⟨rfl, rfl, rfl, List.Subset.refl _⟩
    · rw [configureLoggers, made]
      exact (register_only s logger).trans (ih _)

theorem configureLoggers_returns_iff (logging : Table) (isFile : Bool) (loggers : List String)
    (s : Process) :
    (configureLoggers logging isFile loggers s).1 = .returned ↔
      loggers.Nodup ∧ ∀ log ∈ loggers, log ∉ s.names := by
  induction loggers generalizing s with
  | nil => simp [configureLoggers]
  | cons log rest ih =>
    obtain ⟨taken, what, failed⟩ | ⟨taken, logger, name, made⟩ :=
      configureLogger_cases logging isFile s log
    · rw [configureLoggers, failed]
      simp [taken]
    · rw [configureLoggers, made]
      dsimp only
      rw [ih, List.nodup_cons, List.forall_mem_cons]
      simp only [names, List.map_cons, List.mem_cons, not_or, name]
      constructor
      · rintro ⟨distinct, free⟩
        exact ⟨⟨fun again => (free log again).1 rfl, distinct⟩, taken, fun name member =>
          (free name member).2⟩
      · rintro ⟨⟨once, distinct⟩, _, free⟩
        exact ⟨distinct, fun name member => ⟨fun same => once (same ▸ member), free name member⟩⟩

/-- Setting up loggers either registers them all or throws; it never ends the
program. -/
theorem configureLoggers_cases (logging : Table) (isFile : Bool) (loggers : List String)
    (s : Process) :
    (configureLoggers logging isFile loggers s).1 = .returned ∨
      ∃ what, (configureLoggers logging isFile loggers s).1 = .threw what := by
  induction loggers generalizing s with
  | nil => exact .inl rfl
  | cons log rest ih =>
    rcases configureLogger_cases logging isFile s log with ⟨_, what, failed⟩ | ⟨_, logger, _, made⟩
    · rw [configureLoggers, failed]
      exact .inr ⟨what, rfl⟩
    · rw [configureLoggers, made]
      exact ih _

theorem configureLoggers_names (loggers : List String) (s : Process)
    (returned : (configureLoggers logging isFile loggers s).1 = .returned) :
    (configureLoggers logging isFile loggers s).2.names = loggers.reverse ++ s.names := by
  induction loggers generalizing s with
  | nil => rfl
  | cons log rest ih =>
    rcases configureLogger_cases logging isFile s log with ⟨_, what, failed⟩ | ⟨_, logger, name, made⟩
    · rw [configureLoggers, failed] at returned
      cases returned
    · rw [configureLoggers, made] at returned ⊢
      rw [ih _ returned]
      simp [names, name]

/-- The ways out of applying the settings. -/
inductive Applied (s : Process) (logging : Table) (sink : Except String Unit) :
    Outcome × Process → Prop where
  | unlisted : logging.getArrayOfString "loggers" = none →
      Applied s logging sink (.returned, s.setDefaultLevel logging)
  | closed {what : String} : logging.getBool "file" = some true → sink = .error what →
      Applied s logging sink (.threw what, s.setDefaultLevel logging)
  | taken {isFile : Bool} {loggers : List String} {what : String} {t : Process} :
      logging.getArrayOfString "loggers" = some loggers →
      configureLoggers logging isFile loggers (s.setDefaultLevel logging) = (.threw what, t) →
      Applied s logging sink (.threw what, t)
  | complete {isFile : Bool} {loggers : List String} {t : Process} :
      logging.getArrayOfString "loggers" = some loggers →
      (logging.getBool "file" = some true → sink = .ok ()) →
      configureLoggers logging isFile loggers (s.setDefaultLevel logging) = (.returned, t) →
      Applied s logging sink (.returned, { t with isInitialized := true })

theorem applySettings_applied (s : Process) (logging : Table) (sink : Except String Unit) :
    Applied s logging sink (s.applySettings logging sink) := by
  unfold applySettings
  cases list : logging.getArrayOfString "loggers" with
  | none => exact .unlisted list
  | some loggers =>
    have registers : (logging.getBool "file" = some true → sink = .ok ()) → ∀ isFile,
        Applied s logging sink
          (match configureLoggers logging isFile loggers (s.setDefaultLevel logging) with
            | (.returned, s) => (.returned, { s with isInitialized := true })
            | failed => failed) := by
      intro opens isFile
      cases ended : configureLoggers logging isFile loggers (s.setDefaultLevel logging) with
      | mk outcome t =>
        obtain returned | ⟨what, threw⟩ :=
          configureLoggers_cases logging isFile loggers (s.setDefaultLevel logging)
        · rw [ended] at returned
          subst returned
          exact .complete list opens ended
        · rw [ended] at threw
          subst threw
          exact .taken list ended
    cases file : logging.getBool "file" with
    | none => exact registers (by simp [file]) false
    | some isFile =>
      cases isFile with
      | false => exact registers (by simp [file]) false
      | true =>
        cases sink with
        | error what => exact .closed file rfl
        | ok => exact registers (fun _ => rfl) true

/-- A logging section that registers `robot` without an exception, next to the
loggers there are. -/
structure SetsUp (s : Process) (logging : Table) (sink : Except String Unit) (loggers : List String) :
    Prop where
  list : logging.getArrayOfString "loggers" = some loggers
  robot : "robot" ∈ loggers
  distinct : loggers.Nodup
  free : ∀ log ∈ loggers, log ∉ s.names
  opens : logging.getBool "file" = some true → sink = .ok ()

section
variable {s t : Process} {sink : Except String Unit} {ended : Outcome × Process}

theorem configured_only {loggers : List String} {outcome : Outcome}
    (ended : configureLoggers logging isFile loggers (s.setDefaultLevel logging) = (outcome, t)) :
    OnlyRegisters s t := by
  have registered := @configureLoggers_only logging isFile loggers (s.setDefaultLevel logging)
  rw [ended] at registered
  exact ⟨registered.initialized, registered.config, registered.logger, registered.kept⟩

theorem Applied.threw {what : String} (applied : Applied s logging sink (.threw what, t)) :
    OnlyRegisters s t := by
  cases applied with
  | closed file error => exact ⟨rfl, rfl, rfl, List.Subset.refl _⟩
  | taken list ended => exact configured_only ended

theorem Applied.config (applied : Applied s logging sink ended) :
    ended.2.config = s.config := by
  cases applied with
  | unlisted list => rfl
  | closed file error => rfl
  | taken list ended => exact (configured_only ended).config
  | complete list opens ended => exact (configured_only ended).config

/-- Applying the settings leaves a registered `robot` behind exactly when the
section sets it up. -/
theorem Applied.robot_iff (applied : Applied s logging sink ended) (absent : "robot" ∉ s.names) :
    (ended.1 = .returned ∧ "robot" ∈ ended.2.names) ↔ ∃ loggers, SetsUp s logging sink loggers := by
  cases applied with
  | unlisted list =>
    constructor
    · rintro ⟨_, registered⟩
      exact absurd registered absent
    · rintro ⟨loggers, sets⟩
      cases list.symm.trans sets.list
  | @closed what file error =>
    constructor
    · rintro ⟨returned, _⟩
      cases returned
    · rintro ⟨loggers, sets⟩
      rw [sets.opens file] at error
      cases error
  | @taken isFile loggers what t list ended =>
    constructor
    · rintro ⟨returned, _⟩
      cases returned
    · rintro ⟨listed, sets⟩
      have same : loggers = listed := Option.some.inj (list.symm.trans sets.list)
      have returned := (configureLoggers_returns_iff logging isFile loggers
        (s.setDefaultLevel logging)).mpr (same ▸ ⟨sets.distinct, sets.free⟩)
      rw [ended] at returned
      cases returned
  | @complete isFile loggers t list opens ended =>
    have returned : (configureLoggers logging isFile loggers (s.setDefaultLevel logging)).1 =
        .returned := by rw [ended]
    have names := configureLoggers_names loggers (s.setDefaultLevel logging) returned
    rw [ended] at names
    obtain ⟨distinct, free⟩ := (configureLoggers_returns_iff logging isFile loggers _).mp returned
    constructor
    · rintro ⟨_, registered⟩
      have member : "robot" ∈ loggers.reverse ++ s.names := names ▸ registered
      rcases List.mem_append.mp member with listed | before
      · exact ⟨loggers, list, List.mem_reverse.mp listed, distinct, free, opens⟩
      · exact absurd before absent
    · rintro ⟨listed, sets⟩
      have same : loggers = listed := Option.some.inj (list.symm.trans sets.list)
      have member : "robot" ∈ t.names := by
        rw [names, same]
        exact List.mem_append_left _ (List.mem_reverse.mpr sets.robot)
      exact ⟨rfl, member⟩

end
end Process
end Steamworks.Startup
