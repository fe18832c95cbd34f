import Steamworks.Startup.Log

/-! `Robot::Configure`: the file on the robot first, the compiled-in default
when an exception was caught on the way. The second attempt finds what the first
left registered. -/
namespace Steamworks.Startup
namespace Process

/-- After the log was set up. -/
def useLogger : Outcome × Process → Outcome × Process
  | (.returned, s) =>
      let s := { s with logger := s.get "robot" }
      (.returned, s.drop "config")
  | failed => failed

/-- What both attempts do with a table that was read. -/
def configureWith (s : Process) (config : Table) (sink : Except String Unit) : Outcome × Process :=
  useLogger ({ s with config := some config }.initializeLog config sink)

/-- The `try` block; the parser turns a file into a table or throws. -/
def tryFile (s : Process) (file : Except String Table) (sink : Except String Unit) :
    Outcome × Process :=
  match file with
  | .error what => (.threw what, s)
  | .ok config => s.configureWith config sink

/-- What was thrown is logged before the default is used, which nothing guards. -/
def configure (defaultConfig : Table) (file : Except String Table)
    (first second : Except String Unit) : Outcome × Process :=
  match registerLogger {} ⟨"config", .stdout, .info⟩ with
  | .error what => (.threw what, {})
  | .ok s =>
    match { s with logger := s.get "config" }.tryFile file first with
    | (.threw _, s) =>
        if s.logger.isSome then s.configureWith defaultConfig second else (.crashed, s)
    | ended => ended

/-- Where both attempts begin: `config` is the only logger, and in use. -/
def interim : Process where
  loggers := [⟨"config", .stdout, .info⟩]
  logger := some ⟨"config", .stdout, .info⟩

end Process

/-- A configuration whose logging section registers `robot` without an
exception, when the interim logger is the only one. -/
def Valid (sink : Except String Unit) (config : Table) : Prop :=
  ∃ logging loggers, config.getTable "LOGGING" = some logging ∧
    logging.getArrayOfString "loggers" = some loggers ∧ "robot" ∈ loggers ∧ loggers.Nodup ∧
    "log" ∉ loggers ∧ "config" ∉ loggers ∧ (logging.getBool "file" = some true → sink = .ok ())

/-- Normal return, with the configuration set and the logger registered. -/
structure Started (ended : Outcome × Process) : Prop where
  returned : ended.1 = .returned
  config : ended.2.config.isSome
  logger : ∃ logger ∈ ended.2.loggers, logger.name = "robot" ∧ ended.2.logger = some logger

namespace Process

theorem configure_eq (defaultConfig : Table) (file : Except String Table)
    (first second : Except String Unit) :
    configure defaultConfig file first second =
      match interim.tryFile file first with
      | (.threw _, s) =>
          if s.logger.isSome then s.configureWith defaultConfig second else (.crashed, s)
      | ended => ended := rfl

theorem initializeLog_taken {s : Process} (fresh : s.isInitialized = false)
    (taken : "log" ∈ s.names) (config : Table) (sink : Except String Unit) :
    s.initializeLog config sink = (.threw "logger with name 'log' already exists", s) := by
  rw [initializeLog, fresh, registerLogger_error taken]
  rfl

/-- Where the settings are applied: the interim process with the configuration
and the logger `log`. -/
def logging (config : Table) : Process where
  loggers := [⟨"log", .stdout, .info⟩, ⟨"config", .stdout, .info⟩]
  config := some config
  logger := some ⟨"config", .stdout, .info⟩

theorem initializeLog_interim (config : Table) (sink : Except String Unit) :
    { interim with config := some config }.initializeLog config sink =
      match config.getTable "LOGGING" with
      | none => (.crashed, logging config)
      | some table => (logging config).applySettings table sink := rfl

theorem setsUp_iff (config table : Table) (sink : Except String Unit) (loggers : List String) :
    SetsUp (logging config) table sink loggers ↔
      table.getArrayOfString "loggers" = some loggers ∧ "robot" ∈ loggers ∧ loggers.Nodup ∧
        "log" ∉ loggers ∧ "config" ∉ loggers ∧
        (table.getBool "file" = some true → sink = .ok ()) := by
  have names : (logging config).names = ["log", "config"] := rfl
  constructor
  · intro sets
    refine ⟨sets.list, sets.robot, sets.distinct, ?_, ?_, sets.opens⟩
    · intro listed
      have free := sets.free "log" listed
      simp [names] at free
    · intro listed
      have free := sets.free "config" listed
      simp [names] at free
  · rintro ⟨list, robot, distinct, log, config, opens⟩
    refine ⟨list, robot, distinct, ?_, opens⟩
    intro name listed
    rw [names]
    simp only [List.mem_cons, List.not_mem_nil, or_false, not_or]
    constructor
    · rintro rfl
      exact log listed
    · rintro rfl
      exact config listed

theorem started_useLogger_iff {ended : Outcome × Process} (configured : ended.2.config.isSome) :
    Started (useLogger ended) ↔ ended.1 = .returned ∧ "robot" ∈ ended.2.names := by
  obtain ⟨outcome, s⟩ := ended
  cases outcome with
  | returned =>
    constructor
    · intro started
      obtain ⟨logger, member, name, _⟩ := started.logger
      exact ⟨rfl, List.mem_map.mpr ⟨logger, (List.mem_filter.mp member).1, name⟩⟩
    · rintro ⟨_, registered⟩
      have present := (get_isSome_iff s "robot").mpr registered
      obtain ⟨logger, found⟩ := Option.isSome_iff_exists.mp present
      obtain ⟨member, name⟩ := get_registered found
      have kept : logger ∈ ({ s with logger := s.get "robot" }.drop "config").loggers := by
        apply List.mem_filter.mpr ⟨member, _⟩
        rw [name]
        decide
      exact ⟨rfl, configured, logger, kept, name, found⟩
  | threw | crashed =>
    constructor
    · intro started
      cases started.returned
    · rintro ⟨returned, _⟩
      cases returned

/-- An attempt on the interim process starts the robot exactly when the
configuration is valid. -/
theorem started_interim_iff (config : Table) (sink : Except String Unit) :
    Started (interim.configureWith config sink) ↔ Valid sink config := by
  rw [configureWith, initializeLog_interim]
  cases found : config.getTable "LOGGING" with
  | none =>
    constructor
    · intro started
      cases started.returned
    · rintro ⟨table, loggers, other, _⟩
      cases found.symm.trans other
  | some table =>
    have applied := applySettings_applied (logging config) table sink
    have absent : "robot" ∉ (logging config).names := by
      change "robot" ∉ ["log", "config"]
      decide
    have configured : ((logging config).applySettings table sink).2.config.isSome := by
      rw [applied.config]
      rfl
    dsimp only
    rw [started_useLogger_iff configured, applied.robot_iff absent]
    simp only [setsUp_iff]
    constructor
    · rintro ⟨loggers, sets⟩
      exact ⟨table, loggers, found, sets⟩
    · rintro ⟨other, loggers, same, sets⟩
      cases found.symm.trans same
      exact ⟨loggers, sets⟩

/-- An attempt that threw leaves `log` registered and the log uninitialized, and
the interim logger in use. -/
theorem configureWith_threw {config : Table} {sink : Except String Unit} {what : String}
    {s : Process} (threw : interim.configureWith config sink = (.threw what, s)) :
    s.isInitialized = false ∧ "log" ∈ s.names ∧ s.logger.isSome := by
  rw [configureWith, initializeLog_interim] at threw
  cases found : config.getTable "LOGGING" with
  | none =>
    rw [found] at threw
    cases threw
  | some table =>
    rw [found] at threw
    have applied := applySettings_applied (logging config) table sink
    dsimp only at threw
    cases ended : (logging config).applySettings table sink with
    | mk outcome t =>
      rw [ended] at threw applied
      cases outcome with
      | returned => cases threw
      | crashed => cases threw
      | threw what =>
        cases threw
        have only := applied.threw
        refine ⟨only.initialized, only.kept (List.mem_cons_self ..), ?_⟩
        rw [only.logger]
        rfl

/-- The second attempt, after a first that threw. -/
theorem fallback_throws {s : Process} (fresh : s.isInitialized = false) (taken : "log" ∈ s.names)
    (config : Table) (sink : Except String Unit) : ¬Started (s.configureWith config sink) := by
  intro started
  have threw := initializeLog_taken (s := { s with config := some config }) fresh taken config sink
  have returned := started.returned
  rw [configureWith, threw] at returned
  cases returned

theorem configure_falls_back_iff (defaultConfig : Table) (file : Except String Table)
    (first second : Except String Unit) (valid : Valid second defaultConfig) :
    Started (configure defaultConfig file first second) ↔
      ∀ config, file = .ok config → Valid first config := by
  rw [configure_eq]
  cases file with
  | error what =>
    have started := (started_interim_iff defaultConfig second).mpr valid
    constructor
    · intro _ config parsed
      cases parsed
    · intro _
      exact started
  | ok config =>
    have parsed : (∀ other, (.ok config : Except String Table) = .ok other → Valid first other) ↔
        Valid first config := by
      constructor
      · intro every
        exact every config rfl
      · rintro valid other ⟨⟩
        exact valid
    rw [parsed, ← started_interim_iff, tryFile]
    cases ended : interim.configureWith config first with
    | mk outcome s =>
      cases outcome with
      | returned => exact Iff.rfl
      | crashed => exact Iff.rfl
      | threw what =>
        obtain ⟨fresh, taken, logger⟩ := configureWith_threw ended
        dsimp only
        rw [if_pos logger]
        constructor
        · intro started
          exact absurd started (fallback_throws fresh taken defaultConfig second)
        · intro started
          cases started.returned

end Process

/-- The logging section of the compiled-in default. -/
def defaultConfig : Table :=
  [("LOGGING", .table
    [("file", .boolean false),
      ("loggers", .array [.string "robot", .string "command", .string "subsystem",
        .string "sidewinder", .string "deadeye"]),
      ("default", .string "debug"), ("sidewinder", .string "info")])]

theorem defaultConfig_valid (sink : Except String Unit) : Valid sink defaultConfig := by
  refine ⟨_, ["robot", "command", "subsystem", "sidewinder", "deadeye"], rfl, rfl, ?_⟩
  refine ⟨by decide, by decide, by decide, by decide, ?_⟩
  intro file
  cases file

/-- The log file cannot be opened: what `log` names is there when the default
is tried. -/
theorem unopened_log_not_started :
    ¬Started (Process.configure defaultConfig
      (.ok [("LOGGING", .table [("file", .boolean true), ("loggers", .array [.string "robot"])])])
      (.error "Failed opening file") (.ok ())) := by
  intro started
  cases started.returned

theorem configure_falls_back_unparsed :
    Valid (.ok ()) defaultConfig ∧
      Started (Process.configure defaultConfig (.error "could not be opened for parsing") (.ok ())
        (.ok ())) := by
  have valid := defaultConfig_valid (.ok ())
  refine ⟨valid, (Process.configure_falls_back_iff defaultConfig _ (.ok ()) (.ok ()) valid).mpr ?_⟩
  intro config parsed
  cases parsed

end Steamworks.Startup
