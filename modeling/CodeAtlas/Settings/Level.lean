import CodeAtlas.Text.Case

/-!
# Levels of reports

How serious a report must be to be written. Settings name one of five levels; the facility that
writes reports knows some further names, and has members that are no levels.
-/
namespace CodeAtlas

/-- A level of reports. -/
inductive Level where
  | debug
  | info
  | warning
  | error
  | critical
  deriving DecidableEq, Repr

namespace Level

/-- All levels. -/
def all : List Level := [.debug, .info, .warning, .error, .critical]

/-- The name of a level. -/
def name : Level → String
  | .debug => "DEBUG"
  | .info => "INFO"
  | .warning => "WARNING"
  | .error => "ERROR"
  | .critical => "CRITICAL"

/-- The level of a name in letters of any case. -/
def ofText? (text : String) : Option Level := all.find? (·.name == Text.toUpper text)

end Level

namespace Reports

/-- The form of a report. -/
def form : String := "%(asctime)s - %(name)s - %(levelname)s - %(message)s"

/-- The form of the time in a report. -/
def timeForm : String := "%Y-%m-%d %H:%M:%S"

/-- The names of levels, and how serious they are. -/
def severities : List (String × Nat) :=
  [("CRITICAL", 50), ("FATAL", 50), ("ERROR", 40), ("WARNING", 30), ("WARN", 30), ("INFO", 20),
    ("DEBUG", 10), ("NOTSET", 0)]

/-- Members of the facility that are no levels. -/
def otherMembers : List String :=
  ["BufferingFormatter", "FileHandler", "Filter", "Filterer", "Formatter", "Handler", "LogRecord",
    "Logger", "LoggerAdapter", "Manager", "NullHandler", "PercentStyle", "PlaceHolder",
    "RootLogger", "StrFormatStyle", "StreamHandler", "StringTemplateStyle", "Template",
    "addLevelName", "basicConfig", "captureWarnings", "collections", "critical", "currentframe",
    "debug", "disable", "error", "exception", "fatal", "getLevelName", "getLevelNamesMapping",
    "getLogRecordFactory", "getLogger", "getLoggerClass", "handlers", "info", "io", "lastResort",
    "log", "makeLogRecord", "os", "re", "root", "setLogRecordFactory", "setLoggerClass",
    "shutdown", "string", "sys", "threading", "time", "traceback", "warn", "warning", "warnings",
    "weakref"]

/-- Why reports cannot be set up. -/
inductive Fault where
  /-- The facility has a member of the name, but no level. -/
  | notALevel
  /-- The facility has no member of the name. -/
  | unknown
  deriving DecidableEq, Repr

/-- How serious a report must be at the level of a name. -/
def severity (name : String) : Except Fault Nat :=
  match severities.lookup name with
  | some severity => .ok severity
  | none => .error (if otherMembers.contains name then .notALevel else .unknown)

end Reports

end CodeAtlas
