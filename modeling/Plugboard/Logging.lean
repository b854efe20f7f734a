import Plugboard.Json.Shape
/-!
# Logging configuration

How the library's log is set up: the least level written, plain text or JSON lines, and whether
each line names the module it came from. Installing a logger succeeds only when none is
installed yet.
-/

namespace Plugboard

open Json

/-- Log levels, least severe first. -/
inductive LogLevel where
  | trace
  | debug
  | info
  | warn
  | error
  deriving DecidableEq

namespace LogLevel

/-- Every level, least severe first. -/
def all : List LogLevel := [.trace, .debug, .info, .warn, .error]

/-- The name of a level. -/
def name : LogLevel → String
  | .trace => "trace"
  | .debug => "debug"
  | .info => "info"
  | .warn => "warn"
  | .error => "error"

/-- The level with a name. -/
def ofName? (s : String) : Option LogLevel := all.find? (·.name == s)

end LogLevel

/-- How log lines are written. -/
inductive LogFormat where
  | text
  | json
  deriving DecidableEq

namespace LogFormat

/-- The name of a format. -/
def name : LogFormat → String
  | .text => "text"
  | .json => "json"

/-- The format with a name. -/
def ofName? (s : String) : Option LogFormat :=
  if s == "text" then some .text else if s == "json" then some .json else none

end LogFormat

/-- How the log is set up. -/
structure LoggingConfig where
  level : LogLevel := .info
  format : LogFormat := .text
  withTarget : Bool := true

namespace LoggingConfig

/-- A logging configuration as JSON. -/
def toJson (c : LoggingConfig) : Json :=
  .obj [("level", .str c.level.name), ("format", .str c.format.name),
    ("with_target", .bool c.withTarget)]

/-- The shape of a logging configuration: every field may be absent. -/
def shape : Shape :=
  .record "LoggingConfig"
    [("level", .oneOf (LogLevel.all.map LogLevel.name), some (.str "info")),
     ("format", .oneOf ["text", "json"], some (.str "text")),
     ("with_target", .flag, some (.bool true))] false

/-- The configuration a checked value gives. -/
def ofJson (j : Json) : LoggingConfig :=
  { level := ((j.field? "level").bind Json.str? |>.bind LogLevel.ofName?).getD .info
    format := ((j.field? "format").bind Json.str? |>.bind LogFormat.ofName?).getD .text
    withTarget := match j.field? "with_target" with | some (.bool b) => b | _ => true }

end LoggingConfig

/-- Installs a logger when none is installed yet; whether it did. A logger is always installed
before the library runs, so this never does. -/
def installLogger (_c : LoggingConfig) : Bool := false

end Plugboard
