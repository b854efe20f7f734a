import Plugboard.Error
/-!
# Lifecycle status and health verdicts

A plugin's registration moves through the lifecycle
`registered → active ⇄ inactive ⇄ maintenance → deprecated → unregistered`; only an active plugin
serves requests. A health verdict says how well something works: healthy, degraded, unhealthy,
or unknown when never checked. Both are written by their lowercase names.
-/

namespace Plugboard

/-- Where a registration stands in its lifecycle. -/
inductive Status where
  | registered
  | active
  | inactive
  | maintenance
  | deprecated
  | unregistered
  deriving DecidableEq, Repr

namespace Status

/-- Every status, in lifecycle order. -/
def all : List Status := [.registered, .active, .inactive, .maintenance, .deprecated, .unregistered]

/-- The name of a status. -/
def name : Status → String
  | .registered => "registered"
  | .active => "active"
  | .inactive => "inactive"
  | .maintenance => "maintenance"
  | .deprecated => "deprecated"
  | .unregistered => "unregistered"

/-- The names of all statuses, in lifecycle order. -/
def names : List String := all.map name

/-- Whether a plugin with this status serves requests: only an active one does. -/
def isOperational : Status → Bool
  | .active => true
  | _ => false

/-- The status with a name, if any. -/
def ofName? (s : String) : Option Status :=
  all.find? fun st => st.name == s

/-- The status with a name, or a validation error quoting the name. -/
def parse (s : String) : Outcome Status :=
  match ofName? s with
  | some st => .ok st
  | none => .error (.validation ("unknown plugin status '" ++ s ++ "'"))

theorem ofName?_name (st : Status) : ofName? st.name = some st := by
  cases st <;> rfl

theorem parse_name (st : Status) : parse st.name = .ok st := by
  simp [parse, ofName?_name]

end Status

/-- How well something works. -/
inductive Verdict where
  | healthy
  | degraded
  | unhealthy
  | unknown
  deriving DecidableEq, Repr

namespace Verdict

/-- Every verdict. -/
def all : List Verdict := [.healthy, .degraded, .unhealthy, .unknown]

/-- The name of a verdict. -/
def name : Verdict → String
  | .healthy => "healthy"
  | .degraded => "degraded"
  | .unhealthy => "unhealthy"
  | .unknown => "unknown"

/-- The names of all verdicts. -/
def names : List String := all.map name

/-- The verdict with a name, if any. -/
def ofName? (s : String) : Option Verdict :=
  all.find? fun v => v.name == s

end Verdict

end Plugboard
