/-!
# Errors

Every way an operation of the library can fail, each a cause with the details that its message
needs. `Error.message` gives the words, and `Error.context` says in which step a failure
happened by putting the step's name in front of the details, keeping the cause. A refused
lifecycle step and a failed event delivery already say where they happened and take no context.
-/

namespace Plugboard

/-- Why an operation failed. -/
inductive Error where
  /-- Input that breaks a rule. -/
  | validation (details : String)
  /-- Something named that does not exist. -/
  | notFound (details : String)
  /-- Something added that exists already. -/
  | alreadyExists (details : String)
  /-- A lifecycle step the plugin's state does not allow. -/
  | invalidState (pluginId state action : String)
  /-- A plugin that cannot be loaded. -/
  | load (details : String)
  /-- A refusal of the sandbox. -/
  | sandbox (details : String)
  /-- A failure of the storage. -/
  | storage (details : String)
  /-- A failure of the service-discovery bridge. -/
  | bridge (details : String)
  /-- Plugins that refused an event, one entry each. -/
  | eventDelivery (failures : List String)
  /-- Text that is not the JSON expected. -/
  | serialization (details : String)
  /-- A failure with no other cause. -/
  | internal (details : String)
  /-- A failure of the operating system. -/
  | io (details : String)
  deriving DecidableEq

namespace Error

/-- The words of an error. -/
def message : Error → String
  | .validation m => "Validation failed: " ++ m
  | .notFound m => "Plugin not found: " ++ m
  | .alreadyExists m => "Plugin already exists: " ++ m
  | .invalidState p s a => "Plugin " ++ p ++ " cannot " ++ a ++ " while " ++ s
  | .load m => "Plugin load failed: " ++ m
  | .sandbox m => "Sandbox error: " ++ m
  | .storage m => "Storage error: " ++ m
  | .bridge m => "Service bridge error: " ++ m
  | .eventDelivery fs =>
    "Event delivery failed for " ++ toString fs.length ++ " plugin(s): " ++ "; ".intercalate fs
  | .serialization m => "Serialization error: " ++ m
  | .internal m => "Internal error: " ++ m
  | .io m => "IO error: " ++ m

/-- The name of an error's cause. -/
def kind : Error → String
  | .validation _ => "Validation"
  | .notFound _ => "NotFound"
  | .alreadyExists _ => "AlreadyExists"
  | .invalidState _ _ _ => "InvalidState"
  | .load _ => "Load"
  | .sandbox _ => "Sandbox"
  | .storage _ => "Storage"
  | .bridge _ => "Bridge"
  | .eventDelivery _ => "EventDelivery"
  | .serialization _ => "Serialization"
  | .internal _ => "Internal"
  | .io _ => "Io"

/-- The error with the name of the step it happened in put before its details. -/
def context (c : String) : Error → Error
  | .validation m => .validation (c ++ ": " ++ m)
  | .notFound m => .notFound (c ++ ": " ++ m)
  | .alreadyExists m => .alreadyExists (c ++ ": " ++ m)
  | .load m => .load (c ++ ": " ++ m)
  | .sandbox m => .sandbox (c ++ ": " ++ m)
  | .storage m => .storage (c ++ ": " ++ m)
  | .bridge m => .bridge (c ++ ": " ++ m)
  | .serialization m => .serialization (c ++ ": " ++ m)
  | .internal m => .internal (c ++ ": " ++ m)
  | .io m => .io (c ++ ": " ++ m)
  | e => e

/-- Whether an error says that something does not exist. -/
def isNotFound : Error → Bool
  | .notFound _ => true
  | _ => false

@[simp] theorem isNotFound_context (c : String) (e : Error) :
    (e.context c).isNotFound = e.isNotFound := by
  cases e <;> rfl

end Error

/-- A result that may be an error. -/
abbrev Outcome (α : Type) := Except Error α

end Plugboard
