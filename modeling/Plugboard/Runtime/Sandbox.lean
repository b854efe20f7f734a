import Plugboard.Loader.Basic
/-!
# The sandbox

Every plugin is admitted into the sandbox before it may run, and leaves it when unloaded. The
sandbox refuses a plugin that asks for a permission outside the allowed ones (when any are
listed), one already admitted, and any plugin once it holds its maximum. It also judges usage
samples against a memory ceiling.
-/

namespace Plugboard

open Json

/-- The sandbox's limits. -/
structure SandboxConfig where
  maxPlugins : Nat := 64
  maxMemoryBytes : Nat := 536870912
  /-- None listed allows every permission. -/
  allowedPermissions : List String := []

namespace SandboxConfig

/-- The shape of a sandbox configuration: every field may be absent. -/
def shape : Shape :=
  .record "SandboxConfig"
    [("max_plugins", Shape.usize, some (Json.ofNat 64)),
     ("max_memory_bytes", Shape.u64, some (Json.ofNat 536870912)),
     ("allowed_permissions", .list .text, some (.arr []))] false

/-- A sandbox configuration as JSON. -/
def toJson (c : SandboxConfig) : Json :=
  .obj [("max_plugins", Json.ofNat c.maxPlugins), ("max_memory_bytes", Json.ofNat c.maxMemoryBytes),
    ("allowed_permissions", Json.ofStrings c.allowedPermissions)]

/-- The configuration a checked value gives. -/
def ofJson (j : Json) : SandboxConfig :=
  { maxPlugins := j.natAt "max_plugins", maxMemoryBytes := j.natAt "max_memory_bytes"
    allowedPermissions := j.textsAt "allowed_permissions" }

end SandboxConfig

/-- The sandbox: its limits and the admitted plugins with their permissions, sorted by id. -/
structure Sandbox where
  config : SandboxConfig := {}
  admitted : List (String × List String) := []

namespace Sandbox

/-- Admits a plugin. -/
def enter (s : Sandbox) (m : Metadata) : Outcome Sandbox := do
  if !s.config.allowedPermissions.isEmpty then
    let denied := m.permissions.filter (!s.config.allowedPermissions.contains ·)
    if !denied.isEmpty then
      .error (.sandbox ("plugin " ++ m.id ++ " requests denied permission(s): " ++
        ", ".intercalate denied))
  if s.admitted.any (·.1 == m.id) then
    .error (.sandbox ("plugin " ++ m.id ++ " already admitted"))
  if s.admitted.length ≥ s.config.maxPlugins then
    .error (.sandbox ("sandbox full (" ++ toString s.config.maxPlugins ++ " plugins)"))
  let admitted := (s.admitted ++ [(m.id, m.permissions)]).mergeSort fun a b => decide (a.1 ≤ b.1)
  pure { s with admitted }

/-- Lets a plugin go. -/
def remove (s : Sandbox) (id : String) : Outcome Sandbox :=
  if s.admitted.any (·.1 == id) then .ok { s with admitted := s.admitted.filter (·.1 != id) }
  else .error (.sandbox ("plugin " ++ id ++ " not in sandbox"))

/-- The admitted plugins, sorted. -/
def plugins (s : Sandbox) : List String := s.admitted.map (·.1)

/-- The permissions an admitted plugin holds. -/
def permissions (s : Sandbox) (id : String) : Option (List String) :=
  (s.admitted.find? (·.1 == id)).map (·.2)

/-- Judges a plugin's memory use against the ceiling. -/
def checkUsage (s : Sandbox) (id : String) (memoryBytes : Nat) : Outcome Unit :=
  if memoryBytes > s.config.maxMemoryBytes then
    .error (.sandbox ("plugin " ++ id ++ " uses " ++ toString memoryBytes ++ " bytes, limit is " ++
      toString s.config.maxMemoryBytes))
  else .ok ()

end Sandbox

end Plugboard
