import Plugboard.Logging
import Plugboard.Registry.Basic
import Plugboard.Runtime.Manager
/-!
# Hub configuration

One configuration for every component: logging, storage, registry, bridge, sandbox, manager and
loader. Every section, and every field of a section, may be left out and then takes its default;
unknown keys are passed over. A configuration is read from JSON text, where a refusal says where
in the text it happened, or from a file.
-/

namespace Plugboard

open Json

/-- The configuration of every component. -/
structure HubConfig where
  logging : LoggingConfig := {}
  storage : StoreConfig := {}
  registry : RegistryConfig := {}
  bridge : BridgeConfig := {}
  sandbox : SandboxConfig := {}
  manager : ManagerConfig := {}
  loader : LoaderConfig := {}

/-- A registry configuration as JSON. -/
def RegistryConfig.toJson (c : RegistryConfig) : Json :=
  .obj [("event_queue_capacity", Json.ofNat c.eventQueueCapacity)]

/-- The shape of a registry configuration. -/
def RegistryConfig.shape : Shape :=
  .record "RegistryConfig" [("event_queue_capacity", Shape.usize, some (Json.ofNat 100))] false

/-- The shape of a manager configuration. -/
def ManagerConfig.shape : Shape :=
  .record "ManagerConfig" [("monitor_interval_ms", Shape.u64, some (Json.ofNat 30000))] false

/-- A manager configuration as JSON. -/
def ManagerConfig.toJson (c : ManagerConfig) : Json :=
  .obj [("monitor_interval_ms", Json.ofNat c.monitorIntervalMs)]

namespace HubConfig

/-- A configuration as JSON. -/
def toJson (c : HubConfig) : Json :=
  .obj [("logging", c.logging.toJson), ("storage", c.storage.toJson),
    ("registry", c.registry.toJson), ("bridge", c.bridge.toJson), ("sandbox", c.sandbox.toJson),
    ("manager", c.manager.toJson), ("loader", c.loader.toJson)]

/-- The shape of a configuration: every section may be absent. -/
def shape : Shape :=
  let d : HubConfig := {}
  .record "HubConfig"
    [("logging", LoggingConfig.shape, some d.logging.toJson),
     ("storage", StoreConfig.shape, some d.storage.toJson),
     ("registry", RegistryConfig.shape, some d.registry.toJson),
     ("bridge", BridgeConfig.shape, some d.bridge.toJson),
     ("sandbox", SandboxConfig.shape, some d.sandbox.toJson),
     ("manager", ManagerConfig.shape, some d.manager.toJson),
     ("loader", LoaderConfig.shape, some d.loader.toJson)] false

/-- A section of a checked configuration. -/
def section? (j : Json) (k : String) : Json := (j.field? k).getD (.obj [])

/-- The configuration a checked value gives. -/
def ofJson (j : Json) : HubConfig :=
  { logging := LoggingConfig.ofJson (section? j "logging")
    storage := StoreConfig.ofJson (section? j "storage")
    registry := { eventQueueCapacity := (section? j "registry").natAt "event_queue_capacity" }
    bridge := BridgeConfig.ofJson (section? j "bridge")
    sandbox := SandboxConfig.ofJson (section? j "sandbox")
    manager := { monitorIntervalMs := (section? j "manager").natAt "monitor_interval_ms" }
    loader := LoaderConfig.ofJson (section? j "loader") }

/-- Reads a configuration from JSON text. -/
def parse (text : String) : Outcome HubConfig :=
  match readAs shape text with
  | .ok j => .ok (ofJson j)
  | .error f => .error (.validation ("hub config: " ++ f.text))

/-- Reads a configuration from a file; a refusal names the file. -/
def readFile (d : Disk) (path : String) : Outcome HubConfig :=
  match d.readFile path with
  | .error e => .error (.io e.text)
  | .ok text => (parse text).mapError (·.context path)

end HubConfig

end Plugboard
