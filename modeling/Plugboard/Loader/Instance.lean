import Plugboard.Loader.Manifest
import Plugboard.Registry.Events
import Plugboard.Env
import Plugboard.Json.Write
/-!
# Plugin instances

A loaded plugin is one of three kinds, all answering the same eight operations (metadata,
initialize, start, stop, cleanup, status, handling an event, processing data):

* the echo plugin, built into every module table, which accepts everything and gives data back
  unchanged;
* the faulty plugin, which starts but refuses to stop, to handle events and to process data;
* a manifest plugin, whose behaviour comes from its manifest: it goes from unloaded to
  initialized, then between running and stopped, and only a running one handles events and
  processes data. Initializing lays the given configuration over the manifest's.

The first two come from native modules; the third from a directory.
-/

namespace Plugboard

/-- The states of a manifest plugin. -/
inductive ManifestState where
  | unloaded
  | initialized
  | running
  | stopped
  deriving DecidableEq

/-- The name of a manifest plugin's state. -/
def ManifestState.name : ManifestState → String
  | .unloaded => "unloaded"
  | .initialized => "initialized"
  | .running => "running"
  | .stopped => "stopped"

/-- A plugin described by a manifest directory. -/
structure ManifestPlugin where
  metadata : Metadata
  directory : String
  state : ManifestState := .unloaded
  /-- The manifest's configuration with the initializing one laid over it, sorted by key. -/
  config : List (String × Json) := []
  eventsHandled : Nat := 0
  itemsProcessed : Nat := 0
  startedAt : Option Instant := none

/-- The built-in echo plugin's state. -/
structure EchoPlugin where
  initialized : Bool := false
  running : Bool := false
  eventsHandled : Nat := 0

/-- The faulty plugin's state. -/
structure FaultyPlugin where
  running : Bool := false

/-- A loaded plugin. -/
inductive Instance where
  | echo (p : EchoPlugin)
  | faulty (p : FaultyPlugin)
  | manifest (p : ManifestPlugin)

/-- What an instance reports about itself. -/
structure InstanceStatus where
  running : Bool
  cpuPercent : Float := 0.0
  memoryBytes : Nat := 0
  workers : Nat := 0
  /-- Sorted by key. -/
  details : List (String × Json) := []

/-- An instance status as JSON. -/
def InstanceStatus.toJson (s : InstanceStatus) : Json :=
  .obj [("running", .bool s.running), ("cpu_percent", Json.ofFloat s.cpuPercent),
    ("memory_bytes", Json.ofNat s.memoryBytes), ("workers", Json.ofNat s.workers),
    ("details", .obj s.details)]

/-- The echo plugin's metadata. -/
def echoMetadata : Metadata :=
  { Metadata.create "echo" "Echo Plugin" "1.0.0" with
    description := "Returns its input unchanged", category := "utility" }

/-- The faulty plugin's metadata. -/
def faultyMetadata : Metadata := Metadata.create "faulty" "Faulty" "0.1.0"

/-- Lays members over a sorted object, the new ones winning. -/
def overlay (base : List (String × Json)) (top : List (String × Json)) : List (String × Json) :=
  top.foldl (fun acc m => Json.insertSorted m.1 m.2 acc) base

namespace ManifestPlugin

/-- The refusal of an action in the current state. -/
def refuse (p : ManifestPlugin) (action : String) : Error :=
  .invalidState p.metadata.id p.state.name action

/-- A new, unloaded plugin for a manifest found in a directory. -/
def create (m : Metadata) (directory : String) : ManifestPlugin := { metadata := m, directory }

/-- Initializes an unloaded plugin with a configuration. -/
def prepare (p : ManifestPlugin) (config : List (String × Json)) : Outcome ManifestPlugin :=
  if p.state != .unloaded then .error (p.refuse "initialize")
  else .ok { p with config := overlay p.metadata.config config, state := .initialized }

/-- Starts an initialized or stopped plugin at an instant. -/
def start (p : ManifestPlugin) (t : Instant) : Outcome ManifestPlugin :=
  match p.state with
  | .initialized | .stopped => .ok { p with state := .running, startedAt := some t }
  | _ => .error (p.refuse "start")

/-- Stops a running plugin. -/
def stop (p : ManifestPlugin) : Outcome ManifestPlugin :=
  if p.state != .running then .error (p.refuse "stop")
  else .ok { p with state := .stopped, startedAt := none }

/-- Takes a plugin back to unloaded, forgetting its configuration but not its counts. -/
def cleanup (p : ManifestPlugin) : ManifestPlugin :=
  { p with state := .unloaded, config := [], startedAt := none }

/-- What the plugin reports: its memory is the length of its configuration as compact JSON. -/
def status (p : ManifestPlugin) : InstanceStatus :=
  let running := p.state == .running
  { running, memoryBytes := (Json.compact (.obj p.config)).utf8ByteSize
    workers := if running then 1 else 0
    details := [("events_handled", Json.ofNat p.eventsHandled),
      ("items_processed", Json.ofNat p.itemsProcessed)] ++
      (match p.startedAt with
        | some t => [("started_at", .str (t.text false))]
        | none => []) ++
      [("state", .str p.state.name)] }

/-- Counts an event, if running. -/
def handleEvent (p : ManifestPlugin) : Outcome ManifestPlugin :=
  if p.state != .running then .error (p.refuse "handle events")
  else .ok { p with eventsHandled := p.eventsHandled + 1 }

/-- Processes data, if running: the answer holds the plugin's id, version and configuration
beside the data. -/
def processData (p : ManifestPlugin) (data : Json) : Outcome (Json × ManifestPlugin) :=
  if p.state != .running then .error (p.refuse "process data")
  else .ok (.obj [("config", .obj p.config), ("data", data), ("plugin_id", .str p.metadata.id),
      ("version", .str p.metadata.version)], { p with itemsProcessed := p.itemsProcessed + 1 })

end ManifestPlugin

namespace Instance

/-- Whether the instance came from a native module. -/
def native : Instance → Bool
  | .manifest _ => false
  | _ => true

/-- The instance's metadata. -/
def metadata : Instance → Metadata
  | .echo _ => echoMetadata
  | .faulty _ => faultyMetadata
  | .manifest p => p.metadata

/-- Its debugging text: the kind and the id. -/
def debugText (i : Instance) : String :=
  (if i.native then "Native" else "Manifest") ++ "(" ++ Json.debugQuote i.metadata.id ++ ")"

/-- Turns an outcome for a manifest plugin into an action of the instance. -/
def onManifest {α : Type} (r : Outcome (α × ManifestPlugin)) : Act Instance α :=
  match r with
  | .ok (x, p) => do Act.put (.manifest p); return x
  | .error e => Act.fail e

/-- Prepares the instance with a configuration. -/
def prepare (config : List (String × Json)) : Act Instance Unit := do
  match ← Act.self with
  | .echo p => Act.put (.echo { p with initialized := true })
  | .faulty _ => return ()
  | .manifest p => onManifest ((p.prepare config).map ((), ·))

/-- Starts the instance. -/
def start : Act Instance Unit := do
  match ← Act.self with
  | .echo p => Act.put (.echo { p with running := true })
  | .faulty p => Act.put (.faulty { p with running := true })
  | .manifest p =>
    match p.state with
    | .initialized | .stopped =>
      let t ← Act.now
      onManifest ((p.start t).map ((), ·))
    | _ => Act.fail (p.refuse "start")

/-- Stops the instance. -/
def stop : Act Instance Unit := do
  match ← Act.self with
  | .echo p => Act.put (.echo { p with running := false })
  | .faulty _ => Act.fail (.internal "stop refused")
  | .manifest p => onManifest (p.stop.map ((), ·))

/-- Releases what the instance acquired since initializing. -/
def cleanup : Act Instance Unit := do
  match ← Act.self with
  | .echo _ => Act.put (.echo {})
  | .faulty _ => return ()
  | .manifest p => Act.put (.manifest p.cleanup)

/-- What the instance reports. -/
def status : Instance → InstanceStatus
  | .echo p => { running := p.running, workers := if p.running then 1 else 0
                 details := [("events", Json.ofNat p.eventsHandled)] }
  | .faulty p => { running := p.running, memoryBytes := 4096 }
  | .manifest p => p.status

/-- Lets the instance react to an event. -/
def handleEvent (_e : Event) : Act Instance Unit := do
  match ← Act.self with
  | .echo p => Act.put (.echo { p with eventsHandled := p.eventsHandled + 1 })
  | .faulty _ => Act.fail (.internal "events refused")
  | .manifest p => onManifest (p.handleEvent.map ((), ·))

/-- Passes data through the instance. -/
def processData (data : Json) : Act Instance Json := do
  match ← Act.self with
  | .echo _ => return data
  | .faulty _ => Act.fail (.internal "data refused")
  | .manifest p => onManifest (p.processData data)

end Instance

end Plugboard
