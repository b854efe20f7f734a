import Plugboard.Runtime.Sandbox
/-!
# The plugin manager

The manager loads plugins, admits them into the sandbox, runs them through their lifecycle and
keeps a record of each: its metadata, where it came from, its lifecycle state, when it was
loaded, last started and last stopped, its last failure, and its last sampled resource usage.
A load reserves the plugin's id while it admits the plugin, so that two loads of one id cannot
both succeed.

The lifecycle is `loaded → running ⇄ stopped`, with `error` after a failed start or stop. Start
is allowed from loaded, stopped and error; stop from running and error. A refused step fails
without touching the plugin; a step the plugin itself fails puts it in the error state with the
failure recorded.
-/

namespace Plugboard

open Json

/-- The lifecycle state the manager records for a plugin. -/
inductive PluginState where
  | unloaded
  | loaded
  | running
  | stopped
  | error
  deriving DecidableEq

namespace PluginState

/-- Every state, in declaration order. -/
def all : List PluginState := [.unloaded, .loaded, .running, .stopped, .error]

/-- The name of a state. -/
def name : PluginState → String
  | .unloaded => "unloaded"
  | .loaded => "loaded"
  | .running => "running"
  | .stopped => "stopped"
  | .error => "error"

/-- The state with a name. -/
def ofName? (s : String) : Option PluginState := all.find? (·.name == s)

/-- Whether a plugin in this state may start. -/
def canStart : PluginState → Bool
  | .loaded | .stopped | .error => true
  | _ => false

/-- Whether a plugin in this state may stop. -/
def canStop : PluginState → Bool
  | .running | .error => true
  | _ => false

end PluginState

/-- A sample of a plugin's resource usage. -/
structure ResourceUsage where
  cpuPercent : Float := 0.0
  memoryBytes : Nat := 0
  workers : Nat := 0
  updatedAt : Option Instant := none

/-- The usage an instance's status reports, sampled at an instant. -/
def ResourceUsage.ofStatus (s : InstanceStatus) (t : Instant) : ResourceUsage :=
  { cpuPercent := s.cpuPercent, memoryBytes := s.memoryBytes, workers := s.workers
    updatedAt := some t }

/-- A resource usage as JSON. -/
def ResourceUsage.toJson (u : ResourceUsage) : Json :=
  .obj [("cpu_percent", Json.ofFloat u.cpuPercent), ("memory_bytes", Json.ofNat u.memoryBytes),
    ("workers", Json.ofNat u.workers), ("updated_at", Json.ofOption Instant.toJson u.updatedAt)]

/-- The manager's record of a plugin. -/
structure PluginInfo where
  metadata : Metadata
  path : String
  native : Bool
  state : PluginState := .loaded
  loadedAt : Instant
  startedAt : Option Instant := none
  stoppedAt : Option Instant := none
  lastError : Option String := none
  resources : ResourceUsage := {}

namespace PluginInfo

/-- The plugin's id. -/
def id (i : PluginInfo) : String := i.metadata.id

/-- The record of a plugin loaded at an instant. -/
def loaded (metadata : Metadata) (path : String) (native : Bool) (t : Instant) : PluginInfo :=
  { metadata, path, native, loadedAt := t }

/-- The record after a step to a target state that went through at an instant: the start or the
stop stamped, the last failure cleared. -/
def succeeded (i : PluginInfo) (target : PluginState) (t : Instant) : PluginInfo :=
  { (if target == .running then { i with startedAt := some t } else { i with stoppedAt := some t })
    with state := target, lastError := none }

/-- The record after a step the plugin failed. -/
def failed (i : PluginInfo) (e : Error) : PluginInfo :=
  { i with state := .error, lastError := some e.message }

/-- A record as JSON. -/
def toJson (i : PluginInfo) : Json :=
  .obj [("metadata", i.metadata.toJson), ("path", .str i.path), ("native", .bool i.native),
    ("state", .str i.state.name), ("loaded_at", i.loadedAt.toJson),
    ("started_at", Json.ofOption Instant.toJson i.startedAt),
    ("stopped_at", Json.ofOption Instant.toJson i.stoppedAt),
    ("last_error", Json.ofOption .str i.lastError), ("resources", i.resources.toJson)]

end PluginInfo

/-- A managed plugin: its instance and its record. -/
structure Managed where
  inst : Instance
  info : PluginInfo

/-- The manager's configuration: how often resources are sampled in the background. -/
structure ManagerConfig where
  monitorIntervalMs : Nat := 30000

/-- The manager. -/
structure Manager where
  loader : Loader := {}
  sandbox : Sandbox := {}
  /-- Sorted by id. -/
  plugins : List (String × Managed) := []
  /-- The ids reserved by loads in flight. -/
  loading : List String := []
  /-- Whether the background sampling has been stopped. -/
  monitorStopped : Bool := false

namespace Manager

variable {α : Type}

/-- The managed plugin with an id. -/
def find? (m : Manager) (id : String) : Option Managed := (m.plugins.find? (·.1 == id)).map (·.2)

/-- Puts a managed plugin in, replacing one with its id. -/
def putManaged (id : String) (x : Managed) : Act Manager Unit :=
  Act.change fun m => { m with plugins :=
    (m.plugins.filter (·.1 != id) ++ [(id, x)]).mergeSort fun a b => decide (a.1 ≤ b.1) }

/-- The managed plugin with an id, or the failure saying there is none. -/
def managed (id : String) : Act Manager Managed := do
  match (← Act.self).find? id with
  | some x => return x
  | none => Act.fail (.notFound id)

/-- Runs an operation on a plugin's instance, keeping what it did even when it fails. -/
def onInstance (id : String) (a : Act Instance α) : Act Manager α := do
  let x ← managed id
  let st ← get
  let (r, i, env) := a.exec x.inst st.2
  set (st.1, env)
  putManaged id { x with inst := i }
  Act.ofOutcome r

/-- Reserves an id for a load in flight. -/
def reserve (id : String) : Act Manager Unit :=
  Act.change fun m => { m with loading := id :: m.loading }

/-- Releases the reservation of an id. -/
def release (id : String) : Act Manager Unit :=
  Act.change fun m => { m with loading := m.loading.filter (· != id) }

/-- Admits a loaded plugin into the sandbox and prepares it with its configuration; a plugin
that fails to prepare is let out of the sandbox again. The prepared plugin. -/
def enroll (inst : Instance) (metadata : Metadata) : Act Manager Instance := do
  let sandbox ← Act.ofOutcome ((← Act.self).sandbox.enter metadata)
  Act.change fun m => { m with sandbox }
  let (r, inst, env) := (Instance.prepare metadata.config).exec inst (← get).2
  modify fun st => (st.1, env)
  match r with
  | .error e =>
    Act.change fun m => { m with sandbox := (m.sandbox.remove metadata.id).toOption.getD m.sandbox }
    Act.fail (e.context "initialize plugin")
  | .ok () => return inst

/-- Loads, admits and prepares the plugin at a path; its record. Its id is reserved while it is
admitted, so that no other load takes it, and released on every way out. -/
def load (path : String) : Act Manager PluginInfo := do
  let m ← Act.self
  let inst ← Act.ofOutcome (m.loader.load (← Act.disk) path)
  let metadata := inst.metadata
  let id := metadata.id
  if (m.find? id).isSome || m.loading.contains id then
    Act.fail (.alreadyExists ("plugin " ++ id ++ " is already loaded"))
  reserve id
  match ← Act.attempt (enroll inst metadata) with
  | .error e =>
    release id
    Act.fail e
  | .ok inst =>
    let info := PluginInfo.loaded metadata path inst.native (← Act.now)
    release id
    putManaged id { inst, info }
    return info

/-- Refuses a step the plugin's state does not allow. -/
def check (id action : String) (allowed : PluginState → Bool) : Act Manager Unit := do
  let x ← managed id
  if !allowed x.info.state then
    Act.fail (.invalidState id x.info.state.name action)

/-- Records how a start or stop went. -/
def record (id : String) (target : PluginState) (r : Outcome Unit) : Act Manager Unit := do
  match (← Act.self).find? id with
  | none => Act.ofOutcome r
  | some x =>
    match r with
    | .ok () => putManaged id { x with info := x.info.succeeded target (← Act.now) }
    | .error e =>
      putManaged id { x with info := x.info.failed e }
      Act.fail e

/-- Takes a plugin through a step of its lifecycle: refuses the step when the plugin's state does
not allow it, and otherwise runs the instance's own step and records how it went. -/
def lifecycle (id action : String) (allowed : PluginState → Bool) (step : Act Instance Unit)
    (target : PluginState) : Act Manager Unit := do
  check id action allowed
  let r ← Act.attempt (onInstance id step)
  record id target r

/-- Starts a loaded, stopped or failed plugin. -/
def start (id : String) : Act Manager Unit :=
  lifecycle id "start" PluginState.canStart Instance.start .running

/-- Stops a running or failed plugin. -/
def stop (id : String) : Act Manager Unit :=
  lifecycle id "stop" PluginState.canStop Instance.stop .stopped

/-- Stops the plugin if it may stop, cleans it up, lets it out of the sandbox and forgets it;
failures along the way are passed over. -/
def unload (id : String) : Act Manager Unit := do
  let x ← managed id
  if x.info.state.canStop then
    let _ ← Act.attempt (onInstance id Instance.stop)
  let _ ← Act.attempt (onInstance id Instance.cleanup)
  Act.change fun m => { m with sandbox := (m.sandbox.remove id).toOption.getD m.sandbox }
  Act.change fun m => { m with plugins := m.plugins.filter (·.1 != id) }

/-- Delivers an event to one plugin. -/
def sendEvent (id : String) (e : Event) : Act Manager Unit := onInstance id (Instance.handleEvent e)

/-- Delivers an event to each plugin in turn; the failures as `<id>: <message>`. -/
def deliverAll (e : Event) : List String → Act Manager (Nat × List String)
  | [] => return (0, [])
  | id :: ids => do
    let r ← Act.attempt (onInstance id (Instance.handleEvent e))
    let (n, failures) ← deliverAll e ids
    match r with
    | .ok () => return (n + 1, failures)
    | .error err => return (n, (id ++ ": " ++ err.message) :: failures)

/-- Delivers an event to every loaded plugin, whatever its state; how many took it, or the
failures sorted. -/
def broadcast (e : Event) : Act Manager Nat := do
  let ids := (← Act.self).plugins.map (·.1)
  let (n, failures) ← deliverAll e ids
  if failures.isEmpty then return n
  Act.fail (.eventDelivery (failures.mergeSort fun a b => decide (a ≤ b)))

/-- Passes data through a plugin. -/
def processData (id : String) (data : Json) : Act Manager Json :=
  onInstance id (Instance.processData data)

/-- The record of a plugin. -/
def info (id : String) : Act Manager PluginInfo := do
  return (← managed id).info

/-- Every record, by id. -/
def list (m : Manager) : List PluginInfo := m.plugins.map (·.2.info)

/-- The ids of the running plugins, sorted. -/
def running (m : Manager) : List String :=
  (m.plugins.filter (·.2.info.state == .running)).map (·.1)

/-- Samples one running plugin: what its instance reports, at the clock's next reading. The
sandbox judges the sample against its memory ceiling, but a plugin over it is only warned about
in the log, and its sample is recorded all the same. -/
def sampleOne (id : String) : Act Manager Unit := do
  let x ← managed id
  let usage := ResourceUsage.ofStatus x.inst.status (← Act.now)
  match (← Act.self).sandbox.checkUsage id usage.memoryBytes with
  | .error _ => pure ()
  | .ok () => pure ()
  putManaged id { x with info := { x.info with resources := usage } }

/-- Samples the resource usage of every running plugin; how many. -/
def sample : Act Manager Nat := do
  let ids := (← Act.self).running
  for id in ids do sampleOne id
  return ids.length

/-- Unloads every plugin and stops the background sampling. -/
def shutdown : Act Manager Unit := do
  let ids := (← Act.self).plugins.map (·.1)
  for id in ids do
    let _ ← Act.attempt (unload id)
  Act.change fun m => { m with monitorStopped := true }

end Manager

end Plugboard
