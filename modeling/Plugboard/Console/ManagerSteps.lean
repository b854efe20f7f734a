import Plugboard.Console.BusSteps
import Plugboard.Console.Pure
/-!
# Manager sessions

Steps on a plugin manager: loading and unloading plugins, their lifecycle, events, data,
records and resource sampling; the sandbox's own operations; and the loader's answers about a
path, asked without loading anything into the manager.

The modules linked into the build are the built-in echo module, unless left out, and those the
request lists, each exporting symbols that build the echo or faulty plugin, or something else
with a signature.
-/

namespace Plugboard.Console

open Json

/-- The export a request names: the echo or faulty factory by name, or, given as an object,
something else whose signature is the object's text member `opaque` (empty when there is none). -/
def exportOf (v : Json) : Decode Export :=
  match v with
  | .str "echo" => .ok (.factory .echo)
  | .str "faulty" => .ok (.factory .faulty)
  | .obj _ => .ok (.other (match v.field? "opaque" with
    | some (.str sig) => sig
    | _ => ""))
  | _ => .error "unknown export"

/-- The module table a request describes: the built-in module unless `builtin` is `false`, and
the modules listed under `modules`, whose exports must each be given as an object. -/
def modulesArg (j : Json) : Decode ModuleTable := do
  let builtin := match arg? j "builtin" with
    | some (.bool b) => b
    | _ => true
  let start := if builtin then ModuleTable.builtin else {}
  let listed := match arg? j "modules" with
    | some (.obj ms) => ms
    | _ => []
  listed.foldlM (fun t (stem, exports) => do
    let exports ← match exports with
      | .obj es => es.mapM fun (sym, v) => do return (sym, ← exportOf v)
      | _ => .error "module exports must be an object"
    pure (t.add stem { exports })) start

/-- Metadata given as an argument. -/
def metadataValueArg (j : Json) (k : String) : Decode Metadata := do
  return Metadata.ofJson (← typed j k Metadata.shape)

/-- Runs an action of the manager. -/
def onManager {α : Type} (f : α → Json) (a : Act Manager α) : Turn Manager Json := Turn.reply f a

/-- Answers with something worked out from the manager, the disk, or both. -/
def fromManager (f : Manager → Disk → Json) : Turn Manager Json := do
  let st ← get
  Turn.ok (f st.1 st.2.disk)

/-- A step on a manager, or none when the step is not one. -/
def managerStep (op : String) (j : Json) : Option (Turn Manager Json) :=
  match op with
  | "load" => some do
    let p ← Turn.decode (text j "path")
    onManager PluginInfo.toJson (Manager.load p)
  | "start" => some do
    let id ← Turn.decode (text j "id")
    onManager (fun _ => .null) (Manager.start id)
  | "stop" => some do
    let id ← Turn.decode (text j "id")
    onManager (fun _ => .null) (Manager.stop id)
  | "unload" => some do
    let id ← Turn.decode (text j "id")
    onManager (fun _ => .null) (Manager.unload id)
  | "send_event" => some do
    let id ← Turn.decode (text j "id")
    let e ← Turn.decode (eventArg j)
    onManager (fun _ => .null) (Manager.sendEvent id e)
  | "broadcast" => some do
    let e ← Turn.decode (eventArg j)
    onManager Json.ofNat (Manager.broadcast e)
  | "process_data" => some do
    let id ← Turn.decode (text j "id")
    let d := (arg? j "data").getD .null
    onManager (fun x => x) (Manager.processData id d)
  | "info" => some do
    let id ← Turn.decode (text j "id")
    onManager PluginInfo.toJson (Manager.info id)
  | "info_id" => some do
    let id ← Turn.decode (text j "id")
    onManager (fun i => .str i.id) (Manager.info id)
  | "list" => some (fromManager fun m _ => .arr (m.list.map PluginInfo.toJson))
  | "running" => some (fromManager fun m _ => Json.ofStrings m.running)
  | "sample" => some (onManager Json.ofNat Manager.sample)
  | "shutdown" => some (onManager (fun _ => .null) Manager.shutdown)
  | "sandbox_plugins" => some (fromManager fun m _ => Json.ofStrings m.sandbox.plugins)
  | "sandbox_admit" => some do
    let md ← Turn.decode (metadataValueArg j "metadata")
    onManager (fun _ => .null) (do
      let s ← Act.ofOutcome ((← Act.self).sandbox.enter md)
      Act.change fun m => { m with sandbox := s })
  | "sandbox_remove" => some do
    let id ← Turn.decode (text j "id")
    onManager (fun _ => .null) (do
      let s ← Act.ofOutcome ((← Act.self).sandbox.remove id)
      Act.change fun m => { m with sandbox := s })
  | "sandbox_check_usage" => some do
    let id ← Turn.decode (text j "id")
    let n ← Turn.decode (do
      match ← typedOr j "memory_bytes" Shape.u64 (Json.ofNat 0) with
      | .num (.nat n) => pure n
      | _ => pure 0)
    onManager (fun _ => .null) (do Act.ofOutcome ((← Act.self).sandbox.checkUsage id n))
  | "sandbox_permissions" => some (do
    let id ← Turn.decode (text j "id")
    fromManager fun m _ => Json.ofOption Json.ofStrings (m.sandbox.permissions id))
  | "validate" => some do
    let p ← Turn.decode (text j "path")
    onManager PluginSource.toJson (do Act.ofOutcome ((← Act.self).loader.validate (← Act.disk) p))
  | "metadata" => some do
    let p ← Turn.decode (text j "path")
    onManager Metadata.toJson (do Act.ofOutcome ((← Act.self).loader.metadataAt (← Act.disk) p))
  | "loader_load" => some do
    let p ← Turn.decode (text j "path")
    onManager (fun (i : Instance) => .obj [("native", .bool i.native), ("metadata", i.metadata.toJson)])
      (do Act.ofOutcome ((← Act.self).loader.load (← Act.disk) p))
  | "loader_debug" => some do
    let p ← Turn.decode (text j "path")
    onManager (fun (i : Instance) => .str i.debugText)
      (do Act.ofOutcome ((← Act.self).loader.load (← Act.disk) p))
  | "stems" => some (fromManager fun m _ => Json.ofStrings m.loader.modules.stems)
  | _ => none

/-- A step of a manager session. -/
def managerSessionStep (op : String) (j : Json) : Turn Manager Json :=
  match managerStep op j with
  | some t => t
  | none => Turn.refuse ("unknown manager op " ++ op)

/-- The answer to a manager session request. -/
def managerSession (request : Json) (env : Env) : Json :=
  session request env
    (do
      let modules ← Reply.ofDecode (modulesArg request)
      let l ← Reply.ofDecode (typedOr request "loader" LoaderConfig.shape (LoaderConfig.toJson {}))
      let s ← Reply.ofDecode (typedOr request "sandbox" SandboxConfig.shape (SandboxConfig.toJson {}))
      return .ok { loader := { config := LoaderConfig.ofJson l, modules },
                   sandbox := { config := SandboxConfig.ofJson s } })
    managerSessionStep true

end Plugboard.Console
