import Plugboard.Console.Turn
import Plugboard.Console.Pure
/-!
# Bridge sessions

Steps on a bridge and the service directory behind it: building, registering, updating and
removing plugin services, pushing health and heartbeats, listing, bulk pushes, registering
services that do not come from plugins, and watching the directory's change stream.
-/

namespace Plugboard.Console

open Json

/-- A bridge, and where its watcher has read the change stream up to, once watching. -/
structure Watched where
  bridge : Bridge
  watcher : Option Nat := none

/-- A service health as JSON. -/
def ServiceHealth.toJson (h : ServiceHealth) : Json := .str h.name

/-- What a watcher reads, as JSON. -/
def sightingJson : Sighting → Json
  | .event (.registered s) => .obj [("type", .str "registered"), ("id", .str s.id),
      ("health", .str s.health.name)]
  | .event (.updated s) => .obj [("type", .str "updated"), ("id", .str s.id),
      ("health", .str s.health.name)]
  | .event (.deregistered id) => .obj [("type", .str "deregistered"), ("id", .str id)]
  | .event (.healthChanged id h) => .obj [("type", .str "health_changed"), ("id", .str id),
      ("health", .str h.name)]
  | .lagged n => .obj [("type", .str "lagged"), ("skipped", Json.ofNat n)]

/-- Text metadata given as an argument. -/
def metadataArg (j : Json) (k : String) : Decode (List (String × String)) := do
  match ← typedOr j k (.dict .text) (.obj []) with
  | .obj ms => pure (ms.map fun (k, v) => (k, (v.str?).getD ""))
  | _ => pure []

/-- A step on a bridge, or none when the step is not one. -/
def bridgeStep (op : String) (j : Json) : Option (Turn Watched Json) :=
  let onBridge {α : Type} (f : α → Json) (a : Act Bridge α) : Turn Watched Json :=
    Turn.focus Watched.bridge (fun w b => { w with bridge := b }) (Turn.reply f a)
  let onDirectory {α : Type} (f : α → Json) (a : Act Directory α) : Turn Watched Json :=
    onBridge f (Bridge.onDirectory a)
  match op with
  | "to_service_info" => some do
    let r ← Turn.decode (registration j "reg")
    onBridge Service.toJson (Bridge.toService r)
  | "register" => some do
    let r ← Turn.decode (registration j "reg")
    onBridge Service.toJson (Bridge.register r)
  | "update" => some do
    let r ← Turn.decode (registration j "reg")
    onBridge Service.toJson (Bridge.update r)
  | "deregister" => some do
    let id ← Turn.decode (text j "id")
    onBridge (fun _ => .null) (Bridge.deregister id)
  | "sync_health" => some do
    let r ← Turn.decode (registration j "reg")
    onBridge (fun _ => .null) (Bridge.syncHealth r)
  | "heartbeat" => some do
    let id ← Turn.decode (text j "id")
    onBridge (fun _ => .null) (Bridge.heartbeat id)
  | "get" => some do
    let id ← Turn.decode (text j "id")
    onBridge Service.toJson (Bridge.get id)
  | "list" => some (onBridge (fun ss => .arr (ss.map Service.toJson)) Bridge.listPluginServices)
  | "list_all" => some (onDirectory (fun ss => .arr (ss.map Service.toJson)) Directory.list)
  | "sync_all" => some do
    let rs ← Turn.decode (registrations j "regs")
    onBridge (fun (rep : Bridge.SyncReport) => .obj [("synced", Json.ofNat rep.synced),
        ("failed", .arr (rep.failed.map fun (id, m) => .arr [.str id, .str m]))])
      (Bridge.syncAll rs)
  | "register_foreign" => some do
    let r ← Turn.decode (registration j "reg")
    let meta_ ← Turn.decode (metadataArg j "metadata")
    onBridge (fun _ => .null) (do
      let s ← Bridge.toService r
      Bridge.onDirectory (Directory.register { s with metadata := meta_ }))
  | "raw_update_health" => some do
    let v ← Turn.decode (typed j "health" (.oneOf (ServiceHealth.all.map ServiceHealth.name)))
    let id ← Turn.decode (text j "id")
    let h := ((v.str?).bind ServiceHealth.ofName?).getD .unknown
    onDirectory (fun _ => .null) (Directory.updateHealth id h)
  | "watch" => some do
    Turn.change fun w => { w with watcher := some w.bridge.directory.watchFrom }
    Turn.ok .null
  | "watch_drain" => some do
    let w ← Turn.self
    match w.watcher with
    | none => Turn.refuse "not watching"
    | some next =>
      let (seen, next') := w.bridge.directory.sightings next
      Turn.change fun w => { w with watcher := some next' }
      Turn.ok (.arr (seen.map sightingJson))
  | _ => none

/-- A step of a bridge session. -/
def bridgeSessionStep (op : String) (j : Json) : Turn Watched Json :=
  match bridgeStep op j with
  | some t => t
  | none => Turn.refuse ("unknown bridge op " ++ op)

/-- The answer to a bridge session request. -/
def bridgeSession (request : Json) (env : Env) : Json :=
  session request env
    (do
      let v ← Reply.ofDecode (typedOr request "config" BridgeConfig.shape (BridgeConfig.toJson {}))
      return .ok { bridge := { config := BridgeConfig.ofJson v } })
    bridgeSessionStep false

end Plugboard.Console
