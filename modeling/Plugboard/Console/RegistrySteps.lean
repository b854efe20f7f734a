import Plugboard.Console.StoreSteps
import Plugboard.Console.BridgeSteps
/-!
# Registry sessions

Steps on a registry: its own operations, subscriptions to its events held under names, the
discovery answers over its registrations, and steps run on its store or its bridge.
-/

namespace Plugboard.Console

open Json

/-- A registry with the subscriptions held under names and the bridge's watcher. -/
structure RegistryView where
  registry : Registry
  subs : List (String × Nat) := []
  watcher : Option Nat := none

/-- A health report given as an argument; its time defaults to the default instant. -/
def healthArg (j : Json) (k : String) : Decode HealthReport := do
  let v := match (arg? j k).getD .null with
    | .obj hs => match lookupField "checked_at" hs with
      | none => .obj (insertSorted "checked_at" Instant.y2k.toJson hs)
      | some _ => .obj hs
    | other => other
  return HealthReport.ofJson (← checkAs k HealthReport.shape v)

/-- The number of the subscription held under a name. -/
def subscription (v : RegistryView) (name : String) : Decode Nat :=
  match v.subs.find? (·.1 == name) with
  | some (_, n) => .ok n
  | none => .error ("no subscription " ++ name)

/-- Runs an action of the registry. -/
def onRegistry {α : Type} (f : α → Json) (a : Act Registry α) : Turn RegistryView Json :=
  Turn.focus RegistryView.registry (fun v r => { v with registry := r }) (Turn.reply f a)

/-- Answers with a value computed from the registry. -/
def fromRegistry (f : Registry → Json) : Turn RegistryView Json := do
  Turn.ok (f (← Turn.self).registry)

/-- A ranked plugin as JSON. -/
def scoredJson (s : Discovery.Scored) : Json :=
  .obj [("id", .str s.plugin.id), ("score", Json.ofFloat s.score)]

/-- Facet counts as JSON. -/
def facetsJson (fs : List Discovery.FacetCount) : Json :=
  .arr (fs.map fun f => .obj [("value", .str f.value), ("count", Json.ofNat f.count)])

/-- A search answer as JSON. -/
def searchJson (r : Discovery.SearchResult) : Json :=
  .obj [("plugins", Json.ofStrings (r.plugins.map (·.id))), ("total", Json.ofNat r.total),
    ("facets", .obj [("categories", facetsJson r.categories), ("authors", facetsJson r.authors)])]

/-- An event as a subscriber sees it. -/
def eventsJson (es : List Event) : Json := .arr (es.map Event.toJson)

/-- Runs a bridge step on the registry's bridge. -/
def onRegistryBridge (t : Turn Watched Json) : Turn RegistryView Json := do
  let v ← Turn.self
  match v.registry.bridge with
  | none => Turn.refuse "no bridge configured"
  | some b =>
    Turn.focus (fun (v : RegistryView) => ({ bridge := (v.registry.bridge).getD b, watcher := v.watcher } : Watched))
      (fun v w => { v with registry := { v.registry with bridge := some w.bridge }, watcher := w.watcher }) t

/-- A store step on the registry's store. -/
def registryStoreStep (inner : String) (j : Json) : Turn RegistryView Json :=
  match storeStep inner j with
  | some t => Turn.focus (fun (v : RegistryView) => v.registry.store)
      (fun v s => { v with registry := { v.registry with store := s } }) t
  | none => Turn.refuse ("unknown storage op " ++ inner)

/-- A bridge step on the registry's bridge. -/
def registryBridgeStep (inner : String) (j : Json) : Turn RegistryView Json := do
  let v ← Turn.self
  if v.registry.bridge.isNone then Turn.refuse "no bridge configured"
  match bridgeStep inner j with
  | some t => onRegistryBridge t
  | none => Turn.refuse ("unknown bridge op " ++ inner)

/-- A step on a registry, or none when the step is not one. -/
def registryStep (op : String) (j : Json) : Option (Turn RegistryView Json) :=
  match op with
  | "register" => some do
    let r ← Turn.decode (registration j "reg")
    onRegistry Registration.toJson (Registry.register r)
  | "unregister" => some do
    let id ← Turn.decode (text j "id")
    onRegistry (fun _ => .null) (Registry.unregister id)
  | "update_status" => some do
    let id ← Turn.decode (text j "id")
    let s ← Turn.decode (statusArg j "status")
    onRegistry Registration.toJson (Registry.updateStatus id s)
  | "heartbeat" => some do
    let id ← Turn.decode (text j "id")
    onRegistry (fun _ => .null) (Registry.heartbeat id)
  | "update_health" => some do
    let id ← Turn.decode (text j "id")
    let h ← Turn.decode (healthArg j "health")
    onRegistry (fun _ => .null) (Registry.updateHealth id h)
  | "update_metrics" => some do
    let id ← Turn.decode (text j "id")
    let m ← Turn.decode (metricsArg j "metrics")
    onRegistry (fun _ => .null) (Registry.updateMetrics id m)
  | "get" => some do
    let id ← Turn.decode (text j "id")
    onRegistry Registration.toJson (Registry.get id)
  | "list" => some do
    let f ← Turn.decode (filterArg j "filter")
    fromRegistry fun r => registrationsJson (r.list f)
  | "list_ids" => some do
    let f ← Turn.decode (filterArg j "filter")
    fromRegistry fun r => idsJson (r.list f)
  | "discover" => some do
    let c ← Turn.decode (criteriaArg j "criteria")
    fromRegistry fun r => idsJson (r.discover c)
  | "count" => some (fromRegistry fun r => Json.ofNat r.count)
  | "has_bridge" => some (fromRegistry fun r => .bool r.bridge.isSome)
  | "health" => some (fromRegistry fun r =>
      let h := r.health
      .obj [("status", .str h.verdict.name), ("total", Json.ofNat h.total),
        ("counts", .obj (h.counts.map fun (s, n) => (s.name, Json.ofNat n)))])
  | "load" => some (onRegistry Json.ofNat Registry.load)
  | "close" => some (onRegistry (fun _ => .null) Registry.close)
  | "subscribe" => some do
    let name ← Turn.decode (text j "name")
    let types ← Turn.decode (texts j "types")
    let v ← Turn.self
    if !v.registry.bus.canQueue then Turn.fail
    let bus := match v.subs.find? (·.1 == name) with
      | some (_, old) => v.registry.bus.dropReceiver old
      | none => v.registry.bus
    let (bus, n) := bus.subscribe types
    let subs := (v.subs.filter (·.1 != name)) ++ [(name, n)]
    Turn.change fun v => { v with registry := { v.registry with bus := bus }, subs := subs }
    Turn.ok .null
  | "unsubscribe" => some do
    let name ← Turn.decode (text j "name")
    let n ← Turn.decode (subscription (← Turn.self) name)
    let v ← Turn.self
    let (bus, was) := v.registry.bus.unsubscribe n
    Turn.change fun v => { v with registry := { v.registry with bus := bus } }
    Turn.ok (.bool was)
  | "drop_subscription" => some do
    let name ← Turn.decode (text j "name")
    let v ← Turn.self
    let bus := match v.subs.find? (·.1 == name) with
      | some (_, n) => v.registry.bus.dropReceiver n
      | none => v.registry.bus
    Turn.change fun v => { v with registry := { v.registry with bus := bus }, subs := v.subs.filter (·.1 != name) }
    Turn.ok .null
  | "drain" => some do
    let name ← Turn.decode (text j "name")
    let n ← Turn.decode (subscription (← Turn.self) name)
    let v ← Turn.self
    let (bus, es) := v.registry.bus.drain n
    Turn.change fun v => { v with registry := { v.registry with bus := bus } }
    Turn.ok (eventsJson es)
  | "find" => some do
    let q ← Turn.decode (typedOr j "query" Discovery.Query.shape (Discovery.Query.toJson {}))
    fromRegistry fun r =>
      let res := Discovery.find r.plugins (Discovery.Query.ofJson q)
      .obj [("plugins", .arr (res.plugins.map scoredJson)), ("total", Json.ofNat res.total),
        ("suggested_categories", Json.ofStrings res.suggested)]
  | "similar" => some do
    let id ← Turn.decode (text j "id")
    let limit ← Turn.decode (count j "limit")
    match Discovery.similar (← Turn.self).registry id limit with
    | .error e => return errorAnswer e
    | .ok found =>
      Turn.ok (.arr (found.map fun s =>
        .obj [("id", .str s.plugin.id), ("similarity", Json.ofFloat s.similarity)]))
  | "recommend" => some do
    let u ← Turn.decode (typedOr j "user" Discovery.Profile.shape (Discovery.Profile.toJson {}))
    let c ← Turn.decode (typedOr j "context" Discovery.Context.shape (Discovery.Context.toJson {}))
    fromRegistry fun r =>
      let res := Discovery.recommend r.plugins (Discovery.Profile.ofJson u) (Discovery.Context.ofJson c)
      .obj [("recommendations", .arr (res.items.map fun x =>
          .obj [("id", .str x.plugin.id), ("confidence", Json.ofFloat x.confidence),
            ("source", .str x.source.name), ("reason", .str x.reason)])),
        ("confidence", Json.ofFloat res.confidence)]
  | "search" => some do
    let s ← Turn.decode (typedOr j "request" Discovery.Search.shape (Discovery.Search.toJson {}))
    fromRegistry fun r => searchJson (Discovery.search r.plugins (Discovery.Search.ofJson s))
  | "by_category" => some do
    let c := textOr j "category" ""
    let o ← Turn.decode (typedOr j "sort_by" Discovery.SortOrder.shape (.str "relevance"))
    let limit ← Turn.decode (count j "limit")
    let order := ((o.str?).bind Discovery.SortOrder.ofName?).getD .relevance
    fromRegistry fun r => searchJson (Discovery.byCategory r.plugins c order limit)
  | _ => none

/-- A step of a registry session: a step on the registry, or one on its store or its bridge. -/
def registrySessionStep (op : String) (j : Json) : Turn RegistryView Json :=
  match registryStep op j with
  | some t => t
  | none =>
    if op.startsWith "storage." then registryStoreStep (op.drop "storage.".length).toString j
    else if op.startsWith "bridge." then registryBridgeStep (op.drop "bridge.".length).toString j
    else Turn.refuse ("unknown registry op " ++ op)

/-- The answer to a registry session request. -/
def registrySession (request : Json) (env : Env) : Json :=
  session request env
    (do
      let c ← Reply.ofDecode (storeConfigArg request "storage")
      match ← Reply.act (Store.create c) with
      | .error e => return .error e
      | .ok s =>
        let rc ← Reply.ofDecode (typedOr request "registry" RegistryConfig.shape (RegistryConfig.toJson {}))
        let bridge ← match arg? request "bridge" with
          | some _ => do
            let b ← Reply.ofDecode (typed request "bridge" BridgeConfig.shape)
            pure (some ({ config := BridgeConfig.ofJson b } : Bridge))
          | none => pure none
        return .ok
          { registry := { Registry.create s { eventQueueCapacity := rc.natAt "event_queue_capacity" }
                          with bridge } })
    registrySessionStep true

end Plugboard.Console
