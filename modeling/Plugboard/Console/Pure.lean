import Plugboard.Console.Reply
import Plugboard.Hub.Config
import Plugboard.Discovery.Basic
/-!
# Single operations

Requests that ask one question of the library: parse a status, validate a registration, apply a
filter, score, read a manifest or a configuration, make a store, describe an error. Each answers
its value directly, or the library's error.
-/

namespace Plugboard.Console

open Json

/-- A status with its display text and whether it counts as operational. -/
def statusAnswer (s : Status) : Json :=
  .obj [("status", .str s.name), ("display", .str s.name), ("operational", .bool s.isOperational)]

/-- The status of a checked name. -/
def statusOf (j : Json) : Status := (j.str?.bind Status.ofName?).getD .registered

/-- A filter argument, empty when absent. -/
def filterArg (j : Json) (k : String) : Decode Filter := do
  return Filter.ofJson (← typedOr j k Filter.shape (.obj []))

/-- Criteria given as an argument, empty when absent. -/
def criteriaArg (j : Json) (k : String) : Decode Criteria := do
  return Criteria.ofJson (← typedOr j k Criteria.shape (.obj []))

/-- Per-status counts given as a JSON object keyed by status; none when left out. -/
def countsArg (j : Json) (k : String) : Decode (List (Status × Nat)) :=
  match (arg? j k).getD (.obj []) with
  | .obj members =>
    members.mapM fun (name, v) => do
      let some s := Status.ofName? name
        | .error (k ++ ": " ++ unknownVariant name Status.names)
      match check Shape.usize v with
      | .ok (.num (.nat n)) => pure (s, n)
      | .ok _ => pure (s, 0)
      | .error m => .error (k ++ ": " ++ m)
  | other => .error (k ++ ": " ++ invalidType (unexpected other) "a map")

/-- A store configuration argument, the default one when absent. -/
def storeConfigArg (j : Json) (k : String) : Decode StoreConfig := do
  return StoreConfig.ofJson (← typedOr j k StoreConfig.shape (.obj []))

/-- The error a request describes. -/
def describedError (j : Json) : Decode Error := do
  let kind ← text j "kind"
  let m ← text j "message"
  match kind with
  | "Validation" => pure (.validation m)
  | "NotFound" => pure (.notFound m)
  | "AlreadyExists" => pure (.alreadyExists m)
  | "InvalidState" => pure (.invalidState m (← text j "state") (← text j "action"))
  | "Load" => pure (.load m)
  | "Sandbox" => pure (.sandbox m)
  | "Storage" => pure (.storage m)
  | "Bridge" => pure (.bridge m)
  | "EventDelivery" => pure (.eventDelivery (← texts j "failures"))
  | "Serialization" => pure (.serialization m)
  | "Internal" => pure (.internal m)
  | "Io" => pure (.io m)
  | other => .error ("unknown kind " ++ other)

/-- A manifest's registration as the manifest reading shows it. -/
def manifestRegistration (m : Metadata) (t : Instant) : Json :=
  let r := m.toRegistration t
  .obj [("id", .str r.id), ("name", .str r.name), ("version", .str r.version),
    ("description", .str r.description), ("author", .str r.author),
    ("category", .str r.category), ("tags", Json.ofStrings r.tags),
    ("permissions", Json.ofStrings r.permissions), ("config", .obj r.config),
    ("status", .str r.status.name), ("valid", .bool (r.validate matches .ok _))]

/-- The names of the things `display` shows, with the shape of their values and how each is
shown. -/
def displayed (kind : String) : Option (Shape × (Json → String)) :=
  let shown : Json → String := fun v => (v.str?).getD ""
  match kind with
  | "service_health" => some (.oneOf (ServiceHealth.all.map ServiceHealth.name), shown)
  | "log_level" => some (.oneOf (LogLevel.all.map LogLevel.name), shown)
  | "plugin_state" => some (.oneOf (PluginState.all.map PluginState.name), shown)
  | "plugin_status" => some (Status.shape, shown)
  | "storage_backend" => some (StoreKind.shape, shown)
  | _ => none

/-- The answer to a single operation, or none when the operation is not one. -/
def pureReply (op : String) (j : Json) : Option (Reply Json) :=
  match op with
  | "status_parse" => some do
    let s ← Reply.ofDecode (text j "s")
    return outcomeAnswer statusAnswer (Status.parse s)
  | "state_info" => some do
    let v ← Reply.ofDecode (typed j "state" (.oneOf (PluginState.all.map PluginState.name)))
    let st := ((v.str?).bind PluginState.ofName?).getD .unloaded
    return .obj [("display", .str st.name), ("can_start", .bool st.canStart),
      ("can_stop", .bool st.canStop)]
  | "validate" => some do
    let r ← Reply.ofDecode (registration j "reg")
    return outcomeAnswer (fun _ => .null) r.validate
  | "filter_matches" => some do
    let f ← Reply.ofDecode (filterArg j "filter")
    let r ← Reply.ofDecode (registration j "reg")
    return .bool (f.admits r)
  | "filter_select" => some do
    let f ← Reply.ofDecode (filterArg j "filter")
    let rs ← Reply.ofDecode (registrations j "regs")
    return Json.ofStrings ((f.select rs).map (·.id))
  | "matches_text" => some do
    let r ← Reply.ofDecode (registration j "reg")
    let q ← Reply.ofDecode (text j "query")
    return .bool (matchesText r q)
  | "criteria_matches" => some do
    let c ← Reply.ofDecode (criteriaArg j "criteria")
    let r ← Reply.ofDecode (registration j "reg")
    return .bool (c.admits r)
  | "relevance" => some do
    let r ← Reply.ofDecode (registration j "reg")
    let ks ← Reply.ofDecode (texts j "keywords")
    let ps ← Reply.ofDecode (texts j "permissions")
    return Json.ofFloat (Discovery.relevance r ks ps)
  | "overlap" => some do
    let a ← Reply.ofDecode (texts j "a")
    let b ← Reply.ofDecode (texts j "b")
    return Json.ofFloat (Discovery.overlap (textSet a) (textSet b))
  | "similarity" => some do
    let a ← Reply.ofDecode (registration j "a")
    let b ← Reply.ofDecode (registration j "b")
    return Json.ofFloat (Discovery.similarity a b)
  | "query_new" => some do
    let t ← Reply.ofDecode (text j "text")
    return (Discovery.Query.ofText t).toJson
  | "health_for" => some do
    let r ← Reply.ofDecode (registration j "reg")
    return .obj [("health", .str (ServiceHealth.ofRegistration r).name),
      ("status_only", .str (ServiceHealth.ofStatus r.status).name)]
  | "registry_health" => some do
    let counts ← Reply.ofDecode (countsArg j "counts")
    let h := RegistryHealth.ofCounts counts
    return .obj [("status", .str h.verdict.name), ("total", Json.ofNat h.total)]
  | "manifest_parse" => some do
    let t ← Reply.ofDecode (text j "json")
    let src := textOr j "source" "manifest.json"
    match Metadata.parse t src with
    | .ok m =>
      let at_ ← Reply.now
      return .obj [("metadata", m.toJson), ("registration", manifestRegistration m at_)]
    | .error e => return errorAnswer e
  | "hub_config" => some do
    let t ← Reply.ofDecode (text j "json")
    return outcomeAnswer HubConfig.toJson (HubConfig.parse t)
  | "hub_config_file" => some do
    let p ← Reply.ofDecode (text j "path")
    let env ← get
    return outcomeAnswer HubConfig.toJson (HubConfig.readFile env.disk p)
  | "storage_factory" => some do
    let c ← Reply.ofDecode (storeConfigArg j "storage")
    let r ← Reply.act (do
      let s ← Store.create c
      let (h, _) ← Act.focus (fun _ => s) (fun u _ => u) (do return (← Store.healthCheck, ()))
      return (s.kind, h))
    return outcomeAnswer (fun (k, h) => .obj [("backend_type", .str k.name), ("healthy", .bool h)]) r
  | "error_context" => some do
    let e ← Reply.ofDecode (describedError j)
    let c ← Reply.ofDecode (match arg? j "context" with
      | some (.str c) => .ok (some c)
      | _ => .ok none)
    let withContext := match c with
      | some c => e.context c
      | none => e
    return .obj [("plain", .obj [("error", .str e.kind), ("message", .str e.message),
        ("not_found", .bool e.isNotFound)]),
      ("with_context", .obj [("error", .str withContext.kind),
        ("message", .str withContext.message)])]
  | "display" => some do
    let kind := textOr j "type" ""
    match displayed kind with
    | none => throw ("unknown type " ++ kind)
    | some (shape, shown) =>
      let v ← Reply.ofDecode (do checkAs "argument" shape (← required j "value"))
      return .str (shown v)
  | "init_logging" => some do
    let v ← Reply.ofDecode (typedOr j "config" LoggingConfig.shape (.obj []))
    let c := LoggingConfig.ofJson v
    return .obj [("config", c.toJson), ("installed", .bool (installLogger c))]
  | "serde_error" => some do
    let t ← Reply.ofDecode (text j "json")
    match Json.read t with
    | .ok _ => return .str "parsed"
    | .error f => return errorAnswer (.serialization f.text)
  | _ => none

end Plugboard.Console
