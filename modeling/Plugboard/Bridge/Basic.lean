import Plugboard.Bridge.Directory
/-!
# The bridge to service discovery

The bridge keeps a service directory in step with plugin registrations. Each time a plugin is
bridged its service is built afresh from the registration:

* the address is the configuration's `address` when that is a text that is not blank, and the
  bridge's default address otherwise;
* the port is the configuration's `port` when that is a number from 1 to 65535, or a text that
  reads as one once trimmed, and the default port otherwise;
* the tags are the bridge's service tag, the plugin's tags, `category:<c>` when it has a
  category, and `version:<v>`;
* the metadata say the service came from a plugin, and give its id, version and status, and its
  author and category when it has them;
* the health is the registration's health.
-/

namespace Plugboard

open Json

/-- How the bridge builds services. -/
structure BridgeConfig where
  enabled : Bool := true
  defaultAddress : String := "localhost"
  defaultPort : Nat := 8080
  serviceTag : String := "plugin"

namespace BridgeConfig

/-- The shape of a bridge configuration: every field may be absent. -/
def shape : Shape :=
  .record "BridgeConfig"
    [("enabled", .flag, some (.bool true)), ("default_address", .text, some (.str "localhost")),
     ("default_port", .unsigned 65535 "u16", some (Json.ofNat 8080)),
     ("service_tag", .text, some (.str "plugin"))] false

/-- A bridge configuration as JSON. -/
def toJson (c : BridgeConfig) : Json :=
  .obj [("enabled", .bool c.enabled), ("default_address", .str c.defaultAddress),
    ("default_port", Json.ofNat c.defaultPort), ("service_tag", .str c.serviceTag)]

/-- The configuration a checked value gives. -/
def ofJson (j : Json) : BridgeConfig :=
  { enabled := match j.field? "enabled" with | some (.bool b) => b | _ => true
    defaultAddress := j.textAt "default_address", defaultPort := j.natAt "default_port"
    serviceTag := j.textAt "service_tag" }

end BridgeConfig

/-- The number a text of decimal digits stands for, after an optional `+`, if it fits in 16
bits. -/
def readPort (s : String) : Option Nat :=
  let digits := match s.toList with
    | '+' :: rest => rest
    | cs => cs
  if digits.isEmpty || !digits.all Char.isDigit then none
  else
    let n := digits.foldl (fun acc c => acc * 10 + (c.toNat - '0'.toNat)) 0
    if n ≤ 65535 then some n else none

/-- The port a configuration value asks for, if any. -/
def portOf : Json → Option Nat
  | .num (.nat n) => if n ≤ 65535 then some n else none
  | .str s => readPort (Text.trim s)
  | _ => none

/-- The key marking services that came from plugins, and its value. -/
def sourceKey : String := "source"
def sourcePlugin : String := "plugin"

/-- A bridge: how it builds services, and the directory it keeps them in. -/
structure Bridge where
  config : BridgeConfig := {}
  directory : Directory := {}

namespace Bridge

/-- Runs an operation on the directory. -/
def onDirectory {α : Type} (a : Act Directory α) : Act Bridge α :=
  Act.focus Bridge.directory (fun b d => { b with directory := d }) a

/-- The metadata of a registration's service, sorted by key. -/
def metadataOf (r : Registration) : List (String × String) :=
  let base := [("plugin_id", r.id), (sourceKey, sourcePlugin), ("status", r.status.name),
    ("version", r.version)]
  (if r.author.isEmpty then [] else [("author", r.author)]) ++
  (if r.category.isEmpty then [] else [("category", r.category)]) ++ base

/-- The service of a registration as the configuration builds it, updated at `t`. -/
def serviceAt (c : BridgeConfig) (r : Registration) (t : Instant) : Service :=
  let address := match lookupField "address" r.config with
    | some (.str s) => if Text.isBlankText s then c.defaultAddress else s
    | _ => c.defaultAddress
  let port := match (lookupField "port" r.config).bind portOf with
    | some p => if p = 0 then c.defaultPort else p
    | none => c.defaultPort
  let tags := [c.serviceTag] ++ r.tags ++
    (if r.category.isEmpty then [] else ["category:" ++ r.category]) ++ ["version:" ++ r.version]
  { id := r.id, name := r.name, address, port, tags, metadata := metadataOf r
    health := ServiceHealth.ofRegistration r, registeredAt := r.registeredAt, updatedAt := t }

/-- Builds the service of a registration, stamped now. -/
def toService (r : Registration) : Act Bridge Service := do
  let t ← Act.now
  return serviceAt (← Act.self).config r t

/-- Registers a plugin's service, replacing the one it has. -/
def register (r : Registration) : Act Bridge Service := do
  let s ← toService r
  let existing := ((← Act.self).directory.find? r.id).isSome
  let pushed ← onDirectory (Act.attempt (if existing then Directory.update s else Directory.register s))
  match pushed with
  | .ok () => return s
  | .error e => Act.fail (.bridge ("register service " ++ r.id ++ ": " ++ e.message))

/-- Removes a plugin's service. -/
def deregister (id : String) : Act Bridge Unit := do
  match ← onDirectory (Act.attempt (Directory.deregister id)) with
  | .ok () => return ()
  | .error e => Act.fail (.bridge ("deregister service " ++ id ++ ": " ++ e.message))

/-- Pushes a registration's current state, registering it when it has no service. -/
def update (r : Registration) : Act Bridge Service := do
  let s ← toService r
  match ← onDirectory (Act.attempt (Directory.update s)) with
  | .ok () => return s
  | .error e =>
    if e.isNotFound then register r
    else Act.fail (.bridge ("update service " ++ r.id ++ ": " ++ e.message))

/-- Pushes only a registration's health. -/
def syncHealth (r : Registration) : Act Bridge Unit := do
  match ← onDirectory (Act.attempt (Directory.updateHealth r.id (ServiceHealth.ofRegistration r))) with
  | .ok () => return ()
  | .error e => Act.fail (.bridge ("update health " ++ r.id ++ ": " ++ e.message))

/-- Forwards a heartbeat. -/
def heartbeat (id : String) : Act Bridge Unit := do
  match ← onDirectory (Act.attempt (Directory.heartbeat id)) with
  | .ok () => return ()
  | .error e => Act.fail (.bridge ("heartbeat " ++ id ++ ": " ++ e.message))

/-- The service of a plugin. -/
def get (id : String) : Act Bridge Service := onDirectory (Directory.get id)

/-- The services that came from plugins, by id. -/
def listPluginServices : Act Bridge (List Service) := do
  return (← onDirectory Directory.list).filter fun s => s.meta? sourceKey == some sourcePlugin

/-- What a bulk push did: how many succeeded, and the id and failure of each that did not. -/
structure SyncReport where
  synced : Nat := 0
  failed : List (String × String) := []

/-- Pushes every registration in turn, collecting the failures. -/
def syncAll : List Registration → Act Bridge SyncReport
  | [] => return {}
  | r :: rs => do
    let result ← Act.attempt (update r)
    let rest ← syncAll rs
    match result with
    | .ok _ => return { rest with synced := rest.synced + 1 }
    | .error e => return { rest with failed := (r.id, e.message) :: rest.failed }

end Bridge

end Plugboard
