import Plugboard.Console.Turn
import Plugboard.Console.Pure
/-!
# Store sessions

Steps on a store: every operation of the store interface, plus, in a session of its own, opening
the store afresh from its configuration, asking a file store for its directory, and running a
step of the store interface on the backend behind a cache directly.
-/

namespace Plugboard.Console

open Json

/-- The status an argument names. -/
def statusArg (j : Json) (k : String) : Decode Status := do
  return statusOf (← typed j k Status.shape)

/-- Metrics given as an argument; left out, they are all zero. -/
def metricsArg (j : Json) (k : String) : Decode Metrics := do
  return Metrics.ofJson (← typedOr j k Metrics.shape (.obj []))

/-- A list of registrations as JSON. -/
def registrationsJson (rs : List Registration) : Json := .arr (rs.map Registration.toJson)

/-- Their ids as JSON. -/
def idsJson (rs : List Registration) : Json := Json.ofStrings (rs.map (·.id))

/-- A step of the store interface, or none when the step is not one. -/
def storeStep (op : String) (j : Json) : Option (Turn Store Json) :=
  match op with
  | "save" => some do
    let r ← Turn.decode (registration j "reg")
    Turn.reply (fun _ => .null) (Store.save r)
  | "get" => some do
    let id ← Turn.decode (text j "id")
    Turn.reply Registration.toJson (Store.get id)
  | "delete" => some do
    let id ← Turn.decode (text j "id")
    Turn.reply (fun _ => .null) (Store.delete id)
  | "list" => some do
    let f ← Turn.decode (filterArg j "filter")
    Turn.reply registrationsJson (Store.list f)
  | "list_ids" => some do
    let f ← Turn.decode (filterArg j "filter")
    Turn.reply idsJson (Store.list f)
  | "update" => some do
    let r ← Turn.decode (registration j "reg")
    Turn.reply (fun _ => .null) (Store.update r)
  | "update_status" => some do
    let id ← Turn.decode (text j "id")
    let s ← Turn.decode (statusArg j "status")
    Turn.reply (fun _ => .null) (Store.updateStatus id s)
  | "update_metrics" => some do
    let id ← Turn.decode (text j "id")
    let m ← Turn.decode (metricsArg j "metrics")
    Turn.reply (fun _ => .null) (Store.updateMetrics id m)
  | "get_by_endpoint" => some do
    let e ← Turn.decode (text j "endpoint")
    Turn.reply Registration.toJson (Store.getByEndpoint e)
  | "search" => some do
    let q ← Turn.decode (text j "query")
    let f ← Turn.decode (filterArg j "filter")
    Turn.reply idsJson (Store.search q f)
  | "close" => some (Turn.reply (fun _ => .null) Store.close)
  | "health_check" => some (Turn.reply Json.bool Store.healthCheck)
  | "count" => some (Turn.reply Json.ofNat Store.count)
  | "backend_type" => some do
    return .obj [("ok", .str (← Turn.self).kind.name)]
  | _ => none

/-- A store session: the store and the configuration it was made from. -/
structure StoreSession where
  store : Store
  config : StoreConfig

/-- Runs a store step on a session's store. -/
def onSessionStore (t : Turn Store Json) : Turn StoreSession Json :=
  Turn.focus StoreSession.store (fun s st => { s with store := st }) t

/-- A step of a store session. -/
def storeSessionStep (op : String) (j : Json) : Turn StoreSession Json :=
  match op with
  | "reopen" => do
    let s ← Turn.self
    match ← Turn.act (Store.create s.config) with
    | .ok st => do
      Turn.change fun s => { s with store := st }
      Turn.ok .null
    | .error e => return errorAnswer e
  | "directory" => do
    match (← Turn.self).store with
    | .single (.file f) => Turn.ok (.str f.directory)
    | _ => Turn.refuse "not a file storage"
  | _ =>
    if op.startsWith "backend." then do
      match (← Turn.self).store with
      | .cached _ _ =>
        let inner := (op.drop "backend.".length).toString
        let step : Turn Store Json := match storeStep inner j with
          | some t => t
          | none => Turn.refuse ("unknown storage op " ++ inner)
        Turn.focus (fun s => Store.single s.store.backend)
          (fun s st => match st with
            | .single t => { s with store := s.store.withBackend t }
            | _ => s) step
      | _ => Turn.refuse "not a cached storage"
    else
      match storeStep op j with
      | some t => onSessionStore t
      | none => Turn.refuse ("unknown storage op " ++ op)

/-- The answer to a store session request. -/
def storeSession (request : Json) (env : Env) : Json :=
  session request env
    (do
      let c ← Reply.ofDecode (storeConfigArg request "storage")
      let r ← Reply.act (Store.create c)
      return r.map fun s => { store := s, config := c })
    storeSessionStep true

end Plugboard.Console
