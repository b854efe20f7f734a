import Plugboard.Console.Build
import Plugboard.Console.RegistrySteps
import Plugboard.Console.HubSteps
import Plugboard.Console.InstanceSteps
import Plugboard.Console.Stamp
import Plugboard.Json.Write
/-!
# Answering requests

A request is a JSON object with an `op` naming what to do. Before anything runs, the `files` it
lists are put on an empty disk, in name order, for the operations that work in a directory: a text becomes a file of that text, `null` a
directory, and any other value a file of its compact JSON. A file that cannot be placed refuses
the whole request. Then the operation runs and its answer has the clock's instants named by
rank.
-/

namespace Plugboard.Console

open Json

/-- Puts one listed file or directory on the disk: a directory with any missing ones above it,
or a file after the directories above it. -/
def placeFixture (d : Disk) (path : String) (v : Json) : Except OsError Disk :=
  let write (t : String) : Except OsError Disk := do
    let d ← match PathText.lexicalParent path with
      | some q => Disk.settle (d.makeDirAll q)
      | none => pure d
    d.writeFile path t
  match v with
  | .null => Disk.settle (d.makeDirAll path)
  | .str t => write t
  | other => write (compact other)

/-- The environment a request starts in: its files on an empty disk, and a fresh clock. The
first file that cannot be placed stops the request. -/
def startEnv (request : Json) : Except OsError Env := do
  let files := match request.field? "files" with
    | some (.obj members) => members
    | _ => []
  let disk ← files.foldlM (fun d (p, v) => placeFixture d p v) Disk.empty
  pure { disk := disk }

/-- Whether an operation works in a directory of its own, and so takes the request's files:
reading a hub configuration file, and sessions over stores, registries, managers and hubs. -/
def takesFiles (op : String) : Bool :=
  ["hub_config_file", "storage", "registry", "manager", "hub"].contains op

/-- The answer to a request. -/
def answer (request : Json) : Json :=
  let op := match request.field? "op" with
    | some (.str s) => s
    | _ => ""
  match (if takesFiles op then startEnv request else .ok {}) with
  | .error e => refusal e.text
  | .ok env =>
  match op with
  | "storage" => storeSession request env
  | "registry" => registrySession request env
  | "bridge" => bridgeSession request env
  | "manager" => managerSession request env
  | "hub" => hubSession request env
  | "event_bus" => busSession request env
  | "instance" => instanceSession request env
  | _ =>
    match pureReply op request <|> buildReply op request with
    | some r => stamp request (r.answer env).1 []
    | none => refusal ("unknown op " ++ op)

/-- The answer to a request line: a line that is not JSON is refused. -/
def answerLine (line : String) : String :=
  match Json.read line with
  | .ok request => compact (answer request)
  | .error f => compact (refusal f.text)

end Plugboard.Console
