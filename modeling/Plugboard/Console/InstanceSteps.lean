import Plugboard.Console.ManagerSteps
/-!
# Instance sessions

Steps on one plugin instance, outside any manager: its lifecycle, events and data, what it
reports about itself, and, for a plugin described by a manifest, its state and configuration.
-/

namespace Plugboard.Console

open Json

/-- Runs an action of the instance. -/
def onInstance {α : Type} (f : α → Json) (a : Act Instance α) : Turn Instance Json := Turn.reply f a

/-- Answers with something of a manifest plugin; other plugins refuse. -/
def fromManifest (f : ManifestPlugin → Json) : Turn Instance Json := do
  match ← Turn.self with
  | .manifest p => Turn.ok (f p)
  | _ => Turn.refuse "not a manifest plugin"

/-- A step of an instance session. -/
def instanceSessionStep (op : String) (j : Json) : Turn Instance Json :=
  match op with
  | "metadata" => do Turn.ok (← Turn.self).metadata.toJson
  | "initialize" => do
    let c ← Turn.decode (typedOr j "config" (.dict .any) (.obj []))
    let config := match c with
      | .obj ms => ms
      | _ => []
    onInstance (fun _ => .null) (Instance.prepare config)
  | "start" => onInstance (fun _ => .null) Instance.start
  | "stop" => onInstance (fun _ => .null) Instance.stop
  | "cleanup" => onInstance (fun _ => .null) Instance.cleanup
  | "status" => do Turn.ok (← Turn.self).status.toJson
  | "handle_event" => do
    let e ← Turn.decode (eventArg j)
    onInstance (fun _ => .null) (Instance.handleEvent e)
  | "process_data" => onInstance (fun x => x) (Instance.processData ((arg? j "data").getD .null))
  | "is_native" => do Turn.ok (.bool (← Turn.self).native)
  | "debug" => do Turn.ok (.str (← Turn.self).debugText)
  | "state" => fromManifest fun p => .str p.state.name
  | "config" => fromManifest fun p => .obj p.config
  | _ => Turn.refuse ("unknown instance op " ++ op)

/-- The instance a request describes: a manifest plugin from its metadata and directory, or the
built-in echo plugin, made directly or by its module's factory. -/
def instanceArg (j : Json) : Decode Instance := do
  match ← text j "kind" with
  | "manifest" =>
    let m ← metadataValueArg j "metadata"
    let d := textOr j "directory" ""
    pure (.manifest (ManifestPlugin.create m d))
  | "echo" | "echo_factory" => pure (.echo {})
  | other => .error ("unknown instance kind " ++ other)

/-- The answer to an instance session request. -/
def instanceSession (request : Json) (env : Env) : Json :=
  session request env (do return .ok (← Reply.ofDecode (instanceArg request))) instanceSessionStep false

end Plugboard.Console
