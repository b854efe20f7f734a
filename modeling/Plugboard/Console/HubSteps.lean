import Plugboard.Console.RegistrySteps
import Plugboard.Console.ManagerSteps
import Plugboard.Hub.Basic
/-!
# Hub sessions

Steps on a whole hub: installing and removing plugins, shutting it down, building it again from
its configuration on the same disk, and the steps of its registry, store, manager and bridge.

Building the hub again drops the old one, with the subscriptions held on its registry and the
watcher of its bridge.
-/

namespace Plugboard.Console

open Json

/-- A hub with what a session holds beside it: the configuration and modules it was built
from, the subscriptions held under names, and the bridge's watcher. -/
structure HubView where
  hub : Hub
  config : HubConfig
  modules : ModuleTable
  subs : List (String × Nat) := []
  watcher : Option Nat := none

namespace HubView

/-- The registry side of the view. -/
def registryView (v : HubView) : RegistryView :=
  { registry := v.hub.registry, subs := v.subs, watcher := v.watcher }

/-- Puts a changed registry side back. -/
def withRegistryView (v : HubView) (r : RegistryView) : HubView :=
  { v with hub := { v.hub with registry := r.registry }, subs := r.subs, watcher := r.watcher }

end HubView

/-- Runs an action of the hub. -/
def onHub {α : Type} (f : α → Json) (a : Act Hub α) : Turn HubView Json :=
  Turn.focus HubView.hub (fun v h => { v with hub := h }) (Turn.reply f a)

/-- Runs a registry step on the hub's registry. -/
def onHubRegistry (t : Turn RegistryView Json) : Turn HubView Json :=
  Turn.focus HubView.registryView HubView.withRegistryView t

/-- Runs a manager step on the hub's manager. -/
def onHubManager (t : Turn Manager Json) : Turn HubView Json :=
  Turn.focus (fun (v : HubView) => v.hub.manager)
    (fun v m => { v with hub := { v.hub with manager := m } }) t

/-- A bridge step, on the hub's bridge. -/
def hubBridgeStep (inner : String) (j : Json) : Turn HubView Json :=
  onHubRegistry (registryBridgeStep inner j)

/-- Builds the hub again from its configuration and modules, on the disk as it is now, dropping
the subscriptions and the watcher held on the old one. -/
def reopen : Turn HubView Json := do
  let v ← Turn.self
  match ← Turn.act (Hub.create v.config v.modules) with
  | .error e => return errorAnswer e
  | .ok h =>
    Turn.change fun v => { v with hub := h, subs := [], watcher := none }
    Turn.ok .null

/-- A step of a hub session. -/
def hubSessionStep (op : String) (j : Json) : Turn HubView Json :=
  match op with
  | "install" => do
    onHub Registration.toJson (Hub.install (textOr j "path" ""))
  | "uninstall" => onHub (fun _ => .null) (Hub.uninstall (textOr j "id" ""))
  | "shutdown" => onHub (fun _ => .null) Hub.shutdown
  | "reopen" => reopen
  | _ =>
    if op.startsWith "reg." then
      let inner := (op.drop "reg.".length).toString
      match registryStep inner j with
      | some t => onHubRegistry t
      | none => Turn.refuse ("unknown registry op " ++ inner)
    else if op.startsWith "storage." then
      onHubRegistry (registryStoreStep (op.drop "storage.".length).toString j)
    else if op.startsWith "mgr." then
      let inner := (op.drop "mgr.".length).toString
      match (if inner == "sandbox_permissions" then none else managerStep inner j) with
      | some t => onHubManager t
      | none => Turn.refuse ("unknown manager op " ++ inner)
    else if op.startsWith "bridge." then hubBridgeStep (op.drop "bridge.".length).toString j
    else Turn.refuse ("unknown hub op " ++ op)

/-- The configuration a hub request gives: JSON text, or an object read as its compact text;
the manager's resources are sampled only when asked. -/
def hubConfigArg (request : Json) : Outcome HubConfig :=
  let parsed := match arg? request "config" with
    | some (.str t) => HubConfig.parse t
    | some v => HubConfig.parse (compact v)
    | none => .ok {}
  parsed.map fun c => { c with manager := { monitorIntervalMs := 3600000 } }

/-- The answer to a hub session request. -/
def hubSession (request : Json) (env : Env) : Json :=
  session request env
    (do
      match hubConfigArg request with
      | .error e => return .error e
      | .ok config =>
        let modules ← Reply.ofDecode (modulesArg request)
        let h ← Reply.act (Hub.create config modules)
        return h.map fun hub => { hub, config, modules })
    hubSessionStep true

end Plugboard.Console
