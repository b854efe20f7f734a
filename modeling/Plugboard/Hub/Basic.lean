import Plugboard.Hub.Config
import Plugboard.Discovery.Basic
/-!
# The hub

The hub builds every component from one configuration and wires them together: the store under
the registry, the bridge beside it when enabled, and the loader and sandbox under the manager.
Building it fills the registry from the store and, when anything was restored and there is a
bridge, pushes every restored registration to service discovery.

Installing a plugin loads it, registers it, and starts it: a failed registration unloads it
again, and a failed start leaves it registered as inactive; otherwise it becomes active.
-/

namespace Plugboard

/-- Every component, wired together. -/
structure Hub where
  registry : Registry
  manager : Manager

namespace Hub

variable {σ α : Type}

/-- Runs an operation on the registry. -/
def onRegistry (a : Act Registry α) : Act Hub α :=
  Act.focus Hub.registry (fun h r => { h with registry := r }) a

/-- Runs an operation on the manager. -/
def onManager (a : Act Manager α) : Act Hub α :=
  Act.focus Hub.manager (fun h m => { h with manager := m }) a

/-- Builds a hub from a configuration and the modules linked into the build. -/
def create (config : HubConfig) (modules : ModuleTable) : Act σ Hub := do
  let store ← Store.create config.storage
  let bridge : Option Bridge := if config.bridge.enabled then some { config := config.bridge } else none
  let registry := { Registry.create store config.registry with bridge }
  let st ← get
  let (r, registry, env) := Registry.restore.exec registry st.2
  set (st.1, env)
  let _ ← Act.ofOutcome r
  let manager : Manager :=
    { loader := { config := config.loader, modules }, sandbox := { config := config.sandbox } }
  return { registry, manager }

/-- Loads, registers and starts the plugin at a path; its active registration. -/
def install (path : String) : Act Hub Registration := do
  let info ← onManager (Manager.load path)
  let id := info.id
  let t ← Act.now
  match ← Act.attempt (onRegistry (Registry.register (info.metadata.toRegistration t))) with
  | .error e =>
    let _ ← Act.attempt (onManager (Manager.unload id))
    Act.fail e
  | .ok _ =>
    match ← Act.attempt (onManager (Manager.start id)) with
    | .error e =>
      let _ ← onRegistry (Registry.updateStatus id .inactive)
      Act.fail e
    | .ok () => onRegistry (Registry.updateStatus id .active)

/-- Unloads a plugin if it is loaded, and removes its registration. -/
def uninstall (id : String) : Act Hub Unit := do
  match ← Act.attempt (onManager (Manager.unload id)) with
  | .error e => if !e.isNotFound then Act.fail e
  | .ok () => pure ()
  onRegistry (Registry.unregister id)

/-- Stops every plugin and closes the registry. -/
def shutdown : Act Hub Unit := do
  onManager Manager.shutdown
  onRegistry Registry.close

end Hub

end Plugboard
