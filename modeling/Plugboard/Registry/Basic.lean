import Plugboard.Store.Basic
import Plugboard.Bridge.Basic
import Plugboard.Registry.Events
/-!
# The registry

The registry is the system of record for registrations: a map by id, a store holding their
durable copy, an optional bridge to service discovery, and an event bus.

Every change follows one pattern: change the map, write the store, and if the store refuses,
put the map back as it was and fail with the store's error in context; then tell the bridge, whose
failures are only noted; then announce the change on the bus. So a failed call leaves the map as
it found it and announces nothing.

Registering the same id and version again keeps the first registration time; a new version
starts it afresh. A registration is always stored as `registered`, seen and updated at the
instant of registering.
-/

namespace Plugboard

/-- The event types the registry announces. -/
def registeredEvent : String := "plugin.registered"
def unregisteredEvent : String := "plugin.unregistered"
def statusChangedEvent : String := "plugin.status_changed"
def healthUpdatedEvent : String := "plugin.health_updated"
def metricsUpdatedEvent : String := "plugin.metrics_updated"

/-- How a registry is set up: the capacity of its subscriptions' queues. -/
structure RegistryConfig where
  eventQueueCapacity : Nat := 100

/-- The verdict on a registry: unhealthy when more than half its registrations are inactive,
degraded when any are, healthy otherwise. Counts add up in machine words, wrapping around. -/
structure RegistryHealth where
  verdict : Verdict
  total : Nat
  /-- Registrations per status, only the statuses that have any. -/
  counts : List (Status × Nat)

/-- The size of a machine word's range. -/
def wordRange : Nat := Nat.pow 2 64

/-- The verdict on per-status counts. -/
def RegistryHealth.ofCounts (counts : List (Status × Nat)) : RegistryHealth :=
  let total := counts.foldl (fun acc c => (acc + c.2) % wordRange) 0
  let inactive := ((counts.find? (·.1 == .inactive)).map (·.2)).getD 0
  let verdict :=
    if (inactive * 2) % wordRange > total then .unhealthy
    else if inactive > 0 then .degraded
    else .healthy
  { verdict, total, counts }

/-- The registry. -/
structure Registry where
  /-- Sorted by id, no id twice. -/
  plugins : List Registration := []
  store : Store
  bridge : Option Bridge := none
  bus : EventBus

namespace Registry

variable {α : Type}

/-- A registry over a store, with no registrations. -/
def create (store : Store) (config : RegistryConfig) : Registry :=
  { store, bus := EventBus.create config.eventQueueCapacity }

/-- Runs an operation on the store. -/
def onStore (a : Act Store α) : Act Registry α :=
  Act.focus Registry.store (fun r s => { r with store := s }) a

/-- Runs an operation on the bridge, if there is one. -/
def onBridge (a : Act Bridge α) : Act Registry (Option (Outcome α)) := do
  match (← Act.self).bridge with
  | none => return none
  | some b =>
    let r ← Act.focus (fun _ => b) (fun reg b' => { reg with bridge := some b' }) (Act.attempt a)
    return some r

/-- The registration with an id. -/
def find? (r : Registry) (id : String) : Option Registration := MemoryStore.findIn id r.plugins

/-- Puts a registration into the map. -/
def insert (r : Registration) : Act Registry Unit :=
  Act.change fun reg => { reg with plugins := MemoryStore.putIn r reg.plugins }

/-- Takes the registration with an id out of the map. -/
def remove (id : String) : Act Registry Unit :=
  Act.change fun reg => { reg with plugins := MemoryStore.removeFrom id reg.plugins }

/-- Puts back what the map held for an id before a change. -/
def revert (id : String) (previous : Option Registration) : Act Registry Unit :=
  match previous with
  | some p => insert p
  | none => remove id

/-- Announces an event on the bus. -/
def emit (e : Event) : Act Registry Unit :=
  Act.change fun reg => { reg with bus := (reg.bus.publish e).1 }

/-- Runs a store write; if it fails, puts the map back and fails with the error in context. -/
def persist (id : String) (previous : Option Registration) (context : String)
    (a : Act Store Unit) : Act Registry Unit := do
  match ← onStore (Act.attempt a) with
  | .ok () => return ()
  | .error e =>
    revert id previous
    Act.fail (e.context context)

/-- Fills the map from the store; how many records it read. -/
def load : Act Registry Nat := do
  match ← onStore (Act.attempt (Store.list {})) with
  | .error e => Act.fail (e.context "load registrations")
  | .ok stored =>
    for r in stored do insert r
    return stored.length

/-- Registers a plugin, or refreshes or supersedes its registration. -/
def register (r : Registration) : Act Registry Registration := do
  Act.ofOutcome r.validate
  let ts ← Act.now
  let previous := (← Act.self).find? r.id
  let (registeredAt, refreshed) := match previous with
    | some old => if old.version == r.version then (old.registeredAt, true) else (ts, false)
    | none => (ts, false)
  let reg := { r with registeredAt, status := .registered, lastSeen := ts, updatedAt := ts }
  insert reg
  persist reg.id previous "persist registration" (Store.save reg)
  match ← onBridge (Bridge.register reg) with
  | some (.error e) =>
    revert reg.id previous
    let _ ← onStore (Act.attempt (match previous with
      | some p => Store.save p
      | none => Store.delete reg.id))
    Act.fail e
  | _ => pure ()
  emit { eventType := registeredEvent, pluginId := reg.id,
         payload := [("refreshed", .bool refreshed), ("version", .str reg.version)] }
  return reg

/-- Removes a plugin: from the store first, where its absence is no failure, then from the map;
then service discovery forgets it. -/
def unregister (id : String) : Act Registry Unit := do
  let some old := (← Act.self).find? id | Act.fail (.notFound id)
  match ← onStore (Act.attempt (Store.delete id)) with
  | .error e => if !e.isNotFound then Act.fail (e.context "delete registration")
  | .ok () => pure ()
  remove id
  emit { eventType := unregisteredEvent, pluginId := id,
         payload := [("new_status", .str Status.unregistered.name), ("old_status", .str old.status.name)] }
  let _ ← onBridge (Bridge.deregister id)

/-- Changes a plugin's status; nothing happens when it already has it. -/
def updateStatus (id : String) (s : Status) : Act Registry Registration := do
  let some old := (← Act.self).find? id | Act.fail (.notFound id)
  if old.status == s then return old
  let t ← Act.now
  let updated := { old with status := s, updatedAt := t }
  insert updated
  persist id (some old) "persist status" (Store.updateStatus id s)
  let _ ← onBridge (Bridge.update updated)
  emit { eventType := statusChangedEvent, pluginId := id,
         payload := [("new_status", .str s.name), ("old_status", .str old.status.name)] }
  return updated

/-- Changes a registration in the map and stamps it as updated now; before and after. -/
def modify (id : String) (f : Act Registry (Registration → Registration)) :
    Act Registry (Registration × Registration) := do
  let some old := (← Act.self).find? id | Act.fail (.notFound id)
  let change ← f
  let t ← Act.now
  let updated := { change old with updatedAt := t }
  insert updated
  return (old, updated)

/-- Records that a plugin was seen now. -/
def heartbeat (id : String) : Act Registry Unit := do
  let (old, updated) ← modify id do
    let t ← Act.now
    return fun r => { r with lastSeen := t }
  persist id (some old) "persist heartbeat" (Store.update updated)
  let _ ← onBridge (Bridge.heartbeat id)

/-- Records a plugin's health report. -/
def updateHealth (id : String) (h : HealthReport) : Act Registry Unit := do
  let (old, updated) ← modify id (pure fun r => { r with health := some h })
  persist id (some old) "persist health" (Store.update updated)
  let _ ← onBridge (Bridge.syncHealth updated)
  emit { eventType := healthUpdatedEvent, pluginId := id,
         payload := [("status", .str h.verdict.name)] }

/-- Records a plugin's metrics. -/
def updateMetrics (id : String) (m : Metrics) : Act Registry Unit := do
  let (old, _) ← modify id (pure fun r => { r with metrics := some m })
  persist id (some old) "persist metrics" (Store.updateMetrics id m)
  emit { eventType := metricsUpdatedEvent, pluginId := id,
         payload := [("request_count", Json.ofNat m.requestCount)] }

/-- The registration with an id. -/
def get (id : String) : Act Registry Registration := do
  match (← Act.self).find? id with
  | some r => return r
  | none => Act.fail (.notFound id)

/-- The registrations a filter selects. -/
def list (r : Registry) (f : Filter) : List Registration := f.select r.plugins

/-- Fills the map from the store and, when it read anything, pushes every registration to the
bridge; how many records it read. -/
def restore : Act Registry Nat := do
  let restored ← load
  if restored > 0 then
    let _ ← onBridge (Bridge.syncAll ((← Act.self).list {}))
  pure restored

/-- The registrations meeting criteria, by id, at most the criteria's limit of them. -/
def discover (r : Registry) (c : Criteria) : List Registration :=
  let found := Filter.byId (r.plugins.filter c.admits)
  match c.limit with
  | some n => found.take n
  | none => found

/-- How many registrations have each status, for the statuses that have any. -/
def countByStatus (r : Registry) : List (Status × Nat) :=
  (Status.all.map fun s => (s, (r.plugins.filter (·.status == s)).length)).filter (·.2 > 0)

/-- The verdict on the registry's registrations. -/
def health (r : Registry) : RegistryHealth := RegistryHealth.ofCounts r.countByStatus

/-- How many registrations there are. -/
def count (r : Registry) : Nat := r.plugins.length

/-- Removes every subscription and closes the store; the map stays. -/
def close : Act Registry Unit := do
  Act.change fun reg => { reg with bus := reg.bus.close }
  onStore Store.close

/-- Subscribes to event types, or to all when none are given. -/
def subscribe (types : List String) : Act Registry Nat := do
  let reg ← Act.self
  let (bus, n) := reg.bus.subscribe types
  Act.put { reg with bus }
  return n

end Registry

end Plugboard
