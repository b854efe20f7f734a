import Plugboard.Registry.Basic
/-!
# Registry calls on one id, step by step

The registry holds its map's lock only for the map sections of a call: the store, the bridge and
the bus are called with the lock released. Calls on one id that run at once therefore interleave
at those points, and this module makes each of them one step. A call in progress is a `Task`: its
next step, with what it has computed so far. `Task.step` takes that step over what the calls
share, which is the map's entry for the id, the store's record of it and the clock; `interleave`
runs tasks over a schedule, which names the task that steps next and says whether the store call
it makes fails.

The steps follow the calls one for one:

* `register`: validating the registration and reading the clock; the map section, which writes
  the registration and keeps the entry it replaced; saving it; the bridge; the bus.
* `update_status`, `heartbeat`, `update_health`, `update_metrics`: the map section, which changes
  the entry and stamps it updated (a status the entry already has returns there); the store
  write; the calls of the bridge and the bus each of them makes.
* `unregister`: finding the id; deleting the stored record, where a missing one is no failure;
  the map section that takes the id out; the bus; the bridge.
* After a store write that failed, the revert: a map section that puts back the entry the call
  replaced, if the map still holds what the call wrote. Every write to the map stamps a reading
  of the clock of its own, so the map holds what the call wrote exactly when its entry carries
  the same stamp.

A registration's bridge call, taken as one step, updates the service when there is one and
registers it when there is none, so it does not fail (`Bridge.neverFails_register`); the undoing
that follows a refusal of the bridge is therefore no step here. The bridge's and the bus's other calls change neither the map
nor the store, whatever they answer.
-/

namespace Plugboard

namespace Registry

/-- The calls that write one id's registration, as a request to the registry. -/
inductive Request where
  | register (r : Registration)
  | updateStatus (s : Status)
  | heartbeat
  | updateHealth (h : HealthReport)
  | updateMetrics (m : Metrics)
  | unregister

/-- What the calls on one id share: the map's entry for it, the store's record of it, and the
clock. -/
structure Shared where
  entry : Option Registration
  stored : Option Registration
  clock : Clock

/-- A write of the id's record in the store. -/
inductive StoreWrite where
  /-- Writes the record, there or not. -/
  | save (r : Registration)
  /-- Replaces the record, which must be there. -/
  | update (r : Registration)
  /-- Changes the record, which must be there, and stamps it updated now. -/
  | modify (f : Registration → Registration)

/-- The store after a write, or `none` when the record the write needs is not there. -/
def StoreWrite.apply : StoreWrite → Shared → Option Shared
  | .save r, s => some { s with stored := some r }
  | .update r, s => s.stored.map fun _ => { s with stored := some r }
  | .modify f, s => s.stored.map fun x =>
      { s with stored := some { f x with updatedAt := s.clock.now.1 }, clock := s.clock.now.2 }

/-- A call in progress: its next step, and what it carries to it. -/
inductive Task where
  /-- Not started. -/
  | call (c : Request)
  /-- A registration validated and given the instant `ts`; the map section is next. -/
  | stamped (r : Registration) (ts : Instant)
  /-- The map holds `applied` where it held `previous`; the store write `w` is next, then
  `notices` calls of the bridge and the bus. -/
  | persisting (w : StoreWrite) (applied : Registration) (previous : Option Registration)
      (notices : Nat)
  /-- The store write failed; the revert is next. -/
  | reverting (applied : Registration) (previous : Option Registration)
  /-- An unregistration that found the id; the store's delete is next. -/
  | deleting
  /-- An unregistration past the store; taking the id out of the map is next. -/
  | removing
  /-- A call that left `wrote` in the map, `n` calls of the bridge and the bus before it
  returns. -/
  | notifying (n : Nat) (wrote : Option Registration)
  /-- Returned, `Ok` or not; `wrote` is what a call that returned `Ok` left in the map, if it
  wrote it. -/
  | done (ok : Bool) (wrote : Option (Option Registration))

/-- What `register` writes into the map for `r` at the instant `ts` over the entry `existing`:
the same version keeps its registration time. -/
def registered (r : Registration) (ts : Instant) (existing : Option Registration) :
    Registration :=
  let registeredAt := match existing with
    | some old => if old.version == r.version then old.registeredAt else ts
    | none => ts
  { r with registeredAt, status := .registered, lastSeen := ts, updatedAt := ts }

/-- The map section of `heartbeat`, `update_health` and `update_metrics`: changes the entry by
`change`, which may read the clock, and stamps it updated now. The store write `w` of the
changed entry and `notices` calls of the bridge and the bus follow. -/
def modifyStep (change : Clock → (Registration → Registration) × Clock)
    (w : Registration → StoreWrite) (notices : Nat) (s : Shared) : Task × Shared :=
  match s.entry with
  | none => (.done false none, s)
  | some old =>
    let updated := { (change s.clock).1 old with updatedAt := (change s.clock).2.now.1 }
    (.persisting (w updated) updated (some old) notices,
      { s with entry := some updated, clock := (change s.clock).2.now.2 })

namespace Task

/-- One step of a task; `fails` says whether the store call it makes, if it makes one, fails. -/
def step (fails : Bool) : Task → Shared → Task × Shared
  | .call (.register r), s =>
    match r.validate with
    | .error _ => (.done false none, s)
    | .ok () => (.stamped r s.clock.now.1, { s with clock := s.clock.now.2 })
  | .stamped r ts, s =>
    (.persisting (.save (registered r ts s.entry)) (registered r ts s.entry) s.entry 2,
      { s with entry := some (registered r ts s.entry) })
  | .call (.updateStatus st), s =>
    match s.entry with
    | none => (.done false none, s)
    | some old =>
      if old.status = st then (.done true none, s)
      else
        (.persisting (.modify fun r => { r with status := st })
            { old with status := st, updatedAt := s.clock.now.1 } (some old) 2,
          { s with entry := some { old with status := st, updatedAt := s.clock.now.1 }
                   clock := s.clock.now.2 })
  | .call .heartbeat, s =>
    modifyStep (fun c => (fun r => { r with lastSeen := c.now.1 }, c.now.2)) .update 1 s
  | .call (.updateHealth h), s =>
    modifyStep (fun c => (fun r => { r with health := some h }, c)) .update 2 s
  | .call (.updateMetrics m), s =>
    modifyStep (fun c => (fun r => { r with metrics := some m }, c))
      (fun _ => .modify fun r => { r with metrics := some m }) 1 s
  | .call .unregister, s =>
    match s.entry with
    | none => (.done false none, s)
    | some _ => (.deleting, s)
  | .persisting w applied previous n, s =>
    if fails then (.reverting applied previous, s)
    else match w.apply s with
      | none => (.reverting applied previous, s)
      | some s' => (.notifying n (some applied), s')
  | .reverting applied previous, s =>
    if s.entry.map (·.updatedAt) = some applied.updatedAt then
      (.done false none, { s with entry := previous })
    else (.done false none, s)
  | .deleting, s =>
    if fails then (.done false none, s) else (.removing, { s with stored := none })
  | .removing, s =>
    match s.entry with
    | none => (.done false none, s)
    | some _ => (.notifying 2 none, { s with entry := none })
  | .notifying 0 w, s => (.done true (some w), s)
  | .notifying (n + 1) w, s => (.notifying n w, s)
  | .done ok w, s => (.done ok w, s)

end Task

/-- Steps the task at `i`, if there is one. -/
def stepAt (ts : List Task) (i : Nat) (fails : Bool) (s : Shared) : List Task × Shared :=
  match ts[i]? with
  | none => (ts, s)
  | some t => (ts.set i (t.step fails s).1, (t.step fails s).2)

/-- Runs tasks over a schedule, whose entries name the task that steps and say whether the store
call it makes fails. -/
def interleave : List Task → List (Nat × Bool) → Shared → List Task × Shared
  | ts, [], s => (ts, s)
  | ts, (i, f) :: sch, s => interleave (stepAt ts i f s).1 sch (stepAt ts i f s).2

end Registry

end Plugboard
