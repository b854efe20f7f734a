import Plugboard.Env
import Plugboard.Registration.Filter
/-!
# The memory store

Registrations kept in memory, by id, until the store is closed. Closing empties the store, and
from then on every operation but closing and the health check fails.

The records are kept sorted by id with no id twice, so that a store is one value per content
and listing it needs no further ordering.
-/

namespace Plugboard

/-- Registrations in memory, sorted by id without repeats, and whether the store was closed. -/
structure MemoryStore where
  records : List Registration := []
  closed : Bool := false

namespace MemoryStore

-- ---------------------------------------------------------------------------
-- Records by id
-- ---------------------------------------------------------------------------

/-- Puts a registration into a list sorted by id, replacing one with its id. -/
def putIn (r : Registration) : List Registration → List Registration
  | [] => [r]
  | x :: xs =>
    if r.id = x.id then r :: xs
    else if r.id < x.id then r :: x :: xs
    else x :: putIn r xs

/-- The registration with an id. -/
def findIn (id : String) : List Registration → Option Registration
  | [] => none
  | x :: xs => if x.id = id then some x else findIn id xs

/-- The list without the registration with an id. -/
def removeFrom (id : String) : List Registration → List Registration
  | [] => []
  | x :: xs => if x.id = id then xs else x :: removeFrom id xs

/-- The registration stored under an id. -/
def find? (m : MemoryStore) (id : String) : Option Registration := findIn id m.records

/-- The store with a registration put in. -/
def insert (m : MemoryStore) (r : Registration) : MemoryStore :=
  { m with records := putIn r m.records }

/-- The store without the registration with an id. -/
def erase (m : MemoryStore) (id : String) : MemoryStore :=
  { m with records := removeFrom id m.records }

-- ---------------------------------------------------------------------------
-- Operations
-- ---------------------------------------------------------------------------

/-- The failure of every operation on a closed store. -/
def closedError : Error := .storage "memory storage is closed"

/-- Fails once the store is closed. -/
def ensureOpen : Act MemoryStore Unit := do
  if (← Act.self).closed then Act.fail closedError

/-- Stores a registration, replacing one with its id. -/
def save (r : Registration) : Act MemoryStore Unit := do
  ensureOpen
  Act.change (·.insert r)

/-- The registration with an id. -/
def get (id : String) : Act MemoryStore Registration := do
  ensureOpen
  match (← Act.self).find? id with
  | some r => return r
  | none => Act.fail (.notFound id)

/-- Removes the registration with an id; it must be there. -/
def delete (id : String) : Act MemoryStore Unit := do
  ensureOpen
  match (← Act.self).find? id with
  | some _ => Act.change (·.erase id)
  | none => Act.fail (.notFound id)

/-- Removes the registration with an id if it is there; closed or not. -/
def evict (id : String) : Act MemoryStore Unit :=
  Act.change (·.erase id)

/-- The registrations a filter selects. -/
def list (f : Filter) : Act MemoryStore (List Registration) := do
  ensureOpen
  return f.select (← Act.self).records

/-- Replaces a stored registration; one with its id must be there. -/
def update (r : Registration) : Act MemoryStore Unit := do
  ensureOpen
  match (← Act.self).find? r.id with
  | some _ => Act.change (·.insert r)
  | none => Act.fail (.notFound r.id)

/-- Changes a stored registration and stamps it as updated now. -/
def modify (id : String) (f : Registration → Registration) : Act MemoryStore Unit := do
  ensureOpen
  match (← Act.self).find? id with
  | some r =>
    let t ← Act.now
    Act.change (·.insert { f r with updatedAt := t })
  | none => Act.fail (.notFound id)

/-- Sets the status of a stored registration. -/
def updateStatus (id : String) (s : Status) : Act MemoryStore Unit :=
  modify id fun r => { r with status := s }

/-- Sets the metrics of a stored registration. -/
def updateMetrics (id : String) (metrics : Metrics) : Act MemoryStore Unit :=
  modify id fun r => { r with metrics := some metrics }

/-- The failure when no registration serves an endpoint. -/
def noEndpoint (e : String) : Error := .notFound ("no plugin serves endpoint " ++ e)

/-- The registration with the smallest id serving an endpoint. -/
def getByEndpoint (e : String) : Act MemoryStore Registration := do
  ensureOpen
  match (← Act.self).records.find? (·.hasEndpoint e) with
  | some r => return r
  | none => Act.fail (noEndpoint e)

/-- The registrations matching a text that a filter selects. -/
def search (q : String) (f : Filter) : Act MemoryStore (List Registration) := do
  ensureOpen
  return f.select ((← Act.self).records.filter (matchesText · q))

/-- Closes the store, dropping everything in it. -/
def close : Act MemoryStore Unit :=
  Act.put { records := [], closed := true }

/-- Whether the store is open. -/
def healthCheck : Act MemoryStore Bool := do
  return !(← Act.self).closed

/-- How many registrations are stored. -/
def count : Act MemoryStore Nat := do
  ensureOpen
  return (← Act.self).records.length

end MemoryStore

end Plugboard
