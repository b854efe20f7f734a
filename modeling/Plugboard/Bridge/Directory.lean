import Plugboard.Env
import Plugboard.Registration.Codec
/-!
# The service directory

A directory of services kept in memory, as service discovery sees them: each service has an id,
a name, an address and port, tags, text metadata, a health, and the instants it was registered,
last updated and last heard from.

Every successful change is announced on the directory's change stream. A watcher reads the
stream from where it started watching; the stream keeps only the last 64 announcements, so a
watcher that falls further behind is told how many it missed and goes on from the oldest kept.
-/

namespace Plugboard

/-- How service discovery sees a service's health. -/
inductive ServiceHealth where
  | passing
  | warning
  | critical
  | unknown
  deriving DecidableEq

namespace ServiceHealth

/-- Every health, in declaration order. -/
def all : List ServiceHealth := [.passing, .warning, .critical, .unknown]

/-- The name of a health. -/
def name : ServiceHealth → String
  | .passing => "passing"
  | .warning => "warning"
  | .critical => "critical"
  | .unknown => "unknown"

/-- The health with a name. -/
def ofName? (s : String) : Option ServiceHealth := all.find? (·.name == s)

/-- The health a plugin's status stands for. -/
def ofStatus : Status → ServiceHealth
  | .active => .passing
  | .registered | .inactive | .maintenance => .warning
  | .deprecated | .unregistered => .critical

/-- The health of a registration: its health report's verdict when it has a known one, and its
status otherwise. -/
def ofRegistration (r : Registration) : ServiceHealth :=
  match r.health.map HealthReport.verdict with
  | some .healthy => .passing
  | some .degraded => .warning
  | some .unhealthy => .critical
  | _ => ofStatus r.status

end ServiceHealth

/-- A service as service discovery records it. -/
structure Service where
  id : String
  name : String
  address : String
  port : Nat
  tags : List String
  /-- Sorted by key. -/
  metadata : List (String × String)
  health : ServiceHealth
  registeredAt : Instant
  updatedAt : Instant
  lastHeartbeat : Option Instant := none

namespace Service

/-- `address:port`. -/
def endpoint (s : Service) : String := s.address ++ ":" ++ toString s.port

/-- The metadata value under a key. -/
def meta? (s : Service) (k : String) : Option String := (s.metadata.find? (·.1 == k)).map (·.2)

/-- A service as JSON, with its endpoint. -/
def toJson (s : Service) : Json :=
  .obj [("id", .str s.id), ("name", .str s.name), ("address", .str s.address),
    ("port", Json.ofNat s.port), ("tags", Json.ofStrings s.tags),
    ("metadata", .obj (s.metadata.map fun (k, v) => (k, .str v))),
    ("health", .str s.health.name), ("registered_at", s.registeredAt.toJson),
    ("updated_at", s.updatedAt.toJson),
    ("last_heartbeat", Json.ofOption Instant.toJson s.lastHeartbeat),
    ("endpoint", .str s.endpoint)]

end Service

/-- An announcement on the change stream. -/
inductive ServiceEvent where
  | registered (s : Service)
  | updated (s : Service)
  | deregistered (id : String)
  | healthChanged (id : String) (health : ServiceHealth)

/-- What a watcher reads: an announcement, or how many it missed. -/
inductive Sighting where
  | event (e : ServiceEvent)
  | lagged (skipped : Nat)

/-- The services, sorted by id, and every announcement made, oldest first. -/
structure Directory where
  services : List Service := []
  events : List ServiceEvent := []

namespace Directory

/-- How many announcements the change stream keeps. -/
def streamCapacity : Nat := 64

/-- Puts a service into a list sorted by id, replacing one with its id. -/
def putIn (s : Service) : List Service → List Service
  | [] => [s]
  | x :: xs =>
    if s.id = x.id then s :: xs
    else if s.id < x.id then s :: x :: xs
    else x :: putIn s xs

/-- The service with an id. -/
def find? (d : Directory) (id : String) : Option Service := d.services.find? (·.id == id)

/-- The failure for a missing service. -/
def missing (id : String) : Error := .notFound ("service " ++ id)

/-- Announces a change. -/
def announce (e : ServiceEvent) : Act Directory Unit :=
  Act.change fun d => { d with events := d.events ++ [e] }

/-- Adds a service; its id must be new. -/
def register (s : Service) : Act Directory Unit := do
  if ((← Act.self).find? s.id).isSome then Act.fail (.alreadyExists ("service " ++ s.id))
  Act.change fun d => { d with services := putIn s d.services }
  announce (.registered s)

/-- Removes a service; it must be there. -/
def deregister (id : String) : Act Directory Unit := do
  if ((← Act.self).find? id).isNone then Act.fail (missing id)
  Act.change fun d => { d with services := d.services.filter (·.id != id) }
  announce (.deregistered id)

/-- Replaces a service; one with its id must be there. -/
def update (s : Service) : Act Directory Unit := do
  if ((← Act.self).find? s.id).isNone then Act.fail (missing s.id)
  Act.change fun d => { d with services := putIn s d.services }
  announce (.updated s)

/-- Every service, by id. -/
def list : Act Directory (List Service) := do
  return (← Act.self).services

/-- Sets a service's health and stamps it as updated; announced only when it changed. -/
def updateHealth (id : String) (h : ServiceHealth) : Act Directory Unit := do
  match (← Act.self).find? id with
  | none => Act.fail (missing id)
  | some s =>
    let t ← Act.now
    Act.change fun d => { d with services := putIn { s with health := h, updatedAt := t } d.services }
    if s.health != h then announce (.healthChanged id h)

/-- Records that a service was heard from now. -/
def heartbeat (id : String) : Act Directory Unit := do
  match (← Act.self).find? id with
  | none => Act.fail (missing id)
  | some s =>
    let t ← Act.now
    Act.change fun d => { d with services := putIn { s with lastHeartbeat := some t } d.services }

/-- The service with an id. -/
def get (id : String) : Act Directory Service := do
  match (← Act.self).find? id with
  | some s => return s
  | none => Act.fail (missing id)

/-- Where a new watcher starts reading: after every announcement made so far. -/
def watchFrom (d : Directory) : Nat := d.events.length

/-- What a watcher that has read up to `next` reads now, and where it is then. A watcher more
than the stream's capacity behind is told how many it missed first. -/
def sightings (d : Directory) (next : Nat) : List Sighting × Nat :=
  let pending := d.events.drop next
  let total := d.events.length
  if pending.length > streamCapacity then
    (.lagged (pending.length - streamCapacity) ::
      (pending.drop (pending.length - streamCapacity)).map .event, total)
  else (pending.map .event, total)

end Directory

end Plugboard
