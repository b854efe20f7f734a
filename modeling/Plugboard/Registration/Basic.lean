import Plugboard.Registration.Status
import Plugboard.Json.Value
import Plugboard.Time
import Plugboard.Text.Blank
/-!
# Registrations

A registration is the record a plugin is known by: its identity (`id`, `name`, `version`),
descriptive fields, its tags and permissions as sorted sets of texts, the plugins it depends on,
the endpoints it serves, free configuration, its lifecycle status, the last health report and
usage metrics it sent, and three instants: when it was first registered, when it last changed,
and when it was last seen.

A registration is valid when its id, name and version are not blank.
-/

namespace Plugboard

-- ---------------------------------------------------------------------------
-- Sorted sets of texts
-- ---------------------------------------------------------------------------

/-- Inserts a text into a sorted list of distinct texts, keeping it so. -/
def insertText (x : String) : List String → List String
  | [] => [x]
  | y :: ys => if x = y then y :: ys else if x < y then x :: y :: ys else y :: insertText x ys

/-- The sorted set of the texts in a list. -/
def textSet (xs : List String) : List String :=
  xs.foldl (fun acc x => insertText x acc) []

-- ---------------------------------------------------------------------------
-- Parts of a registration
-- ---------------------------------------------------------------------------

/-- A report on a plugin's health: the verdict, an optional message and response time, and when
it was taken. -/
structure HealthReport where
  verdict : Verdict
  message : Option String := none
  responseTimeMs : Option Nat := none
  checkedAt : Instant

/-- Usage a plugin reports: requests served and failed, the mean response time, and the time of
the last request. -/
structure Metrics where
  requestCount : Nat := 0
  errorCount : Nat := 0
  avgResponseTimeMs : Float := 0.0
  lastRequestAt : Option Instant := none

/-- Metrics with only a request count. -/
def Metrics.ofRequests (n : Nat) : Metrics := { requestCount := n }

/-- An endpoint a plugin serves: a path, an HTTP method and a description. -/
structure Endpoint where
  path : String
  method : String := "GET"
  description : String := ""
  deriving DecidableEq

-- ---------------------------------------------------------------------------
-- Registrations
-- ---------------------------------------------------------------------------

/-- The record a plugin is known by. -/
structure Registration where
  id : String
  name : String
  version : String
  description : String := ""
  author : String := ""
  category : String := ""
  /-- Sorted, without repeats. -/
  tags : List String := []
  /-- Sorted, without repeats. -/
  permissions : List String := []
  dependencies : List String := []
  endpoints : List Endpoint := []
  /-- Members of a JSON object, sorted by key. -/
  config : List (String × Json) := []
  status : Status := .registered
  health : Option HealthReport := none
  metrics : Option Metrics := none
  registeredAt : Instant
  updatedAt : Instant
  lastSeen : Instant

namespace Registration

/-- A new registration with the required fields, stamped with one instant throughout. -/
def create (id name version : String) (at_ : Instant) : Registration :=
  { id, name, version, registeredAt := at_, updatedAt := at_, lastSeen := at_ }

/-- The required fields whose text is blank, in the order id, name, version. -/
def blankFields (r : Registration) : List String :=
  (if Text.isBlankText r.id then ["id"] else []) ++
  (if Text.isBlankText r.name then ["name"] else []) ++
  (if Text.isBlankText r.version then ["version"] else [])

/-- A registration is valid when none of its required fields is blank; otherwise the error
lists the blank ones. -/
def validate (r : Registration) : Outcome Unit :=
  match r.blankFields with
  | [] => .ok ()
  | missing => .error (.validation ("missing required field(s): " ++ ", ".intercalate missing))

/-- Requests served, by the metrics; zero without metrics. -/
def requestCount (r : Registration) : Nat :=
  match r.metrics with
  | some m => m.requestCount
  | none => 0

/-- Whether the plugin serves an endpoint with exactly this path. -/
def hasEndpoint (r : Registration) (path : String) : Bool :=
  r.endpoints.any fun e => e.path == path

/-- Whether the plugin holds a permission. -/
def holds (r : Registration) (permission : String) : Bool :=
  r.permissions.contains permission

/-- Whether the plugin has a tag. -/
def hasTag (r : Registration) (tag : String) : Bool :=
  r.tags.contains tag

theorem validate_ok_iff (r : Registration) : r.validate = .ok () ↔ r.blankFields = [] := by
  unfold validate
  split <;> simp_all

end Registration

end Plugboard
