import Plugboard.Registration.Basic
import Plugboard.Json.ShapeRead
/-!
# Registrations as JSON

The JSON form of registrations and their parts: the shape a value must have to be read as one,
the value a record is written as, and the record a checked value gives. Records are written
field by field in declaration order; instants as RFC 3339 texts in UTC; absent optional parts as
`null`; tags and permissions as arrays in sorted order.

Reading fills what is absent: a description, author and category default to empty texts, tags,
permissions, dependencies and endpoints to empty lists, configuration to an empty object, the
status to `registered`, health and metrics to none, and an endpoint's method to `GET`. The id,
name, version and the three instants are required.
-/

namespace Plugboard

open Json

/-- Naturals that fit in 64 bits. -/
def Json.Shape.u64 : Shape := .unsigned (Nat.pow 2 64 - 1) "u64"

/-- Naturals that fit in a machine word. -/
def Json.Shape.usize : Shape := .unsigned (Nat.pow 2 64 - 1) "usize"

/-- An instant as JSON: its RFC 3339 text. -/
def Instant.toJson (t : Instant) : Json := .str t.text

/-- The instant a checked JSON text stands for; the y2k instant when it is not one. -/
def Instant.ofJson : Json → Instant
  | .str s => match parseInstant s with
    | .ok t => t
    | .error _ => Instant.y2k
  | _ => Instant.y2k

namespace Json

/-- A text member, or the empty text. -/
def textAt (j : Json) (k : String) : String :=
  match j.field? k with
  | some (.str s) => s
  | _ => ""

/-- A natural member, or zero. -/
def natAt (j : Json) (k : String) : Nat :=
  match j.field? k with
  | some (.num (.nat n)) => n
  | _ => 0

/-- A number member as a double, or zero. -/
def floatAt (j : Json) (k : String) : Float :=
  match j.field? k with
  | some (.num n) => Number.toFloat n
  | _ => 0.0

/-- An instant member. -/
def instantAt (j : Json) (k : String) : Instant :=
  match j.field? k with
  | some v => Instant.ofJson v
  | none => Instant.y2k

/-- An optional member: `none` when absent or `null`. -/
def optionalAt (j : Json) (k : String) : Option Json :=
  match j.field? k with
  | some .null => none
  | some v => some v
  | none => none

/-- An array member's items, or none. -/
def itemsAt (j : Json) (k : String) : List Json :=
  match j.field? k with
  | some (.arr items) => items
  | _ => []

/-- An array member's texts. -/
def textsAt (j : Json) (k : String) : List String :=
  (itemsAt j k).filterMap Json.str?

/-- An object member's members, or none. -/
def membersAt (j : Json) (k : String) : List (String × Json) :=
  match j.field? k with
  | some (.obj ms) => ms
  | _ => []

end Json

/-- The shape of a lifecycle status. -/
def Status.shape : Shape := .oneOf Status.names

/-- The status named by a checked text. -/
def Status.ofText (s : String) : Status := (Status.ofName? s).getD .registered

/-- The shape of an endpoint. -/
def Endpoint.shape : Shape :=
  .record "PluginEndpoint"
    [("path", .text, none), ("method", .text, some (.str "GET")),
     ("description", .text, some (.str ""))] false

/-- An endpoint as JSON. -/
def Endpoint.toJson (e : Endpoint) : Json :=
  .obj [("path", .str e.path), ("method", .str e.method), ("description", .str e.description)]

/-- The endpoint a checked value gives. -/
def Endpoint.ofJson (j : Json) : Endpoint :=
  { path := j.textAt "path", method := j.textAt "method", description := j.textAt "description" }

/-- The shape of a health report. -/
def HealthReport.shape : Shape :=
  .record "PluginHealth"
    [("status", .oneOf Verdict.names, none), ("message", .optional .text, some .null),
     ("response_time_ms", .optional Shape.u64, some .null), ("checked_at", .instant, none)] false

/-- A health report as JSON. -/
def HealthReport.toJson (h : HealthReport) : Json :=
  .obj [("status", .str h.verdict.name), ("message", Json.ofOption .str h.message),
    ("response_time_ms", Json.ofOption Json.ofNat h.responseTimeMs),
    ("checked_at", h.checkedAt.toJson)]

/-- The health report a checked value gives. -/
def HealthReport.ofJson (j : Json) : HealthReport :=
  { verdict := (Verdict.ofName? (j.textAt "status")).getD .unknown
    message := (j.optionalAt "message").bind Json.str?
    responseTimeMs := match j.optionalAt "response_time_ms" with
      | some (.num (.nat n)) => some n
      | _ => none
    checkedAt := j.instantAt "checked_at" }

/-- The shape of metrics; every field has a default. -/
def Metrics.shape : Shape :=
  .record "PluginMetrics"
    [("request_count", Shape.u64, some (Json.ofNat 0)), ("error_count", Shape.u64, some (Json.ofNat 0)),
     ("avg_response_time_ms", .double, some (Json.ofFloat 0.0)),
     ("last_request_at", .optional .instant, some .null)] false

/-- Metrics as JSON. -/
def Metrics.toJson (m : Metrics) : Json :=
  .obj [("request_count", Json.ofNat m.requestCount), ("error_count", Json.ofNat m.errorCount),
    ("avg_response_time_ms", Json.ofFloat m.avgResponseTimeMs),
    ("last_request_at", Json.ofOption Instant.toJson m.lastRequestAt)]

/-- The metrics a checked value gives. -/
def Metrics.ofJson (j : Json) : Metrics :=
  { requestCount := j.natAt "request_count", errorCount := j.natAt "error_count"
    avgResponseTimeMs := j.floatAt "avg_response_time_ms"
    lastRequestAt := (j.optionalAt "last_request_at").map Instant.ofJson }

namespace Registration

/-- The shape of a registration. -/
def shape : Shape :=
  .record "PluginRegistration"
    [("id", .text, none), ("name", .text, none), ("version", .text, none),
     ("description", .text, some (.str "")), ("author", .text, some (.str "")),
     ("category", .text, some (.str "")), ("tags", .list .text, some (.arr [])),
     ("permissions", .list .text, some (.arr [])), ("dependencies", .list .text, some (.arr [])),
     ("endpoints", .list Endpoint.shape, some (.arr [])), ("config", .dict .any, some (.obj [])),
     ("status", Status.shape, some (.str "registered")),
     ("health", .optional HealthReport.shape, some .null),
     ("metrics", .optional Metrics.shape, some .null),
     ("registered_at", .instant, none), ("updated_at", .instant, none),
     ("last_seen", .instant, none)] false

/-- A registration as JSON, field by field in declaration order. -/
def toJson (r : Registration) : Json :=
  .obj [("id", .str r.id), ("name", .str r.name), ("version", .str r.version),
    ("description", .str r.description), ("author", .str r.author),
    ("category", .str r.category), ("tags", Json.ofStrings r.tags),
    ("permissions", Json.ofStrings r.permissions),
    ("dependencies", Json.ofStrings r.dependencies),
    ("endpoints", .arr (r.endpoints.map Endpoint.toJson)), ("config", .obj r.config),
    ("status", .str r.status.name), ("health", Json.ofOption HealthReport.toJson r.health),
    ("metrics", Json.ofOption Metrics.toJson r.metrics),
    ("registered_at", r.registeredAt.toJson), ("updated_at", r.updatedAt.toJson),
    ("last_seen", r.lastSeen.toJson)]

/-- The registration a checked value gives; tags and permissions become sorted sets. -/
def ofJson (j : Json) : Registration :=
  { id := j.textAt "id", name := j.textAt "name", version := j.textAt "version"
    description := j.textAt "description", author := j.textAt "author"
    category := j.textAt "category", tags := textSet (j.textsAt "tags")
    permissions := textSet (j.textsAt "permissions"), dependencies := j.textsAt "dependencies"
    endpoints := (j.itemsAt "endpoints").map Endpoint.ofJson
    config := sortFields (j.membersAt "config")
    status := Status.ofText (j.textAt "status")
    health := (j.optionalAt "health").map HealthReport.ofJson
    metrics := (j.optionalAt "metrics").map Metrics.ofJson
    registeredAt := j.instantAt "registered_at", updatedAt := j.instantAt "updated_at"
    lastSeen := j.instantAt "last_seen" }

/-- Reads a registration from a JSON value. -/
def decode (j : Json) : Except String Registration :=
  (check shape j).map ofJson

/-- Reads a registration from JSON text. -/
def readText (text : String) : Except Failure Registration :=
  (readAs shape text).map ofJson

/-- The text a registration is stored as: indented JSON. -/
def storedText (r : Registration) : String := prettyText r.toJson

end Registration

end Plugboard
