import Plugboard.Registration.Codec
import Plugboard.Json.Read
/-!
# Manifests

A manifest is the JSON object that describes a plugin before it is loaded: its id, name and
version, which must be texts that are not blank, and optionally a description, author,
category, tags, the permissions it asks for, and the configuration it starts with. Members the
manifest does not know are kept as they are.

Reading a manifest fails, naming its source, when the text is not JSON, when it is not an
object, when a required field is missing or blank, and when a known field has the wrong type.
-/

namespace Plugboard

open Json

/-- What a manifest says about a plugin. -/
structure Metadata where
  id : String
  name : String
  version : String
  description : String := ""
  author : String := ""
  category : String := ""
  tags : List String := []
  permissions : List String := []
  /-- Sorted by key. -/
  config : List (String × Json) := []
  /-- The members the manifest does not know, sorted by key. -/
  extra : List (String × Json) := []

namespace Metadata

/-- The fields a manifest must have. -/
def required : List String := ["id", "name", "version"]

/-- The known fields of a manifest. -/
def fields : List (String × Shape × Option Json) :=
  [("id", .text, none), ("name", .text, none), ("version", .text, none),
   ("description", .text, some (.str "")), ("author", .text, some (.str "")),
   ("category", .text, some (.str "")), ("tags", .list .text, some (.arr [])),
   ("permissions", .list .text, some (.arr [])), ("config", .dict .any, some (.obj []))]

/-- The shape of a manifest: its known fields, keeping the rest. -/
def shape : Shape := .record "PluginMetadata" fields true

/-- Metadata as JSON: the known fields, then the kept ones. -/
def toJson (m : Metadata) : Json :=
  .obj ([("id", .str m.id), ("name", .str m.name), ("version", .str m.version),
    ("description", .str m.description), ("author", .str m.author),
    ("category", .str m.category), ("tags", Json.ofStrings m.tags),
    ("permissions", Json.ofStrings m.permissions), ("config", .obj m.config)] ++ m.extra)

/-- Whether a key is a known field. -/
def known (k : String) : Bool := fields.any (·.1 == k)

/-- The metadata a checked value gives. -/
def ofJson (j : Json) : Metadata :=
  let members := match j with
    | .obj ms => ms
    | _ => []
  { id := j.textAt "id", name := j.textAt "name", version := j.textAt "version"
    description := j.textAt "description", author := j.textAt "author"
    category := j.textAt "category", tags := j.textsAt "tags"
    permissions := j.textsAt "permissions", config := j.membersAt "config"
    extra := sortFields (members.filter fun m => !known m.1) }

/-- The required fields an object lacks or has blank, in the order id, name, version. -/
def missingIn (members : List (String × Json)) : List String :=
  required.filter fun f =>
    match lookupField f members with
    | some (.str s) => Text.isBlankText s
    | _ => true

/-- Reads a manifest; `source` names it in failures. -/
def parse (text source : String) : Outcome Metadata :=
  let fail (m : String) : Outcome Metadata := .error (.load ("manifest " ++ source ++ ": " ++ m))
  match Json.read text with
  | .error f => fail f.text
  | .ok (.obj members) =>
    match missingIn members with
    | [] =>
      match check shape (.obj members) with
      | .ok j => .ok (ofJson j)
      | .error m => fail m
    | missing => fail ("missing required field(s): " ++ ", ".intercalate missing)
  | .ok _ => fail "not a JSON object"

/-- A manifest with only the required fields. -/
def create (id name version : String) : Metadata := { id, name, version }

/-- The registration describing the plugin, stamped with one instant. -/
def toRegistration (m : Metadata) (t : Instant) : Registration :=
  { Registration.create m.id m.name m.version t with
    description := m.description, author := m.author, category := m.category
    tags := textSet m.tags, permissions := textSet m.permissions, config := m.config }

end Metadata

end Plugboard
