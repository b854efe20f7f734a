import Plugboard.Json.Write
import Plugboard.Time
import Plugboard.Text.Printable
/-!
# Shapes of JSON data

A shape says what a value of a record type looks like in JSON: texts, booleans, bounded
naturals, doubles, instants, a closed set of names, optional values, lists, maps from texts, any
value, and records of named fields. Checking a value against a shape either refuses it, in the
words of the refusal, or gives it back normalized: every field of a record present and in
declaration order, absent ones filled with their default, and members that are not fields
dropped, or kept after the fields where the record keeps them.

The words of a refusal name what was found and what was expected: `invalid type: integer
\`5\`, expected a string`. A record checks its members in the order the object gives them, and
only then reports its first missing field in declaration order.
-/

namespace Plugboard.Json

-- ---------------------------------------------------------------------------
-- Words for what was found
-- ---------------------------------------------------------------------------

/-- Lowercase hexadecimal digits of a number, without leading zeros. -/
def hexText (n : Nat) : String :=
  String.ofList ((Nat.toDigits 16 n))

/-- A text in double quotes as a diagnostic shows it: the quote and the backslash escaped, tab,
line feed and carriage return by their short escapes, NUL as `\0`, characters that extend a
grapheme or are not printable by code as `\u{hex}`, and every other character as itself. -/
def debugQuote (s : String) : String :=
  let body := s.toList.flatMap fun c =>
    if c = '"' then ['\\', '"']
    else if c = '\\' then ['\\', '\\']
    else if c = '\t' then ['\\', 't']
    else if c = '\n' then ['\\', 'n']
    else if c = '\r' then ['\\', 'r']
    else if c.toNat = 0 then ['\\', '0']
    else if Text.shownByCode c then ['\\', 'u', '\x7b'] ++ (hexText c.toNat).toList ++ ['\x7d']
    else [c]
  String.ofList ('"' :: body ++ ['"'])

/-- How a number is named when it is not what was expected. -/
def Number.unexpected : Number → String
  | .nat n => "integer `" ++ toString n ++ "`"
  | .neg n => "integer `" ++ toString n ++ "`"
  | .float f => "floating point `" ++ floatText f ++ "`"

/-- How a value is named when it is not what was expected. -/
def unexpected : Json → String
  | .null => "null"
  | .bool b => "boolean `" ++ (if b then "true" else "false") ++ "`"
  | .num n => Number.unexpected n
  | .str s => "string " ++ debugQuote s
  | .arr _ => "sequence"
  | .obj _ => "map"

/-- A value of the wrong kind. -/
def invalidType (found expected : String) : String :=
  "invalid type: " ++ found ++ ", expected " ++ expected

/-- A value of the right kind but out of bounds. -/
def invalidValue (found expected : String) : String :=
  "invalid value: " ++ found ++ ", expected " ++ expected

/-- A required field that is absent. -/
def missingField (name : String) : String :=
  "missing field `" ++ name ++ "`"

/-- A field given twice. -/
def duplicateField (name : String) : String :=
  "duplicate field `" ++ name ++ "`"

/-- A sequence of the wrong length. -/
def invalidLength (n : Nat) (expected : String) : String :=
  "invalid length " ++ toString n ++ ", expected " ++ expected

/-- What an array read as a record is expected to be: the record and its number of fields. -/
def recordLength (name : String) (count : Nat) : String :=
  "struct " ++ name ++ " with " ++ toString count ++ (if count = 1 then " element" else " elements")

/-- Names in backquotes: `a`, `a` or `b`, or one of `a`, `b`, `c`. -/
def oneOfText (names : List String) : String :=
  let quoted := names.map fun n => "`" ++ n ++ "`"
  match quoted with
  | [] => ""
  | [a] => a
  | [a, b] => a ++ " or " ++ b
  | _ => "one of " ++ ", ".intercalate quoted

/-- A name outside a closed set. -/
def unknownVariant (name : String) (names : List String) : String :=
  if names.isEmpty then "unknown variant `" ++ name ++ "`, there are no variants"
  else "unknown variant `" ++ name ++ "`, expected " ++ oneOfText names

-- ---------------------------------------------------------------------------
-- Shapes
-- ---------------------------------------------------------------------------

/-- The shape of JSON data. -/
inductive Shape where
  /-- Any text. -/
  | text
  /-- A text naming a path in the file system. -/
  | path
  /-- A boolean. -/
  | flag
  /-- A natural number at most `max`, named `name` in refusals. -/
  | unsigned (max : Nat) (name : String)
  /-- Any number, taken as a double. -/
  | double
  /-- A text that reads as an instant. -/
  | instant
  /-- One of a closed set of names. -/
  | oneOf (names : List String)
  /-- `null`, or a value of a shape. -/
  | optional (s : Shape)
  /-- An array of values of a shape. -/
  | list (s : Shape)
  /-- An object whose members have a shape. -/
  | dict (s : Shape)
  /-- Any value. -/
  | any
  /-- A record: its name, its fields with their shapes and the value an absent field takes
  (`none` when it is required), and whether members that are not fields are kept. -/
  | record (name : String) (fields : List (String × Shape × Option Json)) (keepOthers : Bool)

namespace Shape

/-- What a shape is called in refusals. -/
def expected : Shape → String
  | .text => "a string"
  | .path => "path string"
  | .flag => "a boolean"
  | .unsigned _ name => name
  | .double => "f64"
  | .instant => "an RFC 3339 formatted date and time string"
  | .oneOf _ => "string or map"
  | .optional s => s.expected
  | .list _ => "a sequence"
  | .dict _ => "a map"
  | .any => "any valid JSON value"
  | .record name _ _ => "struct " ++ name

end Shape

/-- The field shapes of a record that match a key. -/
def fieldShape (k : String) : List (String × Shape × Option Json) → Option Shape
  | [] => none
  | (n, s, _) :: rest => if n = k then some s else fieldShape k rest

end Plugboard.Json

namespace Plugboard

/-- A number as a double. -/
def Number.toFloat : Number → Float
  | .nat n => n.toUInt64.toFloat
  | .neg n => -(n.natAbs.toUInt64.toFloat)
  | .float f => f

end Plugboard

namespace Plugboard.Json

/-- The value a field takes when it is absent, or the refusal naming it. -/
def absentField (name : String) (shape : Shape) (dflt : Option Json) : Except String Json :=
  match dflt, shape with
  | some d, _ => .ok d
  | none, .optional _ => .ok .null
  | none, _ => .error (missingField name)

/-- The fields of a record in declaration order, each taken from `found` or from its default. -/
def completeFields (found : List (String × Json)) :
    List (String × Shape × Option Json) → Except String (List (String × Json))
  | [] => .ok []
  | (n, s, d) :: rest => do
    let v ← match lookupField n found with
      | some v => pure v
      | none => absentField n s d
    let vs ← completeFields found rest
    pure ((n, v) :: vs)

/-- Adds a field in front of a record's fields. -/
def prependField (n : String) (v : Json) : Json → Json
  | .obj vs => .obj ((n, v) :: vs)
  | _ => .obj [(n, v)]

/-- Checks a scalar value against a scalar shape. -/
def checkScalar (s : Shape) (j : Json) : Except String Json :=
  match s, j with
  | .text, .str t => .ok (.str t)
  | .path, .str t => .ok (.str t)
  | .flag, .bool b => .ok (.bool b)
  | .unsigned max name, .num (.nat n) =>
    if n ≤ max then .ok (.num (.nat n)) else .error (invalidValue (Number.unexpected (.nat n)) name)
  | .unsigned _ name, .num (.neg n) => .error (invalidValue (Number.unexpected (.neg n)) name)
  | .double, .num n => .ok (.num (.float (Number.toFloat n)))
  | .instant, .str t =>
    match parseInstant t with
    | .ok i => .ok (.str i.text)
    | .error e => .error e.text
  | .oneOf names, .str t =>
    if names.contains t then .ok (.str t) else .error (unknownVariant t names)
  | .any, j => .ok j
  | s, j => .error (invalidType (unexpected j) s.expected)

/-- The shape a value is checked against under its optional layers; `none` when the value is
`null` under an optional layer, which takes it as it is. -/
def Shape.peel : Shape → Json → Option Shape
  | .optional _, .null => none
  | .optional s, j => peel s j
  | s, _ => some s

/-- The rest of a record read from an array that has run out: each field takes its default, and
a required field is missing. `index` is the position reached. -/
def fillRecordItems (name : String) (count index : Nat) :
    List (String × Shape × Option Json) → Except String Json
  | [] => .ok (.obj [])
  | (n, _, d) :: rest => do
    let v ← match d with
      | some d => pure d
      | none => throw (invalidLength index (recordLength name count))
    let more ← fillRecordItems name count (index + 1) rest
    pure (prependField n v more)

mutual

/-- Checks a value against a shape, giving it back normalized. -/
def check (s : Shape) (j : Json) : Except String Json :=
  match s.peel j, j with
  | none, _ => .ok .null
  | some (.list s), .arr items => (checkItems s items).map .arr
  | some (.dict s), .obj members => (checkDict s members).map .obj
  | some (.record _ fields keep), .obj members => checkRecord fields keep members [] []
  | some (.record name fields _), .arr items => checkRecordItems name fields.length 0 fields items
  | some (.oneOf names), .obj [(k, v)] =>
    if !names.contains k then .error (unknownVariant k names)
    else match v with
      | .null => .ok (.str k)
      | _ => .error (invalidType (unexpected v) "unit")
  | some (.oneOf _), .obj _ => .error (invalidValue "map" "map with a single key")
  | some s, j => checkScalar s j
termination_by structural j

/-- Checks the items of an array. -/
def checkItems : Shape → List Json → Except String (List Json)
  | _, [] => .ok []
  | s, j :: js => do
    let v ← check s j
    let vs ← checkItems s js
    pure (v :: vs)
termination_by structural _ js => js

/-- Checks the members of a map, keeping them sorted by key. -/
def checkDict : Shape → List (String × Json) → Except String (List (String × Json))
  | _, [] => .ok []
  | s, (k, j) :: rest => do
    let v ← check s j
    let vs ← checkDict s rest
    pure (insertSorted k v vs)
termination_by structural _ ms => ms

/-- Checks the members of an object against a record's fields, in the object's order; `found`
holds the fields read and `others` the other members kept. -/
def checkRecord (fields : List (String × Shape × Option Json)) (keep : Bool) :
    List (String × Json) → List (String × Json) → List (String × Json) →
    Except String Json
  | [], found, others => do
    let done ← completeFields found fields
    pure (.obj (done ++ (if keep then others else [])))
  | (k, j) :: rest, found, others =>
    match fieldShape k fields with
    | some s => do
      let v ← check s j
      checkRecord fields keep rest (found ++ [(k, v)]) others
    | none => checkRecord fields keep rest found (insertSorted k j others)
termination_by structural ms _ _ => ms

/-- Checks the items of an array against a record's fields taken in order; a field with no
item takes its default. `count` is the number of fields and `index` the position reached. -/
def checkRecordItems (name : String) (count index : Nat) :
    List (String × Shape × Option Json) → List Json → Except String Json
  | fields, [] => fillRecordItems name count index fields
  | [], j :: js => .error (invalidLength (index + (j :: js).length) "fewer elements in array")
  | (n, s, _) :: rest, j :: js => do
    let v ← check s j
    let more ← checkRecordItems name count (index + 1) rest js
    pure (prependField n v more)
termination_by structural _ js => js

end

end Plugboard.Json
