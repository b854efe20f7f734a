import Plugboard.Registration.Codec
/-!
# Reading requests

A request is a JSON object naming an operation and its arguments. An argument is read by name;
a member that is `null` counts as absent. A text that must be given is refused when it is absent
or not a text; a text with a default takes the default then. Any other argument that must be
given is refused as missing when absent, and otherwise checked against its shape, and a refusal
names the argument and says what was wrong, in the words a typed JSON reader uses.
-/

namespace Plugboard.Console

open Json

/-- A value read from a request, or the refusal. -/
abbrev Decode (α : Type) := Except String α

/-- An argument, unless absent or `null`. -/
def arg? (j : Json) (k : String) : Option Json :=
  match j.field? k with
  | some .null => none
  | v => v

/-- A text argument. -/
def text (j : Json) (k : String) : Decode String :=
  match arg? j k with
  | some (.str s) => .ok s
  | _ => .error ("missing string field " ++ k)

/-- A text argument with a default, taken when the argument is absent or not a text. -/
def textOr (j : Json) (k : String) (d : String) : String :=
  match arg? j k with
  | some (.str s) => s
  | _ => d

/-- A value checked against a shape, a refusal naming it as `name`. -/
def checkAs (name : String) (s : Shape) (v : Json) : Decode Json :=
  match check s v with
  | .ok v => .ok v
  | .error m => .error (name ++ ": " ++ m)

/-- An argument that must be given: absent or `null`, it is refused as missing. -/
def required (j : Json) (k : String) : Decode Json :=
  match arg? j k with
  | some v => .ok v
  | none => .error ("missing field " ++ k)

/-- An argument that must be given, checked against a shape. -/
def typed (j : Json) (k : String) (s : Shape) : Decode Json := do
  checkAs k s (← required j k)

/-- An argument checked against a shape, with a default when absent or `null`. -/
def typedOr (j : Json) (k : String) (s : Shape) (d : Json) : Decode Json :=
  match arg? j k with
  | none => .ok d
  | some v => checkAs k s v

/-- A list of texts. -/
def texts (j : Json) (k : String) : Decode (List String) := do
  let v ← typedOr j k (.list .text) (.arr [])
  pure (match v with
    | .arr items => items.filterMap Json.str?
    | _ => [])

/-- A natural argument of a machine word. -/
def count (j : Json) (k : String) : Decode Nat := do
  let v ← typed j k Shape.usize
  pure (match v with
    | .num (.nat n) => n
    | _ => 0)

/-- Fills the instants a registration given as an argument leaves out with the default instant:
its three stamps, and the time of its health report. An instant given as `null` is not left out,
and is refused when read. -/
def fillInstants (j : Json) : Json :=
  let d := Instant.y2k.toJson
  let fill (ms : List (String × Json)) (k : String) : List (String × Json) :=
    match lookupField k ms with
    | none => insertSorted k d ms
    | some _ => ms
  match j with
  | .obj ms =>
    let ms := fill (fill (fill ms "registered_at") "updated_at") "last_seen"
    let ms := match lookupField "health" ms with
      | some (.obj hs) => insertSorted "health" (.obj (fill hs "checked_at")) ms
      | _ => ms
    .obj ms
  | other => other

/-- Reads a registration from a JSON value; a refusal names it `reg`, whatever the argument. -/
def registrationOf (v : Json) : Decode Registration :=
  match Registration.decode (fillInstants v) with
  | .ok r => .ok r
  | .error m => .error ("reg: " ++ m)

/-- A registration argument, which must be given. -/
def registration (j : Json) (k : String) : Decode Registration := do
  registrationOf (← required j k)

/-- A list of registrations. -/
def registrations (j : Json) (k : String) : Decode (List Registration) := do
  let v ← typedOr j k (.list .any) (.arr [])
  match v with
  | .arr items => items.mapM registrationOf
  | _ => pure []

/-- An error as an answer: its kind and its message. -/
def errorAnswer (e : Error) : Json :=
  .obj [("error", .str e.kind), ("message", .str e.message)]

/-- A refused request as an answer. -/
def refusal (m : String) : Json :=
  .obj [("error", .str "BadInput"), ("message", .str m)]

/-- The answer when the program fails as a whole. -/
def crashAnswer : Json :=
  .obj [("error", .str "Panic"), ("message", .str "driver panicked")]

/-- The answer to an outcome. -/
def outcomeAnswer {α : Type} (f : α → Json) : Outcome α → Json
  | .ok x => f x
  | .error e => errorAnswer e

end Plugboard.Console
