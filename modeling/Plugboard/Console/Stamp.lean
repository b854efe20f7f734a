import Plugboard.Json.Read
import Plugboard.Json.Write
import Plugboard.Time
/-!
# Stamping answers

Instants read from the clock differ from run to run, so an answer names them by rank instead:
the distinct clock instants in an answer, in increasing order, become `now#1`, `now#2`, …, and
those taken while sampling resources in the `k`-th sampling step become `sample#k`. An instant
that also appears in the request, anywhere, even inside a text that is itself JSON, is left as it
is, as is the default instant of records given without one.
-/

namespace Plugboard.Console

/-- The clock readings taken during each sampling step: its number, and the readings after the
`lo`-th up to the `hi`-th. -/
structure SampleSpan where
  step : Nat
  lo : Nat
  hi : Nat

/-- The instants in a JSON value's texts, looking inside texts that are JSON arrays or objects,
with a bound on how deep: the length of the value's text bounds every depth it can reach. -/
def instantsIn : Nat → Json → List Instant
  | 0, _ => []
  | fuel + 1, .str s =>
    match parseStrictInstant s with
    | .ok t => [t]
    | .error _ =>
      match Json.read s with
      | .ok j@(.arr _) => instantsIn fuel j
      | .ok j@(.obj _) => instantsIn fuel j
      | _ => []
  | fuel + 1, .arr items => items.attach.flatMap fun ⟨j, _⟩ => instantsIn fuel j
  | fuel + 1, .obj members => members.attach.flatMap fun ⟨m, _⟩ => instantsIn fuel m.2
  | _, _ => []

mutual

/-- The texts of a JSON value that read as instants. -/
def textsIn : Json → List Instant
  | .str s => match parseStrictInstant s with
    | .ok t => [t]
    | .error _ => []
  | .arr items => textsInItems items
  | .obj members => textsInMembers members
  | _ => []

/-- The texts of array items that read as instants. -/
def textsInItems : List Json → List Instant
  | [] => []
  | j :: js => textsIn j ++ textsInItems js

/-- The texts of object members that read as instants. -/
def textsInMembers : List (String × Json) → List Instant
  | [] => []
  | (_, j) :: ms => textsIn j ++ textsInMembers ms

end

/-- The clock reading an instant is, if it is one. -/
def readingOf (t : Instant) : Option Nat :=
  let base := (Clock.instantOf 0).seconds
  if t.seconds < base then none
  else some ((t.seconds - base).toNat * 1000000000 + t.nanos)

/-- The sampling step an instant was taken in, if any. -/
def sampledIn (spans : List SampleSpan) (t : Instant) : Option Nat :=
  match readingOf t with
  | none => none
  | some n => (spans.find? fun s => s.lo < n && n ≤ s.hi).map (·.step)

/-- Inserts an instant into an increasing list of distinct instants. -/
def insertInstant (t : Instant) : List Instant → List Instant
  | [] => [t]
  | x :: xs =>
    match Instant.compareTime t x with
    | .lt => t :: x :: xs
    | .eq => x :: xs
    | .gt => x :: insertInstant t xs

/-- The label of a text: itself unless it is an instant to be named. -/
def labelText (known : List Instant) (spans : List SampleSpan) (ranked : List Instant)
    (s : String) : String :=
  match parseStrictInstant s with
  | .error _ => s
  | .ok t =>
    if known.contains t then s
    else match sampledIn spans t with
      | some k => "sample#" ++ toString k
      | none =>
        match ranked.findIdx? (· == t) with
        | some i => "now#" ++ toString (i + 1)
        | none => s

mutual

/-- Replaces the texts of a JSON value. -/
def mapTexts (f : String → String) : Json → Json
  | .str s => .str (f s)
  | .arr items => .arr (mapTextsItems f items)
  | .obj members => .obj (mapTextsMembers f members)
  | j => j

/-- Replaces the texts of array items. -/
def mapTextsItems (f : String → String) : List Json → List Json
  | [] => []
  | j :: js => mapTexts f j :: mapTextsItems f js

/-- Replaces the texts of object members' values. -/
def mapTextsMembers (f : String → String) : List (String × Json) → List (String × Json)
  | [] => []
  | (k, j) :: ms => (k, mapTexts f j) :: mapTextsMembers f ms

end

/-- Names the clock instants of an answer to a request. -/
def stamp (request answer : Json) (spans : List SampleSpan) : Json :=
  let known := Instant.y2k :: instantsIn ((Json.compact request).length + 1) request
  let fresh := (textsIn answer).filter fun t => !known.contains t && (sampledIn spans t).isNone
  let ranked := fresh.foldl (fun acc t => insertInstant t acc) []
  mapTexts (labelText known spans ranked) answer

end Plugboard.Console
