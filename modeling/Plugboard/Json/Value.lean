/-!
# JSON values

A JSON value as data: numbers keep the three kinds a reader tells apart (integers that fit in
64 unsigned bits, negative integers that fit in 64 signed bits, and doubles), and an object
keeps its members in the order they are given. The reader gives object members sorted by key,
each key once; records written field by field keep their declaration order.
-/

namespace Plugboard

/-- A JSON number: a natural below `2^64`, a negative integer not below `-2^63`, or a double. -/
inductive Number where
  | nat (n : Nat)
  | neg (n : Int)
  | float (f : Float)

/-- A JSON value. -/
inductive Json where
  | null
  | bool (b : Bool)
  | num (n : Number)
  | str (s : String)
  | arr (items : List Json)
  | obj (fields : List (String × Json))

namespace Json

/-- A natural number as a JSON value. -/
def ofNat (n : Nat) : Json := .num (.nat n)

/-- A double as a JSON value. -/
def ofFloat (f : Float) : Json := .num (.float f)

/-- An optional value, with `null` for none. -/
def ofOption {α : Type} (f : α → Json) : Option α → Json
  | some a => f a
  | none => .null

/-- A list of texts as a JSON array. -/
def ofStrings (xs : List String) : Json := .arr (xs.map .str)

/-- The value of the last member with key `k`. -/
def lookupField (k : String) : List (String × Json) → Option Json
  | [] => none
  | (k', v) :: rest =>
    match lookupField k rest with
    | some w => some w
    | none => if k' = k then some v else none

/-- The member `k` of an object, if it is one and has it. -/
def field? (j : Json) (k : String) : Option Json :=
  match j with
  | .obj fields => lookupField k fields
  | _ => none

/-- The text of a string value. -/
def str? : Json → Option String
  | .str s => some s
  | _ => none

/-- Puts a member into a list sorted by key, replacing a member with the same key. -/
def insertSorted (k : String) (v : Json) : List (String × Json) → List (String × Json)
  | [] => [(k, v)]
  | (k', v') :: rest =>
    if k = k' then (k, v) :: rest
    else if k < k' then (k, v) :: (k', v') :: rest
    else (k', v') :: insertSorted k v rest

/-- The members sorted by key, a later member replacing an earlier one with the same key. -/
def sortFields (fields : List (String × Json)) : List (String × Json) :=
  fields.foldl (fun acc kv => insertSorted kv.1 kv.2 acc) []

/-- Whether a value is `null`. -/
def isNull : Json → Bool
  | .null => true
  | _ => false

end Json

end Plugboard
