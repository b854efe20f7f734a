import Plugboard.Json.Read
import Plugboard.Json.Shape
/-!
# Reading JSON text of a known shape

Reading text straight into a shape, without first building a value. The text is read once,
front to back, and the first fault met is the one reported, whether it is a fault of JSON
syntax or a value of the wrong shape; so a refusal of a field can come before a syntax error
further on. A refusal of a scalar points just past the scalar, a refusal of an array or object
where it starts, and a missing field just past the closing brace of its record.

Members that are not fields of a record are skipped without being built: their syntax is
checked but their numbers are not, and they may nest without limit.
-/

namespace Plugboard.Json

/-- Fails at the place reached with a refusal in words. -/
def refuseAt {α : Type} (msg : String) (c : Cursor) : Reading α :=
  failAt (.mismatch msg) c.place

/-- Refuses the value at the cursor as not what was expected. A scalar is read first so that
the refusal can name it; an array or object is refused where it starts. -/
def refuseFound {α : Type} (expected : String) (c : Cursor) : Reading α :=
  match c.rest with
  | [] => failAt .expectedValue c.nextPlace
  | ch :: _ =>
    if ch = 'n' then
      match readWord c.advance ['u', 'l', 'l'] with
      | .error e => .error e
      | .ok (_, c') => refuseAt (invalidType "null" expected) c'
    else if ch = 't' then
      match readWord c.advance ['r', 'u', 'e'] with
      | .error e => .error e
      | .ok (_, c') => refuseAt (invalidType "boolean `true`" expected) c'
    else if ch = 'f' then
      match readWord c.advance ['a', 'l', 's', 'e'] with
      | .error e => .error e
      | .ok (_, c') => refuseAt (invalidType "boolean `false`" expected) c'
    else if ch = '-' ∨ isDigit ch then
      match readNumber (ch ≠ '-') (if ch = '-' then c.advance else c) with
      | .error e => .error e
      | .ok (n, c') => refuseAt (invalidType (Number.unexpected n) expected) c'
    else if ch = '"' then
      match readString c.advance with
      | .error e => .error e
      | .ok (s, c') => refuseAt (invalidType ("string " ++ debugQuote s) expected) c'
    else if ch = '[' then refuseAt (invalidType "sequence" expected) c
    else if ch = '\x7b' then refuseAt (invalidType "map" expected) c
    else failAt .expectedValue c.nextPlace

-- ---------------------------------------------------------------------------
-- Skipping values
-- ---------------------------------------------------------------------------

/-- Skips the rest of a number from its first digit, checking its syntax only. -/
def skipNumber (c : Cursor) : Reading Unit :=
  let afterInt (c : Cursor) : Reading Unit :=
    match c.rest with
    | '.' :: _ =>
      let (ds, c) := takeDigits c.advance
      if ds.isEmpty then failAt .invalidNumber c.nextPlace
      else match c.rest with
        | e :: _ => if e = 'e' ∨ e = 'E' then skipExponent c.advance else .ok ((), c)
        | [] => .ok ((), c)
    | e :: _ => if e = 'e' ∨ e = 'E' then skipExponent c.advance else .ok ((), c)
    | [] => .ok ((), c)
  match c.rest with
  | [] => failAt .invalidNumber c.place
  | ch :: _ =>
    if ch = '0' then
      let c := c.advance
      match c.rest with
      | d :: _ => if isDigit d then failAt .invalidNumber c.nextPlace else afterInt c
      | [] => afterInt c
    else if isDigit ch then afterInt (takeDigits c).2
    else failAt .invalidNumber c.nextPlace
where
  /-- Skips an exponent after its `e`. -/
  skipExponent (c : Cursor) : Reading Unit :=
    let c := match c.rest with
      | s :: _ => if s = '+' ∨ s = '-' then c.advance else c
      | [] => c
    match c.rest with
    | [] => failAt .invalidNumber c.place
    | d :: _ => if isDigit d then .ok ((), (takeDigits c).2) else failAt .invalidNumber c.nextPlace

/-- Skips an escape after its backslash, checking only its form. -/
def skipEscape (c : Cursor) : Reading Unit :=
  match c.rest with
  | [] => failAt .eofString c.place
  | ch :: _ =>
    let c' := c.advance
    if ch = '"' ∨ ch = '\\' ∨ ch = '/' ∨ ch = 'b' ∨ ch = 'f' ∨ ch = 'n' ∨ ch = 'r' ∨ ch = 't' then
      .ok ((), c')
    else if ch = 'u' then (readHex4 c').map fun r => ((), r.2)
    else failAt .invalidEscape c.nextPlace

/-- Skips the rest of a string after its opening quote. -/
def skipStringBody : Nat → Cursor → Reading Unit
  | 0, c => failAt .eofString c.place
  | fuel + 1, c =>
    match c.rest with
    | [] => failAt .eofString c.place
    | ch :: _ =>
      if ch = '"' then .ok ((), c.advance)
      else if ch = '\\' then
        match skipEscape c.advance with
        | .error e => .error e
        | .ok (_, c') => skipStringBody fuel c'
      else if ch.toNat < 0x20 then failAt .controlCharacter c.place
      else skipStringBody fuel c.advance

mutual

/-- Skips a value inside the open arrays and objects `frames`, innermost first. -/
def skipAt : Nat → Cursor → List Char → Reading Unit
  | 0, c, _ => failAt .eofValue c.place
  | fuel + 1, c, frames =>
    let c := skipSpace c
    let afterScalar (r : Reading Unit) : Reading Unit :=
      match r with
      | .error e => .error e
      | .ok (_, c') => if frames.isEmpty then .ok ((), c') else skipClose fuel c' frames true
    match c.rest with
    | [] => failAt .eofValue c.nextPlace
    | ch :: _ =>
      if ch = 'n' then afterScalar (readWord c.advance ['u', 'l', 'l'])
      else if ch = 't' then afterScalar (readWord c.advance ['r', 'u', 'e'])
      else if ch = 'f' then afterScalar (readWord c.advance ['a', 'l', 's', 'e'])
      else if ch = '-' then afterScalar (skipNumber c.advance)
      else if isDigit ch then afterScalar (skipNumber c)
      else if ch = '"' then afterScalar (skipStringBody (c.rest.length + 1) c.advance)
      else if ch = '[' ∨ ch = '\x7b' then skipClose fuel c.advance (ch :: frames) false
      else failAt .expectedValue c.nextPlace

/-- After an item or at the start of the innermost open array or object: a comma, its close,
or (at the start) its first item. -/
def skipClose : Nat → Cursor → List Char → Bool → Reading Unit
  | 0, c, _, _ => failAt .eofValue c.place
  | _, c, [], _ => .ok ((), c)
  | fuel + 1, c, f :: outer, accept =>
    let c := skipSpace c
    match c.rest with
    | [] => failAt (if f = '[' then .eofList else .eofObject) c.nextPlace
    | ch :: _ =>
      if ch = ',' ∧ accept then skipKey fuel c.advance (f :: outer)
      else if (ch = ']' ∧ f = '[') ∨ (ch = '\x7d' ∧ f = '\x7b') then
        if outer.isEmpty then .ok ((), c.advance) else skipClose fuel c.advance outer true
      else if accept then
        failAt (if f = '[' then .expectedListCommaOrEnd else .expectedObjectCommaOrEnd) c.nextPlace
      else skipKey fuel c (f :: outer)

/-- Before an item: in an object, its key and colon; then the item. -/
def skipKey : Nat → Cursor → List Char → Reading Unit
  | 0, c, _ => failAt .eofValue c.place
  | fuel + 1, c, frames =>
    if frames.head? = some '\x7b' then
      let c := skipSpace c
      match c.rest with
      | [] => failAt .eofObject c.nextPlace
      | ch :: _ =>
        if ch ≠ '"' then failAt .keyMustBeString c.nextPlace
        else match skipStringBody (c.rest.length + 1) c.advance with
          | .error e => .error e
          | .ok (_, c) =>
            let c := skipSpace c
            match c.rest with
            | [] => failAt .eofObject c.nextPlace
            | ch :: _ =>
              if ch ≠ ':' then failAt .expectedColon c.nextPlace
              else skipAt fuel c.advance frames
    else skipAt fuel c frames

end

/-- Skips one whole value. -/
def skipValue (c : Cursor) : Reading Unit :=
  skipAt (fuelFor c) c []

-- ---------------------------------------------------------------------------
-- Reading shaped values
-- ---------------------------------------------------------------------------

/-- Reads the key of an object member at the cursor, after white space. -/
def readKey (c : Cursor) : Reading String :=
  match c.rest with
  | [] => failAt .eofValue c.nextPlace
  | ch :: _ =>
    if ch = '\x7d' then failAt .trailingComma c.nextPlace
    else if ch ≠ '"' then failAt .keyMustBeString c.nextPlace
    else readString c.advance

/-- Takes the colon after a key. -/
def readColon (c : Cursor) : Reading Unit :=
  let c := skipSpace c
  match c.rest with
  | [] => failAt .eofObject c.nextPlace
  | ch :: _ => if ch = ':' then .ok ((), c.advance) else failAt .expectedColon c.nextPlace

/-- Where a refusal raised by a record itself is placed, the cursor standing just after a key:
past the white space that follows, and past the closing brace if that comes next. -/
def Cursor.recordEndPlace (c : Cursor) : Place :=
  let c := skipSpace c
  match c.rest with
  | '\x7d' :: _ => c.advance.place
  | _ => c.place

/-- Reads the rest of a name of a closed set written as an object of one member, after the
opening brace: the name as its key, a colon, `null`, and the closing brace. -/
def readVariantMember (names : List String) (c : Cursor) : Reading Json :=
  let c := skipSpace c
  match c.rest with
  | [] => failAt .eofValue c.nextPlace
  | '"' :: _ =>
    match readString c.advance with
    | .error e => .error e
    | .ok (t, c) =>
      if !names.contains t then refuseAt (unknownVariant t names) c
      else
        match readColon c with
        | .error e => .error e
        | .ok (_, c) =>
          let c := skipSpace c
          match c.rest with
          | [] => failAt .eofValue c.nextPlace
          | 'n' :: _ =>
            match readWord c.advance ['u', 'l', 'l'] with
            | .error e => .error e
            | .ok (_, c) =>
              let c := skipSpace c
              match c.rest with
              | '\x7d' :: _ => .ok (.str t, c.advance)
              | [] => failAt .eofObject c.place
              | _ => failAt .expectedValue c.place
          | _ => refuseFound "unit" c
  | _ => refuseFound "variant identifier" c

/-- Whether a key has been read already. -/
def hasKey (k : String) (found : List (String × Json)) : Bool :=
  found.any fun p => p.1 == k

/-- A number checked against a bounded natural shape. -/
def checkUnsigned (max : Nat) (name : String) (n : Number) (c : Cursor) : Reading Json :=
  match n with
  | .nat v => if v ≤ max then .ok (.num (.nat v), c) else refuseAt (invalidValue (Number.unexpected n) name) c
  | .neg _ => refuseAt (invalidValue (Number.unexpected n) name) c
  | .float _ => refuseAt (invalidType (Number.unexpected n) name) c

mutual

/-- Reads a value of a shape, with `depth - 1` more levels of nesting allowed. -/
def readShaped : Nat → Nat → Shape → Cursor → Reading Json
  | 0, _, _, c => failAt .eofValue c.place
  | fuel + 1, depth, s, c =>
    let c := skipSpace c
    match s with
    | .any => readValue fuel depth c
    | .optional inner =>
      match c.rest with
      | 'n' :: _ => (readWord c.advance ['u', 'l', 'l']).map fun r => (.null, r.2)
      | _ => readShaped fuel depth inner c
    | _ =>
      match c.rest with
      | [] => failAt .eofValue c.nextPlace
      | ch :: _ =>
        match s with
        | .text =>
          if ch = '"' then (readString c.advance).map fun r => (.str r.1, r.2)
          else refuseFound s.expected c
        | .path =>
          if ch = '"' then (readString c.advance).map fun r => (.str r.1, r.2)
          else refuseFound s.expected c
        | .flag =>
          if ch = 't' then (readWord c.advance ['r', 'u', 'e']).map fun r => (.bool true, r.2)
          else if ch = 'f' then
            (readWord c.advance ['a', 'l', 's', 'e']).map fun r => (.bool false, r.2)
          else refuseFound s.expected c
        | .unsigned max name =>
          if ch = '-' ∨ isDigit ch then
            match readNumber (ch ≠ '-') (if ch = '-' then c.advance else c) with
            | .error e => .error e
            | .ok (n, c') => checkUnsigned max name n c'
          else refuseFound name c
        | .double =>
          if ch = '-' ∨ isDigit ch then
            (readNumber (ch ≠ '-') (if ch = '-' then c.advance else c)).map fun r =>
              (.num (.float (Number.toFloat r.1)), r.2)
          else refuseFound s.expected c
        | .instant =>
          if ch = '"' then
            match readString c.advance with
            | .error e => .error e
            | .ok (t, c') =>
              match parseInstant t with
              | .ok i => .ok (.str i.text, c')
              | .error e => refuseAt e.text c'
          else refuseFound s.expected c
        | .oneOf names =>
          if ch = '"' then
            match readString c.advance with
            | .error e => .error e
            | .ok (t, c') =>
              if names.contains t then .ok (.str t, c') else refuseAt (unknownVariant t names) c'
          else if ch = '\x7b' then
            if depth ≤ 1 then failAt .recursionLimit c.nextPlace
            else readVariantMember names c.advance
          else failAt .expectedValue c.nextPlace
        | .list inner =>
          if ch = '[' then
            if depth ≤ 1 then failAt .recursionLimit c.nextPlace
            else readListItems fuel (depth - 1) inner c.advance true []
          else refuseFound s.expected c
        | .dict inner =>
          if ch = '\x7b' then
            if depth ≤ 1 then failAt .recursionLimit c.nextPlace
            else readDictMembers fuel (depth - 1) inner c.advance true []
          else refuseFound s.expected c
        | .record name fields keep =>
          if ch = '\x7b' then
            if depth ≤ 1 then failAt .recursionLimit c.nextPlace
            else readRecordMembers fuel (depth - 1) fields keep c.advance true [] []
          else if ch = '[' then
            if depth ≤ 1 then failAt .recursionLimit c.nextPlace
            else readRecordItems fuel (depth - 1) name fields.length 0 fields c.advance true []
          else refuseFound s.expected c
        | _ => refuseFound s.expected c

/-- Reads the items of an array of a shape, and its closing bracket. -/
def readListItems : Nat → Nat → Shape → Cursor → Bool → List Json → Reading Json
  | 0, _, _, c, _, _ => failAt .eofList c.place
  | fuel + 1, depth, s, c, first, acc =>
    let c := skipSpace c
    match c.rest with
    | [] => failAt .eofList c.nextPlace
    | ch :: _ =>
      if ch = ']' then .ok (.arr acc.reverse, c.advance)
      else if ch = ',' ∧ !first then
        let c := skipSpace c.advance
        match c.rest with
        | [] => failAt .eofValue c.nextPlace
        | ch :: _ =>
          if ch = ']' then failAt .trailingComma c.nextPlace
          else match readShaped fuel depth s c with
            | .error e => .error e
            | .ok (v, c) => readListItems fuel depth s c false (v :: acc)
      else if first then
        match readShaped fuel depth s c with
        | .error e => .error e
        | .ok (v, c) => readListItems fuel depth s c false (v :: acc)
      else failAt .expectedListCommaOrEnd c.nextPlace

/-- Reads the members of a map whose members have a shape, and its closing brace; a later
member replaces an earlier one with the same key. -/
def readDictMembers : Nat → Nat → Shape → Cursor → Bool → List (String × Json) → Reading Json
  | 0, _, _, c, _, _ => failAt .eofObject c.place
  | fuel + 1, depth, s, c, first, acc =>
    let c := skipSpace c
    match c.rest with
    | [] => failAt .eofObject c.nextPlace
    | ch :: _ =>
      if ch = '\x7d' then .ok (.obj acc, c.advance)
      else if (ch = ',' ∧ !first) ∨ first then
        let c := if ch = ',' ∧ !first then skipSpace c.advance else c
        match readKey c with
        | .error e => .error e
        | .ok (k, c) =>
          match readColon c with
          | .error e => .error e
          | .ok (_, c) =>
            match readShaped fuel depth s c with
            | .error e => .error e
            | .ok (v, c) => readDictMembers fuel depth s c false (insertSorted k v acc)
      else failAt .expectedObjectCommaOrEnd c.nextPlace

/-- Reads the members of a record's object and its closing brace; `found` holds the fields
read, in order, and `others` the other members kept. -/
def readRecordMembers : Nat → Nat → List (String × Shape × Option Json) → Bool → Cursor →
    Bool → List (String × Json) → List (String × Json) → Reading Json
  | 0, _, _, _, c, _, _, _ => failAt .eofObject c.place
  | fuel + 1, depth, fields, keep, c, first, found, others =>
    let c := skipSpace c
    match c.rest with
    | [] => failAt .eofObject c.nextPlace
    | ch :: _ =>
      if ch = '\x7d' then
        let c := c.advance
        match completeFields found fields with
        | .ok done => .ok (.obj (done ++ (if keep then others else [])), c)
        | .error msg => refuseAt msg c
      else if (ch = ',' ∧ !first) ∨ first then
        let c := if ch = ',' ∧ !first then skipSpace c.advance else c
        match readKey c with
        | .error e => .error e
        | .ok (k, c) =>
          match fieldShape k fields with
          | some s =>
            if hasKey k found then failAt (.mismatch (duplicateField k)) c.recordEndPlace
            else
              match readColon c with
              | .error e => .error e
              | .ok (_, c) =>
                match readShaped fuel depth s c with
                | .error e => .error e
                | .ok (v, c) =>
                  readRecordMembers fuel depth fields keep c false (found ++ [(k, v)]) others
          | none =>
            match readColon c with
            | .error e => .error e
            | .ok (_, c) =>
              if keep then
                match readValue fuel depth c with
                | .error e => .error e
                | .ok (v, c) =>
                  readRecordMembers fuel depth fields keep c false found (insertSorted k v others)
              else
                match skipValue c with
                | .error e => .error e
                | .ok (_, c) => readRecordMembers fuel depth fields keep c false found others
      else failAt .expectedObjectCommaOrEnd c.nextPlace

/-- Reads a record's fields from the items of an array, in declaration order, and then the
closing bracket; a field with no item left takes its default. -/
def readRecordItems : Nat → Nat → String → Nat → Nat → List (String × Shape × Option Json) →
    Cursor → Bool → List (String × Json) → Reading Json
  | 0, _, _, _, _, _, c, _, _ => failAt .eofList c.place
  | fuel + 1, depth, name, count, index, fields, c, first, acc =>
    let c := skipSpace c
    match fields with
    | [] =>
      match c.rest with
      | [] => failAt .eofList c.nextPlace
      | ch :: _ =>
        if ch = ']' then .ok (.obj acc.reverse, c.advance)
        else if ch = ',' then
          let c := skipSpace c.advance
          match c.rest with
          | ']' :: _ => failAt .trailingComma c.nextPlace
          | _ => failAt .trailingCharacters c.nextPlace
        else failAt .trailingCharacters c.nextPlace
    | (n, s, d) :: rest =>
      match c.rest with
      | [] => failAt .eofList c.nextPlace
      | ch :: _ =>
        if ch = ']' then
          match d with
          | some v => readRecordItems fuel depth name count (index + 1) rest c first ((n, v) :: acc)
          | none =>
            refuseAt (invalidLength index (recordLength name count)) c.advance
        else if (ch = ',' ∧ !first) ∨ first then
          let c := if ch = ',' ∧ !first then skipSpace c.advance else c
          match c.rest with
          | [] => failAt .eofValue c.nextPlace
          | ch' :: _ =>
            if ch' = ']' ∧ !first then failAt .trailingComma c.nextPlace
            else
              match readShaped fuel depth s c with
              | .error e => .error e
              | .ok (v, c) =>
                readRecordItems fuel depth name count (index + 1) rest c false ((n, v) :: acc)
        else failAt .expectedListCommaOrEnd c.nextPlace

end

/-- Reads a whole text as a value of a shape, allowing only white space after it. -/
def readAs (s : Shape) (text : String) : Except Failure Json :=
  let c := Cursor.start text
  match readShaped (fuelFor c) nestingLimit s c with
  | .error e => .error e
  | .ok (v, c) =>
    let c := skipSpace c
    match c.rest with
    | [] => .ok v
    | _ => .error ⟨.trailingCharacters, c.nextPlace⟩

end Plugboard.Json
