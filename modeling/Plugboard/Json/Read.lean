import Plugboard.Json.Value
/-!
# Reading JSON text

The reader of JSON text into values, with the faults it reports and where. A place is a line,
counted from 1, and the number of bytes of that line read so far. A fault found while looking
at a character without taking it points just past that character's first byte; one found after
taking input points at the end of what was taken.

Numbers are read as the three kinds of `Number`: an integer without fraction or exponent is a
natural below `2^64` or a negative integer not below `-2^63`; any other number is a double. A
double is computed from at most nineteen significant digits and a power of ten, by one
multiplication or division of doubles; a product that overflows is out of range, and `-0` is
the double negative zero.

Arrays and objects nest at most 127 deep. Object members are kept sorted by key, a later member
replacing an earlier one with the same key.
-/

namespace Plugboard.Json

/-- A place in a text: the line, from 1, and the bytes of it read so far. -/
structure Place where
  line : Nat
  column : Nat

/-- What can be wrong with JSON text, or with a value read from it. -/
inductive Fault where
  | eofList
  | eofObject
  | eofString
  | eofValue
  | expectedColon
  | expectedListCommaOrEnd
  | expectedObjectCommaOrEnd
  | expectedIdent
  | expectedValue
  | invalidEscape
  | invalidNumber
  | numberOutOfRange
  | controlCharacter
  | keyMustBeString
  | loneLeadingSurrogate
  | trailingComma
  | trailingCharacters
  | unexpectedEndOfHexEscape
  | recursionLimit
  /-- A value of the wrong kind or content, described in words. -/
  | mismatch (message : String)

/-- The words for a fault. -/
def Fault.text : Fault → String
  | .eofList => "EOF while parsing a list"
  | .eofObject => "EOF while parsing an object"
  | .eofString => "EOF while parsing a string"
  | .eofValue => "EOF while parsing a value"
  | .expectedColon => "expected `:`"
  | .expectedListCommaOrEnd => "expected `,` or `]`"
  | .expectedObjectCommaOrEnd => "expected `,` or `\x7d`"
  | .expectedIdent => "expected ident"
  | .expectedValue => "expected value"
  | .invalidEscape => "invalid escape"
  | .invalidNumber => "invalid number"
  | .numberOutOfRange => "number out of range"
  | .controlCharacter => "control character (\\u0000-\\u001F) found while parsing a string"
  | .keyMustBeString => "key must be a string"
  | .loneLeadingSurrogate => "lone leading surrogate in hex escape"
  | .trailingComma => "trailing comma"
  | .trailingCharacters => "trailing characters"
  | .unexpectedEndOfHexEscape => "unexpected end of hex escape"
  | .recursionLimit => "recursion limit exceeded"
  | .mismatch m => m

/-- A fault and the place it was found. -/
structure Failure where
  fault : Fault
  place : Place

/-- A failure in words: the fault, then its line and column. -/
def Failure.text (f : Failure) : String :=
  f.fault.text ++ " at line " ++ toString f.place.line ++ " column " ++ toString f.place.column

/-- The text not yet read, and the place reached. -/
structure Cursor where
  rest : List Char
  line : Nat
  column : Nat

/-- The cursor at the start of a text. -/
def Cursor.start (s : String) : Cursor := ⟨s.toList, 1, 0⟩

/-- The place reached. -/
def Cursor.place (c : Cursor) : Place := ⟨c.line, c.column⟩

/-- The place just past the first byte of the next character, or the place reached at the end
of the text. -/
def Cursor.nextPlace (c : Cursor) : Place :=
  match c.rest with
  | [] => ⟨c.line, c.column⟩
  | ch :: _ => if ch = '\n' then ⟨c.line + 1, 0⟩ else ⟨c.line, c.column + 1⟩

/-- The cursor after taking one character. -/
def Cursor.advance (c : Cursor) : Cursor :=
  match c.rest with
  | [] => c
  | ch :: rest => if ch = '\n' then ⟨rest, c.line + 1, 0⟩ else ⟨rest, c.line, c.column + ch.utf8Size⟩

/-- The next character, not taken. -/
def Cursor.peek? (c : Cursor) : Option Char := c.rest.head?

/-- The place after taking `n` more bytes of `rest` from line `line` and column `col`,
counting part of a character if `n` ends inside one. -/
def placeAfterBytes : List Char → Nat → Nat → Nat → Place
  | [], line, col, _ => ⟨line, col⟩
  | _, line, col, 0 => ⟨line, col⟩
  | ch :: rest, line, col, n + 1 =>
    if ch.utf8Size ≤ n + 1 then
      if ch = '\n' then placeAfterBytes rest (line + 1) 0 n
      else placeAfterBytes rest line (col + ch.utf8Size) (n + 1 - ch.utf8Size)
    else ⟨line, col + n + 1⟩

/-- The place after taking `n` more bytes. -/
def Cursor.placeAfter (c : Cursor) (n : Nat) : Place :=
  placeAfterBytes c.rest c.line c.column n

/-- A result of reading: a value and the cursor after it, or a failure. -/
abbrev Reading (α : Type) := Except Failure (α × Cursor)

/-- Fails at a place. -/
def failAt {α : Type} (fault : Fault) (place : Place) : Reading α :=
  .error ⟨fault, place⟩

/-- Whether a character is JSON white space. -/
def isSpace (ch : Char) : Bool :=
  ch = ' ' || ch = '\n' || ch = '\t' || ch = '\r'

/-- Skips JSON white space at the front of `rest`, read from line `line` and column `col`. -/
def skipSpaceIn : List Char → Nat → Nat → Cursor
  | [], line, col => ⟨[], line, col⟩
  | ch :: rest, line, col =>
    if ch = '\n' then skipSpaceIn rest (line + 1) 0
    else if isSpace ch then skipSpaceIn rest line (col + 1)
    else ⟨ch :: rest, line, col⟩

/-- Skips JSON white space. -/
def skipSpace (c : Cursor) : Cursor :=
  skipSpaceIn c.rest c.line c.column

/-- Whether a character is a decimal digit. -/
def isDigit (ch : Char) : Bool := '0' ≤ ch && ch ≤ '9'

/-- The value of a decimal digit. -/
def digitValue (ch : Char) : Nat := ch.toNat - '0'.toNat

-- ---------------------------------------------------------------------------
-- Literal words
-- ---------------------------------------------------------------------------

/-- Takes the characters of a word, after its first character was taken. -/
def readWord (c : Cursor) : List Char → Reading Unit
  | [] => .ok ((), c)
  | w :: ws =>
    match c.rest with
    | [] => failAt .eofValue c.place
    | ch :: _ => if ch = w then readWord c.advance ws else failAt .expectedIdent c.nextPlace

-- ---------------------------------------------------------------------------
-- Strings
-- ---------------------------------------------------------------------------

/-- The value of a hexadecimal digit. -/
def hexValue (ch : Char) : Option Nat :=
  if '0' ≤ ch ∧ ch ≤ '9' then some (ch.toNat - 48)
  else if 'a' ≤ ch ∧ ch ≤ 'f' then some (ch.toNat - 87)
  else if 'A' ≤ ch ∧ ch ≤ 'F' then some (ch.toNat - 55)
  else none

/-- The number written by four hexadecimal digits. -/
def hex4 (a b c d : Char) : Option Nat := do
  let a ← hexValue a
  let b ← hexValue b
  let c ← hexValue c
  let d ← hexValue d
  pure (((a * 16 + b) * 16 + c) * 16 + d)

/-- Takes the four hexadecimal digits of a `\u` escape. Fewer than four bytes left is the end
of the text inside a string; four bytes that are not hexadecimal digits are a bad escape. -/
def readHex4 (c : Cursor) : Except Failure (Nat × Cursor) :=
  match c.rest with
  | a :: b :: d :: e :: _ =>
    match hex4 a b d e with
    | some n => .ok (n, c.advance.advance.advance.advance)
    | none => failAt .invalidEscape (c.placeAfter 4)
  | _ =>
    if (String.ofList c.rest).utf8ByteSize < 4 then
      failAt .eofString (c.placeAfter (String.ofList c.rest).utf8ByteSize)
    else failAt .invalidEscape (c.placeAfter 4)

/-- Takes a `\u` escape after its `u`, joining a surrogate pair into one character. A trailing
surrogate alone, or a leading one not followed by a trailing one, is refused. -/
def readUnicodeEscape (c : Cursor) : Except Failure (Char × Cursor) := do
  let (n, c) ← readHex4 c
  if 0xDC00 ≤ n ∧ n ≤ 0xDFFF then failAt .loneLeadingSurrogate c.place
  else if n < 0xD800 ∨ n > 0xDBFF then .ok (Char.ofNat n, c)
  else
    match c.rest with
    | [] => failAt .eofString c.place
    | ch :: _ =>
      if ch ≠ '\\' then failAt .unexpectedEndOfHexEscape (c.placeAfter 1)
      else
        let c := c.advance
        match c.rest with
        | [] => failAt .eofString c.place
        | ch :: _ =>
          if ch ≠ 'u' then failAt .unexpectedEndOfHexEscape (c.placeAfter 1)
          else
            let (n2, c) ← readHex4 c.advance
            if n2 < 0xDC00 ∨ n2 > 0xDFFF then failAt .loneLeadingSurrogate c.place
            else .ok (Char.ofNat ((n - 0xD800) * 0x400 + (n2 - 0xDC00) + 0x10000), c)

/-- Takes an escape after its backslash. -/
def readEscape (c : Cursor) : Reading Char :=
  match c.rest with
  | [] => failAt .eofString c.place
  | ch :: _ =>
    let c' := c.advance
    if ch = '"' then .ok ('"', c')
    else if ch = '\\' then .ok ('\\', c')
    else if ch = '/' then .ok ('/', c')
    else if ch = 'b' then .ok (Char.ofNat 8, c')
    else if ch = 'f' then .ok (Char.ofNat 12, c')
    else if ch = 'n' then .ok ('\n', c')
    else if ch = 'r' then .ok ('\r', c')
    else if ch = 't' then .ok ('\t', c')
    else if ch = 'u' then readUnicodeEscape c'
    else failAt .invalidEscape c.nextPlace

/-- Takes the rest of a string after its opening quote; `acc` holds the characters read, last
first. Each round takes at least one character, so `fuel` above the length of the text is
enough. -/
def readStringBody : Nat → Cursor → List Char → Reading String
  | 0, c, _ => failAt .eofString c.place
  | fuel + 1, c, acc =>
    match c.rest with
    | [] => failAt .eofString c.place
    | ch :: _ =>
      if ch = '"' then .ok (String.ofList acc.reverse, c.advance)
      else if ch = '\\' then
        match readEscape c.advance with
        | .error e => .error e
        | .ok (e, c') => readStringBody fuel c' (e :: acc)
      else if ch.toNat < 0x20 then failAt .controlCharacter c.nextPlace
      else readStringBody fuel c.advance (ch :: acc)

/-- Takes a string after its opening quote. -/
def readString (c : Cursor) : Reading String :=
  readStringBody (c.rest.length + 1) c []

-- ---------------------------------------------------------------------------
-- Numbers
-- ---------------------------------------------------------------------------

/-- Takes the decimal digits at the front, which are one byte each. -/
def takeDigits (c : Cursor) : List Char × Cursor :=
  let ds := c.rest.takeWhile isDigit
  (ds, ⟨c.rest.drop ds.length, c.line, c.column + ds.length⟩)

/-- The cursor after `k` more one-byte characters. -/
def Cursor.skipBytes (c : Cursor) (k : Nat) : Cursor :=
  ⟨c.rest.drop k, c.line, c.column + k⟩

/-- Accumulates decimal digits into `acc` while the value stays at most `limit`; answers the
value and the digits from the first one that would pass the limit. -/
def accumulate (limit : Nat) (acc : Nat) : List Char → Nat × List Char
  | [] => (acc, [])
  | d :: ds =>
    if acc * 10 + digitValue d > limit then (acc, d :: ds)
    else accumulate limit (acc * 10 + digitValue d) ds

/-- The largest value of 64 unsigned bits. -/
def maxU64 : Nat := Nat.pow 2 64 - 1

/-- The largest value of 32 signed bits, which bounds a written exponent. -/
def maxI32 : Nat := Nat.pow 2 31 - 1

/-- Clamps an exponent into 32 signed bits. -/
def clampI32 (e : Int) : Int :=
  if e > (maxI32 : Int) then maxI32 else if e < -(maxI32 : Int) - 1 then -(maxI32 : Int) - 1 else e

/-- Powers of ten as doubles, `10^0` up to `10^308`. -/
def powersOfTen : Array Float :=
  ((List.range 309).map fun k => Float.ofScientific 1 false k).toArray

/-- Scales a double by a power of ten, by one multiplication or division when the power is at
most `10^308`, else dividing by `10^308` first; `none` when the product overflows. -/
def scaleByTen : Nat → Float → Int → Option Float
  | 0, f, _ => some f
  | fuel + 1, f, e =>
    if e.natAbs ≤ 308 then
      let p := powersOfTen.getD e.natAbs 1
      if e ≥ 0 then
        let g := f * p
        if g.isInf then none else some g
      else some (f / p)
    else if f == 0 then some f
    else if e ≥ 0 then none
    else scaleByTen fuel (f / 1e308) (e + 308)

/-- The double `± significand · 10^exponent` as the reader computes it, or `none` when out of
range. -/
def doubleOfParts (positive : Bool) (significand : Nat) (exponent : Int) : Option Float :=
  (scaleByTen 8 significand.toUInt64.toFloat exponent).map fun f => if positive then f else -f

/-- The number read from a significand and exponent, or out of range at the cursor. -/
def finishDouble (positive : Bool) (significand : Nat) (exponent : Int) (c : Cursor) :
    Reading Number :=
  match doubleOfParts positive significand exponent with
  | some f => .ok (.float f, c)
  | none => failAt .numberOutOfRange c.place

/-- Reads an exponent after its `e`, for a significand and the exponent so far. -/
def readExponent (positive : Bool) (significand : Nat) (start : Int) (c : Cursor) :
    Reading Number :=
  let c := c.advance
  let (positiveExp, c) := match c.rest with
    | '+' :: _ => (true, c.advance)
    | '-' :: _ => (false, c.advance)
    | _ => (true, c)
  match c.rest with
  | [] => failAt .eofValue c.place
  | ch :: _ =>
    if !isDigit ch then failAt .invalidNumber c.nextPlace
    else
      let (ds, after) := takeDigits c
      let (e, spill) := accumulate maxI32 0 ds
      match spill with
      | [] =>
        let total := clampI32 (if positiveExp then start + e else start - e)
        finishDouble positive significand total after
      | _ =>
        if significand ≠ 0 ∧ positiveExp then
          failAt .numberOutOfRange (c.skipBytes (ds.length - spill.length + 1)).place
        else .ok (.float (if positive then 0.0 else -0.0), after)

/-- Reads a fraction after its point, for a significand and the exponent so far. Digits past
what 64 bits hold are dropped. -/
def readFraction (positive : Bool) (significand : Nat) (before : Int) (c : Cursor) :
    Reading Number :=
  let c := c.advance
  let (ds, after) := takeDigits c
  if ds.isEmpty then
    match after.rest with
    | [] => failAt .eofValue after.nextPlace
    | _ => failAt .invalidNumber after.nextPlace
  else
    let (sig, spill) := accumulate maxU64 significand ds
    let exponent := before - (ds.length - spill.length : Nat)
    match after.rest with
    | ch :: _ => if ch = 'e' ∨ ch = 'E' then readExponent positive sig exponent after
                 else finishDouble positive sig exponent after
    | [] => finishDouble positive sig exponent after

/-- What follows the integer digits of a number that fit in 64 bits. -/
def afterInteger (positive : Bool) (significand : Nat) (c : Cursor) : Reading Number :=
  match c.rest with
  | '.' :: _ => readFraction positive significand 0 c
  | ch :: _ =>
    if ch = 'e' ∨ ch = 'E' then readExponent positive significand 0 c
    else afterIntegerEnd positive significand c
  | [] => afterIntegerEnd positive significand c
where
  /-- An integer without fraction or exponent. -/
  afterIntegerEnd (positive : Bool) (significand : Nat) (c : Cursor) : Reading Number :=
    if positive then .ok (.nat significand, c)
    else if significand = 0 then .ok (.float (-0.0), c)
    else if significand ≤ Nat.pow 2 63 then .ok (.neg (-(significand : Int)), c)
    else .ok (.float (-(significand.toUInt64.toFloat)), c)

/-- Reads a number after its sign: an integer part, then a fraction or exponent. -/
def readNumber (positive : Bool) (c : Cursor) : Reading Number :=
  match c.rest with
  | [] => failAt .eofValue c.place
  | ch :: _ =>
    let c1 := c.advance
    if ch = '0' then
      match c1.rest with
      | d :: _ => if isDigit d then failAt .invalidNumber c1.nextPlace else afterInteger positive 0 c1
      | [] => afterInteger positive 0 c1
    else if isDigit ch then
      let (ds, after) := takeDigits c1
      let (sig, spill) := accumulate maxU64 (digitValue ch) ds
      match spill with
      | [] => afterInteger positive sig after
      | _ =>
        let extra : Int := spill.length
        match after.rest with
        | '.' :: _ => readFraction positive sig extra after
        | e :: _ =>
          if e = 'e' ∨ e = 'E' then readExponent positive sig extra after
          else finishDouble positive sig extra after
        | [] => finishDouble positive sig extra after
    else failAt .invalidNumber c.nextPlace

-- ---------------------------------------------------------------------------
-- Values
-- ---------------------------------------------------------------------------

/-- The most arrays and objects one inside another, plus one. -/
def nestingLimit : Nat := 128

mutual

/-- Reads a value, with `depth - 1` more levels of nesting allowed. -/
def readValue : Nat → Nat → Cursor → Reading Json
  | 0, _, c => failAt .eofValue c.place
  | fuel + 1, depth, c =>
    let c := skipSpace c
    match c.rest with
    | [] => failAt .eofValue c.nextPlace
    | ch :: _ =>
      if ch = 'n' then (readWord c.advance ['u', 'l', 'l']).map fun r => (.null, r.2)
      else if ch = 't' then (readWord c.advance ['r', 'u', 'e']).map fun r => (.bool true, r.2)
      else if ch = 'f' then
        (readWord c.advance ['a', 'l', 's', 'e']).map fun r => (.bool false, r.2)
      else if ch = '-' then (readNumber false c.advance).map fun r => (.num r.1, r.2)
      else if isDigit ch then (readNumber true c).map fun r => (.num r.1, r.2)
      else if ch = '"' then (readString c.advance).map fun r => (.str r.1, r.2)
      else if ch = '[' then
        if depth ≤ 1 then failAt .recursionLimit c.nextPlace
        else (readItems fuel (depth - 1) c.advance true []).map fun r => (.arr r.1, r.2)
      else if ch = '{' then
        if depth ≤ 1 then failAt .recursionLimit c.nextPlace
        else (readMembers fuel (depth - 1) c.advance true []).map fun r => (.obj r.1, r.2)
      else failAt .expectedValue c.nextPlace
termination_by structural fuel _ _ => fuel

/-- Reads the items of an array after its bracket or after an item, and its closing bracket;
`acc` holds the items read, last first. -/
def readItems : Nat → Nat → Cursor → Bool → List Json → Reading (List Json)
  | 0, _, c, _, _ => failAt .eofList c.place
  | fuel + 1, depth, c, first, acc =>
    let c := skipSpace c
    match c.rest with
    | [] => failAt .eofList c.nextPlace
    | ch :: _ =>
      if ch = ']' then .ok (acc.reverse, c.advance)
      else if ch = ',' ∧ !first then
        let c := skipSpace c.advance
        match c.rest with
        | [] => failAt .eofValue c.nextPlace
        | ch :: _ =>
          if ch = ']' then failAt .trailingComma c.nextPlace
          else match readValue fuel depth c with
            | .error e => .error e
            | .ok (v, c) => readItems fuel depth c false (v :: acc)
      else if first then
        match readValue fuel depth c with
        | .error e => .error e
        | .ok (v, c) => readItems fuel depth c false (v :: acc)
      else failAt .expectedListCommaOrEnd c.nextPlace
termination_by structural fuel _ _ _ _ => fuel

/-- Reads the members of an object after its brace or after a member, and its closing brace;
members are kept sorted by key, a later one replacing an earlier one. -/
def readMembers : Nat → Nat → Cursor → Bool → List (String × Json) →
    Reading (List (String × Json))
  | 0, _, c, _, _ => failAt .eofObject c.place
  | fuel + 1, depth, c, first, acc =>
    let c := skipSpace c
    match c.rest with
    | [] => failAt .eofObject c.nextPlace
    | ch :: _ =>
      if ch = '}' then .ok (acc, c.advance)
      else if ch = ',' ∧ !first then
        readMember fuel depth (skipSpace c.advance) acc
      else if first then readMember fuel depth c acc
      else failAt .expectedObjectCommaOrEnd c.nextPlace
termination_by structural fuel _ _ _ _ => fuel

/-- Reads one member, its key at the cursor, then the members after it. -/
def readMember : Nat → Nat → Cursor → List (String × Json) → Reading (List (String × Json))
  | 0, _, c, _ => failAt .eofObject c.place
  | fuel + 1, depth, c, acc =>
    match c.rest with
    | [] => failAt .eofValue c.nextPlace
    | ch :: _ =>
      if ch = '}' then failAt .trailingComma c.nextPlace
      else if ch ≠ '"' then failAt .keyMustBeString c.nextPlace
      else
        match readString c.advance with
        | .error e => .error e
        | .ok (k, c) =>
          let c := skipSpace c
          match c.rest with
          | [] => failAt .eofObject c.nextPlace
          | ch :: _ =>
            if ch ≠ ':' then failAt .expectedColon c.nextPlace
            else match readValue fuel depth c.advance with
              | .error e => .error e
              | .ok (v, c) => readMembers fuel depth c false (insertSorted k v acc)
termination_by structural fuel _ _ _ => fuel

end

/-- Enough fuel to read a text: every two rounds of reading take at least one character. -/
def fuelFor (c : Cursor) : Nat := 2 * c.rest.length + 8

/-- Reads a whole text as one value, allowing only white space after it. -/
def read (s : String) : Except Failure Json :=
  let c := Cursor.start s
  match readValue (fuelFor c) nestingLimit c with
  | .error e => .error e
  | .ok (v, c) =>
    let c := skipSpace c
    match c.rest with
    | [] => .ok v
    | _ => .error ⟨.trailingCharacters, c.nextPlace⟩

end Plugboard.Json
