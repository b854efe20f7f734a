import Plugboard.Text.Blank
/-!
# Instants and the clock

An instant is a number of seconds since 1970-01-01T00:00:00Z and a count of nanoseconds past
that second (a leap second carries a billion more). Instants are written in RFC 3339 form in
UTC, with no fraction, or three, six or nine fractional digits, whichever is the fewest that is
exact.

Instants are read in two ways. The lenient reader accepts what RFC 3339 text met in practice
holds: fields may have fewer digits than usual, blanks may stand before fields and around
separators, the date and time may be separated by `T`, `t` or a blank, and the offset may be
`Z`, `z`, `UTC` or a signed `hh:mm`. The strict reader accepts RFC 3339 alone.

The clock is logical: every reading is later than the one before. It starts at the present
day, so instants written in the inputs that lie in the past rank before its readings, and those
in the future after them.
-/

namespace Plugboard

/-- An instant: seconds since 1970-01-01T00:00:00Z, and nanoseconds past that second. The
nanoseconds stay below a billion except in a leap second, which is written as second 60 and kept
as the second before it with a billion nanoseconds more. -/
structure Instant where
  seconds : Int
  nanos : Nat
  deriving DecidableEq

namespace Instant

/-- Instants in time order. -/
def compareTime (a b : Instant) : Ordering :=
  match compare a.seconds b.seconds with
  | .eq => compare a.nanos b.nanos
  | o => o

/-- Whether `a` is strictly earlier than `b`. -/
def before (a b : Instant) : Bool := compareTime a b == .lt

/-- The default instant for records written without one: 2000-01-01T00:00:00Z. -/
def y2k : Instant := ⟨946684800, 0⟩

end Instant

/-- Days from 1970-01-01 to a date of the proleptic Gregorian calendar. -/
def daysFromCivil (y : Int) (m d : Nat) : Int :=
  let y := if m ≤ 2 then y - 1 else y
  let era := y.fdiv 400
  let yoe := y - era * 400
  let mp : Int := if m > 2 then (m : Int) - 3 else (m : Int) + 9
  let doy := (153 * mp + 2) / 5 + (d : Int) - 1
  let doe := yoe * 365 + yoe / 4 - yoe / 100 + doy
  era * 146097 + doe - 719468

/-- The date `(year, month, day)` a number of days after 1970-01-01. -/
def civilFromDays (z : Int) : Int × Nat × Nat :=
  let z := z + 719468
  let era := z.fdiv 146097
  let doe := z - era * 146097
  let yoe := (doe - doe / 1460 + doe / 36524 - doe / 146096) / 365
  let y := yoe + era * 400
  let doy := doe - (365 * yoe + yoe / 4 - yoe / 100)
  let mp := (5 * doy + 2) / 153
  let d := doy - (153 * mp + 2) / 5 + 1
  let m := if mp < 10 then mp + 3 else mp - 9
  ((if m ≤ 2 then y + 1 else y), m.toNat, d.toNat)

/-- Whether a year is a leap year of the Gregorian calendar. -/
def isLeapYear (y : Int) : Bool :=
  (y % 4 == 0 && y % 100 != 0) || y % 400 == 0

/-- The number of days in a month. -/
def daysInMonth (y : Int) (m : Nat) : Nat :=
  if m = 2 then (if isLeapYear y then 29 else 28)
  else if m = 4 ∨ m = 6 ∨ m = 9 ∨ m = 11 then 30
  else 31

/-- A natural number written with at least `width` digits. -/
def padNat (width n : Nat) : String :=
  let s := toString n
  String.ofList (List.replicate (width - s.length) '0') ++ s

namespace Instant

/-- The fractional part: none, or three, six or nine digits, the fewest that are exact. -/
def fractionText (nanos : Nat) : String :=
  if nanos = 0 then ""
  else if nanos % 1000000 = 0 then "." ++ padNat 3 (nanos / 1000000)
  else if nanos % 1000 = 0 then "." ++ padNat 6 (nanos / 1000)
  else "." ++ padNat 9 nanos

/-- The year as written: four digits, or a sign and at least four digits outside 0 to 9999. -/
def yearText (y : Int) : String :=
  if 0 ≤ y ∧ y ≤ 9999 then padNat 4 y.toNat
  else if y < 0 then "-" ++ padNat 4 y.natAbs
  else "+" ++ padNat 4 y.toNat

/-- The RFC 3339 text of an instant in UTC, ending in `Z` or, when `zulu` is false, in
`+00:00`. -/
def text (t : Instant) (zulu : Bool := true) : String :=
  let days := t.seconds.fdiv 86400
  let secs := (t.seconds - days * 86400).toNat
  let leap := if t.nanos ≥ 1000000000 then 1 else 0
  let (y, m, d) := civilFromDays days
  yearText y ++ "-" ++ padNat 2 m ++ "-" ++ padNat 2 d ++ "T" ++
    padNat 2 (secs / 3600) ++ ":" ++ padNat 2 (secs / 60 % 60) ++ ":" ++
    padNat 2 (secs % 60 + leap) ++ fractionText (t.nanos % 1000000000) ++
    (if zulu then "Z" else "+00:00")

end Instant

/-- Why a text is not an instant. -/
inductive TimeFault where
  | outOfRange
  | impossible
  | notEnough
  | invalid
  | tooShort
  | tooLong

/-- The words for a time fault. -/
def TimeFault.text : TimeFault → String
  | .outOfRange => "input is out of range"
  | .impossible => "no possible date and time matching input"
  | .notEnough => "input is not enough for unique date and time"
  | .invalid => "input contains invalid characters"
  | .tooShort => "premature end of input"
  | .tooLong => "trailing input"

/-- A step of reading an instant: the value and the characters left, or a fault. -/
abbrev TimeStep (α : Type) := Except TimeFault (α × List Char)

/-- Drops leading blank characters. -/
def dropBlank (cs : List Char) : List Char := cs.dropWhile Text.isBlank

/-- The number of bytes characters take in UTF-8: fields are measured in bytes. -/
def byteCount (cs : List Char) : Nat := cs.foldr (fun c n => c.utf8Size + n) 0

/-- Whether a character is an ASCII decimal digit. -/
def isDigitChar (c : Char) : Bool := '0' ≤ c && c ≤ '9'

/-- The largest value a field holds: fields are signed 64-bit numbers. -/
def fieldLimit : Nat := 9223372036854775807

/-- Reads at least `least` and at most `most` decimal digits. Fewer than `least` bytes left is a
premature end, a non-digit among the first `least` characters is invalid, and a value past
`fieldLimit` is out of range. -/
def readDigits (cs : List Char) (least most : Nat) : TimeStep Nat :=
  if byteCount cs < least then .error .tooShort
  else
    let ds := (cs.take most).takeWhile isDigitChar
    if ds.length < least then .error .invalid
    else
      let n := ds.foldl (fun n c => 10 * n + (c.toNat - 48)) 0
      if n > fieldLimit then .error .outOfRange else .ok (n, cs.drop ds.length)

/-- Reads a literal character. -/
def readLiteral (cs : List Char) (ch : Char) : Except TimeFault (List Char) :=
  match cs with
  | [] => .error .tooShort
  | c :: rest => if c = ch then .ok rest else .error .invalid

/-- Checks that a field lies between two bounds. -/
def checkField (lo hi v : Nat) : Except TimeFault Unit :=
  if lo ≤ v ∧ v ≤ hi then .ok () else .error .outOfRange

/-- Reads a year: up to four digits, or a sign and any number of digits. The year must fit in
32 signed bits. -/
def readYear (cs : List Char) : Except TimeFault (Int × List Char) := do
  let (y, rest) ← match cs with
    | '-' :: rest => (readDigits rest 1 rest.length).map fun (n, r) => (-(n : Int), r)
    | '+' :: rest => (readDigits rest 1 rest.length).map fun (n, r) => ((n : Int), r)
    | _ => (readDigits cs 1 4).map fun (n, r) => ((n : Int), r)
  if y < -2147483648 ∨ y > 2147483647 then throw .outOfRange
  pure (y, rest)

/-- Reads a fraction of a second after its point, as nanoseconds: up to nine digits count, more
are skipped. -/
def readNanos (cs : List Char) : Except TimeFault (Nat × List Char) := do
  let (n, rest) ← readDigits cs 1 9
  let used := cs.length - rest.length
  pure (n * Nat.pow 10 (9 - used), rest.dropWhile isDigitChar)

/-- Reads the separator between date and time: `T`, `t` or a space. -/
def readDateTimeSeparator (cs : List Char) : Except TimeFault (List Char) :=
  match cs with
  | c :: rest => if c = 'T' ∨ c = 't' ∨ c = ' ' then .ok rest else .error .invalid
  | [] => .error .tooShort

/-- Reads two decimal digits of an offset. -/
def readOffsetPair (cs : List Char) : TimeStep (Nat × Nat) :=
  if byteCount cs < 2 then .error .tooShort
  else
    match cs with
    | a :: b :: rest =>
      if isDigitChar a && isDigitChar b then .ok ((a.toNat - 48, b.toNat - 48), rest)
      else .error .invalid
    | _ => .error .invalid

/-- Reads an offset from UTC in seconds: `Z`, `z`, or a sign (`+`, `-` or the minus sign), two
digits of hours and two of minutes. Between them stands one colon, or, when `lenient`, any run
of colons and blanks. Minutes from 60 up are out of range. -/
def readOffset (cs : List Char) (lenient : Bool) : Except TimeFault (Int × List Char) :=
  match cs with
  | 'Z' :: rest => .ok (0, rest)
  | 'z' :: rest => .ok (0, rest)
  | [] => .error .tooShort
  | sign :: rest =>
    if sign ≠ '+' ∧ sign ≠ '-' ∧ sign ≠ '−' then .error .invalid
    else do
      let ((h1, h2), rest) ← readOffsetPair rest
      let rest ← if lenient then pure (rest.dropWhile fun c => c = ':' || Text.isBlank c)
        else readLiteral rest ':'
      let ((m1, m2), rest) ← readOffsetPair rest
      if m1 ≥ 6 then throw .outOfRange
      let secs : Int := ((h1 * 10 + h2) * 3600 + (m1 * 10 + m2) * 60 : Nat)
      pure (if sign = '+' then secs else -secs, rest)

/-- Whether a text starts with the zone name `UTC`, in any case. -/
def startsWithUtc (cs : List Char) : Bool :=
  match cs with
  | a :: b :: c :: _ => a.toLower = 'u' && b.toLower = 't' && c.toLower = 'c'
  | _ => false

/-- The fields an instant is written with: a date and time of day as written, and the offset of
that local time from UTC in seconds. -/
structure InstantFields where
  year : Int
  month : Nat
  day : Nat
  hour : Nat
  minute : Nat
  second : Nat
  nanos : Nat
  offset : Int

/-- The first and last day a date may fall on, counted from 1970-01-01. -/
def dayBounds : Int × Int := (daysFromCivil (-262143) 1 1, daysFromCivil 262142 12 31)

/-- The instant that fields name. The date must exist and lie in years -262143 to 262142, the
offset must be under a day, and the instant must lie in that span in UTC as well. A second 60 is
a leap second: it is kept as the second before with a billion nanoseconds more. -/
def InstantFields.toInstant (f : InstantFields) : Except TimeFault Instant := do
  if f.year < -262143 ∨ f.year > 262142 ∨ f.day > daysInMonth f.year f.month then
    throw .outOfRange
  if f.offset.natAbs ≥ 86400 then throw .outOfRange
  let leap := f.second = 60
  let secs := daysFromCivil f.year f.month f.day * 86400 +
    ((f.hour * 3600 + f.minute * 60 + (if leap then 59 else f.second) : Nat) : Int) - f.offset
  let days := secs.fdiv 86400
  if days < dayBounds.1 ∨ days > dayBounds.2 then throw .outOfRange
  pure ⟨secs, if leap then f.nanos + 1000000000 else f.nanos⟩

/-- Reads the fields of an instant, leniently: blanks may stand before every field and around
the separators, fields may have fewer digits than usual, a year may carry a sign and more
digits, and the offset may be `UTC` in any case or have a blank for its colon. Each field is
checked against its range as soon as it is read. -/
def InstantFields.readLenient (s : String) : Except TimeFault InstantFields := do
  let (y, cs) ← readYear (dropBlank s.toList)
  let cs ← readLiteral (dropBlank cs) '-'
  let (mo, cs) ← readDigits (dropBlank cs) 1 2
  checkField 1 12 mo
  let cs ← readLiteral (dropBlank cs) '-'
  let (d, cs) ← readDigits (dropBlank cs) 1 2
  checkField 1 31 d
  let cs ← readDateTimeSeparator cs
  let (h, cs) ← readDigits (dropBlank cs) 1 2
  checkField 0 23 h
  let cs ← readLiteral (dropBlank cs) ':'
  let (mi, cs) ← readDigits (dropBlank cs) 1 2
  checkField 0 59 mi
  let cs ← readLiteral (dropBlank cs) ':'
  let (se, cs) ← readDigits (dropBlank cs) 1 2
  checkField 0 60 se
  let (nano, cs) ← match cs with
    | '.' :: rest => readNanos rest
    | _ => pure (0, cs)
  let cs := dropBlank cs
  let (off, cs) ← if startsWithUtc cs then pure (0, cs.drop 3) else readOffset cs true
  if !(dropBlank cs).isEmpty then throw .tooLong
  pure ⟨y, mo, d, h, mi, se, nano, off⟩

/-- Reads the fields of an instant in strict RFC 3339 form: four digits of year, two of each
other field, an optional fraction, and `Z` or an offset `±hh:mm` of at most 23:59, with nothing
around them. -/
def InstantFields.readStrict (s : String) : Except TimeFault InstantFields := do
  let (y, cs) ← readDigits s.toList 4 4
  let cs ← readLiteral cs '-'
  let (mo, cs) ← readDigits cs 2 2
  checkField 1 12 mo
  let cs ← readLiteral cs '-'
  let (d, cs) ← readDigits cs 2 2
  checkField 1 31 d
  let cs ← readDateTimeSeparator cs
  let (h, cs) ← readDigits cs 2 2
  checkField 0 23 h
  let cs ← readLiteral cs ':'
  let (mi, cs) ← readDigits cs 2 2
  checkField 0 59 mi
  let cs ← readLiteral cs ':'
  let (se, cs) ← readDigits cs 2 2
  checkField 0 60 se
  let (nano, cs) ← match cs with
    | '.' :: rest => readNanos rest
    | _ => pure (0, cs)
  let (off, cs) ← readOffset cs false
  if off.natAbs > 86340 then throw .outOfRange
  if !cs.isEmpty then throw .tooLong
  pure ⟨y, mo, d, h, mi, se, nano, off⟩

/-- Reads an RFC 3339 instant, leniently. -/
def parseInstant (s : String) : Except TimeFault Instant :=
  InstantFields.readLenient s >>= InstantFields.toInstant

/-- Reads an instant written in strict RFC 3339 form. -/
def parseStrictInstant (s : String) : Except TimeFault Instant :=
  InstantFields.readStrict s >>= InstantFields.toInstant

/-- A clock that reads strictly later on every reading. Readings start just after
2026-11-13T00:00:00Z and advance by one nanosecond. -/
structure Clock where
  reads : Nat
  deriving DecidableEq

namespace Clock

/-- The instant of the clock's `n`-th reading. -/
def instantOf (n : Nat) : Instant :=
  ⟨1794528000 + (n / 1000000000 : Nat), n % 1000000000⟩

/-- A new reading and the clock after it. -/
def now (c : Clock) : Instant × Clock :=
  (instantOf (c.reads + 1), ⟨c.reads + 1⟩)

end Clock

end Plugboard
