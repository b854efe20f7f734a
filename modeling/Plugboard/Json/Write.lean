import Plugboard.Json.Value
import Plugboard.Decimal.Shortest
/-!
# Writing JSON text

Compact and indented JSON text of a value. Strings escape the quote, the backslash and the
control characters, using the short escapes where JSON has one and `\u00xx` with lowercase hex
digits otherwise; every other character is written as it is. A double is written with its
shortest decimal digits, positionally when its decimal point falls near the digits and with an
exponent otherwise, and always with a point or an exponent so that it reads back as a double.
A double that is not finite is written `null`.
-/

namespace Plugboard.Json

open Plugboard.Decimal

/-- Where a double's text puts its digits. With the value written `0.d₁d₂… × 10^p`, it is
written positionally when `lowPoint < p ≤ highPoint`, else as `d₁.d₂…e(p-1)`. -/
structure FloatStyle where
  lowPoint : Int
  highPoint : Int
  /-- Whether a non-negative exponent is written with a plus sign. -/
  plusExponent : Bool

/-- Doubles are positional from `1e-5` up to below `1e16`, and a positive exponent has a plus
sign: `18.0`, `0.001`, `1e-7`, `1e+300`. -/
def FloatStyle.standard : FloatStyle := ⟨-5, 16, true⟩

/-- `n` zero digits. -/
def zeroDigits (n : Nat) : List Char := List.replicate n '0'

/-- The text of the decimal `d · 10^k` (no trailing zero in `d`) in a style. -/
def layoutDecimal (st : FloatStyle) (d : Nat) (k : Int) : List Char :=
  let digits := (toString d).toList
  let n : Int := digits.length
  let point := n + k
  if 0 ≤ k ∧ point ≤ st.highPoint then digits ++ zeroDigits k.toNat ++ ['.', '0']
  else if 0 < point ∧ point ≤ st.highPoint then
    digits.take point.toNat ++ '.' :: digits.drop point.toNat
  else if st.lowPoint < point ∧ point ≤ 0 then
    '0' :: '.' :: zeroDigits (-point).toNat ++ digits
  else
    let e := point - 1
    let expText :=
      if e < 0 then '-' :: (toString e.natAbs).toList
      else (if st.plusExponent then ['+'] else []) ++ (toString e.toNat).toList
    let mantissa := match digits with
      | [c] => [c]
      | c :: rest => c :: '.' :: rest
      | [] => ['0']
    mantissa ++ 'e' :: expText

/-- The text of a double: its shortest decimal in the standard style, `null` when not finite. -/
def floatText (f : Float) : String :=
  match Binary.ofBits f.toBits with
  | none => "null"
  | some b =>
    let (d, k) := b.shortest
    let body := if d = 0 then ['0', '.', '0'] else layoutDecimal FloatStyle.standard d k
    String.ofList (if b.negative then '-' :: body else body)

end Plugboard.Json

namespace Plugboard

/-- The text of a number. -/
def Number.text : Number → String
  | .nat n => toString n
  | .neg n => toString n
  | .float f => Json.floatText f

end Plugboard

namespace Plugboard.Json

/-- A hexadecimal digit, lowercase. -/
def hexDigit (n : Nat) : Char :=
  if n < 10 then Char.ofNat (48 + n) else Char.ofNat (87 + n)

/-- How one character of a string is written inside the quotes. -/
def escapeChar (c : Char) : List Char :=
  let n := c.toNat
  if c = '"' then ['\\', '"']
  else if c = '\\' then ['\\', '\\']
  else if c = '\n' then ['\\', 'n']
  else if c = '\r' then ['\\', 'r']
  else if c = '\t' then ['\\', 't']
  else if n = 8 then ['\\', 'b']
  else if n = 12 then ['\\', 'f']
  else if n < 0x20 then ['\\', 'u', '0', '0', hexDigit (n / 16), hexDigit (n % 16)]
  else [c]

/-- A string written as a JSON string literal. -/
def quote (s : String) : String :=
  String.ofList ('"' :: (s.toList.flatMap escapeChar ++ ['"']))

mutual

/-- The compact text of a value: no blank between tokens. -/
def compact : Json → String
  | .null => "null"
  | .bool b => if b then "true" else "false"
  | .num n => n.text
  | .str s => quote s
  | .arr items => "[" ++ compactItems items ++ "]"
  | .obj fields => "\x7b" ++ compactFields fields ++ "\x7d"

/-- The compact texts of array items, comma separated. -/
def compactItems : List Json → String
  | [] => ""
  | [j] => compact j
  | j :: rest => compact j ++ "," ++ compactItems rest

/-- The compact texts of object members, comma separated. -/
def compactFields : List (String × Json) → String
  | [] => ""
  | [(k, v)] => quote k ++ ":" ++ compact v
  | (k, v) :: rest => quote k ++ ":" ++ compact v ++ "," ++ compactFields rest

end

/-- Two blanks per level of nesting. -/
def indentText (level : Nat) : String :=
  String.ofList (List.replicate (2 * level) ' ')

mutual

/-- The indented text of a value at a nesting level: one item or member per line, two blanks
per level, a blank after each colon, and empty arrays and objects on one line. -/
def pretty (level : Nat) : Json → String
  | .arr [] => "[]"
  | .obj [] => "\x7b\x7d"
  | .arr items => "[\n" ++ prettyItems (level + 1) items ++ "\n" ++ indentText level ++ "]"
  | .obj fields =>
    "\x7b\n" ++ prettyFields (level + 1) fields ++ "\n" ++ indentText level ++ "\x7d"
  | j => compact j

/-- Array items on their own lines at a level. -/
def prettyItems (level : Nat) : List Json → String
  | [] => ""
  | [j] => indentText level ++ pretty level j
  | j :: rest => indentText level ++ pretty level j ++ ",\n" ++ prettyItems level rest

/-- Object members on their own lines at a level. -/
def prettyFields (level : Nat) : List (String × Json) → String
  | [] => ""
  | [(k, v)] => indentText level ++ quote k ++ ": " ++ pretty level v
  | (k, v) :: rest =>
    indentText level ++ quote k ++ ": " ++ pretty level v ++ ",\n" ++ prettyFields level rest

end

/-- The indented text of a whole value. -/
def prettyText (j : Json) : String := pretty 0 j

end Plugboard.Json
