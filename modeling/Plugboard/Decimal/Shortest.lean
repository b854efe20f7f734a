/-!
# Shortest decimals of binary floating-point values

A finite double is `m · 2^q` for a natural significand `m`. Every real strictly between the
midpoints to its two neighbouring doubles reads back as it, and so do the midpoints themselves
when `m` is even, since reading rounds a tie to the even significand. The shortest decimal of the
value is the decimal with the fewest significant digits in that interval, and among those the one
nearest the value; of two equally near, the one with the even last digit.

All arithmetic here is exact, on natural numbers. `shortest` tries one to seventeen significant
digits; with `n` digits only the two points of the grid `10^(E - n + 1)` around the value need
testing, since if any point of a grid lies in the interval, so does one of them.
-/

namespace Plugboard.Decimal

/-- A finite double taken apart: its sign, and its magnitude `m · 2^q`. `narrowBelow` says that
the double below is half as far away as the double above, which happens at the bottom of a
binade. -/
structure Binary where
  negative : Bool
  m : Nat
  q : Int
  narrowBelow : Bool

/-- The parts of a double given by its bits, or `none` for an infinity or a NaN. -/
def Binary.ofBits (bits : UInt64) : Option Binary :=
  let b : Nat := bits.toNat
  let negative : Bool := b / Nat.pow 2 63 % 2 == 1
  let expField : Nat := b / Nat.pow 2 52 % Nat.pow 2 11
  let fraction : Nat := b % Nat.pow 2 52
  if expField = 2047 then none
  else if expField = 0 then some ⟨negative, fraction, -1074, false⟩
  else some ⟨negative, fraction + Nat.pow 2 52, Int.ofNat expField - 1075, fraction == 0 && expField > 1⟩

/-- Compares `d · 10^k` with `x · 2^p`, exactly. -/
def compareScaled (d : Nat) (k : Int) (x : Nat) (p : Int) : Ordering :=
  compare (d * Nat.pow 10 k.toNat * Nat.pow 2 (-p).toNat) (x * Nat.pow 2 p.toNat * Nat.pow 10 (-k).toNat)

/-- `⌊m · 2^q / 10^k⌋`. -/
def floorScaled (m : Nat) (q : Int) (k : Int) : Nat :=
  (m * Nat.pow 2 q.toNat * Nat.pow 10 (-k).toNat) / (Nat.pow 2 (-q).toNat * Nat.pow 10 k.toNat)

/-- Whether `d · 10^k` reads back as the double `b`. -/
def Binary.admits (b : Binary) (d : Nat) (k : Int) : Bool :=
  let closed := b.m % 2 == 0
  let low := if b.narrowBelow then 4 * b.m - 1 else 4 * b.m - 2
  let high := 4 * b.m + 2
  let aboveLow := match compareScaled d k low (b.q - 2) with
    | .gt => true
    | .eq => closed
    | .lt => false
  let belowHigh := match compareScaled d k high (b.q - 2) with
    | .lt => true
    | .eq => closed
    | .gt => false
  aboveLow && belowHigh

/-- Moves an estimate `e` of `⌊log₁₀ (m · 2^q)⌋` to the exact value, one step at a time. -/
def fixExponent (m : Nat) (q : Int) : Nat → Int → Int
  | 0, e => e
  | fuel + 1, e =>
    if compareScaled 1 (e + 1) m q != .gt then fixExponent m q fuel (e + 1)
    else if compareScaled 1 e m q == .gt then fixExponent m q fuel (e - 1)
    else e

/-- `⌊log₁₀ (m · 2^q)⌋` for `m > 0`: an estimate from the bit length, corrected exactly. -/
def decimalExponent (m : Nat) (q : Int) : Int :=
  let bits : Int := (Nat.log2 m : Int) + q
  fixExponent m q 4 ((bits * 30103).fdiv 100000)

/-- The chosen one of the two grid points `d·10^k` and `(d+1)·10^k` around the value, given
which of them read back. -/
def Binary.pick (b : Binary) (d : Nat) (k : Int) (lowOk highOk : Bool) : Option Nat :=
  match lowOk, highOk with
  | true, false => some d
  | false, true => some (d + 1)
  | false, false => none
  | true, true =>
    match compareScaled (2 * d + 1) k b.m (b.q + 1) with
    | .gt => some d
    | .lt => some (d + 1)
    | .eq => some (if d % 2 == 0 then d else d + 1)

/-- The decimal `d · 10^k` with the fewest digits that reads back, trying `n`, `n + 1`, …
significant digits, where `e` is the value's decimal exponent. -/
def Binary.search (b : Binary) (e : Int) : Nat → Nat → Option (Nat × Int)
  | 0, _ => none
  | fuel + 1, n =>
    let k := e - n + 1
    let d := floorScaled b.m b.q k
    match b.pick d k (b.admits d k) (b.admits (d + 1) k) with
    | some digits => some (digits, k)
    | none => b.search e fuel (n + 1)

/-- Drops trailing zero digits, moving them into the exponent. -/
def stripZeros : Nat → Nat × Int → Nat × Int
  | 0, dk => dk
  | fuel + 1, (d, k) => if d ≠ 0 ∧ d % 10 = 0 then stripZeros fuel (d / 10, k + 1) else (d, k)

/-- The shortest decimal `d · 10^k` of a double's magnitude, with no trailing zero in `d`;
`(0, 0)` for zero. -/
def Binary.shortest (b : Binary) : Nat × Int :=
  if b.m = 0 then (0, 0)
  else
    match b.search (decimalExponent b.m b.q) 17 1 with
    | some dk => stripZeros 20 dk
    | none => (b.m, 0)

end Plugboard.Decimal
