import Plugboard.Text.CaseTable
/-!
# Lowercase text

Lowering the case of text by the full Unicode mapping: every character takes its simple
lowercase, except that capital I with dot above becomes `i` followed by a combining dot, and a
capital sigma becomes the final form `ς` when it ends a word. A sigma ends a word when, skipping
case-ignorable characters, a cased character comes before it and none comes after it.
-/

namespace Plugboard.Text

/-- Whether a code point lies in one of a list of inclusive ranges. -/
def inRanges (n : Nat) : List (Nat × Nat) → Bool
  | [] => false
  | (a, b) :: rest => (a ≤ n && n ≤ b) || inRanges n rest

/-- The Unicode `Case_Ignorable` property. -/
def isCaseIgnorable (c : Char) : Bool :=
  inRanges c.toNat caseIgnorableRanges

/-- The Unicode `Cased` property, for characters that are not case-ignorable. -/
def isCased (c : Char) : Bool :=
  inRanges c.toNat casedRanges

/-- The lowercase code point given by the first run that holds `n`. -/
def lowerIn (n : Nat) : List LowerRun → Option Nat
  | [] => none
  | r :: rest =>
    if r.first ≤ n ∧ n < r.first + r.count * r.step ∧ (n - r.first) % r.step = 0 then
      some (n + r.shift).toNat
    else lowerIn n rest

/-- The full lowercase of a character taken alone: capital I with dot above becomes two
characters, and every other character its simple lowercase. -/
def lowerChar (c : Char) : List Char :=
  if c.toNat = 0x130 then ['i', Char.ofNat 0x307]
  else
    match lowerIn c.toNat lowerRuns with
    | some m => [Char.ofNat m]
    | none => [c]

/-- Whether, after skipping case-ignorable characters, the next character is cased. -/
def casedPast : List Char → Bool
  | [] => false
  | c :: cs => if isCaseIgnorable c then casedPast cs else isCased c

/-- Lowers `rest`, given the characters before it, nearest first. -/
def lowerFrom (before : List Char) : List Char → List Char
  | [] => []
  | c :: cs =>
    let low :=
      if c = 'Σ' then
        [if casedPast before && !casedPast cs then 'ς' else 'σ']
      else lowerChar c
    low ++ lowerFrom (c :: before) cs

/-- The lowercase of a text. -/
def lower (s : String) : String :=
  String.ofList (lowerFrom [] s.toList)

/-- Whether `sub` occurs in `s` as a contiguous block of characters. -/
def occursIn (sub : List Char) : List Char → Bool
  | [] => sub.isEmpty
  | c :: cs => (sub.isPrefixOf (c :: cs)) || occursIn sub cs

/-- Whether one text occurs inside another. -/
def contains (s sub : String) : Bool :=
  occursIn sub.toList s.toList

theorem lowerFrom_nil (before : List Char) : lowerFrom before [] = [] := rfl

theorem occursIn_nil_left (cs : List Char) : occursIn [] cs = true := by
  cases cs <;> simp [occursIn, List.isPrefixOf]

end Plugboard.Text
