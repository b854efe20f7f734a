/-!
# Blank characters

The characters with the Unicode `White_Space` property, and the trimming and word splitting
built on them. Tab, line feed, vertical tab, form feed, carriage return, space, next line and
no-break space are blank; the zero-width space U+200B is not.
-/

namespace Plugboard.Text

/-- A character is blank exactly when Unicode gives it the `White_Space` property. -/
def isBlank (c : Char) : Bool :=
  let n := c.toNat
  (0x09 ≤ n && n ≤ 0x0D) || n == 0x20 || n == 0x85 || n == 0xA0 || n == 0x1680 ||
    (0x2000 ≤ n && n ≤ 0x200A) || n == 0x2028 || n == 0x2029 || n == 0x202F ||
    n == 0x205F || n == 0x3000

/-- The characters left after dropping blank characters from both ends. -/
def trimChars (cs : List Char) : List Char :=
  ((cs.dropWhile isBlank).reverse.dropWhile isBlank).reverse

/-- Drops blank characters from both ends of a text. -/
def trim (s : String) : String :=
  String.ofList (trimChars s.toList)

/-- A text is blank when nothing is left of it after trimming. -/
def isBlankText (s : String) : Bool :=
  s.toList.all isBlank

/-- Splits characters into the maximal runs of non-blank characters; `word` holds the run being
read, last character first. -/
def wordsFrom : List Char → List Char → List String
  | [], word => if word.isEmpty then [] else [String.ofList word.reverse]
  | c :: cs, word =>
    if isBlank c then
      if word.isEmpty then wordsFrom cs [] else String.ofList word.reverse :: wordsFrom cs []
    else wordsFrom cs (c :: word)

/-- The words of a text: its maximal runs of non-blank characters, in order. -/
def words (s : String) : List String :=
  wordsFrom s.toList []

theorem isBlankText_iff (s : String) : isBlankText s = true ↔ ∀ c ∈ s.toList, isBlank c = true := by
  simp [isBlankText]

end Plugboard.Text
