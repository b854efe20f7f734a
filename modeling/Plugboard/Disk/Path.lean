/-!
# Path texts

Paths are texts of names separated by `/`. These are the operations on path texts that the
program shows in its messages: joining a name onto a directory, and the last name of a path with
its extension and stem. A `.` name stands for the directory it is in and is passed over; the
last name is none when the path ends in `..`. The extension is what follows the last dot of the
last name, unless that dot starts the name. The parent of a path is read off its text alone.
-/

namespace Plugboard.PathText

/-- Whether a path starts at the root. -/
def isAbsolute (p : String) : Bool := p.toList.head? == some '/'

/-- Whether a path ends in a separator. -/
def endsWithSeparator (p : String) : Bool := p.toList.getLast? == some '/'

/-- The texts between the separators of a path, without empty ones. -/
def components (p : String) : List String :=
  ((p.toList.splitOn '/').map String.ofList).filter fun n => !n.isEmpty

/-- The path of `name` inside `dir`: `name` itself when it is absolute or `dir` is empty, and
otherwise the two joined by one separator. -/
def join (dir name : String) : String :=
  if isAbsolute name then name
  else if dir.isEmpty then name
  else if endsWithSeparator dir then dir ++ name
  else dir ++ "/" ++ name

/-- The names of a path, without empty ones and without `.`. -/
def names (p : String) : List String :=
  (components p).filter fun n => n != "."

/-- The last name of a path, unless it is `..`. -/
def fileName (p : String) : Option String :=
  match (names p).getLast? with
  | none => none
  | some n => if n = ".." then none else some n

/-- The part of a name before and after its last dot, unless the dot starts the name. -/
def splitAtDot (name : String) : String × Option String :=
  if name = ".." then (name, none)
  else
    let cs := name.toList
    match cs.reverse.findIdx? (· = '.') with
    | none => (name, none)
    | some i =>
      let before := cs.take (cs.length - i - 1)
      let after := cs.drop (cs.length - i)
      if before.isEmpty then (name, none) else (String.ofList before, some (String.ofList after))

/-- The extension of a path's last name. -/
def extension (p : String) : Option String :=
  (fileName p).bind fun n => (splitAtDot n).2

/-- A path's last name without its extension. -/
def stem (p : String) : Option String :=
  (fileName p).map fun n => (splitAtDot n).1

/-- Drops separators and `.` names from the end of a reversed path, with a bound on the
rounds. -/
def trimTail : Nat → List Char → List Char
  | 0, rev => rev
  | n + 1, '/' :: rest => trimTail n rest
  | n + 1, '.' :: '/' :: rest => trimTail n ('/' :: rest)
  | _, rev => rev

/-- The path with the extension of its last name replaced by `ext`, or added when there is
none, and with whatever followed the last name dropped. -/
def withExtension (p ext : String) : String :=
  match fileName p with
  | none => p
  | some n =>
    let rev := trimTail (p.length + 1) p.toList.reverse
    let base := (rev.drop n.length).reverse
    String.ofList base ++ (splitAtDot n).1 ++ (if ext.isEmpty then "" else "." ++ ext)

/-- Drops empty and `.` components from the end of a reversed path. -/
def trimEmptyTail : List Char → List Char
  | '/' :: rest => trimEmptyTail rest
  | '.' :: '/' :: rest => trimEmptyTail rest
  | ['.'] => []
  | rev => rev

/-- The path of the directory holding a path's last component, as a prefix of the path's own
text: the last component goes, with the separators and `.` names around it. A leading `/` or
`./` stays; a path that is only its root, or has no component, has no parent, and one that is
only `.` has the empty path for its parent. -/
def lexicalParent (p : String) : Option String :=
  let cs := p.toList
  let rootLen := if cs.head? = some '/' then 1 else 0
  let curLen := if rootLen = 0 ∧ (cs = ['.'] ∨ cs.take 2 = ['.', '/']) then 1 else 0
  let lead := cs.take (rootLen + curLen)
  match trimEmptyTail (cs.drop (rootLen + curLen)).reverse with
  | [] => if rootLen = 1 then none else if curLen = 1 then some "" else none
  | rev =>
    let rest := trimEmptyTail ((rev.dropWhile (· ≠ '/')).drop 1)
    some (String.ofList (lead ++ rest.reverse))

end Plugboard.PathText
