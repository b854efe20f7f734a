import Plugboard.Disk.Path
/-!
# The disk

A disk is a tree of directories and files, with the working directory at `/work`. A relative
path is read from the working directory, an absolute one from the root. A path is walked name by
name as the operating system walks it: every name but the last must be an existing directory,
`.` stays where it is, and `..` goes up one directory (the root is its own parent), so
`missing/..` fails although its text leads back. The operations fail as the operating system
does: a missing name, a file where a directory is needed or the other way round, an existing
name, a name longer than 255 bytes, a path of 4096 bytes or more, and a path holding a NUL
character.
-/

namespace Plugboard

/-- Why an operation on the disk failed. -/
inductive OsError where
  | notFound
  | alreadyExists
  | notDirectory
  | isDirectory
  | nameTooLong
  | nulInPath
  deriving DecidableEq

/-- The words the operating system gives for a failure. -/
def OsError.text : OsError → String
  | .notFound => "No such file or directory (os error 2)"
  | .alreadyExists => "File exists (os error 17)"
  | .notDirectory => "Not a directory (os error 20)"
  | .isDirectory => "Is a directory (os error 21)"
  | .nameTooLong => "File name too long (os error 36)"
  | .nulInPath => "file name contained an unexpected NUL byte"

/-- A file with its text, or a directory of named entries kept sorted by name. -/
inductive Node where
  | file (text : String)
  | dir (entries : List (String × Node))

/-- The disk: the root directory. -/
structure Disk where
  root : Node

namespace Disk

/-- The longest name a directory entry may have, in bytes. -/
def nameMax : Nat := 255

/-- The longest path the system takes is one byte shorter than this. -/
def pathMax : Nat := 4096

end Disk

namespace Node

/-- The entry of a directory with a name. -/
def lookup (name : String) : List (String × Node) → Option Node
  | [] => none
  | (n, v) :: rest => if n = name then some v else lookup name rest

/-- A directory's entries with the entry `name` set, added in name order, or removed. -/
def setEntry (name : String) (v : Option Node) : List (String × Node) → List (String × Node)
  | [] => match v with
    | some v => [(name, v)]
    | none => []
  | (n, w) :: rest =>
    if n = name then
      match v with
      | some v => (name, v) :: rest
      | none => rest
    else if name < n then
      match v with
      | some v => (name, v) :: (n, w) :: rest
      | none => (n, w) :: rest
    else (n, w) :: setEntry name v rest

/-- Looks a name up in a directory on the way down, refusing one that is too long. -/
def step (entries : List (String × Node)) (name : String) : Except OsError (Option Node) :=
  if name.utf8ByteSize > Disk.nameMax then .error .nameTooLong else .ok (lookup name entries)

/-- The node at a path of names below this node, or `none` when only the last name is
missing. -/
def find : Node → List String → Except OsError (Option Node)
  | n, [] => .ok (some n)
  | .file _, _ :: _ => .error .notDirectory
  | .dir entries, name :: rest =>
    match rest with
    | [] => step entries name
    | _ :: _ => do
      match ← step entries name with
      | none => .error .notFound
      | some child => find child rest
termination_by structural _ names => names

/-- Changes the entry at a path of names below this directory: `f` is given the entry there, if
any, and gives the new entry, if any. -/
def update (f : Option Node → Except OsError (Option Node)) :
    Node → List String → Except OsError Node
  | _, [] => .error .notFound
  | .file _, _ :: _ => .error .notDirectory
  | .dir entries, [name] => do
    let old ← step entries name
    let new ← f old
    pure (.dir (setEntry name new entries))
  | .dir entries, name :: rest@(_ :: _) => do
    match ← step entries name with
    | none => .error .notFound
    | some child =>
      let child ← update f child rest
      pure (.dir (setEntry name (some child) entries))

end Node

/-- What a path names: a file or a directory. -/
inductive NodeKind where
  | file
  | dir
  deriving DecidableEq

/-- Where a walked path leads: the entry `name` of an existing directory, written with a
separator after it or not, or an existing directory itself, reached through the root, `.` or
`..`. Directories are given by the names leading to them from the root. -/
inductive Spot where
  | entry (parent : List String) (name : String) (slashed : Bool)
  | whole (names : List String)

namespace Disk

/-- A disk holding an empty working directory. -/
def empty : Disk := ⟨.dir [("work", .dir [])]⟩

/-- One step of a walk from the directory `here`: `.` stays, `..` goes up, and any other name
must be a directory here. -/
def descend (d : Disk) (here : List String) (name : String) : Except OsError (List String) :=
  if name = "." then .ok here
  else if name = ".." then .ok here.dropLast
  else
    match d.root.find (here ++ [name]) with
    | .ok (some (.dir _)) => .ok (here ++ [name])
    | .ok (some (.file _)) => .error .notDirectory
    | .ok none => .error .notFound
    | .error e => .error e

/-- Where the walk of a path starts: the root for an absolute path, the working directory
otherwise. -/
def origin (p : String) : List String := if PathText.isAbsolute p then [] else ["work"]

/-- Walks a path to where it leads. A NUL character, a length of `pathMax` bytes or more, and
the empty path are refused before any walk. -/
def locate (d : Disk) (p : String) : Except OsError Spot := do
  if p.toList.contains (Char.ofNat 0) then throw .nulInPath
  if p.utf8ByteSize ≥ pathMax then throw .nameTooLong
  if p.isEmpty then throw .notFound
  let names := PathText.components p
  let here ← names.dropLast.foldlM d.descend (origin p)
  match names.getLast? with
  | none => pure (.whole here)
  | some name =>
    if name = "." then pure (.whole here)
    else if name = ".." then pure (.whole here.dropLast)
    else pure (.entry here name (PathText.endsWithSeparator p))

/-- What stands at a spot, if anything. -/
def nodeAt (d : Disk) : Spot → Except OsError (Option Node)
  | .whole names => d.root.find names
  | .entry parent name _ => d.root.find (parent ++ [name])

/-- What is at a path. -/
def kindOf (d : Disk) (p : String) : Except OsError NodeKind := do
  let spot ← d.locate p
  match ← d.nodeAt spot, spot with
  | none, _ => .error .notFound
  | some (.file _), .entry _ _ true => .error .notDirectory
  | some (.file _), _ => pure .file
  | some (.dir _), _ => pure .dir

/-- Whether a path names a directory. -/
def isDir (d : Disk) (p : String) : Bool :=
  match d.kindOf p with
  | .ok .dir => true
  | _ => false

/-- The text of the file at a path. -/
def readFile (d : Disk) (p : String) : Except OsError String := do
  let spot ← d.locate p
  match ← d.nodeAt spot, spot with
  | none, _ => .error .notFound
  | some (.file _), .entry _ _ true => .error .notDirectory
  | some (.file t), _ => pure t
  | some (.dir _), _ => .error .isDirectory

/-- Changes the entry at a spot: `f` is given the entry there, if any, and gives the new entry,
if any. A directory reached as a whole cannot be changed. -/
def updateAt (d : Disk) (f : Option Node → Except OsError (Option Node)) :
    Spot → Except OsError Disk
  | .whole _ => .error .isDirectory
  | .entry parent name _ => do pure ⟨← d.root.update f (parent ++ [name])⟩

/-- Writes a file at a path, replacing its text if it exists. A path ending in a separator names
a directory and cannot be written. -/
def writeFile (d : Disk) (p : String) (text : String) : Except OsError Disk := do
  let spot ← d.locate p
  let slashed := match spot with
    | .entry _ _ s => s
    | .whole _ => true
  d.updateAt (fun old => match old with
    | some (.dir _) => .error .isDirectory
    | _ => if slashed then .error .isDirectory else pure (some (.file text))) spot

/-- Removes the file at a path. -/
def removeFile (d : Disk) (p : String) : Except OsError Disk := do
  let spot ← d.locate p
  let slashed := match spot with
    | .entry _ _ s => s
    | .whole _ => false
  d.updateAt (fun old => match old with
    | none => .error .notFound
    | some (.dir _) => .error .isDirectory
    | some (.file _) => if slashed then .error .notDirectory else pure none) spot

/-- Removes whatever is at a path, a directory with everything in it. A file named with a
separator after it is not a directory. -/
def removeAll (d : Disk) (p : String) : Except OsError Disk := do
  let spot ← d.locate p
  let slashed := match spot with
    | .entry _ _ s => s
    | .whole _ => false
  d.updateAt (fun old => match old with
    | none => .error .notFound
    | some (.file _) => if slashed then .error .notDirectory else pure none
    | some (.dir _) => pure none) spot

/-- Moves the file at `src` to `dst`, replacing a file there. -/
def rename (d : Disk) (src dst : String) : Except OsError Disk := do
  let source ← d.locate src
  let target ← d.locate dst
  let text ← match ← d.nodeAt source with
    | none => .error .notFound
    | some (.dir _) => .error .isDirectory
    | some (.file t) => pure t
  let _ ← d.nodeAt target
  let d ← d.updateAt (fun old => match old with
    | some (.dir _) => .error .isDirectory
    | _ => pure (some (.file text))) target
  d.updateAt (fun _ => pure none) source

/-- The names in the directory at a path, sorted. -/
def listDir (d : Disk) (p : String) : Except OsError (List String) := do
  match ← d.nodeAt (← d.locate p) with
  | none => .error .notFound
  | some (.file _) => .error .notDirectory
  | some (.dir entries) => pure (entries.map (·.1))

/-- Makes a directory at a path whose parent exists. Whatever stands there already, also a
directory reached as a whole, is in the way. -/
def makeDir (d : Disk) (p : String) : Except OsError Disk := do
  match ← d.locate p with
  | .whole _ => .error .alreadyExists
  | spot => d.updateAt (fun old => match old with
    | some _ => .error .alreadyExists
    | none => pure (some (.dir []))) spot

/-- Makes a directory and any missing directories above it, with a bound on how many: the disk
as it is left, and the failure, if any. The directory is made alone first; only when something
above it is missing is its parent (the path without its last component) made, and then the
directory again. A directory that is there in the end is no failure, and directories made
before a failure stay. -/
def makeDirAllFrom : Nat → Disk → String → Disk × Option OsError
  | 0, d, _ => (d, some .notFound)
  | fuel + 1, d, p =>
    if p.isEmpty then (d, none)
    else
      match d.makeDir p with
      | .ok d' => (d', none)
      | .error .notFound =>
        match PathText.lexicalParent p with
        | none => (d, some .notFound)
        | some q =>
          match makeDirAllFrom fuel d q with
          | (d', some e) => (d', some e)
          | (d', none) =>
            match d'.makeDir p with
            | .ok made => (made, none)
            | .error e => (d', if d'.isDir p then none else some e)
      | .error e => (d, if d.isDir p then none else some e)

/-- Makes the directory at a path and any missing directories above it: the disk as it is left,
and the failure, if any. Every parent is shorter than its path, so the path's length bounds the
steps. -/
def makeDirAll (d : Disk) (p : String) : Disk × Option OsError :=
  makeDirAllFrom (p.length + 1) d p

/-- The disk after a run that may fail part way, if it did not fail. -/
def settle : Disk × Option OsError → Except OsError Disk
  | (d, none) => .ok d
  | (_, some e) => .error e

end Disk

end Plugboard
