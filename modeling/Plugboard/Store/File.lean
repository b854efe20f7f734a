import Plugboard.Store.Memory
/-!
# The file store

One file `<dir>/<id>.json` per registration, holding it as indented JSON. A write goes to
`<id>.json.tmp` first and is then renamed into place, so a reader sees the old record or the new
one. Ids that cannot be file names are refused: the empty id, `.`, `..`, and ids with a `/`, a
`\` or a NUL in them.

Listing reads every entry of the directory whose extension is exactly `json`, and passes over the
entries that cannot be read or decoded. Reading one record that cannot be decoded is a failure.
-/

namespace Plugboard

/-- A store of files under a directory, and whether it was closed. -/
structure FileStore where
  directory : String
  closed : Bool := false

namespace FileStore

/-- The extension of stored records. -/
def extension : String := "json"

/-- Opens a store over a directory, making it and the directories above it as needed. -/
def openAt {σ : Type} (directory : String) : Act σ FileStore := do
  Act.onDiskKept (·.makeDirAll directory) fun e =>
    .storage ("cannot create " ++ directory ++ ": " ++ e.text)
  return { directory }

/-- The failure of every operation on a closed store. -/
def closedError : Error := .storage "file storage is closed"

/-- Fails once the store is closed. -/
def ensureOpen : Act FileStore Unit := do
  if (← Act.self).closed then Act.fail closedError

/-- Whether an id cannot name a file. -/
def badId (id : String) : Bool :=
  id.isEmpty || id == "." || id == ".." || id.toList.any fun c => c == '/' || c == '\\' || c == '\x00'

/-- The path of the file of an id. -/
def pathFor (id : String) : Act FileStore String := do
  if badId id then
    Act.fail (.validation ("plugin id '" ++ id ++ "' cannot be used as a file name"))
  return PathText.join (← Act.self).directory (id ++ "." ++ extension)

/-- Decodes a stored record. -/
def decodeAt (path text : String) : Outcome Registration :=
  match Registration.readText text with
  | .ok r => .ok r
  | .error f => .error (.storage ("decode " ++ path ++ ": " ++ f.text))

/-- Reads the record of an id. A missing file means no such record. -/
def readRecord (id : String) : Act FileStore Registration := do
  let path ← pathFor id
  match (← Act.disk).readFile path with
  | .ok text => Act.ofOutcome (decodeAt path text)
  | .error .notFound => Act.fail (.notFound id)
  | .error e => Act.fail (.storage ("read " ++ path ++ ": " ++ e.text))

/-- Writes the record of a registration through its temporary file. -/
def writeRecord (r : Registration) : Act FileStore Unit := do
  let path ← pathFor r.id
  let tmp := path ++ ".tmp"
  Act.onDisk (·.writeFile tmp r.storedText) fun e => .storage ("write " ++ tmp ++ ": " ++ e.text)
  Act.onDisk (·.rename tmp path) fun e => .storage ("rename " ++ path ++ ": " ++ e.text)

/-- The record a directory entry holds, if it is one that can be read and decoded. -/
def entryRecord (d : Disk) (path : String) : Option Registration :=
  if PathText.extension path == some extension then
    match d.readFile path with
    | .ok text => (decodeAt path text).toOption
    | .error _ => none
  else none

/-- Every record that can be read, in the order of the directory's names. -/
def readAll : Act FileStore (List Registration) := do
  let dir := (← Act.self).directory
  let names ← Act.fromDisk (·.listDir dir) fun e => .storage ("list " ++ dir ++ ": " ++ e.text)
  let d ← Act.disk
  return names.filterMap fun n => entryRecord d (PathText.join dir n)

/-- Stores a registration, replacing its file. -/
def save (r : Registration) : Act FileStore Unit := do
  ensureOpen
  writeRecord r

/-- The registration with an id. -/
def get (id : String) : Act FileStore Registration := do
  ensureOpen
  readRecord id

/-- Removes the file of an id; it must be there. -/
def delete (id : String) : Act FileStore Unit := do
  ensureOpen
  let path ← pathFor id
  match (← Act.disk).removeFile path with
  | .ok d => modify fun st => (st.1, { st.2 with disk := d })
  | .error .notFound => Act.fail (.notFound id)
  | .error e => Act.fail (.storage ("delete " ++ path ++ ": " ++ e.text))

/-- The registrations a filter selects. -/
def list (f : Filter) : Act FileStore (List Registration) := do
  ensureOpen
  return f.select (← readAll)

/-- Replaces a stored registration; its record must be readable. -/
def update (r : Registration) : Act FileStore Unit := do
  ensureOpen
  let _ ← readRecord r.id
  writeRecord r

/-- Changes a stored registration and stamps it as updated now. -/
def modify (id : String) (f : Registration → Registration) : Act FileStore Unit := do
  ensureOpen
  let r ← readRecord id
  let t ← Act.now
  writeRecord { f r with updatedAt := t }

/-- Sets the status of a stored registration. -/
def updateStatus (id : String) (s : Status) : Act FileStore Unit :=
  modify id fun r => { r with status := s }

/-- Sets the metrics of a stored registration. -/
def updateMetrics (id : String) (metrics : Metrics) : Act FileStore Unit :=
  modify id fun r => { r with metrics := some metrics }

/-- The registration with the smallest id serving an endpoint. -/
def getByEndpoint (e : String) : Act FileStore Registration := do
  ensureOpen
  match (Filter.select {} (← readAll)).find? (·.hasEndpoint e) with
  | some r => return r
  | none => Act.fail (MemoryStore.noEndpoint e)

/-- The registrations matching a text that a filter selects. -/
def search (q : String) (f : Filter) : Act FileStore (List Registration) := do
  ensureOpen
  return f.select ((← readAll).filter (matchesText · q))

/-- Closes the store; the files stay. -/
def close : Act FileStore Unit :=
  Act.change fun s => { s with closed := true }

/-- Whether the store is open and its directory is there. -/
def healthCheck : Act FileStore Bool := do
  let s ← Act.self
  if s.closed then return false
  return (← Act.disk).isDir s.directory

/-- How many records can be read. -/
def count : Act FileStore Nat := do
  return (← list {}).length

end FileStore

end Plugboard
