import Plugboard.Store.File
/-!
# Stores

A store keeps registrations durably. There are three kinds: in memory, in files, and cached,
which puts a memory tier in front of one of the other two. A cached store writes its backend
first and then its cache; it answers single reads from the cache, filling it from the backend on
a miss, and sends listings, searches and counts to the backend.

Stores are made from a configuration, which names the kind, the directory of a file store
(`data/plugins` unless given) and the backend behind a cache (a file store unless given). A cache
in front of a cache is refused.
-/

namespace Plugboard

/-- The kinds of store. -/
inductive StoreKind where
  | memory
  | file
  | cached
  deriving DecidableEq

namespace StoreKind

/-- The name of a kind. -/
def name : StoreKind → String
  | .memory => "memory"
  | .file => "file"
  | .cached => "cached"

/-- Every kind, in declaration order. -/
def all : List StoreKind := [.memory, .file, .cached]

/-- The kind with a name. -/
def ofName? (s : String) : Option StoreKind := all.find? (·.name == s)

/-- The shape of a kind's name. -/
def shape : Json.Shape := .oneOf (all.map name)

end StoreKind

/-- How to make a store: its kind, the directory of a file store, and the kind behind a cache. -/
structure StoreConfig where
  kind : StoreKind := .memory
  directory : Option String := none
  cachedKind : Option StoreKind := none

namespace StoreConfig

/-- The directory of a file store when none is given. -/
def defaultDirectory : String := "data/plugins"

/-- A memory store. -/
def memory : StoreConfig := {}

/-- A file store over a directory. -/
def file (dir : String) : StoreConfig := { kind := .file, directory := some dir }

/-- A cache in front of a file store over a directory. -/
def cachedFile (dir : String) : StoreConfig :=
  { kind := .cached, directory := some dir, cachedKind := some .file }

open Json in
/-- The shape of a configuration. -/
def shape : Shape :=
  .record "StorageConfig"
    [("backend", StoreKind.shape, some (.str "memory")),
     ("file", .optional (.record "FileStorageConfig" [("directory", .path, none)] false), some .null),
     ("cached", .optional (.record "CachedStorageConfig" [("backend", StoreKind.shape, none)] false),
       some .null)] false

/-- A configuration as JSON. -/
def toJson (c : StoreConfig) : Json :=
  .obj [("backend", .str c.kind.name),
    ("file", Json.ofOption (fun d => .obj [("directory", .str d)]) c.directory),
    ("cached", Json.ofOption (fun k => .obj [("backend", .str k.name)]) c.cachedKind)]

/-- The kind a checked name gives. -/
def kindOf (j : Option Json) : Option StoreKind := (j.bind Json.str?).bind StoreKind.ofName?

/-- The configuration a checked value gives. -/
def ofJson (j : Json) : StoreConfig :=
  { kind := (kindOf (j.field? "backend")).getD .memory
    directory := (j.optionalAt "file").bind fun f => (f.field? "directory").bind Json.str?
    cachedKind := (j.optionalAt "cached").bind fun c => kindOf (c.field? "backend") }

/-- Reads a configuration from a JSON value. -/
def decode (j : Json) : Except String StoreConfig := (Json.check shape j).map ofJson

end StoreConfig

/-- A store that is not a cache. -/
inductive Tier where
  | memory (m : MemoryStore)
  | file (f : FileStore)

/-- A store: a single tier, or a memory cache in front of a tier. -/
inductive Store where
  | single (t : Tier)
  | cached (cache : MemoryStore) (backend : Tier)

namespace Tier

variable {α : Type}

/-- Runs the memory or the file form of an operation on a tier. -/
def run (onMemory : Act MemoryStore α) (onFile : Act FileStore α) : Act Tier α := do
  match ← Act.self with
  | .memory m => Act.focus (fun _ => m) (fun _ m' => .memory m') onMemory
  | .file f => Act.focus (fun _ => f) (fun _ f' => .file f') onFile

/-- The kind of a tier. -/
def kind : Tier → StoreKind
  | .memory _ => .memory
  | .file _ => .file

def save (r : Registration) : Act Tier Unit := run (MemoryStore.save r) (FileStore.save r)
def get (id : String) : Act Tier Registration := run (MemoryStore.get id) (FileStore.get id)
def delete (id : String) : Act Tier Unit := run (MemoryStore.delete id) (FileStore.delete id)
def list (f : Filter) : Act Tier (List Registration) := run (MemoryStore.list f) (FileStore.list f)
def update (r : Registration) : Act Tier Unit := run (MemoryStore.update r) (FileStore.update r)
def updateStatus (id : String) (s : Status) : Act Tier Unit :=
  run (MemoryStore.updateStatus id s) (FileStore.updateStatus id s)
def updateMetrics (id : String) (m : Metrics) : Act Tier Unit :=
  run (MemoryStore.updateMetrics id m) (FileStore.updateMetrics id m)
def getByEndpoint (e : String) : Act Tier Registration :=
  run (MemoryStore.getByEndpoint e) (FileStore.getByEndpoint e)
def search (q : String) (f : Filter) : Act Tier (List Registration) :=
  run (MemoryStore.search q f) (FileStore.search q f)
def close : Act Tier Unit := run MemoryStore.close FileStore.close
def healthCheck : Act Tier Bool := run MemoryStore.healthCheck FileStore.healthCheck
def count : Act Tier Nat := run MemoryStore.count FileStore.count

end Tier

namespace Store

variable {σ α : Type}

/-- The kind of a store. -/
def kind : Store → StoreKind
  | .single t => t.kind
  | .cached _ _ => .cached

/-- The tier that keeps the records: the store itself, or the backend behind its cache. -/
def backend : Store → Tier
  | .single t => t
  | .cached _ b => b

/-- The store with its record-keeping tier replaced. -/
def withBackend (s : Store) (t : Tier) : Store :=
  match s with
  | .single _ => .single t
  | .cached c _ => .cached c t

/-- The cache of a store; an empty one when it has none. -/
def cache : Store → MemoryStore
  | .single _ => {}
  | .cached c _ => c

/-- The store with its cache replaced; a store without one stays as it is. -/
def withCache (s : Store) (c : MemoryStore) : Store :=
  match s with
  | .single t => .single t
  | .cached _ b => .cached c b

/-- Runs an operation on the record-keeping tier. -/
def onBackend (a : Act Tier α) : Act Store α := Act.focus backend withBackend a

/-- Runs an operation on the cache. -/
def onCache (a : Act MemoryStore α) : Act Store α := Act.focus cache withCache a

/-- Runs the single or the cached form of an operation. -/
def run (onSingle : Act Tier α) (onCached : Act Store α) : Act Store α := do
  match ← Act.self with
  | .single _ => onBackend onSingle
  | .cached _ _ => onCached

/-- Stores a registration: the backend first, then the cache. -/
def save (r : Registration) : Act Store Unit :=
  run (Tier.save r) do
    onBackend (Tier.save r)
    onCache (MemoryStore.save r)

/-- The registration with an id: from the cache, or on a miss from the backend, which then
fills the cache. -/
def get (id : String) : Act Store Registration :=
  run (Tier.get id) do
    match ← onCache (Act.attempt (MemoryStore.get id)) with
    | .ok r => return r
    | .error e =>
      if e.isNotFound then
        let r ← onBackend (Tier.get id)
        onCache (MemoryStore.save r)
        return r
      else Act.fail e

/-- Removes a registration from the backend, then from the cache even when the backend
failed. -/
def delete (id : String) : Act Store Unit :=
  run (Tier.delete id) do
    let result ← onBackend (Act.attempt (Tier.delete id))
    onCache (MemoryStore.evict id)
    Act.ofOutcome result

/-- The registrations a filter selects, from the backend. -/
def list (f : Filter) : Act Store (List Registration) := onBackend (Tier.list f)

/-- Replaces a stored registration: the backend first, then the cache. -/
def update (r : Registration) : Act Store Unit :=
  run (Tier.update r) do
    onBackend (Tier.update r)
    onCache (MemoryStore.save r)

/-- Reads a record from the backend into the cache. -/
def refresh (id : String) : Act Store Unit := do
  let r ← onBackend (Tier.get id)
  onCache (MemoryStore.save r)

/-- Sets the status of a stored registration. -/
def updateStatus (id : String) (s : Status) : Act Store Unit :=
  run (Tier.updateStatus id s) do
    onBackend (Tier.updateStatus id s)
    refresh id

/-- Sets the metrics of a stored registration. -/
def updateMetrics (id : String) (m : Metrics) : Act Store Unit :=
  run (Tier.updateMetrics id m) do
    onBackend (Tier.updateMetrics id m)
    refresh id

/-- The registration with the smallest id serving an endpoint, from the backend. -/
def getByEndpoint (e : String) : Act Store Registration := onBackend (Tier.getByEndpoint e)

/-- The registrations matching a text that a filter selects, from the backend. -/
def search (q : String) (f : Filter) : Act Store (List Registration) :=
  onBackend (Tier.search q f)

/-- Closes the store: the cache first, then the backend. -/
def close : Act Store Unit :=
  run Tier.close do
    onCache MemoryStore.close
    onBackend Tier.close

/-- Whether the store can serve: both tiers of a cached store must. -/
def healthCheck : Act Store Bool :=
  run Tier.healthCheck do
    let c ← onCache MemoryStore.healthCheck
    if !c then return false
    onBackend Tier.healthCheck

/-- How many registrations the backend holds. -/
def count : Act Store Nat := onBackend Tier.count

/-- Makes the tier a configuration names. -/
def openTier (c : StoreConfig) (k : StoreKind) : Act σ Tier :=
  match k with
  | .file => do
    let f ← FileStore.openAt (c.directory.getD StoreConfig.defaultDirectory)
    return .file f
  | _ => return .memory {}

/-- Makes the store a configuration describes. -/
def create (c : StoreConfig) : Act σ Store :=
  match c.kind with
  | .memory => return .single (.memory {})
  | .file => do return .single (← openTier c .file)
  | .cached =>
    match c.cachedKind.getD .file with
    | .cached => Act.fail (.internal "Cannot nest cached storage backends")
    | k => do return .cached {} (← openTier c k)

end Store

end Plugboard
