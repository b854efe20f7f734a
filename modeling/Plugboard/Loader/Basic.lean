import Plugboard.Loader.Instance
/-!
# The loader

The loader turns a path into a loaded plugin.

* A directory is a plugin when it holds a manifest file; it becomes a manifest plugin.
* A file is a native module when its extension is one of the configured ones and its stem names
  a module linked into the build. Its manifest is the file beside it with the extension `json`.
  The module must export a plugin factory under the configured symbol, and the plugin it builds
  must have the id the manifest declares; the plugin keeps its own metadata.

Each refusal is a load failure that names the path, module or symbol at fault.
-/

namespace Plugboard

open Json

/-- What the loader looks for. -/
structure LoaderConfig where
  manifestFileName : String := "manifest.json"
  nativeExtensions : List String := ["so", "dylib", "dll"]
  factorySymbol : String := "create_plugin"

namespace LoaderConfig

/-- The shape of a loader configuration: every field may be absent. -/
def shape : Shape :=
  .record "LoaderConfig"
    [("manifest_file_name", .text, some (.str "manifest.json")),
     ("native_extensions", .list .text, some (Json.ofStrings ["so", "dylib", "dll"])),
     ("factory_symbol", .text, some (.str "create_plugin"))] false

/-- A loader configuration as JSON. -/
def toJson (c : LoaderConfig) : Json :=
  .obj [("manifest_file_name", .str c.manifestFileName),
    ("native_extensions", Json.ofStrings c.nativeExtensions),
    ("factory_symbol", .str c.factorySymbol)]

/-- The configuration a checked value gives. -/
def ofJson (j : Json) : LoaderConfig :=
  { manifestFileName := j.textAt "manifest_file_name"
    nativeExtensions := j.textsAt "native_extensions", factorySymbol := j.textAt "factory_symbol" }

end LoaderConfig

/-- The plugins a factory can build. -/
inductive Factory where
  | echo
  | faulty

/-- A fresh plugin from a factory. -/
def Factory.build : Factory → Instance
  | .echo => .echo {}
  | .faulty => .faulty {}

/-- A symbol a module exports: a plugin factory, or something else with its signature. -/
inductive Export where
  | factory (f : Factory)
  | other (signature : String)

/-- A linked module: its exports by symbol. -/
structure Module where
  exports : List (String × Export) := []

/-- The linked modules by file stem, sorted by stem. -/
structure ModuleTable where
  modules : List (String × Module) := []

namespace ModuleTable

/-- The symbol plugin factories are exported under. -/
def factorySymbol : String := "create_plugin"

/-- The table with a module added, replacing one with its stem. -/
def add (t : ModuleTable) (stem : String) (m : Module) : ModuleTable :=
  { modules := (t.modules.filter (·.1 != stem) ++ [(stem, m)]).mergeSort fun a b => decide (a.1 ≤ b.1) }

/-- The modules shipped with the library: the echo plugin. -/
def builtin : ModuleTable := ({} : ModuleTable).add "echo" { exports := [(factorySymbol, .factory .echo)] }

/-- The module with a stem. -/
def get? (t : ModuleTable) (stem : String) : Option Module := (t.modules.find? (·.1 == stem)).map (·.2)

/-- The stems of the linked modules, sorted. -/
def stems (t : ModuleTable) : List String := t.modules.map (·.1)

end ModuleTable

/-- What kind of plugin a path holds, and where its manifest is. -/
inductive PluginSource where
  | directory (manifest : String)
  | native (stem manifest : String)

/-- The manifest path of a source. -/
def PluginSource.manifest : PluginSource → String
  | .directory m => m
  | .native _ m => m

/-- A source as JSON. -/
def PluginSource.toJson : PluginSource → Json
  | .directory m => .obj [("kind", .str "directory"), ("manifest", .str m)]
  | .native s m => .obj [("kind", .str "native"), ("stem", .str s), ("manifest", .str m)]

/-- The loader: what it looks for, and the modules linked into the build. -/
structure Loader where
  config : LoaderConfig := {}
  modules : ModuleTable := ModuleTable.builtin

namespace Loader

/-- Checks that a path holds a loadable plugin, and what kind. -/
def validate (l : Loader) (d : Disk) (path : String) : Outcome PluginSource := do
  let kind ← match d.kindOf path with
    | .ok k => pure k
    | .error e => .error (.load ("plugin path " ++ path ++ ": " ++ e.text))
  match kind with
  | .dir =>
    let manifest := PathText.join path l.config.manifestFileName
    match d.kindOf manifest with
    | .ok _ => pure (.directory manifest)
    | .error _ =>
      .error (.load ("plugin directory " ++ path ++ " has no " ++ l.config.manifestFileName))
  | .file =>
    let ext := (PathText.extension path).getD ""
    if !l.config.nativeExtensions.contains ext then
      .error (.load ("unsupported plugin file " ++ path ++ " (expected one of: " ++
        ", ".intercalate l.config.nativeExtensions ++ ")"))
    let some stem := PathText.stem path
      | .error (.load ("module " ++ path ++ " has no file stem"))
    if (l.modules.get? stem).isNone then
      .error (.load ("module " ++ stem ++ " is not linked into this build"))
    pure (.native stem (PathText.withExtension path "json"))

/-- Reads the manifest of a source. -/
def readManifest (d : Disk) (source : PluginSource) : Outcome Metadata :=
  let m := source.manifest
  match d.readFile m with
  | .ok text => Metadata.parse text m
  | .error e => .error (.load ("read manifest " ++ m ++ ": " ++ e.text))

/-- Reads the manifest of the plugin at a path. -/
def metadataAt (l : Loader) (d : Disk) (path : String) : Outcome Metadata := do
  readManifest d (← l.validate d path)

/-- Builds a plugin from a linked module's factory. -/
def instantiate (l : Loader) (stem : String) : Outcome Instance :=
  let symbol := l.config.factorySymbol
  match l.modules.get? stem with
  | none => .error (.load ("module " ++ stem ++ " is not linked into this build"))
  | some m =>
    match ((m.exports.find? (·.1 == symbol)).map (·.2) : Option Export) with
    | some (.factory f) => .ok f.build
    | some (.other sig) => .error (.load ("export " ++ symbol ++ " in module " ++ stem ++
        " has signature " ++ sig ++ ", expected a plugin factory"))
    | none => .error (.load ("module " ++ stem ++ " does not export " ++ symbol))

/-- Loads the plugin at a path. -/
def load (l : Loader) (d : Disk) (path : String) : Outcome Instance := do
  let source ← l.validate d path
  let metadata ← readManifest d source
  match source with
  | .directory _ => pure (.manifest (ManifestPlugin.create metadata path))
  | .native stem _ =>
    let i ← l.instantiate stem
    let produced := i.metadata.id
    if produced != metadata.id then
      .error (.load ("module " ++ stem ++ " produced plugin " ++ produced ++
        " but its manifest declares " ++ metadata.id))
    pure i

end Loader

end Plugboard
