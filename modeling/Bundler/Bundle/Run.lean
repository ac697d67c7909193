import Bundler.Graph.Walk

/-!
# Bundling

A bundle is written only after every module is read and processed, so that a run that fails leaves no partial file
behind. The graph of the modules is found in the same way and writes nothing.

In a bundle each module stands under a line comment with its path and is followed by an empty line; what is imported
comes before what imports it, as far as the order of discovery allows, and the entry comes last.
-/

namespace Bundler

/-! ## The text of a bundle -/

/-- A module with its header. -/
def ModuleRecord.section (path : ModulePath) (record : ModuleRecord) : String :=
  "// " ++ path.portable ++ "\n" ++ record.code ++ "\n\n"

/-- The text of the bundle. -/
def ModuleMap.render (modules : ModuleMap) : String :=
  String.join (modules.emissionOrder.map fun (path, record) => record.section path)

/-! ## What a run is asked for and what it answers -/

/-- What to bundle and where to. -/
structure Options where
  entry : Path
  output : Path
  /-- Print string literals with single quotes. -/
  singleQuote : Bool
  deriving DecidableEq

/-- What a finished bundle is reported with. -/
structure Report where
  /-- The modules in the order of the bundle. -/
  modules : List ModulePath
  output : Path
  /-- How many bytes were written. -/
  bytes : Nat
  deriving DecidableEq

/-- How a run ended, what it did, and the files it left. -/
structure Outcome (State Result : Type) where
  state : State
  actions : List Action
  result : Except Failure Result

/-- The place of an entry: a relative entry is taken from the current directory. -/
def entryPath (currentDirectory entry : Path) : ModulePath :=
  (ModulePath.ofPath currentDirectory).follow entry

/-- The place of an entry where the current directory may be out of reach; only a relative entry asks for it. -/
def entryPlace (currentDirectory : Except StoreError Path) (entry : Path) : Except Failure ModulePath :=
  if entry.isAbsolute then .ok (ModulePath.ofPath entry)
  else
    match currentDirectory with
    | .error error => .error (.io error)
    | .ok directory => .ok (entryPath directory entry)

/-! ## On any store -/

/-- The modules reachable from an entry, with the time this took; `none` if there is no end to them. -/
def collect? (read : ModulePath → Except Failure String) (process : Processor) (entry : ModulePath) :
    Option (List Action × Except Failure ModuleMap) :=
  (ModuleMap.empty.extend? read process entry).map fun (modules, actions, result) =>
    (.logged (.started .moduleGraph) :: actions ++ [.logged (.completed .moduleGraph)],
      result.map fun _ => modules)

/-- The lines that open a bundle. -/
def openingEvents (entry : ModulePath) (output : Path) : List Event :=
  [.banner, .entryPath entry, .outputPath output]

/-- The lines that close a bundle. -/
def closingEvents (report : Report) : List Event :=
  [.blank, .statistics, .moduleCount report.modules.length, .bundleSize report.bytes, .bundleTime,
    .outputFile report.output, .written]

namespace FileService

variable {State : Type} (files : FileService State) (process : Processor)
  (currentDirectory : Except StoreError Path) (options : Options) (state : State)

/-- The modules reachable from the entry; `none` if there is no end to them. -/
def graph? : Option (Outcome State ModuleMap) :=
  match entryPlace currentDirectory options.entry with
  | .error failure => some ⟨state, [], .error failure⟩
  | .ok entry =>
    (collect? (files.read state) process entry).map fun (actions, result) => ⟨state, actions, result⟩

/-- Writes the bundle of the modules; answers the number of bytes. -/
def emit (modules : ModuleMap) (output : Path) : Outcome State Nat :=
  let text := modules.render
  let (state, result) := files.write state output text
  ⟨state,
    [.logged (.started .writingBundle), .wrote output text, .logged (.completed .writingBundle)],
    result.map fun _ => text.utf8ByteSize⟩

/-- Goes on with a bundle once its modules are found or one has failed, given what was done until then. -/
def finish (done : List Action) (found : Except Failure ModuleMap) : Outcome State Report :=
  match found with
  | .error failure => ⟨state, done, .error failure⟩
  | .ok modules =>
    let emitted := files.emit state modules options.output
    match emitted.result with
    | .error failure => ⟨emitted.state, done ++ emitted.actions, .error failure⟩
    | .ok bytes =>
      let report := ⟨modules.emissionOrder.map Prod.fst, options.output, bytes⟩
      ⟨emitted.state, done ++ emitted.actions ++ (closingEvents report).map .logged, .ok report⟩

/-- Bundles the entry and everything it imports into the output; `none` if there is no end to what it imports. -/
def bundle? : Option (Outcome State Report) :=
  match entryPlace currentDirectory options.entry with
  | .error failure => some ⟨state, [], .error failure⟩
  | .ok entry =>
    let opening := (openingEvents entry options.output).map .logged
    (collect? (files.read state) process entry).map fun (collecting, found) =>
      files.finish options state (opening ++ collecting) found

end FileService

/-! ## On files, where every run ends -/

section

variable {State : Type} (files : FileSystem State) (process : Processor) (currentDirectory : Path)
  (options : Options) (state : State)

theorem graph?_isSome : (files.service.graph? process (.ok currentDirectory) options state).isSome := by
  unfold FileService.graph?
  split <;> simp [FileSystem.service, collect?, ModuleMap.extend?_eq_some]

theorem bundle?_isSome : (files.service.bundle? process (.ok currentDirectory) options state).isSome := by
  unfold FileService.bundle?
  split <;> simp [FileSystem.service, collect?, ModuleMap.extend?_eq_some]

/-- The modules reachable from the entry. -/
def graph : Outcome State ModuleMap :=
  (files.service.graph? process (.ok currentDirectory) options state).get
    (graph?_isSome files process currentDirectory options state)

/-- Bundles the entry and everything it imports into the output. -/
def bundle : Outcome State Report :=
  (files.service.bundle? process (.ok currentDirectory) options state).get
    (bundle?_isSome files process currentDirectory options state)

/-- Writes the bundle of the modules; answers the number of bytes. -/
def emit (modules : ModuleMap) (output : Path) (state : State) : Outcome State Nat :=
  files.service.emit state modules output

end

/-- The lines that list a graph. -/
def listingEvents (modules : ModuleMap) : List Event :=
  .listing modules.size :: modules.emissionOrder.flatMap fun (path, record) =>
    .listedModule path :: record.dependencies.map .listedDependency

end Bundler
