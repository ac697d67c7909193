import Bundler.Module.Path

/-!
# Module maps

The modules found so far, each under its path, in the order of discovery. The first insertion of a path wins: a later
one changes nothing. The bundle lists the modules in the reverse order, so that the entry comes last.
-/

namespace Bundler

/-- A module whose import and export statements are stripped. -/
structure ModuleRecord where
  code : String
  /-- What the module imports, resolved, in source order and with repetitions. -/
  dependencies : List ModulePath
  deriving DecidableEq

/-- The modules found so far. -/
structure ModuleMap where
  /-- The module found last comes first. -/
  latestFirst : List (ModulePath × ModuleRecord)
  deriving DecidableEq

namespace ModuleMap

def empty : ModuleMap :=
  ⟨[]⟩

instance : Inhabited ModuleMap :=
  ⟨empty⟩

/-- The record of a path. -/
def get? (m : ModuleMap) (path : ModulePath) : Option ModuleRecord :=
  m.latestFirst.lookup path

def contains (m : ModuleMap) (path : ModulePath) : Bool :=
  (m.get? path).isSome

/-- Adds a module, unless its path is there already. -/
def insert (m : ModuleMap) (path : ModulePath) (record : ModuleRecord) : ModuleMap :=
  if m.contains path then m else ⟨(path, record) :: m.latestFirst⟩

/-- Adds a module, and tells whether it was added. -/
def tryInsert (m : ModuleMap) (path : ModulePath) (record : ModuleRecord) : ModuleMap × Bool :=
  (m.insert path record, !m.contains path)

def size (m : ModuleMap) : Nat :=
  m.latestFirst.length

def isEmpty (m : ModuleMap) : Bool :=
  m.latestFirst.isEmpty

/-- The modules as the bundle lists them: what was found last comes first, and the entry last. -/
def emissionOrder (m : ModuleMap) : List (ModulePath × ModuleRecord) :=
  m.latestFirst

/-- The modules as they were found. -/
def discoveryOrder (m : ModuleMap) : List (ModulePath × ModuleRecord) :=
  m.latestFirst.reverse

/-- The paths as they were found. -/
def paths (m : ModuleMap) : List ModulePath :=
  m.discoveryOrder.map Prod.fst

theorem emissionOrder_map_fst (m : ModuleMap) : m.emissionOrder.map Prod.fst = m.paths.reverse := by
  rw [paths, emissionOrder, discoveryOrder, List.map_reverse, List.reverse_reverse]

theorem get?_insert_self (m : ModuleMap) (path : ModulePath) (record : ModuleRecord)
    (h : m.contains path = false) : (m.insert path record).get? path = some record := by
  simp [insert, h, get?]

theorem contains_iff_mem_paths {m : ModuleMap} {path : ModulePath} :
    m.contains path = true ↔ path ∈ m.paths := by
  rw [contains, get?, List.lookup_isSome_iff, paths, discoveryOrder, List.map_reverse, List.mem_reverse,
    List.mem_map]
  constructor
  · rintro ⟨entry, hmem, hpath⟩
    exact ⟨entry, hmem, (by simpa using hpath : path = entry.1).symm⟩
  · rintro ⟨entry, hmem, rfl⟩
    exact ⟨entry, hmem, by simp⟩

theorem contains_eq_false_iff {m : ModuleMap} {path : ModulePath} :
    m.contains path = false ↔ path ∉ m.paths := by
  rw [← contains_iff_mem_paths, Bool.not_eq_true]

theorem discoveryOrder_insert {m : ModuleMap} {path : ModulePath} (record : ModuleRecord)
    (h : m.contains path = false) :
    (m.insert path record).discoveryOrder = m.discoveryOrder ++ [(path, record)] := by
  simp [insert, h, discoveryOrder]

theorem paths_insert {m : ModuleMap} {path : ModulePath} (record : ModuleRecord)
    (h : m.contains path = false) : (m.insert path record).paths = m.paths ++ [path] := by
  rw [paths, discoveryOrder_insert record h, List.map_append]
  rfl

end ModuleMap

end Bundler
