import Bundler.Store.FileSystem

/-!
# Files in memory

A store without directories: a file is found under exactly the steps of its path, and a path in the list of refusals
cannot be written.
-/

namespace Bundler

/-- Files in memory. -/
structure MemoryStore where
  files : List (List Component × Content)
  /-- Paths that cannot be written. -/
  refused : List (List Component)

namespace MemoryStore

def empty : MemoryStore :=
  ⟨[], []⟩

/-- What the store answers to a read. -/
def read (s : MemoryStore) (steps : List Component) : Except StoreError String :=
  match s.files.lookup steps with
  | none => .error (.custom "not in memory file system")
  | some content =>
    match content.text? with
    | none => .error (.custom "not UTF-8")
    | some text => .ok text

/-- Takes a file away. -/
def remove (s : MemoryStore) (steps : List Component) : MemoryStore :=
  { s with files := s.files.filter fun file => file.1 != steps }

def contains (s : MemoryStore) (steps : List Component) : Bool :=
  (s.files.lookup steps).isSome

/-- Puts a file in place of what was under its path. -/
def put (s : MemoryStore) (steps : List Component) (content : Content) : MemoryStore :=
  { s with files := (steps, content) :: (s.remove steps).files }

/-- Refuses later writes to a path. -/
def refuse (s : MemoryStore) (steps : List Component) : MemoryStore :=
  { s with refused := steps :: s.refused }

/-- Writes a file unless its path is refused. -/
def write (s : MemoryStore) (path : Path) (text : String) : MemoryStore × Except Failure Unit :=
  if path.components ∈ s.refused then (s, .error (.write path (.custom "write refused")))
  else (s.put path.components (.text text), .ok ())

/-- The text of a module. -/
def readModule (s : MemoryStore) (path : ModulePath) : Except Failure String :=
  match s.read path.components with
  | .error error => .error (.moduleRead path.toPath error)
  | .ok text => .ok text

/-- The readable modules: each file counts as the place its steps lead to. -/
def sources (s : MemoryStore) : Sources where
  read := s.readModule
  candidates := s.files.map fun file => ModulePath.origin.moves file.1
  mem_candidates := by
    intro path text h
    unfold readModule read at h
    cases hfile : s.files.lookup path.components with
    | none => simp [hfile] at h
    | some content =>
      exact List.mem_map.mpr ⟨_, mem_of_lookup hfile, path.moves_components⟩

/-- Files in memory as the world of a run. -/
def fileSystem : FileSystem MemoryStore :=
  ⟨sources, write⟩

end MemoryStore

end Bundler
