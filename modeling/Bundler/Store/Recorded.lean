import Bundler.Store.FileSystem

/-!
# Recorded answers

The answers that some other store has given, as a world of files of its own: a run on them does what it would do on that
store.
-/

namespace Bundler

/-- Answers of a store. -/
structure RecordedStore where
  /-- What was read, with the answers. -/
  reads : List (ModulePath × Except Failure String)
  /-- Why the bundle could not be written, if it could not. -/
  refusal : Option Failure

namespace RecordedStore

/-- The recorded answer to a read; what was never asked for does not exist. -/
def read (s : RecordedStore) (path : ModulePath) : Except Failure String :=
  (s.reads.lookup path).getD (.error (.moduleRead path.toPath .noSuchEntry))

/-- The modules whose reading is recorded. -/
def sources (s : RecordedStore) : Sources where
  read := s.read
  candidates := s.reads.map Prod.fst
  mem_candidates := by
    intro path text h
    cases hfound : s.reads.lookup path with
    | none => simp [read, hfound] at h
    | some answer => exact List.mem_map.mpr ⟨_, mem_of_lookup hfound, rfl⟩

/-- The recorded answer to the writing of the bundle. -/
def write (s : RecordedStore) (_ : Path) (_ : String) : RecordedStore × Except Failure Unit :=
  match s.refusal with
  | some failure => (s, .error failure)
  | none => (s, .ok ())

/-- Recorded answers as the world of a run. -/
def fileSystem : FileSystem RecordedStore :=
  ⟨sources, write⟩

end RecordedStore

end Bundler
