import Bundler.Failure
import Bundler.Log.Event

/-!
# File systems

What a run needs from the world: the text of a module, and a place for the bundle. A `FileService` gives just that. In a
`FileSystem` moreover only finitely many module paths are readable, which is why every traversal of modules ends there.
-/

namespace Bundler

/-! ## Contents of files -/

/-- What a file holds: a text, or bytes that may be none. -/
inductive Content where
  | text (text : String)
  | raw (bytes : List UInt8)
  deriving DecidableEq, Inhabited, Repr

namespace Content

/-- The text of a file, if its bytes are UTF-8. -/
def text? : Content → Option String
  | .text written => some written
  | .raw bytes => Utf8.decode? bytes

/-- The text of a file, with U+FFFD for bytes that are no UTF-8. -/
def display : Content → String
  | .text written => written
  | .raw bytes => Utf8.decodeLossy bytes

end Content

/-! ## Stores -/

/-- The readable modules at one moment. -/
structure Sources where
  /-- The text of a module, or why it cannot be read. -/
  read : ModulePath → Except Failure String
  /-- The paths that can be read, among which may be some that cannot. -/
  candidates : List ModulePath
  /-- Only a candidate can be read. -/
  mem_candidates : ∀ {path : ModulePath} {text : String}, read path = .ok text → path ∈ candidates

/-- Any store in some state that can be read and written; reading leaves the state as it is. -/
structure FileService (State : Type) where
  /-- The text of a module, or why it cannot be read. -/
  read : State → ModulePath → Except Failure String
  /-- Puts a text at a path, over what was there. -/
  write : State → Path → String → State × Except Failure Unit

/-- A world of files in some state. -/
structure FileSystem (State : Type) where
  sources : State → Sources
  /-- Puts a text at a path, over what was there. -/
  write : State → Path → String → State × Except Failure Unit

/-- A world of files, taken for nothing but its answers. -/
def FileSystem.service {State : Type} (files : FileSystem State) : FileService State :=
  ⟨fun state => (files.sources state).read, files.write⟩

theorem mem_of_lookup {α β : Type} [BEq α] [LawfulBEq α] {entries : List (α × β)} {key : α} {value : β}
    (h : entries.lookup key = some value) : (key, value) ∈ entries := by
  induction entries with
  | nil => simp at h
  | cons entry entries ih =>
    obtain ⟨k, v⟩ := entry
    rw [List.lookup_cons] at h
    split at h
    · rename_i hk
      have hkey : key = k := by simpa using hk
      obtain rfl := Option.some.inj h
      simp [hkey]
    · exact List.mem_cons_of_mem _ (ih h)

/-! ## What a run does -/

/-- What a run does that can be seen from outside. -/
inductive Action where
  | logged (event : Event)
  | read (path : ModulePath)
  /-- Asked for a text to be written. -/
  | wrote (path : Path) (text : String)
  deriving DecidableEq

namespace Action

/-- The events among the actions. -/
def events (actions : List Action) : List Event :=
  actions.filterMap fun
    | .logged event => some event
    | _ => none

/-- The paths read, in order. -/
def reads (actions : List Action) : List ModulePath :=
  actions.filterMap fun
    | .read path => some path
    | _ => none

/-- The texts that were to be written, in order. -/
def writes (actions : List Action) : List (Path × String) :=
  actions.filterMap fun
    | .wrote path text => some (path, text)
    | _ => none

@[simp] theorem reads_append (first second : List Action) : reads (first ++ second) = reads first ++ reads second :=
  List.filterMap_append

@[simp] theorem writes_append (first second : List Action) :
    writes (first ++ second) = writes first ++ writes second :=
  List.filterMap_append

@[simp] theorem reads_map_logged (events : List Event) : reads (events.map logged) = [] := by
  simp [reads]

@[simp] theorem writes_map_logged (events : List Event) : writes (events.map logged) = [] := by
  simp [writes]

end Action

end Bundler
