import Bundler.Store.FileSystem

/-!
# Trees of directories and files

What a Linux file system without links and permissions does when a file is read or written by its path: every step but
the last must lead to a directory, `.` stays and `..` goes up, and a slash at the end asks for a directory. Before a
file is written, the directories on the way to it are made.
-/

namespace Bundler

/-- What stands at a location. -/
inductive Entry where
  | directory
  | file (content : Content)
  deriving DecidableEq, Inhabited, Repr

/-- A tree of directories and files; the root itself is no entry. -/
structure DirectoryTree where
  /-- The names that lead from the root to the current directory. -/
  current : List Name
  entries : List (List Name × Entry)

/-- The steps of a path as the system takes them, each `.` included. -/
def Path.systemSteps (p : Path) : List Component :=
  let steps := p.segments.filterMap fun segment =>
    if segment = [dot] then some .here else Component.ofSegment? segment
  if p.isAbsolute then .root :: steps else steps

/-- A slash stands at the end. -/
def Path.endsInSlash (p : Path) : Bool :=
  p.bytes.getLast? == some slash

namespace DirectoryTree

/-- What a path leads to. -/
inductive Target where
  | directory (location : List Name)
  | file (location : List Name) (content : Content)
  /-- Nothing stands under the last name of the path, in a directory that exists. -/
  | absent (location : List Name)
  deriving DecidableEq

def entry? (t : DirectoryTree) (location : List Name) : Option Entry :=
  t.entries.lookup location

/-- The longest name of an entry, in bytes. -/
def maxNameLength : Nat := 255

/-- The longest path, in bytes. -/
def maxPathLength : Nat := 4095

/-- Takes the steps from a directory. -/
def walk (t : DirectoryTree) : List Name → List Component → Except StoreError Target
  | location, [] => .ok (.directory location)
  | _, .root :: rest => t.walk [] rest
  | location, .here :: rest => t.walk location rest
  | location, .up :: rest => t.walk location.dropLast rest
  | location, .name name :: rest =>
    if maxNameLength < name.bytes.length then .error .nameTooLong
    else
      match t.entry? (location ++ [name]) with
      | none => if rest.isEmpty then .ok (.absent (location ++ [name])) else .error .noSuchEntry
      | some .directory => t.walk (location ++ [name]) rest
      | some (.file content) =>
        if rest.isEmpty then .ok (.file (location ++ [name]) content) else .error .notADirectory

/-- Refuses paths that the system does not take at all. -/
def check (p : Path) : Except StoreError Unit :=
  if (0 : UInt8) ∈ p.bytes then .error .zeroInName
  else if p.bytes.isEmpty then .error .noSuchEntry
  else if maxPathLength < p.bytes.length then .error .nameTooLong
  else .ok ()

/-- What a path leads to from the current directory. -/
def locate (t : DirectoryTree) (p : Path) : Except StoreError Target :=
  match check p with
  | .error error => .error error
  | .ok () => t.walk t.current p.systemSteps

/-! ## Reading -/

/-- The text of what was found. -/
def textOf : Target → Except StoreError String
  | .directory _ => .error .isADirectory
  | .absent _ => .error .noSuchEntry
  | .file _ content =>
    match content.text? with
    | none => .error .notText
    | some text => .ok text

/-- The text of a file. -/
def read (t : DirectoryTree) (p : Path) : Except StoreError String :=
  match t.locate p with
  | .error error => .error error
  | .ok (.file location content) =>
    if p.endsInSlash then .error .notADirectory else textOf (.file location content)
  | .ok target => textOf target

def isDirectory (t : DirectoryTree) (p : Path) : Bool :=
  match t.locate p with
  | .ok (.directory _) => true
  | _ => false

/-- Something stands at the path. -/
def exists? (t : DirectoryTree) (p : Path) : Bool :=
  match t.locate p with
  | .ok (.directory _) => true
  | .ok (.file _ _) => !p.endsInSlash
  | _ => false

/-! ## Writing -/

/-- Puts an entry at a location, in place of what was there. -/
def put (t : DirectoryTree) (location : List Name) (entry : Entry) : DirectoryTree :=
  { t with entries := (location, entry) :: t.entries.filter fun old => old.1 != location }

/-- Makes one directory in a directory that exists. -/
def makeDirectory (t : DirectoryTree) (p : Path) : DirectoryTree × Except StoreError Unit :=
  match t.locate p with
  | .error error => (t, .error error)
  | .ok (.absent location) => (t.put location .directory, .ok ())
  | .ok _ => (t, .error .entryExists)

/-- Makes a directory, unless it is there already. -/
def ensureDirectory (t : DirectoryTree) (p : Path) : DirectoryTree × Except StoreError Unit :=
  match t.makeDirectory p with
  | (made, .ok ()) => (made, .ok ())
  | (same, .error error) => (same, if same.isDirectory p then .ok () else .error error)

/-- Makes the first directory of the list after those it needs, which follow it from the inside outwards. -/
def ensureDirectories (t : DirectoryTree) : List Path → DirectoryTree × Except StoreError Unit
  | [] => (t, .ok ())
  | p :: outer =>
    match t.ensureDirectory p with
    | (same, .error error) =>
      if error = .noSuchEntry then
        match same.ensureDirectories outer with
        | (grown, .error error) => (grown, .error error)
        | (grown, .ok ()) => grown.ensureDirectory p
      else (same, .error error)
    | done => done

/-- Puts a text into a file, which is made if it is absent. -/
def createFile (t : DirectoryTree) (p : Path) (text : String) : DirectoryTree × Except StoreError Unit :=
  match t.locate p with
  | .error error => (t, .error error)
  | .ok (.directory _) => (t, .error .isADirectory)
  | .ok (.absent location) | .ok (.file location _) =>
    if p.endsInSlash then (t, .error .isADirectory) else (t.put location (.file (.text text)), .ok ())

/-- The non-empty beginnings of a list that is given from its end, the longest first. -/
def outward {α : Type} : List α → List (List α)
  | [] => []
  | last :: before => (last :: before).reverse :: outward before

def endsInStep (segments : List (List UInt8)) : Bool :=
  segments.getLast?.any fun segment => !Path.staysPut segment

/-- The path of a start alone, unless it is empty. -/
def alone : Path.Start → List Path
  | .root => [⟨[slash]⟩]
  | .here => [⟨[dot]⟩]
  | .bare => []

/-- The beginnings that end with a component of what stands behind a start, given from its end, the longest first. -/
def beginnings (start : Path.Start) (reversed : List (List UInt8)) : List Path :=
  ((outward reversed).filter endsInStep).map (.ofBody start) ++ alone start

/-- The directories on the way to a path, the innermost first, each as it begins the path. -/
def enclosing (p : Path) : List Path :=
  (beginnings p.start p.body.reverse).tail

/-- Writes a file and makes the directories on the way to it. -/
def write (t : DirectoryTree) (p : Path) (text : String) : DirectoryTree × Except Failure Unit :=
  match t.ensureDirectories (enclosing p) with
  | (grown, .error error) => (grown, .error (.write p error))
  | (grown, .ok ()) =>
    match grown.createFile p text with
    | (same, .error error) => (same, .error (.write p error))
    | (done, .ok ()) => (done, .ok ())

/-! ## Modules -/

/-- The text of the module at an absolute path. A walk starts at an absolute entry, and the root, which alone could
lead it to relative paths, is no file. -/
def readModule (t : DirectoryTree) (path : ModulePath) : Except Failure String :=
  match path.anchor with
  | .current _ => .error (.moduleRead path.toPath .noSuchEntry)
  | .root =>
    match check path.toPath with
    | .error error => .error (.moduleRead path.toPath error)
    | .ok () =>
      match t.walk [] (path.names.map .name) with
      | .error error => .error (.moduleRead path.toPath error)
      | .ok target =>
        match textOf target with
        | .error error => .error (.moduleRead path.toPath error)
        | .ok text => .ok text

theorem lookup_of_walk {t : DirectoryTree} {before names location : List Name} {content : Content}
    (h : t.walk before (names.map .name) = .ok (.file location content)) :
    location = before ++ names ∧ t.entry? location = some (.file content) := by
  induction names generalizing before with
  | nil => simp [walk] at h
  | cons name names ih =>
    rw [List.map_cons, walk] at h
    split at h
    · simp at h
    · split at h
      · split at h <;> simp at h
      · obtain ⟨hlocation, hentry⟩ := ih h
        exact ⟨by simpa using hlocation, hentry⟩
      · rename_i hentry
        split at h
        · rename_i hnil
          simp only [List.isEmpty_iff, List.map_eq_nil_iff] at hnil
          simp only [Except.ok.injEq, Target.file.injEq] at h
          obtain ⟨rfl, rfl⟩ := h
          exact ⟨by rw [hnil], hentry⟩
        · simp at h

/-- The readable modules: every entry counts under its absolute path. -/
def sources (t : DirectoryTree) : Sources where
  read := t.readModule
  candidates := t.entries.map fun entry => ⟨.root, entry.1⟩
  mem_candidates := by
    intro path text h
    obtain ⟨anchor, names⟩ := path
    unfold readModule at h
    cases anchor with
    | current ups => simp at h
    | root =>
      simp only at h
      split at h
      · simp at h
      · cases hwalk : t.walk [] (names.map .name) with
        | error error => simp [hwalk] at h
        | ok target =>
          cases target with
          | directory location => simp [hwalk, textOf] at h
          | absent location => simp [hwalk, textOf] at h
          | file location content =>
            obtain ⟨hlocation, hentry⟩ := lookup_of_walk hwalk
            rw [List.nil_append] at hlocation
            subst hlocation
            exact List.mem_map.mpr ⟨_, mem_of_lookup hentry, rfl⟩

/-- A tree of directories and files as the world of a run. -/
def fileSystem : FileSystem DirectoryTree :=
  ⟨sources, write⟩

end DirectoryTree

end Bundler
