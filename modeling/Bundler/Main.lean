import Bundler.CommandLine.Run
import Bundler.Script.Processor
import Bundler.Store.Recorded

/-!
# The program

The program on the files of the system. The walk over the modules asks the system for each of them; the run itself is
then computed on the recorded answers.
-/

namespace Bundler.Program

/-! ## The system -/

/-- The error of the system, by its number if it has one. -/
def storeError (e : IO.Error) : StoreError :=
  let byCode (code : UInt32) (text : String) : StoreError :=
    if code = 0 then .custom text else .system code.toNat
  match e with
  | .noFileOrDirectory _ code text | .permissionDenied _ code text | .resourceExhausted _ code text
  | .inappropriateType _ code text | .alreadyExists _ code text | .invalidArgument _ code text
  | .interrupted _ code text => byCode code text
  | .noSuchThing _ code text | .unsatisfiedConstraints code text | .otherError code text
  | .resourceBusy code text | .resourceVanished code text | .hardwareFault code text | .illegalOperation code text
  | .protocolError code text | .timeExpired code text | .unsupportedOperation code text => byCode code text
  | .unexpectedEof => .custom "unexpected end of file"
  | .userError text => .custom text

/-- Does something with the system; a refusal is an answer. -/
def asking {α : Type} (action : IO α) : IO (Except StoreError α) := do
  try return .ok (← action)
  catch e => return .error (storeError e)

/-- The text of a file. -/
def readText (path : String) : IO (Except StoreError String) := do
  match ← asking (IO.FS.readBinFile path) with
  | .error error => return .error error
  | .ok bytes =>
    match Utf8.decode? bytes.toList with
    | some text => return .ok text
    | none => return .error .notText

/-- The text of the settings file. There is none if the system cannot tell what stands at its path, for whatever reason. -/
def readSettings (directory : Path) : IO (Option (Except StoreError String)) := do
  let path := (Config.settingsPath directory).display
  if ← (System.mkFilePath [path]).pathExists then return some (← readText path)
  return none

def readModule (path : ModulePath) : IO (Except Failure String) := do
  match ← readText path.display with
  | .error error => return .error (.moduleRead path.toPath error)
  | .ok text => return .ok text

/-- Writes the bundle and makes the directory for it. -/
def writeBundle (path : Path) (text : String) : IO (Option Failure) := do
  let answer ← asking do
    match path.parent? with
    | some parent => if !parent.bytes.isEmpty then IO.FS.createDirAll parent.display
    | none => pure ()
    IO.FS.writeFile path.display text
  match answer with
  | .error error => return some (.write path error)
  | .ok () => return none

/-! ## The walk -/

/-- Asks the system for every module that the walk wants. -/
partial def follow (process : Processor) (walk : Walk) (reads : List (ModulePath × Except Failure String)) :
    IO (List (ModulePath × Except Failure String)) := do
  match walk.turn with
  | .finished => return reads
  | .passed walk => follow process walk reads
  | .wanted path walk =>
    let answer ← readModule path
    let reads := (path, answer) :: reads
    match walk.visit process path answer with
    | (_, .error _) => return reads
    | (walk, .ok ()) => follow process walk reads

/-- The answers of the system to all that a command reads. -/
def answersFor (command : CommandLine.Command) (world : CommandLine.World RecordedStore) :
    IO (List (ModulePath × Except Failure String)) := do
  let .ok directory := world.currentDirectory | return []
  match (command.options directory world.settingsFile).2 with
  | .error _ => return []
  | .ok options =>
    let start : Walk := { Walk.start .empty with frames := [[entryPath directory options.entry]] }
    follow (Script.processor options.singleQuote) start []

/-! ## Runs -/

/-- The text of a duration in milliseconds. -/
def durationText (milliseconds : Nat) : String :=
  toString milliseconds ++ ".00ms"

/-- The text that a command wants to be written, with its path. -/
def bundleOf (command : CommandLine.Command) (world : CommandLine.World RecordedStore) (store : RecordedStore) :
    Option (Path × String) :=
  (Action.writes (world.run Script.processor command store).actions).head?

/-- Runs a command line on the files of the system and tells how it ended. -/
def runOnSystem (arguments : List CommandLine.Word) : IO UInt32 := do
  let began ← IO.monoMsNow
  let directory ← asking do return Path.ofString (← IO.currentDir).toString
  let settings ← match directory with
    | .ok directory => readSettings directory
    | .error _ => pure none
  let world : CommandLine.World RecordedStore :=
    ⟨RecordedStore.fileSystem, directory, settings, ← IO.getEnv "RUST_LOG"⟩
  let store ← match CommandLine.parse arguments with
    | .error _ => pure ⟨[], none⟩
    | .ok invocation => do
      let store : RecordedStore := ⟨← answersFor invocation.command world, none⟩
      match bundleOf invocation.command world store with
      | none => pure store
      | some (path, text) => pure { store with refusal := ← writeBundle path text }
  let transcript := CommandLine.runIn world Script.processor arguments store
  let elapsed := durationText ((← IO.monoMsNow) - began)
  IO.print transcript.output
  transcript.log.forM fun event => IO.println (event.line elapsed)
  IO.eprint transcript.errors
  return transcript.exitStatus.toUInt32

end Bundler.Program

def main (arguments : List String) : IO UInt32 :=
  Bundler.Program.runOnSystem ((Bundler.CommandLine.Scope.program.name :: arguments).map Bundler.Utf8.encode)
