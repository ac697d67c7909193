import Bundler.CommandLine.Parse
import Bundler.Config.Settings
import Bundler.Log.Filter
import Bundler.Store.DirectoryTree

/-!
# Running a command line

From the words of a command line to what is printed, the exit status and the files that are left. On its way out an error
is wrapped in notes on what was being done. A run that fails has exit status 1, and prints the long wording of the failure
that is inside all notes.
-/

namespace Bundler.CommandLine

/-! ## Errors on their way out -/

/-- What lies inside an error. -/
inductive Cause where
  | failure (failure : Failure)
  /-- The system refused something before the run had begun. -/
  | system (error : StoreError)
  deriving DecidableEq

/-- An error on its way out, with notes on what was being done, the outermost first. -/
structure Trouble where
  notes : List String
  cause : Cause
  deriving DecidableEq

namespace Trouble

/-- A failure without a note. -/
def ofFailure (failure : Failure) : Trouble :=
  ⟨[], .failure failure⟩

/-- Wraps an error in one more note. -/
def noted (note : String) (trouble : Trouble) : Trouble :=
  { trouble with notes := note :: trouble.notes }

/-- The failure inside, whatever notes are around it. -/
def failure? (trouble : Trouble) : Option Failure :=
  match trouble.cause with
  | .failure failure => some failure
  | .system _ => none

/-- The notes and what lies inside them, on one line. -/
def chain (trouble : Trouble) : String :=
  let cause := match trouble.cause with
    | .failure failure => failure.message
    | .system error => error.message
  String.intercalate ": " (trouble.notes ++ [cause])

/-- What is printed. -/
def report (trouble : Trouble) : String :=
  match trouble.failure? with
  | some failure => failure.detailed
  | none => "❌ Error: " ++ trouble.chain

end Trouble

/-! ## Commands -/

namespace Command

/-- The entry that the command line gives. -/
def entry? : Command → Option Path
  | bundle entry _ _ | graph entry => entry

/-- The output that the command line gives. -/
def output? : Command → Option Path
  | bundle _ output _ => output
  | graph _ => none

/-- Single quotes are asked for. -/
def singleQuote : Command → Bool
  | bundle _ _ singleQuote => singleQuote
  | graph _ => false

/-- What a command is to do, given what reading the settings file gave, if it exists. Also tells what was done. -/
def options (currentDirectory : Path) (settingsFile : Option (Except StoreError String)) (command : Command) :
    List Event × Except Failure Options :=
  let (loading, loaded) := Config.load currentDirectory settingsFile
  (loading, loaded.bind fun settings => Config.merge settings command.entry? command.output? command.singleQuote)

end Command

/-- How a run of a command ended, what it did, and the files it left. -/
structure Run (State : Type) where
  state : State
  actions : List Action
  result : Except Trouble Unit

/-- Carries out a command that knows what to do. -/
def Command.carryOut {State : Type} (files : FileSystem State) (processor : Bool → Processor) (currentDirectory : Path)
    (options : Options) (command : Command) (state : State) : Run State :=
  let process := processor options.singleQuote
  match command with
  | .bundle _ _ _ =>
    let outcome := Bundler.bundle files process currentDirectory options state
    match outcome.result with
    | .ok _ => ⟨outcome.state, outcome.actions, .ok ()⟩
    | .error failure =>
      let trouble := (Trouble.ofFailure failure).noted ("failed to bundle " ++ options.entry.display)
      ⟨outcome.state, outcome.actions, .error trouble⟩
  | .graph _ =>
    let outcome := Bundler.graph files process currentDirectory options state
    match outcome.result with
    | .ok modules => ⟨outcome.state, outcome.actions ++ (listingEvents modules).map .logged, .ok ()⟩
    | .error failure => ⟨outcome.state, outcome.actions, .error (.ofFailure failure)⟩

/-- Carries out a command in a world of files, once it is known what to do. -/
def Command.run {State : Type} (files : FileSystem State) (processor : Bool → Processor) (currentDirectory : Path)
    (settingsFile : Option (Except StoreError String)) (command : Command) (state : State) : Run State :=
  let (loading, found) := command.options currentDirectory settingsFile
  match found with
  | .error failure => ⟨state, loading.map .logged, .error (.ofFailure failure)⟩
  | .ok options =>
    let run := command.carryOut files processor currentDirectory options state
    { run with actions := loading.map .logged ++ run.actions }

/-! ## Processes -/

/-- What a process leaves behind. -/
structure Transcript (State : Type) where
  state : State
  exitStatus : Nat
  /-- What is printed on the standard output, but for the events of the log. -/
  output : String
  /-- The events of the log that are shown, in order. -/
  log : List Event
  /-- What is printed on the standard error output. -/
  errors : String

/-- The world in which a command line runs. -/
structure World (State : Type) where
  files : FileSystem State
  currentDirectory : Except StoreError Path
  /-- What reading the settings file gives, if it exists. -/
  settingsFile : Option (Except StoreError String)
  /-- The filter for the log that the environment gives. -/
  logVariable : Option String

/-- Carries out a command, unless the current directory is out of reach. -/
def World.run {State : Type} (world : World State) (processor : Bool → Processor) (command : Command)
    (state : State) : Run State :=
  match world.currentDirectory with
  | .error error => ⟨state, [], .error (Trouble.noted "cannot read the current directory" ⟨[], .system error⟩)⟩
  | .ok directory => command.run world.files processor directory world.settingsFile state

/-- Runs a command line. -/
def runIn {State : Type} (world : World State) (processor : Bool → Processor) (arguments : List Word)
    (state : State) : Transcript State :=
  match parse arguments with
  | .error answer =>
    let text := answer.text (programName arguments)
    if answer.exitStatus = 0 then ⟨state, 0, text, [], ""⟩ else ⟨state, answer.exitStatus, "", [], text⟩
  | .ok invocation =>
    let filter := LogFilter.choose world.logVariable invocation.verbose
    let run := world.run processor invocation.command state
    let log := (Action.events run.actions).filter filter.admits
    match run.result with
    | .ok () => ⟨run.state, 0, "", log, ""⟩
    | .error trouble => ⟨run.state, 1, "", log, trouble.report ++ "\n"⟩

/-- What reading the settings file of a directory gives, if it exists. -/
def settingsFile? (tree : DirectoryTree) (directory : Path) : Option (Except StoreError String) :=
  let path := Config.settingsPath directory
  if tree.exists? path then some (tree.read path) else none

/-- Runs a command line on a tree of files. -/
def runOn (processor : Bool → Processor) (currentDirectory : Path) (logVariable : Option String)
    (arguments : List Word) (tree : DirectoryTree) : Transcript DirectoryTree :=
  runIn ⟨DirectoryTree.fileSystem, .ok currentDirectory, settingsFile? tree currentDirectory, logVariable⟩ processor
    arguments tree

end Bundler.CommandLine
