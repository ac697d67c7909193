import Bundler.Bundle.Run

/-!
# Commands and their arguments

What the command line knows: the program, its two commands, and the arguments of each, with the texts that help prints.
-/

namespace Bundler.CommandLine

/-- An argument of some command. -/
inductive Argument where
  | entry
  | output
  | singleQuote
  | verbose
  | help
  | version
  deriving DecidableEq, Inhabited, Repr

/-- What an argument vector may be about. -/
inductive Scope where
  /-- The program itself, before a command is named. -/
  | program
  | bundle
  | graph
  /-- The command that prints help. -/
  | help
  deriving DecidableEq, Inhabited, Repr

namespace Argument

/-- The name behind two dashes. -/
def long? : Argument → Option String
  | .entry => none
  | .output => some "output"
  | .singleQuote => some "single-quote"
  | .verbose => some "verbose"
  | .help => some "help"
  | .version => some "version"

/-- The letter behind one dash. -/
def short? : Argument → Option Char
  | .output => some 'o'
  | .verbose => some 'v'
  | .help => some 'h'
  | .version => some 'V'
  | _ => none

def takesValue : Argument → Bool
  | .output => true
  | _ => false

/-- How messages call an argument. -/
def label : Argument → String
  | .entry => "[ENTRY]"
  | .output => "--output <OUTPUT>"
  | .singleQuote => "--single-quote"
  | .verbose => "--verbose"
  | .help => "--help"
  | .version => "--version"

end Argument

namespace Scope

def arguments : Scope → List Argument
  | .program => [.verbose, .help, .version]
  | .bundle => [.entry, .output, .singleQuote, .verbose, .help]
  | .graph => [.entry, .verbose, .help]
  | .help => []

/-- The names behind two dashes that a command knows. -/
def longs (s : Scope) : List String :=
  s.arguments.filterMap Argument.long?

def ofLong? (s : Scope) (name : String) : Option Argument :=
  s.arguments.find? fun a => a.long? == some name

def ofShort? (s : Scope) (letter : Char) : Option Argument :=
  s.arguments.find? fun a => a.short? == some letter

/-- The command takes an entry. -/
def hasEntry (s : Scope) : Bool :=
  s.arguments.contains .entry

/-- The name of a command. -/
def name : Scope → String
  | .program => "knit"
  | .bundle => "bundle"
  | .graph => "graph"
  | .help => "help"

/-- The commands of the program. -/
def commands : List Scope :=
  [.bundle, .graph, .help]

def command? (text : String) : Option Scope :=
  commands.find? fun s => s.name == text

/-! ## Usage and help -/

/-- How a command is called by its full name. -/
def title (program : String) : Scope → String
  | .program => program
  | s => program ++ " " ++ s.name

/-- The line on usage. -/
def usage (program : String) (s : Scope) : String :=
  "Usage: " ++ s.title program ++ match s with
    | .program => " [OPTIONS] <COMMAND>"
    | .bundle | .graph => " [OPTIONS] [ENTRY]"
    | .help => " [COMMAND]..."

/-- The line on usage in view of the arguments that are used. -/
def usageWith (program : String) (used : List Argument) (s : Scope) : String :=
  if used.isEmpty then s.usage program
  else
    let options := (used.filter (· ≠ .entry)).map fun a => " " ++ a.label
    let entry := if used.contains .entry then " <ENTRY>" else if s.hasEntry then " [ENTRY]" else ""
    "Usage: " ++ s.title program ++ String.join options ++ entry ++ (if s = .program then " <COMMAND>" else "")

def entryHelp : String :=
  "Arguments:\n  [ENTRY]  Entry module (falls back to `entry` in knit.config.json)\n\n"

/-- The text of help on a command. -/
def helpText (program : String) (s : Scope) : String :=
  match s with
  | .program =>
    "knit - follow relative imports and stitch ES modules into one file\n\n" ++ s.usage program ++ "\n\n" ++
    "Commands:\n" ++
    "  bundle  Bundle an entry module and its local imports into a single file\n" ++
    "  graph   Print the modules reachable from an entry, in bundle order\n" ++
    "  help    Print this message or the help of the given subcommand(s)\n\n" ++
    "Options:\n" ++
    "  -v, --verbose  Log every module as it is visited\n" ++
    "  -h, --help     Print help\n" ++
    "  -V, --version  Print version\n"
  | .bundle =>
    "Bundle an entry module and its local imports into a single file\n\n" ++ s.usage program ++ "\n\n" ++ entryHelp ++
    "Options:\n" ++
    "  -o, --output <OUTPUT>  Bundle file to write\n" ++
    "  -v, --verbose          Log every module as it is visited\n" ++
    "      --single-quote     Print string literals with single quotes\n" ++
    "  -h, --help             Print help\n"
  | .graph =>
    "Print the modules reachable from an entry, in bundle order\n\n" ++ s.usage program ++ "\n\n" ++ entryHelp ++
    "Options:\n" ++
    "  -v, --verbose  Log every module as it is visited\n" ++
    "  -h, --help     Print help\n"
  | .help =>
    "Print this message or the help of the given subcommand(s)\n\n" ++ s.usage program ++ "\n\n" ++
    "Arguments:\n" ++
    "  [COMMAND]...  Print help for the subcommand(s)\n"

end Scope

/-- The text of the version. -/
def versionText : String := "knit 0.1.0\n"

/-! ## What a command line asks for -/

/-- What is to be done. -/
inductive Command where
  | bundle (entry output : Option Path) (singleQuote : Bool)
  | graph (entry : Option Path)
  deriving DecidableEq

/-- What a command line asks for. -/
structure Invocation where
  command : Command
  /-- Log every module. -/
  verbose : Bool
  deriving DecidableEq

/-! ## What a command line may be answered with instead -/

/-- An argument of a similar name, and the command that knows it if it is not the one in use. -/
structure Similar where
  long : String
  command : Option String
  deriving DecidableEq

/-- Why a command line asks for nothing to be done. -/
inductive Answer where
  | help (scope : Scope)
  /-- Nothing was given at all. -/
  | helpForNothing
  | version
  | noCommand
  /-- An argument was given twice. -/
  | repeated (argument : Argument) (scope : Scope)
  | noValue (argument : Argument)
  /-- A flag was given a value. -/
  | needlessValue (value : String) (argument : Argument) (used : List Argument) (scope : Scope)
  /-- An argument is not known. With `asValue`, the way to pass it as a value is told. -/
  | unknown (text : String) (similar : Option Similar) (asValue : Bool) (used : List Argument) (scope : Scope)
  | unknownCommand (text : String) (similar : List String) (scope : Scope)
  /-- A command stands behind `--`. -/
  | needlessDashes (text : String)
  deriving DecidableEq

namespace Answer

/-- The exit status: help and the version that were asked for are no failure. -/
def exitStatus : Answer → Nat
  | .help _ | .version => 0
  | _ => 2

/-- A tip below the message. -/
def tip (text : String) : String :=
  "\n  tip: " ++ text

/-- The line that lists similar commands. -/
def similarCommands (names : List String) : String :=
  (if names.length = 1 then "a similar subcommand exists: " else "some similar subcommands exist: ") ++
    String.intercalate ", " (names.map fun name => "'" ++ name ++ "'")

/-- A message with what stands around it. -/
def complaint (message tips usage : String) : String :=
  "error: " ++ message ++ tips ++ (if usage.isEmpty then "" else "\n\n" ++ usage) ++
    "\n\nFor more information, try '--help'.\n"

/-- The tips for an unknown argument. -/
def unknownTips (text : String) (similar : Option Similar) (asValue : Bool) : String :=
  let known := match similar with
    | some ⟨long, none⟩ => tip ("a similar argument exists: '--" ++ long ++ "'")
    | _ => ""
  let value := if asValue then tip ("to pass '" ++ text ++ "' as a value, use '-- " ++ text ++ "'") else ""
  let elsewhere := match similar with
    | some ⟨long, some command⟩ => tip ("'" ++ command ++ " --" ++ long ++ "' exists")
    | _ => ""
  let tips := known ++ value ++ elsewhere
  if tips.isEmpty then "" else "\n" ++ tips

/-- The whole text that is printed. -/
def text (program : String) : Answer → String
  | .help scope => scope.helpText program
  | .helpForNothing => Scope.program.helpText program
  | .version => versionText
  | .noCommand =>
    complaint ("'" ++ program ++ "' requires a subcommand but one was not provided\n  [subcommands: " ++
      String.intercalate ", " (Scope.commands.map Scope.name) ++ "]") "" (Scope.program.usage program)
  | .repeated argument scope =>
    complaint ("the argument '" ++ argument.label ++ "' cannot be used multiple times") "" (scope.usage program)
  | .noValue argument =>
    complaint ("a value is required for '" ++ argument.label ++ "' but none was supplied") "" ""
  | .needlessValue value argument used scope =>
    complaint ("unexpected value '" ++ value ++ "' for '" ++ argument.label ++ "' found; no more were expected") ""
      (scope.usageWith program used)
  | .unknown text similar asValue used scope =>
    complaint ("unexpected argument '" ++ text ++ "' found") (unknownTips text similar asValue)
      (scope.usageWith program used)
  | .unknownCommand text similar scope =>
    complaint ("unrecognized subcommand '" ++ text ++ "'")
      (if similar.isEmpty then "" else "\n" ++ tip (similarCommands similar)) (scope.usage program)
  | .needlessDashes text =>
    complaint ("unexpected argument '" ++ text ++ "' found")
      ("\n" ++ tip ("subcommand '" ++ text ++ "' exists; to use it, remove the '--' before it"))
      (Scope.program.usage program)

end Answer

end Bundler.CommandLine
