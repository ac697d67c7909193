import Bundler.Module.Path

/-!
# Events

What a run reports while it works, from the traversal of the modules to the statistics of the written bundle.
-/

namespace Bundler

/-- How much an event matters. -/
inductive Level where
  | error
  | warn
  | info
  | debug
  | trace
  deriving DecidableEq, Inhabited, Repr

namespace Level

def label : Level → String
  | .error => "ERROR"
  | .warn => "WARN"
  | .info => "INFO"
  | .debug => "DEBUG"
  | .trace => "TRACE"

/-- The number of levels down to this one: a greater number admits more events. -/
def verbosity : Level → Nat
  | .error => 1
  | .warn => 2
  | .info => 3
  | .debug => 4
  | .trace => 5

end Level

/-- A statement that bundling leaves in place although it only means something between modules. -/
inductive Untouched where
  /-- A module hands on everything another module exports. -/
  | exportAll
  /-- A module hands on some names of another module. -/
  | exportFrom
  deriving DecidableEq, Inhabited, Repr

/-- The wording for such a statement. -/
def Untouched.text : Untouched → String
  | .exportAll => "`export * from` declaration"
  | .exportFrom => "`export \x7b .. \x7d from` re-export"

/-- A stretch of work whose duration is reported. -/
inductive Activity where
  | moduleGraph
  | writingBundle
  deriving DecidableEq, Inhabited, Repr

def Activity.label : Activity → String
  | .moduleGraph => "Module graph"
  | .writingBundle => "Writing bundle"

/-- One line of the log. -/
inductive Event where
  | banner
  | entryPath (path : ModulePath)
  | outputPath (output : Path)
  | started (activity : Activity)
  | completed (activity : Activity)
  | reading (path : ModulePath)
  | untouched (statement : Untouched) (path : ModulePath)
  | rewrote (path : ModulePath) (dependencies : Nat)
  | alreadyVisited (path : ModulePath)
  | blank
  | statistics
  | moduleCount (modules : Nat)
  | bundleSize (bytes : Nat)
  | bundleTime
  | outputFile (output : Path)
  | written
  | noSettings
  | loadingSettings (path : Path)
  | listing (modules : Nat)
  | listedModule (path : ModulePath)
  | listedDependency (path : ModulePath)
  deriving DecidableEq

namespace Event

def level : Event → Level
  | .started _ | .completed _ | .reading _ | .untouched _ _ | .rewrote _ _ | .alreadyVisited _ => .debug
  | .noSettings | .loadingSettings _ => .debug
  | _ => .info

/-- The wording of an event; `elapsed` is the text of the duration it reports, if it does. -/
def message (elapsed : String) : Event → String
  | .banner => "🧶 knit - bundling"
  | .entryPath path => "📁 Entry: " ++ path.portable
  | .outputPath output => "📦 Output: " ++ output.display
  | .started activity => "⏱️  Starting: " ++ activity.label
  | .completed activity => "⏱️  Completed: " ++ activity.label ++ " in " ++ elapsed
  | .reading path => "🔍 Reading module: " ++ path.portable
  | .untouched statement path =>
    "⚠️  " ++ statement.text ++ " left untouched in " ++ path.portable ++ " (not supported when bundling)"
  | .rewrote path dependencies =>
    "⚡ Rewrote " ++ path.portable ++ " (" ++ toString dependencies ++ " dependencies)"
  | .alreadyVisited path => "↩️  Already visited: " ++ path.portable
  | .blank => ""
  | .statistics => "📊 Bundle Statistics:"
  | .moduleCount modules => "  • Modules bundled: " ++ toString modules
  | .bundleSize bytes => "  • Bundle size: " ++ toString bytes ++ " bytes"
  | .bundleTime => "  • Bundle time: " ++ elapsed
  | .outputFile output => "  • Output file: " ++ output.display
  | .written => "✅ Bundle written successfully!"
  | .noSettings => "No knit.config.json found, using defaults"
  | .loadingSettings path => "Loading config from " ++ path.display
  | .listing modules => "🧶 " ++ toString modules ++ " modules, in bundle order:"
  | .listedModule path => "  • " ++ path.portable
  | .listedDependency path => "      ↳ " ++ path.portable

end Event

/-! ## Lines of the log -/

/-- The hexadecimal digits of a number below 256, the higher one first. -/
def hexPair (n : Nat) : List Char :=
  [Nat.digitChar (n / 16), Nat.digitChar (n % 16)]

/-- How a character is shown in the log: those that could steer a terminal are spelled out. -/
def showInLog (c : Char) : List Char :=
  let n := c.toNat
  if n == 0x1B || n == 0x07 || n == 0x08 || n == 0x0C || n == 0x7F then '\\' :: 'x' :: hexPair n
  else if 0x80 ≤ n && n ≤ 0x9F then '\\' :: 'u' :: '\x7b' :: hexPair n ++ ['\x7d']
  else [c]

/-- A line of the log without its time stamp. -/
def Event.line (elapsed : String) (e : Event) : String :=
  e.level.label ++ " " ++ String.ofList ((e.message elapsed).toList.flatMap showInLog)

end Bundler
