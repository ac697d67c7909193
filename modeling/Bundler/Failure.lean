import Bundler.Path.Basic
import Bundler.Store.SystemError

/-!
# Failures

The reasons why a run stops, each with a short wording on one line and a long one that names the file and lists every
diagnostic on a line of its own.
-/

namespace Bundler

/-- Why a run stopped. -/
inductive Failure where
  /-- The system refused an operation that concerns no module. -/
  | io (error : StoreError)
  /-- A module could not be read. -/
  | moduleRead (path : Path) (error : StoreError)
  /-- A module is no script; one message a diagnostic. -/
  | parse (path : Path) (messages : List String)
  /-- The bundle could not be written. -/
  | write (path : Path) (error : StoreError)
  /-- The settings are unusable. -/
  | config (text : String)
  deriving DecidableEq, Inhabited, Repr

namespace Failure

/-- The wording on one line. -/
def message : Failure → String
  | .io error => "IO error: " ++ error.message
  | .moduleRead path error => "Cannot read module " ++ path.display ++ ": " ++ error.message
  | .parse path messages => "Parse error in " ++ path.display ++ ": " ++ String.intercalate ", " messages
  | .write path error => "Cannot write bundle " ++ path.display ++ ": " ++ error.message
  | .config text => "Configuration error: " ++ text

/-- One line of the long wording. -/
def arrow (line : String) : String :=
  "\n  → " ++ line

/-- The first lines of the long wording of a failure that concerns a file. -/
def heading (title : String) (path : Path) : String :=
  "❌ " ++ title ++ "\n📁 File: " ++ path.display

/-- The wording with the file and one diagnostic a line. -/
def detailed : Failure → String
  | .parse path messages => heading "Parse Error" path ++ String.join (messages.map arrow)
  | .moduleRead path error => heading "Module not readable" path ++ arrow error.message
  | .write path error => heading "Bundle not written" path ++ arrow error.message
  | failure => "❌ " ++ failure.message

end Failure

end Bundler
