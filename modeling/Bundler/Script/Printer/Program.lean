import Bundler.Script.Grammar.Program
import Bundler.Script.Printer.Tree

/-!
# Writing programs

The text of a whole module: the line that names an interpreter, the directives, the statements, and the comments after
the last of them.
-/

namespace Bundler.Script

open Printing

/-- The state before anything has been written. -/
def Printer.ofComments (hasMarkup : Bool) (quote : Char) (comments : List Comment) : Printer :=
  { written := []
    length := 0
    depth := 0
    indentIsSpace := false
    statementStart := 0
    arrowStart := 0
    defaultStart := 0
    integerEnd := 0
    regexEnd := 0
    lastSign := none
    comments := writtenComments comments
    hasMarkup, quote }

/-- Writes a module. -/
def writeProgram (program : Program) : Printing Unit := do
  match program.interpreter with
  | some text => write ("#!" ++ text ++ "\n")
  | none => pure ()
  writeStatements program.directives (program.statements.map printed) .free
  writeCommentsAt program.stop

/-- The text of a module without blanks at its end. -/
def Program.text (hasMarkup : Bool) (quote : Char) (program : Program) : String :=
  let (_, printer) := (writeProgram program).run (.ofComments hasMarkup quote program.comments)
  String.ofList (printer.written.dropWhile isBlank).reverse

end Bundler.Script
