import Bundler.Graph.Walk
import Bundler.Script.Flatten
import Bundler.Script.Printer.Program

/-!
# Processing scripts

The text of a module is read, flattened and written again. The name of its file says in which dialect it is written.
-/

namespace Bundler.Script

/-! ## Dialects -/

/-- Script without types and markup. -/
def Dialect.plain : Dialect := ⟨false, false, false⟩

/-- The parts of a name between points. -/
def nameParts : List Char → List (List Char)
  | [] => [[]]
  | c :: rest =>
    if c == '.' then [] :: nameParts rest
    else match nameParts rest with
      | part :: parts => (c :: part) :: parts
      | [] => [[c]]

/-- The dialect of a file with some name. -/
def Dialect.ofName (name : String) : Dialect :=
  match (nameParts name.toList).reverse.map String.ofList with
  | extension :: stem =>
    if stem = [] || stem = [""] then plain
    else
      let isNear := (stem.take 2).contains "d"
      let isNext := stem.head? = some "d"
      match extension with
      | "jsx" => ⟨false, true, false⟩
      | "tsx" => ⟨true, true, false⟩
      | "ts" => ⟨true, false, isNear⟩
      | "mts" | "cts" => ⟨true, false, isNext⟩
      | _ => plain
  | [] => plain

/-- The dialect of the module at a path. -/
def Dialect.ofPath (path : ModulePath) : Dialect :=
  match path.names.getLast? with
  | some name => ((Utf8.decode? name.bytes).map ofName).getD plain
  | none => plain

/-! ## Processing -/

/-- What a script says when it cannot be read. -/
def messages (faults : List Fault) : List String :=
  faults.map Fault.text

/-- Processes scripts; strings are written in single or double quotes. -/
def processor (singleQuote : Bool) : Processor := fun path source =>
  let dialect := Dialect.ofPath path
  match Program.ofSource dialect source with
  | .error faults => ([], .error (.parse path.toPath (messages faults)))
  | .ok program =>
    let body := flattenBody program.statements
    let flat := { program with statements := body.statements }
    ((program.statements.filterMap untouched?).map fun u => .untouched u path,
      .ok ⟨flat.text dialect.hasMarkup (if singleQuote then '\'' else '"'),
        body.specifiers.map StringValue.toText⟩)

end Bundler.Script
