import Bundler.Log.Event
import Bundler.Script.Tree

/-!
# Flat modules

In a bundle all modules share one scope, so what a module imports and exports needs no words: imports go, a declaration
stays without the word before it, and lists of names go. What hands on names of another module is left as it is.
-/

namespace Bundler.Script

/-- What becomes of a statement of a module. -/
inductive Flattened where
  | kept (statement : Statement)
  | replaced (statement : Statement)
  | removed
  /-- The statement only named another module, by a specifier. -/
  | imported (specifier : StringValue)

namespace Flattened

/-- The statement that is left. -/
def statement? : Flattened → Option Statement
  | kept s | replaced s => some s
  | removed | imported _ => none

/-- The specifier of the module that was named. -/
def specifier? : Flattened → Option StringValue
  | imported specifier => some specifier
  | _ => none

end Flattened

/-- What becomes of a default export: a name stands for something that is declared already. -/
def flattenDefault (pos : Nat) : Tree .defaultExport → Flattened
  | .defaultFunction inner f => .replaced (.functionDeclaration inner f)
  | .defaultClass inner c => .replaced (.classDeclaration inner c)
  | .defaultInterface declaration => .replaced declaration.asStatement
  | .defaultValue e =>
    match e.withoutParentheses with
    | .identifier _ => .removed
    | _ => .replaced (.evaluation pos e)

/-- What becomes of a statement of a module. -/
def flatten : Statement → Flattened
  | .importFrom _ _ _ _ specifier _ => .imported specifier
  | .exportDeclaration _ declaration => .replaced declaration.asStatement
  | .exportList _ _ _ => .removed
  | .exportDefault pos value => flattenDefault pos value
  | s => .kept s

/-- The body of a module once it is flat, and the specifiers of the modules that it named. -/
structure FlatBody where
  statements : List Statement
  specifiers : List StringValue

/-- What becomes of the body of a module, statement by statement. -/
def flattenBody (body : List Statement) : FlatBody :=
  let flattened := body.map flatten
  ⟨flattened.filterMap Flattened.statement?, flattened.filterMap Flattened.specifier?⟩

/-- A statement that hands on names of another module. -/
def untouched? : Statement → Option Untouched
  | .exportAll _ _ _ _ _ => some .exportAll
  | .exportFrom _ _ _ _ _ => some .exportFrom
  | _ => none

end Bundler.Script
