import Bundler.Script.Grammar.Statement

/-!
# Programs

A whole module: all rules of the grammar together, and the faults of a source in the order in which they are told.

The rules call on each other one level deeper each time. A source is given levels in proportion to its length
(`depthOf`); a phrase below the last of them is refused.
-/

namespace Bundler.Script

open Reading

/-- A module that has been read. -/
structure Program where
  /-- The line that names an interpreter. -/
  interpreter : Option String
  /-- The directives at the beginning, as they are written between the quotes. -/
  directives : List String
  statements : List Statement
  comments : List Comment
  /-- The length of the source. -/
  stop : Nat

/-! ## The grammar -/

/-- The rule of a phrase, given the rules for the phrases in it. -/
def readPhrase (g : Grammar) : Grammar
  | .expression => readExpression g
  | .assignment arrowResult => readAssignment g arrowResult
  | .binary minimum => readBinary g minimum
  | .unary => readUnary g
  | .simpleUnary => readSimpleUnary g
  | .leftHandSide => readLeftHandSide g
  | .markup inside => readMarkup g inside
  | .statement alone => readStatement g alone
  | .pattern => readPattern g
  | .type => readType g
  | .typeOperand => readTypeOperand g (readObject g)
  | .namespaceRest => readNamespaceRest g

/-- The rules of all phrases down to a depth. -/
def grammar : Nat → Grammar
  | 0 => fun p => do
    unexpected
    return p.missing
  | depth + 1 => fun p => readPhrase (grammar depth) p

/-! ## Duplicate exports -/

/-- The names that a pattern binds. -/
def boundNames {c : Category} : Tree c → List String
  | .nil | .none => []
  | .cons head tail => boundNames head ++ boundNames tail
  | .some tree => boundNames tree
  | .patternName name => [name]
  | .patternObject properties rest => boundNames properties ++ boundNames rest
  | .patternArray elements rest => boundNames elements ++ boundNames rest
  | .patternDefault inner _ => boundNames inner
  | .patternTyped inner _ _ => boundNames inner
  | .patternPropertyOf _ _ value => boundNames value
  | .declaratorOf pattern _ => boundNames pattern
  | _ => []

/-- The names that a declaration gives. -/
def declaredNames : Declaration → List String
  | .variables _ _ _ declarators => boundNames declarators
  | .functionDeclaration _ (.functionOf name _ _ _ _ _ _ _ _ _) => name.toList
  | .classDeclaration _ (.classOf _ name _ _ _ _ _ _ _) => name.toList
  | _ => []

def exportedName : Tree .exportName → String
  | .exportNamed _ exported _ => exported.text

/-- The names that a statement exports, apart from the default. -/
def exportedNames : Statement → List String
  | .exportDeclaration _ declaration => declaredNames declaration
  | .exportList _ _ names => names.toList.map exportedName
  | .exportFrom _ _ names _ _ => names.toList.map exportedName
  | .exportAll _ _ (some name) _ _ => [name.text]
  | _ => []

def isDefaultExport : Statement → Bool
  | .exportDefault _ _ => true
  | _ => false

/-- Faults of exports that go by the same name. -/
def duplicateExports (statements : List Statement) : List Fault :=
  let names := statements.flatMap exportedNames
  let defaults := (statements.filter isDefaultExport).length
  (repeated [] names).map Fault.duplicateExport ++
    List.replicate (defaults - 1) .duplicateDefaultExport ++
    (if defaults > 0 && "default" ∈ names then [.duplicateDefaultExport] else [])

/-! ## Programs -/

/-- Whether the first comment says that the types of another dialect are used. -/
def isFlow (comments : List Comment) : Bool :=
  match comments with
  | c :: _ => occursIn "@flow".toList (Comment.content c.isLine c.spelling)
  | [] => false

/-- Reads a module up to its end. -/
def readProgram (g : Grammar) : Reading Program := do
  let t ← token
  let interpreter ← if t.kind = .interpreter then do
      advance
      pure (some (String.ofList (t.spelling.drop 2)))
    else pure none
  let (directives, statements) ← readBody g TokenKind.endOfText
  let r ← get
  return ⟨interpreter, directives, statements, r.trivia.comments, r.bound⟩

/-- The faults of phrases at the end of the reading. -/
def Reader.phraseFaults (r : Reader) : List Fault :=
  let place := r.place
  let told := match place.fatal with
    | none => place.faults
    | some (fault, earlier) =>
      let before := place.faults.drop (place.faults.length - earlier)
      if place.token.kind = TokenKind.endOfText && !place.tokenFaults.isEmpty then before else fault :: before
  told.reverse ++ r.openProperties.map fun _ => .invalidObjectAssignment

/-- All faults of a source. -/
def Reader.allFaults (r : Reader) (program : Program) : List Fault :=
  let found := r.place.tokenFaults.reverse ++ r.phraseFaults
  let isTyped := r.dialect.hasTypes
  if !found.isEmpty && !isTyped && isFlow program.comments then [.flow]
  else found ++ (if isTyped then [] else duplicateExports program.statements)

/-- The state before anything has been read. -/
def Reader.ofSource (dialect : Dialect) (source : List Char) : Reader :=
  let bound := source.length
  let lexed := lexFirst bound ⟨source, 0⟩
  { place := ⟨lexed.cursor, lexed.token, 0, lexed.faults.reverse, [], none, lexed.trivia.pure,
      lexed.trivia.noSideEffects⟩
    trivia := lexed.trivia
    surroundings := ⟨true, false, true, false, dialect.isAmbient, false, false⟩
    dialect, bound
    openProperties := []
    notArrows := [] }

/-- How many levels the rules are given for a source of some length. -/
def depthOf (length : Nat) : Nat :=
  16 * (length + 4)

/-- The module that a source spells, or what is wrong with it. -/
def Program.ofSource (dialect : Dialect) (source : String) : Except (List Fault) Program :=
  let text := source.toList
  let (program, reader) := (readProgram (grammar (depthOf text.length))).run (.ofSource dialect text)
  match reader.allFaults program with
  | [] => .ok program
  | faults => .error faults

end Bundler.Script
