import Bundler.Script.Printer.Type

/-!
# Writing statements

A statement begins with the comments before it and the indentation, and ends with a line break. The body of a loop or a
choice goes on in the line, unless it is a block.
-/

namespace Bundler.Script

open Printing

/-! ## Frames -/

/-- Writes a statement with what stands around it, unless it is only a part of one. -/
def writeFramed (pos : Nat) (m : Manner) (content ending : Printing Unit) : Printing Unit := do
  if m.bare then content
  else
    writeCommentsAt pos
    indent
    content
    ending

/-- Writes a statement that ends with a semicolon. -/
def writeSimple (pos : Nat) (m : Manner) (content : Printing Unit) : Printing Unit :=
  writeFramed pos m content endStatement

/-- Writes a statement that ends with a brace. -/
def writeBraced (pos : Nat) (m : Manner) (content : Printing Unit) : Printing Unit :=
  writeFramed pos m content newline

/-- Writes a statement that ends with another one. -/
def writeOpen (pos : Nat) (m : Manner) (content : Printing Unit) : Printing Unit :=
  writeFramed pos m content (return)

/-- Writes an expression in parentheses after a word. -/
def writeSubject (word : String) (subject : Piece .expression) : Printing Unit := do
  writeWord word
  writeAround "(" subject ")"

/-! ## Bodies -/

/-- Writes statements in braces. -/
def writeBlock (statements : List (Piece (.statement .all))) (m : Manner) : Printing Unit :=
  braces statements.isEmpty (statements.forM fun s => s.write m.asWhole)

/-- Writes the statement that is the body of another one, in the same line. -/
def writeInner (body : Piece (.statement .all)) (m : Manner) : Printing Unit := do
  match body.tree with
  | .block _ _ =>
    space
    body.write m.asPart
    newline
  | .empty _ => endStatement
  | _ =>
    modify ({ · with indentIsSpace := true })
    body.write m.asWhole

/-! ## Expressions and variables -/

def writeEvaluation (pos : Nat) (e : Piece .expression) (m : Manner) : Printing Unit := do
  if m.bare then e.write m.asWhole
  else
    writeCommentsAt pos
    let p ← get
    if p.depth > 0 || p.indentIsSpace then indent
    modify fun p => { p with statementStart := p.length }
    e.whole
    endStatement

def writeDeclarator (pattern : Piece .pattern) (init : Option (Piece .expression)) (m : Manner) : Printing Unit := do
  pattern.write m
  writeInitializer init m

/-- Writes variables with their keyword. -/
def writeVariables (isDeclare : Bool) (kind : DeclarationKind) (declarators : List (Piece .declarator)) (m : Manner) :
    Printing Unit := do
  writeWord (if isDeclare then "declare " else "")
  write (kind.text ++ " ")
  writeList declarators m.asWhole

/-! ## Loops -/

def writeForLoop (start : Piece .forStart) (test update : Option (Piece .expression)) (body : Piece (.statement .all))
    (m : Manner) : Printing Unit := do
  let part (e : Option (Piece .expression)) : Printing Unit :=
    match e with
    | some e => do
      space
      e.whole
    | none => return
  write "for ("
  start.write ⟨.lowest, true, false, false⟩
  writeChar ';'
  part test
  writeChar ';'
  part update
  writeChar ')'
  writeInner body m

def writeForIn (left : Piece .forTarget) (right : Piece .expression) (body : Piece (.statement .all)) (m : Manner) :
    Printing Unit := do
  write "for ("
  left.write ⟨.lowest, true, false, false⟩
  write " in "
  right.whole
  writeChar ')'
  writeInner body m

def writeForOf (isAwait : Bool) (left : Piece .forTarget) (right : Piece .expression) (body : Piece (.statement .all))
    (m : Manner) : Printing Unit := do
  write (if isAwait then "for await (" else "for (")
  left.write ⟨.lowest, true, false, false⟩
  write " of "
  right.operand .comma
  writeChar ')'
  writeInner body m

/-- Writes what a loop assigns to; a name that would read as the beginning of something else is put in parentheses. -/
def writeForTarget (target : Piece .target) (m : Manner) : Printing Unit :=
  let isAmbiguous := match target.tree with
    | .targetSimple (.identifier name) => name == "async" || name == "let"
    | _ => false
  parenthesize isAmbiguous (target.write m)

def writeWhile (test : Piece .expression) (body : Piece (.statement .all)) (m : Manner) : Printing Unit := do
  writeSubject "while " test
  writeInner body m

def writeDo (body : Piece (.statement .all)) (test : Piece .expression) (m : Manner) : Printing Unit := do
  writeWord "do"
  match body.tree with
  | .block _ _ =>
    space
    body.write m.asPart
    space
  | _ =>
    newline
    deeper (body.write m.asWhole)
    indent
  writeSubject "while " test

/-! ## Choices -/

/-- Whether an `else` after a statement would belong to a choice inside it. -/
def takesElse {c : Category} : Tree c → Bool
  | .choice _ _ _ (.some no) => takesElse no
  | .choice _ _ _ .none => true
  | .forLoop _ _ _ _ body | .forIn _ _ _ body | .forOf _ _ _ _ body | .whileLoop _ _ body | .withObject _ _ body
  | .labeled _ _ body => takesElse body
  | _ => false

def writeChoice (test : Piece .expression) (yes : Piece (.statement .all)) (no : Option (Piece (.statement .all))) (m : Manner) :
    Printing Unit := do
  writeSubject "if " test
  let gap : Printing Unit := if no.isSome then space else newline
  match yes.tree with
  | .block _ _ =>
    space
    yes.write m.asPart
    gap
  | _ =>
    if takesElse yes.tree then
      space
      braces false (yes.write m.asWhole)
      gap
    else
      writeInner yes m
      if no.isSome then indent
  match no with
  | some s =>
    writeWord "else"
    match s.tree with
    | .choice _ _ _ _ =>
      space
      s.write m.asPart
    | _ => writeInner s m
  | none => return

def writeCase (test : Option (Piece .expression)) (statements : List (Piece (.statement .all))) (m : Manner) :
    Printing Unit := do
  indent
  match test with
  | some e => writeAround "case " e ":"
  | none => write "default:"
  match statements with
  | [s] => writeInner s m
  | statements =>
    newline
    deeper (statements.forM fun s => s.write m.asWhole)

def writeSwitch (subject : Piece .expression) (cases : List (Piece .switchCase)) (m : Manner) : Printing Unit := do
  writeSubject "switch " subject
  space
  braces cases.isEmpty (cases.forM fun c => c.write m)

/-! ## Guards -/

def writeHandler (parameter : Option (Piece .pattern)) (statements : List (Piece (.statement .all))) (m : Manner) :
    Printing Unit := do
  write " catch "
  match parameter with
  | some p =>
    writeChar '('
    p.write m
    write ") "
  | none => pure ()
  writeBlock statements m

def writeGuarded (body : List (Piece (.statement .all))) (handler : Option (Piece .handler))
    (final : Option (List (Piece (.statement .all)))) (m : Manner) : Printing Unit := do
  writeWord "try "
  writeBlock body m
  match handler with
  | some h => h.write m
  | none => pure ()
  match final with
  | some statements =>
    write " finally "
    writeBlock statements m
  | none => return

/-! ## Jumps -/

/-- Writes a word with a label after it. -/
def writeJump (word : String) (label : Option String) : Printing Unit := do
  writeWord word
  match label with
  | some label => write (" " ++ label)
  | none => return

/-- Writes a word with a value after it. -/
def writeValueOf (word : String) (value : Option (Piece .expression)) : Printing Unit := do
  writeWord word
  match value with
  | some e =>
    space
    e.whole
  | none => return

def writeLabeled (pos : Nat) (label : String) (body : Piece (.statement .all)) (m : Manner) : Printing Unit := do
  if !m.bare then
    writeCommentsAt pos
    let p ← get
    if p.depth > 0 || p.indentIsSpace then indent
  writeWord (label ++ ":")
  writeInner body m

end Bundler.Script
