import Bundler.Script.Printer.Piece

/-!
# Writing expressions

Parentheses are written where the precedence asks for them, not where they were written: around operators that bind
looser than what stands around them, and around what would read as something else at the beginning of a statement.
-/

namespace Bundler.Script

open Printing

/-! ## Beginnings -/

/-- Whether a statement that is an expression begins here. -/
def isAtStatement : Printing Bool := do
  let p ← get
  return p.statementStart = p.length

/-- Whether an expression begins here that is the body of an arrow function. -/
def isAtArrowBody : Printing Bool := do
  let p ← get
  return p.arrowStart = p.length

/-- Whether an expression begins here that is exported as default. -/
def isAtDefault : Printing Bool := do
  let p ← get
  return p.defaultStart = p.length

/-! ## Literals with parts -/

def writeArray (elements : List (Piece .element)) : Printing Unit := do
  let endsInHole := match elements.getLast? with
    | some ⟨.elementHole, _⟩ => true
    | _ => false
  let items := elements.map fun e => e.whole
  writeChar '['
  if elements.length > 2 then
    lines (items.dropLast ++ (items.drop (items.length - 1)).map fun last => do
      last
      if endsInHole then writeChar ',')
  else
    commaList items
    if endsInHole then writeChar ','
  writeChar ']'

def writeObject (properties : List (Piece .property)) (m : Manner) : Printing Unit := do
  let items := properties.map fun p => p.write m
  parenthesize ((← isAtStatement) || (← isAtArrowBody)) do
    writeChar '\x7b'
    match items with
    | [] => pure ()
    | [item] =>
      space
      item
      space
    | items => lines items
    writeChar '\x7d'

/-- Whether a property is written as its name alone. -/
def isShorthand (key : Tree .key) (value : Expression) : Bool :=
  match key, value.withoutParentheses with
  | .keyName name, .identifier other => name == other && name != "__proto__"
  | _, _ => false

/-- Writes the name of a property in brackets. -/
def writeComputedKey (key : Piece .expression) : Printing Unit := do
  writeChar '['
  key.operand .comma
  writeChar ']'

def writePropertyValue (key : Piece .key) (value : Piece .expression) : Printing Unit := do
  if !isShorthand key.tree value.tree then
    match key.tree with
    | .keyLiteral (.number .infinite) => writeAround "[" key "]"
    | _ => key.whole
    write ": "
  value.operand .comma

def writePropertyShorthand (name : String) (init : Option (Piece .expression)) : Printing Unit := do
  writeWord name
  writeInitializer init .free

/-! ## Calls -/

/-- Where an argument stands in the source. -/
def argumentStart : Tree .argument → Nat
  | .argumentItem pos _ | .argumentSpread pos _ => pos

/-- Writes the comments before an item of a list that has a line of its own. -/
def writeItemComments (pos : Nat) : Printing Unit := do
  if !(← writeInnerComments pos) then newline
  indent

/-- Writes arguments in parentheses; where there are comments, each argument gets a line of its own. -/
def writeArguments (arguments : List (Piece .argument)) (close : Nat) (m : Manner) : Printing Unit := do
  let hasClosing ← hasComments close
  let hasAny ← arguments.anyM fun a => hasComments (argumentStart a.tree)
  writeChar '('
  if hasClosing || hasAny then
    deeper do
      separated (writeChar ',') (arguments.map fun a => do
        writeItemComments (argumentStart a.tree)
        a.write m)
      if !(← writeInnerComments close) then newline
    indent
  else writeList arguments m
  writeChar ')'

/-- The mark of a call without effects. -/
def writePureMark (pure : Bool) : Printing Unit := do
  if pure then write "/* @__PURE__ */ "

/-- The mark of a function whose calls have no effects. -/
def writeFreeMark (pure : Bool) : Printing Unit := do
  if pure then write "/* @__NO_SIDE_EFFECTS__ */ "

def writeCall (callee : Piece .expression) (typeArguments : List (Piece .type)) (arguments : List (Piece .argument))
    (optional pure : Bool) (close : Nat) (m : Manner) : Printing Unit := do
  let atStatement ← isAtStatement
  let atDefault ← isAtDefault
  parenthesize (m.around ≥ .construct || m.forbidsCall || (pure && m.around ≥ .update)) do
    writePureMark pure
    modify fun p =>
      if atDefault then { p with defaultStart := p.length }
      else if atStatement then { p with statementStart := p.length }
      else p
    callee.operand .update
    if optional then write "?."
    writeTypeArguments typeArguments
    writeArguments arguments close m

def writeConstruct (callee : Piece .expression) (typeArguments : List (Piece .type))
    (arguments : List (Piece .argument)) (pure : Bool) (close : Nat) (m : Manner) : Printing Unit :=
  parenthesize (m.around ≥ .member || (pure && m.around ≥ .update)) do
    writePureMark pure
    writeWord "new "
    callee.write ⟨.construct, false, true, false⟩
    writeTypeArguments typeArguments
    writeArguments arguments close m

def writeImportCall (phase : Option ImportPhase) (arguments : List (Piece .argument)) (close : Nat) (m : Manner) :
    Printing Unit :=
  parenthesize (m.around ≥ .construct || m.forbidsCall) do
    writeWord ("import" ++ ((phase.map ImportPhase.text).getD ""))
    writeArguments arguments close .free

/-! ## Properties -/

/-- How the object of a property is written. -/
def Manner.ofObject (m : Manner) : Manner :=
  ⟨.update, false, m.forbidsCall, false⟩

def writeMember (object : Piece .expression) (name : String) (optional : Bool) (m : Manner) : Printing Unit := do
  object.write m.ofObject
  let p ← get
  if optional then writeChar '?'
  else if p.integerEnd = p.length then space
  writeChar '.'
  write name

def writeIndex (object key : Piece .expression) (optional : Bool) (m : Manner) : Printing Unit := do
  -- A statement that begins with `let [` declares variables.
  parenthesize (object.tree.withoutParentheses matches .identifier "let") (object.write m.ofObject)
  if optional then write "?."
  writeChar '['
  key.whole
  writeChar ']'

def writeChain (inner : Piece .expression) (m : Manner) : Printing Unit :=
  parenthesize (m.around ≥ .update) (inner.write m)

def writeTagged (tag : Piece .expression) (typeArguments : List (Piece .type)) (texts : List String)
    (values : List (Piece .expression)) : Printing Unit := do
  tag.operand .update
  writeTypeArguments typeArguments
  writeTemplate texts (values.map Piece.whole)

/-! ## Operators -/

def writeUnary (operator : UnaryOperator) (operand : Piece .expression) (m : Manner) : Printing Unit :=
  parenthesize (m.around ≥ .unary) do
    if operator.isWord then
      writeWord operator.text
      space
    else
      separateSign (.unary operator)
      write operator.text
      markSign (.unary operator)
    operand.write (m.inside .exponent)

def writeUpdate (operator : UpdateOperator) (isBefore : Bool) (operand : Piece .expression) (m : Manner) :
    Printing Unit :=
  parenthesize (m.around ≥ .unary) do
    if isBefore then
      separateSign (.update operator)
      write operator.text
      markSign (.update operator)
      operand.write (m.inside .unary)
    else
      separateSign (.update operator)
      operand.write (m.inside .update)
      write operator.text
      markSign (.update operator)

/-- Writes an operator between two operands. -/
def writeInfix (operator : String) (own left right : Precedence) (isIn : Bool) (first second : Piece .expression)
    (m : Manner) : Printing Unit := do
  let wraps := m.around ≥ own || (isIn && m.forbidsIn)
  let m := if wraps then m.allowIn else m
  parenthesize wraps do
    first.write (m.inside left)
    write (" " ++ operator ++ " ")
    second.write (m.allowCall.inside right)

def writeBinary (operator : BinaryOperator) (first second : Piece .expression) (m : Manner) : Printing Unit :=
  let own := operator.precedence
  let left : Precedence := match operator, first.tree.withoutParentheses with
    | .power, .unary _ _ | .power, .await _ => .call
    | .power, _ => own
    | _, _ => own.below
  let right := if operator = .power then own.below else own
  writeInfix operator.text own left right (operator = .isIn) first second m

def writeLogical (operator : LogicalOperator) (first second : Piece .expression) (m : Manner) : Printing Unit :=
  let own := operator.precedence
  let mixes (e : Expression) : Bool := match operator, e.withoutParentheses with
    | .coalesce, .logical .coalesce _ _ => false
    | .coalesce, .logical _ _ _ => true
    | _, _ => false
  let side (e : Expression) (otherwise : Precedence) : Precedence := if mixes e then .unary else otherwise
  writeInfix operator.text own (side first.tree own.below) (side second.tree own.below) false first second m

def writePrivateIn (name : String) (right : Piece .expression) (m : Manner) : Printing Unit :=
  parenthesize (m.around ≥ .comparison) do
    write ("#" ++ name ++ " in ")
    right.write (m.allowCall.inside .equality)

def writeConditional (test yes no : Piece .expression) (m : Manner) : Printing Unit := do
  let wraps := m.around ≥ .conditional
  let m := if wraps then m.allowIn.allowCall else m.allowCall
  parenthesize wraps do
    test.write (m.inside .conditional)
    write " ? "
    yes.operand .yield
    write " : "
    no.write (m.inside .yield)

def writeAssign (operator : AssignOperator) (target : Piece .target) (value : Piece .expression) (m : Manner) :
    Printing Unit := do
  let isObject := match target.tree with
    | .targetObject _ _ => true
    | _ => false
  let opensBlock := isObject && ((← isAtStatement) || (← isAtArrowBody))
  parenthesize (opensBlock || m.around ≥ .assign) do
    target.write m
    write (" " ++ operator.text ++ " ")
    value.write (m.inside .comma)

def writeSequence (expressions : List (Piece .expression)) (m : Manner) : Printing Unit :=
  parenthesize (m.around ≥ .comma) (writeList expressions (m.allowCall.inside .lowest))

def writeAwait (operand : Piece .expression) (m : Manner) : Printing Unit :=
  parenthesize (m.around ≥ .unary) do
    writeWord "await "
    operand.write (m.inside .exponent)

def writeYield (delegate : Bool) (operand : Option (Piece .expression)) (m : Manner) : Printing Unit :=
  parenthesize (m.around ≥ .assign) do
    writeWord "yield"
    if delegate then writeChar '*'
    match operand with
    | some e =>
      space
      e.write (m.inside .yield)
    | none => return

/-! ## Statements about types -/

def writeAsType (inner : Piece .expression) (type : Piece .type) (m : Manner) : Printing Unit :=
  parenthesize (m.around ≥ .comparison) do
    inner.write (m.inside .exponent)
    write " as "
    type.whole

def writeSatisfies (inner : Piece .expression) (type : Piece .type) (m : Manner) : Printing Unit := do
  let isMarked := match inner.tree.withoutParentheses with
    | .functionValue (.functionOf _ _ _ _ _ _ _ _ _ parenthesized) => parenthesized
    | _ => false
  writeChar '('
  parenthesize (!isMarked) (inner.operand m.around)
  write " satisfies "
  type.whole
  writeChar ')'

def writeTypeAssertion (type : Piece .type) (inner : Piece .expression) (m : Manner) : Printing Unit := do
  let isFunction := match type.tree with
    | .typeFunction _ _ _ => true
    | _ => false
  write "(<"
  if isFunction then space
  type.whole
  writeChar '>'
  inner.write (m.inside .member)
  writeChar ')'

def writeNonNull (inner : Piece .expression) (m : Manner) : Printing Unit := do
  parenthesize (inner.tree matches .parenthesized _) (inner.write (m.inside .update))
  writeChar '!'

def writeInstantiation (inner : Piece .expression) (typeArguments : List (Piece .type)) (m : Manner) :
    Printing Unit := do
  inner.write m
  writeTypeArguments typeArguments

end Bundler.Script
