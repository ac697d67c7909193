import Bundler.Script.Grammar.State

/-!
# Phrases

The phrases that contain each other. A rule of the grammar is a reading that may call on all phrases one level deeper;
`Grammar` is what it calls on.
-/

namespace Bundler.Script

inductive Phrase where
  /-- An expression, in which a comma joins expressions. -/
  | expression
  /-- An expression without a comma; `arrowResult` says that an arrow function in it may state the type of its result. -/
  | assignment (arrowResult : Bool)
  /-- Operands and binary operators that bind tighter than some. -/
  | binary (minimum : Precedence)
  /-- An operand with its unary operators. -/
  | unary
  | simpleUnary
  /-- An operand with its properties and calls. -/
  | leftHandSide
  /-- An element of markup; `inside` says that it is part of another one. -/
  | markup (inside : Bool)
  /-- A statement; `alone` says that it is the whole body of another one. -/
  | statement (alone : Bool)
  | pattern
  | type
  /-- An operand of a type with its operators before it. -/
  | typeOperand
  /-- The rest of a namespace after the keyword or a point. -/
  | namespaceRest
  deriving DecidableEq, Inhabited, Repr

/-- What reading a phrase gives. -/
abbrev Phrase.Result : Phrase → Type
  | .statement _ => Statement
  | .pattern => Pattern
  | .type | .typeOperand => TypeTree
  | .namespaceRest => ModuleName × Tree .namespaceBody
  | _ => Expression

/-- What stands in for a phrase that could not be read. -/
def Phrase.missing : (p : Phrase) → p.Result
  | .statement _ => Tree.empty 0
  | .pattern => Tree.patternName ""
  | .type | .typeOperand => Tree.typeThis
  | .namespaceRest => (.word "", Tree.namespaceNothing)
  | .expression | .assignment _ | .binary _ | .unary | .simpleUnary | .leftHandSide | .markup _ => Tree.null

/-- A reading for each phrase. -/
abbrev Grammar := (p : Phrase) → Reading p.Result

namespace Grammar

/-- An expression without a comma. -/
def value (g : Grammar) : Reading Expression := g (.assignment true)

/-- The type after a colon, if there is one. -/
def typeAnnotation (g : Grammar) : Reading (Option TypeTree) := do
  if (← Reading.hasTypes) && (← Reading.isAtSign .colon) then
    Reading.advance
    return some (← g .type)
  else return none

/-- The value after an equals sign, if there is one. -/
def initializer? (g : Grammar) : Reading (Option Expression) := do
  if ← Reading.eatSign .equal then return some (← g.value) else return none

/-- Decorators before a class or a part of one. -/
def decorators (g : Grammar) : Reading (List Expression) :=
  Reading.many do
    if !(← Reading.isAtSign .atSign) then return none
    Reading.advance
    return some (← Reading.within ({ · with inDecorator := true }) (g .leftHandSide))

end Grammar

end Bundler.Script
