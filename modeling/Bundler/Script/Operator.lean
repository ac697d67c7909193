/-!
# Operators

The operators of expressions, how they are written, and how tightly they bind.
-/

namespace Bundler.Script

/-- How tightly a part of an expression binds, from the loosest to the tightest. -/
inductive Precedence where
  | lowest
  | comma
  | spread
  | yield
  | assign
  | conditional
  | coalesce
  | or
  | and
  | bitOr
  | bitXor
  | bitAnd
  | equality
  | comparison
  | shift
  | addition
  | multiplication
  | exponent
  | unary
  | update
  | construct
  | call
  | member
  deriving DecidableEq, Inhabited, Repr

namespace Precedence

def level : Precedence → Nat
  | lowest => 0
  | comma => 1
  | spread => 2
  | yield => 3
  | assign => 4
  | conditional => 5
  | coalesce => 6
  | or => 7
  | and => 8
  | bitOr => 9
  | bitXor => 10
  | bitAnd => 11
  | equality => 12
  | comparison => 13
  | shift => 14
  | addition => 15
  | multiplication => 16
  | exponent => 17
  | unary => 18
  | update => 19
  | construct => 20
  | call => 21
  | member => 22

/-- The next looser precedence. -/
def below : Precedence → Precedence
  | lowest => lowest
  | comma => lowest
  | spread => comma
  | yield => spread
  | assign => yield
  | conditional => assign
  | coalesce => conditional
  | or => coalesce
  | and => or
  | bitOr => and
  | bitXor => bitOr
  | bitAnd => bitXor
  | equality => bitAnd
  | comparison => equality
  | shift => comparison
  | addition => shift
  | multiplication => addition
  | exponent => multiplication
  | unary => exponent
  | update => unary
  | construct => update
  | call => construct
  | member => call

instance : LT Precedence := ⟨fun a b => a.level < b.level⟩
instance : LE Precedence := ⟨fun a b => a.level ≤ b.level⟩
instance (a b : Precedence) : Decidable (a < b) := inferInstanceAs (Decidable (a.level < b.level))
instance (a b : Precedence) : Decidable (a ≤ b) := inferInstanceAs (Decidable (a.level ≤ b.level))

end Precedence

/-! ## Unary operators -/

/-- An operator before its operand. -/
inductive UnaryOperator where
  | minus
  | plus
  | not
  | bitNot
  | typeOf
  | void
  | delete
  deriving DecidableEq, Inhabited, Repr

def UnaryOperator.text : UnaryOperator → String
  | .minus => "-"
  | .plus => "+"
  | .not => "!"
  | .bitNot => "~"
  | .typeOf => "typeof"
  | .void => "void"
  | .delete => "delete"

/-- Whether the operator is a word. -/
def UnaryOperator.isWord : UnaryOperator → Bool
  | .typeOf | .void | .delete => true
  | _ => false

/-- An operator that changes its operand by one. -/
inductive UpdateOperator where
  | increment
  | decrement
  deriving DecidableEq, Inhabited, Repr

def UpdateOperator.text : UpdateOperator → String
  | .increment => "++"
  | .decrement => "--"

/-! ## Binary operators -/

/-- An operator between two operands that are both evaluated. -/
inductive BinaryOperator where
  | equal
  | notEqual
  | strictEqual
  | strictNotEqual
  | less
  | lessEqual
  | greater
  | greaterEqual
  | shiftLeft
  | shiftRight
  | shiftRightUnsigned
  | add
  | subtract
  | multiply
  | divide
  | remainder
  | power
  | bitOr
  | bitXor
  | bitAnd
  | isIn
  | instanceOf
  deriving DecidableEq, Inhabited, Repr

namespace BinaryOperator

def text : BinaryOperator → String
  | equal => "=="
  | notEqual => "!="
  | strictEqual => "==="
  | strictNotEqual => "!=="
  | less => "<"
  | lessEqual => "<="
  | greater => ">"
  | greaterEqual => ">="
  | shiftLeft => "<<"
  | shiftRight => ">>"
  | shiftRightUnsigned => ">>>"
  | add => "+"
  | subtract => "-"
  | multiply => "*"
  | divide => "/"
  | remainder => "%"
  | power => "**"
  | bitOr => "|"
  | bitXor => "^"
  | bitAnd => "&"
  | isIn => "in"
  | instanceOf => "instanceof"

def precedence : BinaryOperator → Precedence
  | equal | notEqual | strictEqual | strictNotEqual => .equality
  | less | lessEqual | greater | greaterEqual | isIn | instanceOf => .comparison
  | shiftLeft | shiftRight | shiftRightUnsigned => .shift
  | add | subtract => .addition
  | multiply | divide | remainder => .multiplication
  | power => .exponent
  | bitOr => .bitOr
  | bitXor => .bitXor
  | bitAnd => .bitAnd

end BinaryOperator

/-- An operator that may leave its second operand unevaluated. -/
inductive LogicalOperator where
  | or
  | and
  | coalesce
  deriving DecidableEq, Inhabited, Repr

namespace LogicalOperator

def text : LogicalOperator → String
  | or => "||"
  | and => "&&"
  | coalesce => "??"

def precedence : LogicalOperator → Precedence
  | or => .or
  | and => .and
  | coalesce => .coalesce

end LogicalOperator

/-! ## Assignment -/

/-- The sign between a target and a value: `=`, alone or after an operator. -/
inductive AssignOperator where
  | plain
  | binary (operator : BinaryOperator)
  | logical (operator : LogicalOperator)
  deriving DecidableEq, Inhabited, Repr

def AssignOperator.text : AssignOperator → String
  | .plain => "="
  | .binary operator => operator.text ++ "="
  | .logical operator => operator.text ++ "="

end Bundler.Script
