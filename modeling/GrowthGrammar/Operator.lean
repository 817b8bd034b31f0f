/-!
# Operators

The operators of expressions, with the sign that messages and printed expressions show.
-/

namespace GrowthGrammar

/-- Operators with one operand. -/
inductive UnaryOp where
  | negative
  | positive
  | not
deriving Repr, DecidableEq

/-- Arithmetic operators with two operands. -/
inductive BinaryOp where
  | add
  | subtract
  | multiply
  | divide
  | floorDivide
  | modulo
  | power
deriving Repr, DecidableEq

/-- Comparisons. -/
inductive Comparator where
  | less
  | lessEqual
  | greater
  | greaterEqual
  | equal
  | notEqual
deriving Repr, DecidableEq

/-- The connectives that look at their right operand only if the left one does not decide. -/
inductive Connective where
  | and
  | or
deriving Repr, DecidableEq

/-- The sign of an operator. -/
def UnaryOp.sign : UnaryOp → String
  | negative => "-"
  | positive => "+"
  | not => "not"

/-- The sign of an operator. -/
def BinaryOp.sign : BinaryOp → String
  | add => "+"
  | subtract => "-"
  | multiply => "*"
  | divide => "/"
  | floorDivide => "//"
  | modulo => "%"
  | power => "**"

/-- The sign of a comparison. -/
def Comparator.sign : Comparator → String
  | less => "<"
  | lessEqual => "<="
  | greater => ">"
  | greaterEqual => ">="
  | equal => "=="
  | notEqual => "!="

end GrowthGrammar
