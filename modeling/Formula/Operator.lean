/-!
# Operators

The three operators on one operand and the five on two, each with its written symbol, and for the
latter the properties that decide which brackets a formula needs.

## Main definitions

* `UnaryOp`, `BinaryOp` — the operators
* `BinaryOp.rank` — how tightly an operator binds
* `BinaryOp.isAssociative`, `BinaryOp.isContinuous` — which right operands may join the chain of
  the operator without brackets
-/

namespace Formula

/-- The operators that take one operand. -/
inductive UnaryOp where
  | negate
  | abs
  | square
  deriving DecidableEq

/-- The operators that take two operands. -/
inductive BinaryOp where
  | add
  | subtract
  | multiply
  | divide
  | modulo
  deriving DecidableEq

namespace UnaryOp

/-- How the operator is written. -/
def symbol : UnaryOp → String
  | negate => "-"
  | abs => "abs"
  | square => "square"

/-- Every operator on one operand. -/
def all : List UnaryOp := [negate, abs, square]

end UnaryOp

namespace BinaryOp

/-- How the operator is written. -/
def symbol : BinaryOp → String
  | add => "+"
  | subtract => "-"
  | multiply => "*"
  | divide => "/"
  | modulo => "mod"

/-- How tightly the operator binds its operands: a higher rank binds first. -/
def rank : BinaryOp → Nat
  | add | subtract => 1
  | multiply | divide | modulo => 2

/-- Whether `a op (b op' c)` may be regrouped to `a op b op' c` for every continuous `op'` of the
same rank. -/
def isAssociative : BinaryOp → Bool
  | add | multiply => true
  | subtract | divide | modulo => false

/-- Whether the operator, as the right operand of an associative operator of its rank, may lose its
brackets.  The operators of that rank down its left spine have to be continuous as well. -/
def isContinuous : BinaryOp → Bool
  | add | subtract | multiply => true
  | divide | modulo => false

/-- Every operator on two operands. -/
def all : List BinaryOp := [add, subtract, multiply, divide, modulo]

end BinaryOp

end Formula
