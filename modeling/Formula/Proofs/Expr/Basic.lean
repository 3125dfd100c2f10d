import Formula.Expr

/-!
# Parts of expressions

## Main definitions

* `Expr.constants` — the constants of an expression
* `Expr.map` — an expression over other constants
* `Expr.subtrees` — the nodes of an expression in the order of their evaluation
-/

namespace Formula

namespace Expr

variable {V W : Type}

/-- The constants of an expression, from left to right. -/
def constants : Expr V → List V
  | const value => [value]
  | var _ => []
  | unary _ operand => operand.constants
  | binary _ left right => left.constants ++ right.constants

/-- The expression with a function applied to all constants. -/
def map (f : V → W) : Expr V → Expr W
  | const value => .const (f value)
  | var v => .var v
  | unary op operand => .unary op (operand.map f)
  | binary op left right => .binary op (left.map f) (right.map f)

/-- The expressions at all nodes, operands before their operator and left before right. -/
def subtrees : Expr V → List (Expr V)
  | const value => [const value]
  | var v => [var v]
  | unary op operand => operand.subtrees ++ [unary op operand]
  | binary op left right => left.subtrees ++ right.subtrees ++ [binary op left right]

end Expr

end Formula
