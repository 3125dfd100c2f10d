import Formula.Expr
import Formula.Domain

/-!
# Values of expressions

An expression has a value at a point if every operation in it has a result.  Operands are valued
before their operator and the left one before the right one, so the error is that of the first
operation without a result in this order.

## Main definitions

* `Expr.value` — the value at a point, or the first error
-/

namespace Formula

variable {V : Type}

/-- The value of an expression at a point of a number system. -/
def Expr.value (d : Domain V) (p : Point) : Expr V → Except ArithmeticError V
  | .const value => .ok value
  | .var v => .ok (d.ofInt32 (p.coordinate v))
  | .unary op operand => do
      let a ← operand.value d p
      d.unary op a
  | .binary op left right => do
      let a ← left.value d p
      let b ← right.value d p
      d.binary op a b

end Formula
