import Formula.Domain
import Formula.Number.Floating

/-!
# Floating-point arithmetic

Doubles.  No operation fails: a zero divisor gives an infinity or no number.

## Main definitions

* `floating` — the number system
-/

namespace Formula

/-- The result of an operator on one operand. -/
def Floating.unary : UnaryOp → Float → Float
  | .negate, x => -x
  | .abs, x => x.abs
  | .square, x => x * x

/-- The result of an operator on two operands. -/
def Floating.binary : BinaryOp → Float → Float → Float
  | .add, x, y => x + y
  | .subtract, x, y => x - y
  | .multiply, x, y => x * y
  | .divide, x, y => x / y
  | .modulo, x, y => Floating.remainder x y

/-- The doubles. -/
def floating : Domain Float where
  ofInt32 := fun i => Float.ofInt i.toInt
  unary := fun op x => .ok (Floating.unary op x)
  binary := fun op x y => .ok (Floating.binary op x y)
  hasDecimalPoint := true
  read? := Floating.read?
  text := Floating.text

end Formula
