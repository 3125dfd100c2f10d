import Formula.Domain
import Formula.Number.Integer

/-!
# Truncating integers

Number systems whose operations are those of the integers, brought back into the range of their
values: not at all for integers of any size, and by wrapping around for integers of fixed width.
Division truncates toward zero, and only a zero divisor is an error.

## Main definitions

* `truncating` — the number system of a range of integers
* `bigInteger`, `uncheckedInt`, `byte` — integers of any size, of 32 bits and of 8 bits
-/

namespace Formula

namespace Truncating

variable {V : Type} (toInt : V → Int) (wrap : Int → V)

/-- A quotient or remainder of integers, unless the divisor is zero. -/
def divideBy (op : BinaryOp) (result : Int → Int → Int) (x y : V) : Except ArithmeticError V :=
  if toInt y = 0 then .error (.divisionByZero (.binary op (toInt x) (toInt y)))
  else .ok (wrap (result (toInt x) (toInt y)))

/-- The result of an operator on one operand. -/
def unary : UnaryOp → V → Except ArithmeticError V
  | .negate, x => .ok (wrap (-toInt x))
  | .abs, x => .ok (wrap (toInt x).natAbs)
  | .square, x => .ok (wrap (toInt x * toInt x))

/-- The result of an operator on two operands.  The remainder belongs to the truncated quotient and
takes the sign of the dividend. -/
def binary : BinaryOp → V → V → Except ArithmeticError V
  | .add, x, y => .ok (wrap (toInt x + toInt y))
  | .subtract, x, y => .ok (wrap (toInt x - toInt y))
  | .multiply, x, y => .ok (wrap (toInt x * toInt y))
  | .divide, x, y => divideBy toInt wrap .divide Int.tdiv x y
  | .modulo, x, y => divideBy toInt wrap .modulo Int.tmod x y

end Truncating

/-- The number system of the values that `toInt` takes for integers and into whose range `wrap`
brings every integer. -/
def truncating {V : Type} (toInt : V → Int) (wrap : Int → V) (read? : List Char → Option V) :
    Domain V where
  ofInt32 := fun i => wrap i.toInt
  unary := Truncating.unary toInt wrap
  binary := Truncating.binary toInt wrap
  hasDecimalPoint := false
  read? := read?
  text := fun value => toString (toInt value)

/-- The integers of any size. -/
def bigInteger : Domain Int := truncating id id readGrouped?

/-- The integers of 32 bits, wrapping around at both ends. -/
def uncheckedInt : Domain Int32 :=
  truncating Int32.toInt Int32.ofInt fun text => (readInt32 text).toOption

/-- The integers of 8 bits, wrapping around at both ends. -/
def byte : Domain Int8 :=
  truncating Int8.toInt Int8.ofInt fun text => (readInt8 text).toOption

end Formula
