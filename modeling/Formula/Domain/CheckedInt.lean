import Formula.Domain
import Formula.Number.Integer

/-!
# Checked 32-bit integers

Integers of 32 bits that refuse to overflow.  Every bound is tested before the operation runs, with
tests that stay in the range themselves; a result outside the range is never formed.

## Main definitions

* `CheckedInt.add`, `CheckedInt.subtract`, … — the guarded operations
* `checkedInt` — the number system
-/

namespace Formula

namespace CheckedInt

/-- The overflow of an operator on two operands. -/
def overflow (op : BinaryOp) (x y : Int32) : Except ArithmeticError Int32 :=
  .error (.overflow (.binary op x.toInt y.toInt))

/-- A zero divisor. -/
def divisionByZero (op : BinaryOp) (x y : Int32) : Except ArithmeticError Int32 :=
  .error (.divisionByZero (.binary op x.toInt y.toInt))

/-- Whether the sum leaves the range. -/
def addOverflows (x y : Int32) : Bool :=
  (0 < y && Int32.maxValue - y < x) || (y < 0 && x < Int32.minValue - y)

/-- Whether the difference leaves the range. -/
def subtractOverflows (x y : Int32) : Bool :=
  (y < 0 && Int32.maxValue + y < x) || (0 < y && x < Int32.minValue + y)

/-- Whether the product of `x ≤ y` leaves the range.  The bounds are divided by the greater factor;
where that is negative both factors are, and the product cannot fall below the least integer. -/
def orderedProductOverflows (x y : Int32) : Bool :=
  let tooLarge := (0 < y && Int32.maxValue / y < x) || (y < 0 && x < Int32.maxValue / y)
  let tooSmall := 0 < y && x < Int32.minValue / y
  tooLarge || tooSmall

/-- Whether the product leaves the range. -/
def multiplyOverflows (a b : Int32) : Bool :=
  if b < a then orderedProductOverflows b a else orderedProductOverflows a b

/-- The sum. -/
def add (x y : Int32) : Except ArithmeticError Int32 :=
  if addOverflows x y then overflow .add x y else .ok (x + y)

/-- The difference. -/
def subtract (x y : Int32) : Except ArithmeticError Int32 :=
  if subtractOverflows x y then overflow .subtract x y else .ok (x - y)

/-- The product. -/
def multiply (x y : Int32) : Except ArithmeticError Int32 :=
  if multiplyOverflows x y then overflow .multiply x y else .ok (x * y)

/-- The quotient truncated toward zero.  The least integer divided by minus one is the only quotient
outside the range. -/
def divide (x y : Int32) : Except ArithmeticError Int32 :=
  if y = 0 then divisionByZero .divide x y
  else if x = Int32.minValue ∧ y = -1 then overflow .divide x y
  else .ok (x / y)

/-- The remainder of the truncated quotient.  It is in the range for every divisor but zero. -/
def modulo (x y : Int32) : Except ArithmeticError Int32 :=
  if y = 0 then divisionByZero .modulo x y else .ok (x % y)

/-- The negated number.  The least integer has none. -/
def negate (x : Int32) : Except ArithmeticError Int32 :=
  if x = Int32.minValue then .error (.overflow (.unary .negate x.toInt)) else .ok (-x)

/-- The absolute value, by negating what is negative. -/
def abs (x : Int32) : Except ArithmeticError Int32 :=
  if x < 0 then negate x else .ok x

/-- The result of an operator on one operand; a square is a product. -/
def unary : UnaryOp → Int32 → Except ArithmeticError Int32
  | .negate, x => negate x
  | .abs, x => abs x
  | .square, x => multiply x x

/-- The result of an operator on two operands. -/
def binary : BinaryOp → Int32 → Int32 → Except ArithmeticError Int32
  | .add, x, y => add x y
  | .subtract, x, y => subtract x y
  | .multiply, x, y => multiply x y
  | .divide, x, y => divide x y
  | .modulo, x, y => modulo x y

end CheckedInt

/-- The integers of 32 bits, in which an overflow is an error. -/
def checkedInt : Domain Int32 where
  ofInt32 := id
  unary := CheckedInt.unary
  binary := CheckedInt.binary
  hasDecimalPoint := false
  read? := fun text => (readInt32 text).toOption
  text := toString

end Formula
