import Formula.Domain.Truncating

/-!
# Operators on exact integers

All number systems of integers are described by what their operators do on exact integers, and by
how the result is brought back into the range of their values.  The only operation without an exact
result is a division by zero.

## Main definitions

* `UnaryOp.onInt`, `BinaryOp.onInt` — the operators on exact integers
* `BinaryOp.isDivision` — which of them have no result for the divisor zero

## Main statements

* `truncating_unary`, `truncating_binary` — the operations of truncating integers
* `bigInteger_unary`, `uncheckedInt_unary` and so on — those of the number systems among them
-/

namespace Formula

/-- The result of an operator on an integer. -/
def UnaryOp.onInt : UnaryOp → Int → Int
  | negate, a => -a
  | abs, a => a.natAbs
  | square, a => a * a

/-- The result of an operator on integers, with division truncated toward zero. -/
def BinaryOp.onInt : BinaryOp → Int → Int → Int
  | add, a, b => a + b
  | subtract, a, b => a - b
  | multiply, a, b => a * b
  | divide, a, b => a.tdiv b
  | modulo, a, b => a.tmod b

/-- Whether the right operand of an operator is a divisor. -/
def BinaryOp.isDivision : BinaryOp → Bool
  | add | subtract | multiply => false
  | divide | modulo => true

section Truncating

variable {V : Type} {toInt : V → Int} {wrap : Int → V} {read? : List Char → Option V}

/-- Truncating integers wrap the exact result. -/
theorem truncating_unary (op : UnaryOp) (x : V) :
    (truncating toInt wrap read?).unary op x = .ok (wrap (op.onInt (toInt x))) := by
  cases op <;> rfl

/-- Truncating integers wrap the exact result, if there is one. -/
theorem truncating_binary (op : BinaryOp) (x y : V) :
    (truncating toInt wrap read?).binary op x y =
      if op.isDivision = true ∧ toInt y = 0 then
        .error (.divisionByZero (.binary op (toInt x) (toInt y)))
      else .ok (wrap (op.onInt (toInt x) (toInt y))) := by
  cases op with
  | add => rfl
  | subtract => rfl
  | multiply => rfl
  | divide => simp [truncating, Truncating.binary, Truncating.divideBy, BinaryOp.isDivision,
      BinaryOp.onInt]
  | modulo => simp [truncating, Truncating.binary, Truncating.divideBy, BinaryOp.isDivision,
      BinaryOp.onInt]

end Truncating

/-! ### Number systems -/

/-- Integers of any size have the exact result. -/
theorem bigInteger_unary (op : UnaryOp) (i : Int) : bigInteger.unary op i = .ok (op.onInt i) :=
  truncating_unary op i

/-- Integers of any size have the exact result, if there is one. -/
theorem bigInteger_binary (op : BinaryOp) (i j : Int) :
    bigInteger.binary op i j =
      if op.isDivision = true ∧ j = 0 then .error (.divisionByZero (.binary op i j))
      else .ok (op.onInt i j) :=
  truncating_binary op i j

/-- Integers of 32 bits have the exact result wrapped around. -/
theorem uncheckedInt_unary (op : UnaryOp) (x : Int32) :
    uncheckedInt.unary op x = .ok (Int32.ofInt (op.onInt x.toInt)) :=
  truncating_unary op x

/-- Integers of 32 bits have the exact result wrapped around, if there is one. -/
theorem uncheckedInt_binary (op : BinaryOp) (x y : Int32) :
    uncheckedInt.binary op x y =
      if op.isDivision = true ∧ y.toInt = 0 then
        .error (.divisionByZero (.binary op x.toInt y.toInt))
      else .ok (Int32.ofInt (op.onInt x.toInt y.toInt)) :=
  truncating_binary op x y

end Formula
