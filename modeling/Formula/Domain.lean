import Formula.Operator

/-!
# Number systems

A number system — a domain — gives an expression its meaning: the arithmetic with its own rules for
overflow and zero divisors, and the reading and writing of its constants.

## Main definitions

* `Operation`, `ArithmeticError` — an operation that has no result, and why
* `Domain` — the operations of a number system
* `LiteralError`, `Domain.literal` — reading a constant, or naming the text that is none
-/

namespace Formula

/-- An operation applied to exact integers, as it is named in an error. -/
inductive Operation where
  | unary (op : UnaryOp) (operand : Int)
  | binary (op : BinaryOp) (left right : Int)
  deriving DecidableEq

/-- The written form of an operation; a single operand stands in brackets. -/
def Operation.text : Operation → String
  | unary op a => op.symbol ++ "(" ++ toString a ++ ")"
  | binary op a b => toString a ++ " " ++ op.symbol ++ " " ++ toString b

/-- Why an operation has no result. -/
inductive ArithmeticError where
  | overflow (operation : Operation)
  | divisionByZero (operation : Operation)
  deriving DecidableEq

/-- What is reported about an operation without a result. -/
def ArithmeticError.message : ArithmeticError → String
  | overflow operation => "Overflow: " ++ operation.text
  | divisionByZero operation => "Division by zero: " ++ operation.text

/-- A number system with values of type `V`. -/
structure Domain (V : Type) where
  /-- The value of an integer coordinate. -/
  ofInt32 : Int32 → V
  /-- The result of an operator on one operand. -/
  unary : UnaryOp → V → Except ArithmeticError V
  /-- The result of an operator on two operands. -/
  binary : BinaryOp → V → V → Except ArithmeticError V
  /-- Whether a constant in an expression may hold a decimal point. -/
  hasDecimalPoint : Bool
  /-- The value that a text denotes, if it denotes one. -/
  read? : List Char → Option V
  /-- The text of a value. -/
  text : V → String

/-- A text that a number system cannot read as a constant. -/
structure LiteralError where
  literal : String
  deriving DecidableEq

/-- What is reported about a text that is no constant. -/
def LiteralError.message (e : LiteralError) : String :=
  "Invalid constant: " ++ e.literal

namespace Domain

variable {V : Type}

/-- Whether a character may start or continue a constant inside an expression.  A sign is no such
character: whether it belongs to a constant depends on where it stands. -/
def isLiteralChar (d : Domain V) (c : Char) : Bool :=
  c.isDigit || (d.hasDecimalPoint && c == '.')

/-- The value of a constant. -/
def literal (d : Domain V) (text : String) : Except LiteralError V :=
  match d.read? text.toList with
  | some value => .ok value
  | none => .error ⟨text⟩

end Domain

end Formula
