import Formula.Operator

/-!
# Expressions

An expression is a tree whose leaves are constants of some type of values and the variables
`x`, `y`, `z`, and whose inner nodes are operators.

## Main definitions

* `Variable`, `Point` — the variables and a value for each of them
* `Expr` — expression trees
* `Expr.size`, `Expr.height` — the number of nodes and the length of the longest branch
-/

namespace Formula

/-- The variables of an expression. -/
inductive Variable where
  | x
  | y
  | z
  deriving DecidableEq

/-- Integer coordinates, one for each variable. -/
structure Point where
  x : Int32
  y : Int32
  z : Int32
  deriving DecidableEq

/-- An expression over constants of type `V`. -/
inductive Expr (V : Type) where
  | const (value : V)
  | var (letter : Variable)
  | unary (op : UnaryOp) (operand : Expr V)
  | binary (op : BinaryOp) (left right : Expr V)
  deriving BEq

namespace Variable

/-- The letter of a variable. -/
def letter : Variable → Char
  | x => 'x'
  | y => 'y'
  | z => 'z'

/-- How the variable is written. -/
def name (v : Variable) : String := v.letter.toString

/-- Every variable. -/
def all : List Variable := [x, y, z]

end Variable

namespace Point

/-- The point with all coordinates zero. -/
def origin : Point := ⟨0, 0, 0⟩

/-- The coordinate that belongs to a variable. -/
def coordinate (p : Point) : Variable → Int32
  | .x => p.x
  | .y => p.y
  | .z => p.z

end Point

namespace Expr

variable {V : Type}

/-- The number of nodes. -/
def size : Expr V → Nat
  | const _ => 1
  | var _ => 1
  | unary _ operand => 1 + operand.size
  | binary _ left right => 1 + left.size + right.size

/-- The number of nodes on the longest branch; a leaf has height one. -/
def height : Expr V → Nat
  | const _ => 1
  | var _ => 1
  | unary _ operand => 1 + operand.height
  | binary _ left right => 1 + max left.height right.height

end Expr

end Formula
