import Formula.Expr.Value

/-!
# Values of expressions

An operator is applied to the values of its operands.  Where an operand has no value the operator
has none either, and the error is that of the first operand without a value.

Two expressions of a number system have the same values if at every point both have the same value
or both fail with the same error.  Operators preserve this, so a part of an expression may be
replaced.

## Main definitions

* `Expr.SameValues` — at every point the same value or the same error

## Main statements

* `Expr.value_unary`, `Expr.value_binary` and their variants for errors — operators and operands
* `Expr.value_congr` — points that are not told apart
* `Expr.SameValues.binary` — operands may be replaced
-/

namespace Formula

namespace Expr

variable {V : Type} {d : Domain V} {a a' b b' c e : Expr V}

/-! ### Values of operators -/

section Operators

variable {p : Point} {error : ArithmeticError} {x y : V}

theorem value_unary_eq (op : UnaryOp) (a : Expr V) :
    (unary op a).value d p = (a.value d p >>= d.unary op) :=
  rfl

theorem value_binary_eq (op : BinaryOp) (a b : Expr V) :
    (binary op a b).value d p =
      (a.value d p >>= fun x => b.value d p >>= fun y => d.binary op x y) :=
  rfl

theorem value_unary (op : UnaryOp) (operand : a.value d p = .ok x) :
    (unary op a).value d p = d.unary op x := by
  rw [value_unary_eq, operand]
  rfl

/-- An operator has no value where its operand has none. -/
theorem value_unary_error (op : UnaryOp) (operand : a.value d p = .error error) :
    (unary op a).value d p = .error error := by
  rw [value_unary_eq, operand]
  rfl

theorem value_binary (op : BinaryOp) (left : a.value d p = .ok x) (right : b.value d p = .ok y) :
    (binary op a b).value d p = d.binary op x y := by
  rw [value_binary_eq, left, right]
  rfl

/-- An operator has no value where its left operand has none. -/
theorem value_left_error (op : BinaryOp) (b : Expr V) (left : a.value d p = .error error) :
    (binary op a b).value d p = .error error := by
  rw [value_binary_eq, left]
  rfl

/-- An operator has no value where its left operand has a value and its right one has none. -/
theorem value_right_error (op : BinaryOp) (left : a.value d p = .ok x)
    (right : b.value d p = .error error) : (binary op a b).value d p = .error error := by
  rw [value_binary_eq, left, right]
  rfl

end Operators

/-- The value depends on the point through the values of its coordinates only. -/
theorem value_congr {p q : Point}
    (same : ∀ v, d.ofInt32 (p.coordinate v) = d.ofInt32 (q.coordinate v)) (e : Expr V) :
    e.value d p = e.value d q := by
  induction e with
  | const value => rfl
  | var v => exact congrArg Except.ok (same v)
  | unary op operand ih => rw [value_unary_eq, value_unary_eq, ih]
  | binary op left right ihLeft ihRight => rw [value_binary_eq, value_binary_eq, ihLeft, ihRight]

/-! ### The same values -/

/-- At every point two expressions have the same value or fail with the same error. -/
def SameValues (d : Domain V) (e e' : Expr V) : Prop :=
  ∀ p, e.value d p = e'.value d p

namespace SameValues

theorem refl (e : Expr V) : SameValues d e e :=
  fun _ => rfl

theorem trans (first : SameValues d a b) (second : SameValues d b c) : SameValues d a c :=
  fun p => (first p).trans (second p)

/-- An operand of an operator may be replaced. -/
theorem unary (op : UnaryOp) (operand : SameValues d a a') :
    SameValues d (.unary op a) (.unary op a') := by
  intro p
  rw [value_unary_eq, value_unary_eq, operand p]

/-- Both operands of an operator may be replaced. -/
theorem binary (op : BinaryOp) (left : SameValues d a a') (right : SameValues d b b') :
    SameValues d (.binary op a b) (.binary op a' b') := by
  intro p
  rw [value_binary_eq, value_binary_eq, left p, right p]

end SameValues

end Expr

end Formula
