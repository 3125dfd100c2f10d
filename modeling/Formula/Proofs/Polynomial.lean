import Formula.Proofs.Domain.Ring
import Formula.Proofs.Expr.Basic
import Formula.Proofs.Expr.Value

/-!
# Polynomials are valued modulo a number

An expression that neither divides nor takes absolute values is a polynomial in its variables.  It
has a value everywhere, and reducing commutes with everything it consists of.  So its value may be
reduced at the end, or its constants and variables at the start, or anything in between: the number
systems that wrap around and the one modulo a prime are images of the integers.

Absolute values and quotients are no operations on classes, and are not preserved.

## Main definitions

* `Expr.IsPolynomial` — sums, differences, products, negations and squares only
* `Expr.integerValue` — the integer that a polynomial comes to

## Main statements

* `Domain.IsIntegersModulo.value_map_wrap` — reducing first or last
* `polynomial_value_wraps` — the number systems one by one
-/

namespace Formula

/-- An operator that does not divide is continuous. -/
theorem BinaryOp.isContinuous_of_isDivision {op : BinaryOp} (total : op.isDivision = false) :
    op.isContinuous = true := by
  cases op with
  | add | subtract | multiply => rfl
  | divide | modulo => cases total

namespace Expr

variable {V : Type}

/-- An expression that neither divides nor takes absolute values. -/
def IsPolynomial : Expr V → Prop
  | const _ => True
  | var _ => True
  | unary op operand => op ≠ .abs ∧ operand.IsPolynomial
  | binary op left right => op.isDivision = false ∧ left.IsPolynomial ∧ right.IsPolynomial

instance decidableIsPolynomial : (e : Expr V) → Decidable e.IsPolynomial
  | const _ => .isTrue trivial
  | var _ => .isTrue trivial
  | unary _ operand =>
    have := decidableIsPolynomial operand
    inferInstanceAs (Decidable (_ ∧ _))
  | binary _ left right =>
    have := decidableIsPolynomial left
    have := decidableIsPolynomial right
    inferInstanceAs (Decidable (_ ∧ _ ∧ _))

/-- What an expression comes to if its operators are those on exact integers. -/
def integerValue (p : Point) : Expr Int → Int
  | const value => value
  | var v => (p.coordinate v).toInt
  | unary op operand => op.onInt (operand.integerValue p)
  | binary op left right => op.onInt (left.integerValue p) (right.integerValue p)

theorem map_id (e : Expr V) : e.map id = e := by
  induction e with
  | const value => rfl
  | var v => rfl
  | unary op operand ih => rw [map, ih]
  | binary op left right ihLeft ihRight => rw [map, ihLeft, ihRight]

end Expr

namespace Domain.IsIntegersModulo

variable {V : Type} {d : Domain V} {m : Int} {toInt : V → Int} {wrap : Int → V}

/-- An operator on one operand, other than the absolute value, may be applied to the class. -/
theorem unary_wrap (laws : d.IsIntegersModulo m toInt wrap) {op : UnaryOp} (notAbs : op ≠ .abs)
    (i : Int) : d.unary op (wrap i) = .ok (wrap (op.onInt i)) := by
  have same := laws.toInt_wrap i
  cases op with
  | negate => rw [laws.negate, laws.wrap_congr same.neg]; rfl
  | abs => exact absurd rfl notAbs
  | square => rw [laws.square, laws.wrap_congr (same.mul same)]; rfl

/-- An operator on two operands that does not divide may be applied to the classes. -/
theorem binary_wrap (laws : d.IsIntegersModulo m toInt wrap) {op : BinaryOp}
    (total : op.isDivision = false) (i j : Int) :
    d.binary op (wrap i) (wrap j) = .ok (wrap (op.onInt i j)) := by
  have continuous := BinaryOp.isContinuous_of_isDivision total
  rw [laws.binary continuous,
    laws.wrap_onInt continuous (laws.toInt_wrap i) (laws.toInt_wrap j)]

/-- **Reducing first or last.**  A polynomial whose constants are reduced has a value, and it is the
reduced value of the polynomial. -/
theorem value_map_wrap (laws : d.IsIntegersModulo m toInt wrap) (p : Point) {e : Expr Int}
    (polynomial : e.IsPolynomial) :
    (e.map wrap).value d p = .ok (wrap (e.integerValue p)) := by
  induction e with
  | const value => rfl
  | var v => exact congrArg Except.ok (laws.ofInt32 (p.coordinate v))
  | unary op operand ih =>
      obtain ⟨notAbs, polynomial⟩ := polynomial
      rw [Expr.map, Expr.value_unary op (ih polynomial), laws.unary_wrap notAbs]
      rfl
  | binary op left right ihLeft ihRight =>
      obtain ⟨total, polynomialLeft, polynomialRight⟩ := polynomial
      rw [Expr.map, Expr.value_binary op (ihLeft polynomialLeft) (ihRight polynomialRight),
        laws.binary_wrap total]
      rfl

end Domain.IsIntegersModulo

/-- **Polynomials are valued modulo a number.**  Over integers of any size a polynomial has a value
at every point.  With constants that are reduced it has values also over the integers that wrap
around at 32 bits and at 8 bits and over the integers modulo a prime, and they are this value,
reduced. -/
theorem polynomial_value_wraps {e : Expr Int} (polynomial : e.IsPolynomial) (p : Point) :
    ∃ v, e.value bigInteger p = .ok v ∧
      (e.map Int32.ofInt).value uncheckedInt p = .ok (Int32.ofInt v) ∧
      (e.map Int8.ofInt).value byte p = .ok (Int8.ofInt v) ∧
      (e.map ModularInt.wrap).value modularInt p = .ok (ModularInt.wrap v) ∧
      (ModularInt.wrap v).toInt = v % ModularInt.modulus := by
  have exact := bigInteger_isIntegersModulo.value_map_wrap p polynomial
  rw [Expr.map_id] at exact
  exact ⟨e.integerValue p, exact, uncheckedInt_isIntegersModulo.value_map_wrap p polynomial,
    byte_isIntegersModulo.value_map_wrap p polynomial,
    modularInt_isIntegersModulo.value_map_wrap p polynomial, ModularInt.toInt_wrap _⟩

/-- The least coordinate and constants out of every range. -/
theorem polynomial_value_wraps_extremes :
    let e : Expr Int := .binary .subtract
      (.binary .multiply (.unary .square (.var .x)) (.const (-3000000000)))
      (.unary .negate (.binary .add (.var .y) (.const 128)))
    let p : Point := ⟨Int32.minValue, Int32.maxValue, 0⟩
    e.IsPolynomial ∧
      ∃ v, e.value bigInteger p = .ok v ∧
        (e.map Int32.ofInt).value uncheckedInt p = .ok (Int32.ofInt v) ∧
        (e.map Int8.ofInt).value byte p = .ok (Int8.ofInt v) ∧
        (e.map ModularInt.wrap).value modularInt p = .ok (ModularInt.wrap v) ∧
        (ModularInt.wrap v).toInt = v % ModularInt.modulus := by
  intro e p
  have polynomial : e.IsPolynomial := by decide
  exact ⟨polynomial, polynomial_value_wraps polynomial p⟩

end Formula
