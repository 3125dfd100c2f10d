import Formula.Proofs.Domain.Inverses
import Formula.Proofs.Reprinting

/-!
# Values modulo a prime are residues

The operations modulo a prime take any integers of 32 bits, but give residues only.  What is read as
a constant is a residue, and so is the value of a coordinate.  So every value that an expression
comes to on the way is a residue, and the same one wherever the coordinates are congruent.

An error names the operands of its operation, some of them as they were given.  They are residues
too, so not even an error tells congruent points apart.

## Main definitions

* `ModularInt.IsReduced` — the residues among the values
* `ModularInt.Canonical` — the results that an operation on residues may have

## Main statements

* `ModularInt.canonical_unary`, `ModularInt.canonical_binary` — operations on residues
* `modularInt_value_canonical` — expressions that were read
-/

namespace Formula

namespace ModularInt

/-- The value is a residue. -/
def IsReduced (x : Int32) : Prop :=
  0 ≤ x.toInt ∧ x.toInt < modulus

/-- The result is a residue, or a division by zero that names residues. -/
inductive Canonical : Except ArithmeticError Int32 → Prop
  | value {x : Int32} (reduced : IsReduced x) : Canonical (.ok x)
  | zeroDivisor {op : BinaryOp} {a : Int} (divides : op.isDivision = true) (nonneg : 0 ≤ a)
      (small : a < modulus) : Canonical (.error (.divisionByZero (.binary op a 0)))

/-! ### Operations -/

theorem isReduced_ofResidue {r : Nat} (small : r < modulus) : IsReduced (ofResidue r) := by
  rw [IsReduced, toInt_ofResidue small]
  exact ⟨Int.natCast_nonneg r, by exact_mod_cast small⟩

theorem canonical_ofResidue {r : Nat} (small : r < modulus) : Canonical (.ok (ofResidue r)) :=
  .value (isReduced_ofResidue small)

theorem canonical_unary (op : UnaryOp) (x : Int32) : Canonical (modularInt.unary op x) := by
  cases op with
  | negate => exact canonical_ofResidue (mod_modulus_lt _)
  | abs => exact canonical_ofResidue (residue_lt x)
  | square => exact canonical_ofResidue (mod_modulus_lt _)

/-- A divisor that is reduced and has no inverse is zero. -/
theorem IsReduced.eq_zero {y : Int32} (reduced : IsReduced y) (missing : inverse? y = none) :
    y.toInt = 0 :=
  Int.eq_zero_of_dvd_of_nonneg_of_lt reduced.1 reduced.2 ((inverse?_eq_none_iff y).mp missing)

theorem canonical_divide {x y : Int32} (left : IsReduced x) (right : IsReduced y) :
    Canonical (modularInt.binary .divide x y) := by
  cases found : inverse? y with
  | some inverse =>
      obtain ⟨quotient, divided, isQuotient⟩ := binary_divide x found
      rw [divided]
      exact .value ⟨isQuotient.nonneg, isQuotient.lt_modulus⟩
  | none =>
      rw [binary_divide_of_none x found, right.eq_zero found]
      exact .zeroDivisor rfl left.1 left.2

theorem canonical_modulo (x y : Int32) : Canonical (modularInt.binary .modulo x y) := by
  show Canonical (ofResidue <$> modulo x y)
  rw [modulo]
  split
  next zero =>
    rw [zero]
    exact .zeroDivisor rfl (Int.natCast_nonneg _) (by exact_mod_cast residue_lt x)
  next nonzero =>
    exact canonical_ofResidue ((Nat.mod_le _ _).trans_lt (residue_lt x))

/-- **Operations on residues** give residues, or an error that names residues. -/
theorem canonical_binary (op : BinaryOp) {x y : Int32} (left : IsReduced x) (right : IsReduced y) :
    Canonical (modularInt.binary op x y) := by
  cases op with
  | add | subtract | multiply => exact canonical_ofResidue (mod_modulus_lt _)
  | divide => exact canonical_divide left right
  | modulo => exact canonical_modulo x y

/-! ### Expressions -/

/-- An operator keeps results canonical; where an operand has no value its error is passed on. -/
theorem canonical_value {e : Expr Int32} (reduced : ∀ c ∈ e.constants, IsReduced c) (p : Point) :
    Canonical (e.value modularInt p) := by
  induction e with
  | const value => exact .value (reduced value (List.mem_singleton.mpr rfl))
  | var v => exact canonical_ofResidue (residue_lt _)
  | unary op operand ih =>
      have canonical := ih reduced
      cases result : operand.value modularInt p with
      | error error =>
          rw [Expr.value_unary_error op result]
          exact result ▸ canonical
      | ok x =>
          rw [Expr.value_unary op result]
          exact canonical_unary op x
  | binary op left right ihLeft ihRight =>
      have canonicalLeft := ihLeft fun c member => reduced c (List.mem_append_left _ member)
      have canonicalRight := ihRight fun c member => reduced c (List.mem_append_right _ member)
      cases resultLeft : left.value modularInt p with
      | error error =>
          rw [Expr.value_left_error op right resultLeft]
          exact resultLeft ▸ canonicalLeft
      | ok x =>
          rw [resultLeft] at canonicalLeft
          cases resultRight : right.value modularInt p with
          | error error =>
              rw [Expr.value_right_error op resultLeft resultRight]
              exact resultRight ▸ canonicalRight
          | ok y =>
              rw [resultRight] at canonicalRight
              rw [Expr.value_binary op resultLeft resultRight]
              obtain ⟨reducedLeft⟩ := canonicalLeft
              obtain ⟨reducedRight⟩ := canonicalRight
              exact canonical_binary op reducedLeft reducedRight

/-- Congruent coordinates have the same value. -/
theorem ofInt32_congr {i j : Int32} (congruent : i.toInt ≡ j.toInt [ZMOD modulus]) :
    modularInt.ofInt32 i = modularInt.ofInt32 j := by
  rw [modularInt_isIntegersModulo.ofInt32, modularInt_isIntegersModulo.ofInt32,
    modularInt_isIntegersModulo.wrap_congr congruent]

end ModularInt

open ModularInt (modulus IsReduced Canonical)

/-- **Values modulo a prime are canonical** and depend on the classes of the coordinates only.  All
constants of an expression that was read are residues, and its value at any point is a residue, or
the error of a division of a residue by zero.  At points whose coordinates are congruent the value
or the error is the same. -/
theorem modularInt_value_canonical {text : String} {t : Expr Int32}
    (found : parse modularInt text = .ok t) :
    (∀ c ∈ t.constants, 0 ≤ c.toInt ∧ c.toInt < modulus) ∧
    (∀ p v, t.value modularInt p = .ok v → 0 ≤ v.toInt ∧ v.toInt < modulus) ∧
    (∀ p error, t.value modularInt p = .error error →
      ∃ (op : BinaryOp) (a : Int), op.isDivision = true ∧ 0 ≤ a ∧ a < modulus ∧
        error = .divisionByZero (.binary op a 0)) ∧
    ∀ p q : Point,
      (∀ v, (p.coordinate v).toInt ≡ (q.coordinate v).toInt [ZMOD modulus]) →
      t.value modularInt p = t.value modularInt q := by
  have reduced : ∀ c ∈ t.constants, IsReduced c := @parse_isReduced .modularInt text t found
  refine ⟨reduced, fun p v result => ?_, fun p error result => ?_, fun p q congruent => ?_⟩
  · have canonical := ModularInt.canonical_value reduced p
    rw [result] at canonical
    obtain ⟨isReduced⟩ := canonical
    exact isReduced
  · have canonical := ModularInt.canonical_value reduced p
    rw [result] at canonical
    obtain ⟨⟩ | ⟨divides, nonneg, small⟩ := canonical
    exact ⟨_, _, divides, nonneg, small, rfl⟩
  · exact Expr.value_congr (fun v => ModularInt.ofInt32_congr (congruent v)) t

/-- Negative constants, one of them the least integer, and a division that fails at one of the
points. -/
theorem modularInt_value_canonical_negative :
    let t : Expr Int32 := .binary .divide (.unary .abs (.const 1006))
      (.binary .modulo (.var .x) (.const 313))
    let p : Point := ⟨-1009, 1, 0⟩
    let q : Point := ⟨2018, -1008, -1009⟩
    parse modularInt "abs -3 / (x mod -2147483648)" = .ok t ∧
      (∀ c ∈ t.constants, 0 ≤ c.toInt ∧ c.toInt < modulus) ∧
      (∀ p v, t.value modularInt p = .ok v → 0 ≤ v.toInt ∧ v.toInt < modulus) ∧
      (∀ p error, t.value modularInt p = .error error →
        ∃ (op : BinaryOp) (a : Int), op.isDivision = true ∧ 0 ≤ a ∧ a < modulus ∧
          error = .divisionByZero (.binary op a 0)) ∧
      (∀ v, (p.coordinate v).toInt ≡ (q.coordinate v).toInt [ZMOD modulus]) ∧
      t.value modularInt p = t.value modularInt q ∧
      t.value modularInt q = .error (.divisionByZero (.binary .divide 1006 0)) := by
  intro t p q
  have found : parse modularInt "abs -3 / (x mod -2147483648)" = .ok t := rfl
  have congruent : ∀ v, (p.coordinate v).toInt ≡ (q.coordinate v).toInt [ZMOD modulus] := by
    intro v
    cases v <;> decide
  obtain ⟨constants, values, errors, same⟩ := modularInt_value_canonical found
  have failed : t.value modularInt q = .error (.divisionByZero (.binary .divide 1006 0)) := by
    simp only [t, q]
    rfl
  exact ⟨found, constants, values, errors, congruent, same p q congruent, failed⟩

end Formula
