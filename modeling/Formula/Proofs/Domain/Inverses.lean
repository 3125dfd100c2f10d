import Formula.Proofs.Domain.Ring
import Mathlib.Tactic.LinearCombination
import Mathlib.Tactic.NormNum.Prime

/-!
# Inverses modulo a prime

The table of inverses is built from smaller to greater numbers.  The entry of a number needs the one
of a remainder of the modulus, which is smaller and, because the modulus is a prime, not zero.  So
it was entered before, and what is entered is an inverse.

A divisor that has an inverse can be cancelled.  So there is one residue only whose product with
the divisor is in a given class, and division finds it.

## Main definitions

* `ModularInt.inversesBelow` — the table after some steps
* `ModularInt.HoldsInverses` — every entry is an inverse of its index
* `ModularInt.IsQuotient` — the residues that a quotient may be

## Main statements

* `ModularInt.holdsInverses_inverses` — what the table holds
* `ModularInt.isQuotient_inverse`, `ModularInt.inverse?_eq_none_iff` — which numbers have inverses
* `ModularInt.IsQuotient.unique` — quotients are unique
* `ModularInt.binary_divide` — division finds the quotient
-/

namespace Formula

namespace ModularInt

theorem prime_modulus : modulus.Prime := by
  norm_num [modulus]

/-! ### The table -/

/-- The table after so many steps, each of which enters one more inverse. -/
def inversesBelow (steps : Nat) : Array Nat :=
  (List.range' 2 steps).foldl (fun table i => table.push (nextInverse table i)) #[0, 1]

/-- The table is complete after a step for each number above one. -/
theorem inverses_eq : inverses = inversesBelow (modulus - 2) := rfl

/-- A step enters the inverse that follows. -/
theorem inversesBelow_succ (steps : Nat) :
    inversesBelow (steps + 1) =
      (inversesBelow steps).push (nextInverse (inversesBelow steps) (2 + steps)) := by
  rw [inversesBelow, List.range'_concat, List.foldl_append, Nat.one_mul]
  rfl

theorem size_inversesBelow (steps : Nat) : (inversesBelow steps).size = 2 + steps := by
  induction steps with
  | zero => rfl
  | succ steps ih => rw [inversesBelow_succ, Array.size_push, ih, Nat.add_assoc]

/-- A table has an inverse at each of its indices but zero, and residues only. -/
structure HoldsInverses (table : Array Nat) : Prop where
  lt_modulus {i : Nat} (inside : i < table.size) : table.getD i 0 < modulus
  mul_modEq {i : Nat} (positive : 0 < i) (inside : i < table.size) :
    (table.getD i 0 : Int) * i ≡ 1 [ZMOD modulus]

theorem getD_push (table : Array Nat) (x : Nat) {i : Nat} (inside : i < table.size) :
    (table.push x).getD i 0 = table.getD i 0 := by
  simp [Array.getElem?_push, Nat.ne_of_lt inside]

theorem getD_push_size (table : Array Nat) (x : Nat) :
    (table.push x).getD table.size 0 = x := by
  simp

/-- The inverse of the size of a table may be entered into it. -/
theorem HoldsInverses.push {table : Array Nat} (holds : HoldsInverses table) {x : Nat}
    (residue : x < modulus) (inverse : (x : Int) * table.size ≡ 1 [ZMOD modulus]) :
    HoldsInverses (table.push x) where
  lt_modulus {i} inside := by
    rw [Array.size_push, Nat.lt_succ_iff_lt_or_eq] at inside
    rcases inside with old | rfl
    · rw [getD_push table x old]
      exact holds.lt_modulus old
    · rw [getD_push_size]
      exact residue
  mul_modEq {i} positive inside := by
    rw [Array.size_push, Nat.lt_succ_iff_lt_or_eq] at inside
    rcases inside with old | rfl
    · rw [getD_push table x old]
      exact holds.mul_modEq positive old
    · rw [getD_push_size]
      exact inverse

/-- A prime leaves a remainder on division by a smaller number other than one. -/
theorem modulus_mod_pos {i : Nat} (other : 1 < i) (small : i < modulus) : 0 < modulus % i := by
  rw [Nat.pos_iff_ne_zero]
  intro divides
  rcases (Nat.dvd_prime prime_modulus).mp (Nat.dvd_of_mod_eq_zero divides) with isOne | isModulus
  · omega
  · omega

theorem nextInverse_lt (table : Array Nat) (i : Nat) : nextInverse table i < modulus :=
  mod_modulus_lt _

/-- A step enters the negated product of the quotient and the inverse of the remainder. -/
theorem nextInverse_modEq (table : Array Nat) (i : Nat) :
    (nextInverse table i : Int) ≡
      -((modulus / i : Nat) * table.getD (modulus % i) 0) [ZMOD modulus] := by
  rw [nextInverse, Int.natCast_mod]
  refine (Int.mod_modEq _ _).trans (natCast_modulus_sub_modEq (mod_modulus_lt _) ?_)
  rw [Int.natCast_mod, Int.natCast_mul]
  exact Int.mod_modEq _ _

/-- What a step enters is an inverse, because that of the remainder has been entered before. -/
theorem HoldsInverses.nextInverse_mul_modEq {table : Array Nat} (holds : HoldsInverses table)
    {i : Nat} (other : 1 < i) (small : i < modulus) (inside : i ≤ table.size) :
    (nextInverse table i : Int) * i ≡ 1 [ZMOD modulus] := by
  have entered := nextInverse_modEq table i
  have less : modulus % i < i := Nat.mod_lt _ (by omega)
  have earlier := holds.mul_modEq (modulus_mod_pos other small) (Nat.lt_of_lt_of_le less inside)
  have split : (modulus / i : Nat) * (i : Int) + (modulus % i : Nat) = modulus := by
    exact_mod_cast Nat.div_add_mod' modulus i
  generalize table.getD (modulus % i) 0 = inverse at entered earlier
  calc (nextInverse table i : Int) * i
      ≡ -((modulus / i : Nat) * inverse) * i [ZMOD modulus] := entered.mul_right _
    _ = inverse * (modulus % i : Nat) - modulus * inverse := by
        linear_combination (-(inverse : Int)) * split
    _ ≡ inverse * (modulus % i : Nat) [ZMOD modulus] :=
        Int.modEq_iff_dvd.mpr ⟨inverse, sub_sub_cancel _ _⟩
    _ ≡ 1 [ZMOD modulus] := earlier

/-- The table starts with the inverse of one. -/
theorem holdsInverses_start : HoldsInverses #[0, 1] where
  lt_modulus {i} inside := by
    have either : i = 0 ∨ i = 1 := by
      simp only [List.size_toArray, List.length_cons, List.length_nil] at inside
      omega
    rcases either with rfl | rfl <;> decide
  mul_modEq {i} positive inside := by
    have one : i = 1 := by
      simp only [List.size_toArray, List.length_cons, List.length_nil] at inside
      omega
    subst one
    rfl

/-- **The table.**  The induction is on the steps; what is entered already is what the next step
needs. -/
theorem holdsInverses_inversesBelow {steps : Nat} (within : 2 + steps ≤ modulus) :
    HoldsInverses (inversesBelow steps) := by
  induction steps with
  | zero => exact holdsInverses_start
  | succ steps ih =>
      have holds := ih (by omega)
      have size := size_inversesBelow steps
      rw [inversesBelow_succ]
      refine holds.push (nextInverse_lt _ _) ?_
      rw [size]
      exact holds.nextInverse_mul_modEq (by omega) (by omega) (by omega)

theorem size_inverses : inverses.size = modulus := by
  rw [inverses_eq, size_inversesBelow]
  exact Nat.add_sub_of_le (by decide)

theorem holdsInverses_inverses : HoldsInverses inverses := by
  rw [inverses_eq]
  exact holdsInverses_inversesBelow (by decide)

/-! ### Inverses and quotients -/

/-- A residue whose product with the divisor is in the class of the dividend. -/
structure IsQuotient (dividend divisor quotient : Int) : Prop where
  nonneg : 0 ≤ quotient
  lt_modulus : quotient < modulus
  mul_modEq : quotient * divisor ≡ dividend [ZMOD modulus]

theorem residue_eq_zero_iff (x : Int32) : residue x = 0 ↔ (modulus : Int) ∣ x.toInt := by
  rw [← Int.natCast_eq_zero, natCast_residue]
  exact Int.dvd_iff_emod_eq_zero.symm

theorem inverse?_eq (x : Int32) :
    inverse? x = if residue x = 0 then none else some (inverses.getD (residue x) 0) := by
  rw [inverse?]
  split
  next zero => rw [if_pos zero]
  next nonzero => rw [if_neg nonzero]

/-- The multiples of the modulus have no inverse. -/
theorem inverse?_eq_none_iff (x : Int32) : inverse? x = none ↔ (modulus : Int) ∣ x.toInt := by
  rw [← residue_eq_zero_iff, inverse?_eq]
  simp

theorem IsQuotient.of_natCast {dividend divisor : Int} {r : Nat} (small : r < modulus)
    (product : r * divisor ≡ dividend [ZMOD modulus]) : IsQuotient dividend divisor r :=
  ⟨Int.natCast_nonneg r, by exact_mod_cast small, product⟩

/-- The inverse of a number is a quotient of one. -/
theorem isQuotient_inverse {x : Int32} {inverse : Nat} (found : inverse? x = some inverse) :
    IsQuotient 1 x.toInt inverse := by
  rw [inverse?_eq, Option.ite_none_left_eq_some] at found
  obtain ⟨nonzero, found⟩ := found
  obtain rfl := Option.some.inj found
  have inside : residue x < inverses.size := by
    rw [size_inverses]
    exact residue_lt x
  refine .of_natCast (holdsInverses_inverses.lt_modulus inside) ?_
  exact ((residue_modEq x).mul_left _).symm.trans
    (holdsInverses_inverses.mul_modEq (Nat.pos_of_ne_zero nonzero) inside)

namespace IsQuotient

variable {dividend dividend' divisor inverse quotient quotient' : Int}

/-- A dividend may be replaced by another number of its class. -/
theorem congr (isQuotient : IsQuotient dividend divisor quotient)
    (same : dividend ≡ dividend' [ZMOD modulus]) : IsQuotient dividend' divisor quotient :=
  { isQuotient with mul_modEq := isQuotient.mul_modEq.trans same }

/-- **Quotients are unique** where the divisor has an inverse. -/
theorem unique (isInverse : IsQuotient 1 divisor inverse)
    (first : IsQuotient dividend divisor quotient)
    (second : IsQuotient dividend divisor quotient') : quotient = quotient' := by
  have cancel (i : Int) : i ≡ i * divisor * inverse [ZMOD modulus] := by
    have one := isInverse.mul_modEq.symm.mul_left i
    rwa [Int.mul_one, Int.mul_comm inverse, ← Int.mul_assoc] at one
  have same : quotient ≡ quotient' [ZMOD modulus] :=
    calc quotient ≡ quotient * divisor * inverse [ZMOD modulus] := cancel quotient
      _ ≡ quotient' * divisor * inverse [ZMOD modulus] :=
          (first.mul_modEq.trans second.mul_modEq.symm).mul_right _
      _ ≡ quotient' [ZMOD modulus] := (cancel quotient').symm
  rwa [Int.ModEq, Int.emod_eq_of_lt first.nonneg first.lt_modulus,
    Int.emod_eq_of_lt second.nonneg second.lt_modulus] at same

/-- The inverse is no multiple of the modulus either. -/
theorem pos (isInverse : IsQuotient 1 divisor inverse) : 0 < inverse := by
  refine lt_of_le_of_ne isInverse.nonneg ?_
  rintro rfl
  have one := isInverse.mul_modEq
  rw [Int.zero_mul] at one
  exact absurd one (by decide)

end IsQuotient

/-- **Division.**  The quotient by a number that has an inverse is found. -/
theorem binary_divide (a : Int32) {b : Int32} {inverse : Nat} (found : inverse? b = some inverse) :
    ∃ quotient, modularInt.binary .divide a b = .ok quotient ∧
      IsQuotient a.toInt b.toInt quotient.toInt := by
  have isInverse := isQuotient_inverse found
  have divided : divide a b = .ok (residue a * inverse % modulus) := by
    rw [divide, found]
  refine ⟨ofResidue (residue a * inverse % modulus), congrArg (ofResidue <$> ·) divided, ?_⟩
  rw [toInt_ofResidue (mod_modulus_lt _)]
  refine .of_natCast (mod_modulus_lt _) ?_
  calc ((residue a * inverse % modulus : Nat) : Int) * b.toInt
      ≡ (residue a * inverse) * b.toInt [ZMOD modulus] := by
        rw [Int.natCast_mod, Int.natCast_mul]
        exact (Int.mod_modEq _ _).mul_right _
    _ = residue a * (inverse * b.toInt) := Int.mul_assoc _ _ _
    _ ≡ a.toInt * 1 [ZMOD modulus] := (residue_modEq a).mul isInverse.mul_modEq
    _ = a.toInt := Int.mul_one _

/-- A number without inverse divides nothing. -/
theorem binary_divide_of_none (a : Int32) {b : Int32} (missing : inverse? b = none) :
    modularInt.binary .divide a b =
      .error (.divisionByZero (.binary .divide a.toInt b.toInt)) := by
  have divided : divide a b = .error (.divisionByZero (.binary .divide a.toInt b.toInt)) := by
    rw [divide, missing]
  exact congrArg (ofResidue <$> ·) divided

end ModularInt

end Formula
