import Formula.Domain.CheckedInt
import Formula.Proofs.Domain.Exact

/-!
# Checked integers are exact

The guards of the checked operations stay in the range of 32 bits themselves.  They are shown here
to be exact: an operation overflows if and only if the exact result is outside the range, and
otherwise gives this result.

The guard of the product is the only one that needs an argument.  It divides the bounds by the
greater factor, and truncation rounds the quotient to the side where a factor just fits.

## Main definitions

* `CheckedInt.InRange` — the range of 32-bit integers
* `CheckedInt.narrow` — an exact result, or the overflow of an operation

## Main statements

* `CheckedInt.addOverflows_eq_true_iff`, `CheckedInt.subtractOverflows_eq_true_iff`,
  `CheckedInt.multiplyOverflows_eq_true_iff` — the guards are exact
* `checkedInt_unary`, `checkedInt_binary` — the operations of checked integers
-/

namespace Formula

namespace CheckedInt

/-- The range of 32-bit integers. -/
def InRange (i : Int) : Prop :=
  Int32.minValue.toInt ≤ i ∧ i ≤ Int32.maxValue.toInt

instance (i : Int) : Decidable (InRange i) :=
  inferInstanceAs (Decidable (_ ∧ _))

/-- An exact result as a value, or an overflow of an operation if the result is outside the
range. -/
def narrow (operation : Operation) (i : Int) : Except ArithmeticError Int32 :=
  if InRange i then .ok (Int32.ofInt i) else .error (.overflow operation)

/-! ### The range -/

theorem toInt_minValue : Int32.minValue.toInt = -2147483648 :=
  rfl

theorem toInt_maxValue : Int32.maxValue.toInt = 2147483647 :=
  rfl

theorem inRange_iff {i : Int} : InRange i ↔ -2147483648 ≤ i ∧ i ≤ 2147483647 :=
  Iff.rfl

theorem inRange_toInt (x : Int32) : InRange x.toInt :=
  ⟨x.minValue_le_toInt, x.toInt_le⟩

/-- Nothing is lost of an integer in the range. -/
theorem toInt_ofInt {i : Int} (inRange : InRange i) : (Int32.ofInt i).toInt = i :=
  Int32.toInt_ofInt_of_le inRange.1 (Int.lt_of_le_of_lt inRange.2 (by decide))

/-- A value is what narrowing gives for the integer that it stands for. -/
theorem narrow_eq_ok {operation : Operation} {i : Int} {x : Int32} (exact : x.toInt = i) :
    narrow operation i = .ok x := by
  subst exact
  rw [narrow, if_pos (inRange_toInt x), Int32.ofInt_toInt]

/-- What a 32-bit operation gives is the exact result if that is in the range. -/
theorem bmod_eq {i : Int} (inRange : InRange i) : i.bmod Int32.size = i :=
  Int.bmod_eq_of_le inRange.1 (Int.lt_of_le_of_lt inRange.2 (by decide))

/-! ### Bounds in guards -/

section Bounds

variable {x y : Int32}

/-- A positive number can be taken from the upper bound. -/
theorem toInt_maxValue_sub (positive : 0 < y.toInt) :
    (Int32.maxValue - y).toInt = 2147483647 - y.toInt := by
  have range := inRange_iff.mp (inRange_toInt y)
  rw [Int32.toInt_sub, toInt_maxValue]
  exact bmod_eq (inRange_iff.mpr (by omega))

/-- A negative number can be taken from the lower bound. -/
theorem toInt_minValue_sub (negative : y.toInt < 0) :
    (Int32.minValue - y).toInt = -2147483648 - y.toInt := by
  have range := inRange_iff.mp (inRange_toInt y)
  rw [Int32.toInt_sub, toInt_minValue]
  exact bmod_eq (inRange_iff.mpr (by omega))

/-- A negative number can be added to the upper bound. -/
theorem toInt_maxValue_add (negative : y.toInt < 0) :
    (Int32.maxValue + y).toInt = 2147483647 + y.toInt := by
  have range := inRange_iff.mp (inRange_toInt y)
  rw [Int32.toInt_add, toInt_maxValue]
  exact bmod_eq (inRange_iff.mpr (by omega))

/-- A positive number can be added to the lower bound. -/
theorem toInt_minValue_add (positive : 0 < y.toInt) :
    (Int32.minValue + y).toInt = -2147483648 + y.toInt := by
  have range := inRange_iff.mp (inRange_toInt y)
  rw [Int32.toInt_add, toInt_minValue]
  exact bmod_eq (inRange_iff.mpr (by omega))

/-- The upper bound can be divided. -/
theorem toInt_maxValue_div (y : Int32) :
    (Int32.maxValue / y).toInt = (2147483647 : Int).tdiv y.toInt :=
  Int32.toInt_div_of_ne_left _ _ (by decide)

/-- The lower bound can be divided by a positive number. -/
theorem toInt_minValue_div (positive : 0 < y.toInt) :
    (Int32.minValue / y).toInt = (-2147483648 : Int).tdiv y.toInt := by
  refine Int32.toInt_div_of_ne_right _ _ ?_
  rintro rfl
  exact absurd positive (by decide)

end Bounds

/-- A bound is exceeded by a product with a positive factor where the quotient is by the other
factor. -/
theorem tdiv_lt_iff {bound a b : Int} (nonneg : 0 ≤ bound) (positive : 0 < b) :
    bound.tdiv b < a ↔ bound < a * b := by
  rw [Int.tdiv_eq_ediv_of_nonneg nonneg, Int.ediv_lt_iff_lt_mul positive]

/-- A negative bound is exceeded in the same way, since the quotient is rounded up. -/
theorem lt_neg_tdiv_iff {bound a b : Int} (nonneg : 0 ≤ bound) (positive : 0 < b) :
    a < (-bound).tdiv b ↔ a * b < -bound := by
  have opposite := tdiv_lt_iff (a := -a) nonneg positive
  rw [Int.neg_mul] at opposite
  rw [Int.neg_tdiv]
  omega

/-- With two negative factors the product exceeds the upper bound where the one is below the
quotient by the other. -/
theorem lt_tdiv_iff {bound a b : Int} (nonneg : 0 ≤ bound) (negative : b < 0) :
    a < bound.tdiv b ↔ bound < a * b := by
  have opposite := tdiv_lt_iff (a := -a) nonneg (Int.neg_pos_of_neg negative)
  rw [Int.neg_mul_neg, Int.tdiv_neg] at opposite
  omega

/-! ### Guards -/

/-- The guard of the sum is exact. -/
theorem addOverflows_eq_true_iff (x y : Int32) :
    addOverflows x y = true ↔ ¬InRange (x.toInt + y.toInt) := by
  have range := inRange_iff.mp (inRange_toInt x)
  simp only [addOverflows, Bool.or_eq_true, Bool.and_eq_true, decide_eq_true_eq,
    Int32.lt_iff_toInt_lt, inRange_iff, Int32.toInt_zero]
  rcases Int.lt_trichotomy y.toInt 0 with negative | zero | positive
  · rw [toInt_minValue_sub negative]
    omega
  · omega
  · rw [toInt_maxValue_sub positive]
    omega

/-- The guard of the difference is exact. -/
theorem subtractOverflows_eq_true_iff (x y : Int32) :
    subtractOverflows x y = true ↔ ¬InRange (x.toInt - y.toInt) := by
  have range := inRange_iff.mp (inRange_toInt x)
  simp only [subtractOverflows, Bool.or_eq_true, Bool.and_eq_true, decide_eq_true_eq,
    Int32.lt_iff_toInt_lt, inRange_iff, Int32.toInt_zero]
  rcases Int.lt_trichotomy y.toInt 0 with negative | zero | positive
  · rw [toInt_maxValue_add negative]
    omega
  · omega
  · rw [toInt_minValue_add positive]
    omega

/-- The guard of the product is exact where the second factor is not the smaller one.  Where it is
negative the product is positive, so the lower bound need not be tested. -/
theorem orderedProductOverflows_eq_true_iff {x y : Int32} (ordered : x.toInt ≤ y.toInt) :
    orderedProductOverflows x y = true ↔ ¬InRange (x.toInt * y.toInt) := by
  simp only [orderedProductOverflows, Bool.or_eq_true, Bool.and_eq_true, decide_eq_true_eq,
    Int32.lt_iff_toInt_lt, inRange_iff, Int32.toInt_zero, toInt_maxValue_div]
  rcases Int.lt_trichotomy y.toInt 0 with negative | zero | positive
  · -- Both factors are negative, so only the upper bound matters.
    have nonneg : 0 ≤ x.toInt * y.toInt :=
      Int.mul_nonneg_of_nonpos_of_nonpos (by omega) (by omega)
    rw [lt_tdiv_iff (by decide) negative]
    omega
  · rw [zero, Int.mul_zero]
    omega
  · rw [toInt_minValue_div positive, tdiv_lt_iff (by decide) positive,
      lt_neg_tdiv_iff (by decide) positive]
    omega

/-- The guard of the product is exact. -/
theorem multiplyOverflows_eq_true_iff (x y : Int32) :
    multiplyOverflows x y = true ↔ ¬InRange (x.toInt * y.toInt) := by
  rw [multiplyOverflows]
  split
  next less =>
    rw [Int.mul_comm]
    exact orderedProductOverflows_eq_true_iff (Int.le_of_lt (Int32.lt_iff_toInt_lt.mp less))
  next notLess =>
    exact orderedProductOverflows_eq_true_iff
      (Int.not_lt.mp fun less => notLess (Int32.lt_iff_toInt_lt.mpr less))

/-! ### Operations -/

/-- An operation behind an exact guard narrows the exact result. -/
theorem guarded_eq_narrow {guard : Bool} {operation : Operation} {i : Int} {x : Int32}
    (isExact : guard = true ↔ ¬InRange i) (wraps : Int32.ofInt i = x) :
    (if guard then .error (.overflow operation) else .ok x) = narrow operation i := by
  by_cases inRange : InRange i
  · rw [if_neg fun overflows => isExact.mp overflows inRange, narrow, if_pos inRange, wraps]
  · rw [if_pos (isExact.mpr inRange), narrow, if_neg inRange]

theorem add_eq_narrow (x y : Int32) :
    add x y = narrow (.binary .add x.toInt y.toInt) (x.toInt + y.toInt) :=
  guarded_eq_narrow (addOverflows_eq_true_iff x y) (by simp)

theorem subtract_eq_narrow (x y : Int32) :
    subtract x y = narrow (.binary .subtract x.toInt y.toInt) (x.toInt - y.toInt) :=
  guarded_eq_narrow (subtractOverflows_eq_true_iff x y) (by simp)

theorem multiply_eq_narrow (x y : Int32) :
    multiply x y = narrow (.binary .multiply x.toInt y.toInt) (x.toInt * y.toInt) :=
  guarded_eq_narrow (multiplyOverflows_eq_true_iff x y) (by simp)

/-- The only quotient outside the range is that of the least integer by minus one. -/
theorem toInt_div {x y : Int32} (other : ¬(x = Int32.minValue ∧ y = -1)) :
    (x / y).toInt = x.toInt.tdiv y.toInt := by
  by_cases isLeast : x = Int32.minValue
  · exact Int32.toInt_div_of_ne_right x y fun isMinusOne => other ⟨isLeast, isMinusOne⟩
  · exact Int32.toInt_div_of_ne_left x y isLeast

/-- A quotient is in the range, but for the least integer divided by minus one. -/
theorem divide_eq_narrow {x y : Int32} (nonzero : y ≠ 0) :
    divide x y = narrow (.binary .divide x.toInt y.toInt) (x.toInt.tdiv y.toInt) := by
  rw [divide, if_neg nonzero]
  split
  next least =>
    obtain ⟨rfl, rfl⟩ := least
    rfl
  next other => exact (narrow_eq_ok (toInt_div other)).symm

/-- A remainder is in the range. -/
theorem modulo_eq_narrow {x y : Int32} (nonzero : y ≠ 0) :
    modulo x y = narrow (.binary .modulo x.toInt y.toInt) (x.toInt.tmod y.toInt) := by
  rw [modulo, if_neg nonzero]
  exact (narrow_eq_ok (Int32.toInt_mod x y)).symm

/-- The only integer whose negation is outside the range is the least one. -/
theorem inRange_neg {x : Int32} (other : x ≠ Int32.minValue) : InRange (-x.toInt) := by
  have range := inRange_iff.mp (inRange_toInt x)
  have notLeast : x.toInt ≠ Int32.minValue.toInt := fun same => other (Int32.toInt_inj.mp same)
  rw [toInt_minValue] at notLeast
  exact inRange_iff.mpr (by omega)

theorem negate_eq_narrow (x : Int32) :
    negate x = narrow (.unary .negate x.toInt) (-x.toInt) := by
  rw [negate]
  split
  next isLeast =>
    subst isLeast
    rfl
  next other =>
    refine (narrow_eq_ok ?_).symm
    rw [Int32.toInt_neg]
    exact bmod_eq (inRange_neg other)

/-- The operation that an operator on one operand performs, as it is named in an error: a square is
a product, and an absolute value may be a negated number. -/
def performed : UnaryOp → Int → Operation
  | .negate, a => .unary .negate a
  | .abs, a => .unary .negate a
  | .square, a => .binary .multiply a a

end CheckedInt

/-- **Operators on one operand are exact.** -/
theorem checkedInt_unary (op : UnaryOp) (x : Int32) :
    checkedInt.unary op x =
      CheckedInt.narrow (CheckedInt.performed op x.toInt) (op.onInt x.toInt) := by
  cases op with
  | negate => exact CheckedInt.negate_eq_narrow x
  | abs =>
      show CheckedInt.abs x = _
      rw [CheckedInt.abs, UnaryOp.onInt, CheckedInt.performed]
      split
      next negative =>
        have negative : x.toInt < 0 := Int32.lt_iff_toInt_lt.mp negative
        rw [CheckedInt.negate_eq_narrow, Int.ofNat_natAbs_of_nonpos (Int.le_of_lt negative)]
      next nonneg =>
        have nonneg : 0 ≤ x.toInt :=
          Int.not_lt.mp fun negative => nonneg (Int32.lt_iff_toInt_lt.mpr negative)
        exact (CheckedInt.narrow_eq_ok (Int.natAbs_of_nonneg nonneg).symm).symm
  | square => exact CheckedInt.multiply_eq_narrow x x

/-- **Operators on two operands are exact.**  But for a zero divisor, the result is the exact one,
or an overflow if that is outside the range. -/
theorem checkedInt_binary (op : BinaryOp) (x y : Int32) :
    checkedInt.binary op x y =
      if op.isDivision = true ∧ y.toInt = 0 then
        .error (.divisionByZero (.binary op x.toInt y.toInt))
      else CheckedInt.narrow (.binary op x.toInt y.toInt) (op.onInt x.toInt y.toInt) := by
  have isZero : y.toInt = 0 ↔ y = 0 := Int32.toInt_inj (y := 0)
  cases op with
  | add => exact CheckedInt.add_eq_narrow x y
  | subtract => exact CheckedInt.subtract_eq_narrow x y
  | multiply => exact CheckedInt.multiply_eq_narrow x y
  | divide =>
      by_cases zero : y = 0
      · rw [if_pos ⟨rfl, isZero.mpr zero⟩]
        exact if_pos zero
      · rw [if_neg fun divides => zero (isZero.mp divides.2)]
        exact CheckedInt.divide_eq_narrow zero
  | modulo =>
      by_cases zero : y = 0
      · rw [if_pos ⟨rfl, isZero.mpr zero⟩]
        exact if_pos zero
      · rw [if_neg fun divides => zero (isZero.mp divides.2)]
        exact CheckedInt.modulo_eq_narrow zero

end Formula
