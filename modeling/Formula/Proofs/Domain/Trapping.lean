import Formula.Proofs.Domain.CheckedInt

/-!
# No step of a checked operation overflows

A guard that is to keep an operation from overflowing is computed with integers of 32 bits itself,
and could overflow where it is meant to prevent just that.  Checked integers avoid this by the order
of their tests: a bound is moved by an operand, or divided by it, only once the sign of the operand
is known.

To see this, the operations are taken through their steps here in arithmetic that traps: a step
whose exact result is outside the range has no result, and neither has anything that depends on it.
What is behind a condition is computed only where the condition holds.  Every operation turns out to
have a result in this arithmetic, and it is the one that wrapping arithmetic gives.

## Main definitions

* `Trapping.fit` — the result of a step, if it is in the range
* `Trapping.boundTest`, `Trapping.either` — the conditions of a guard, as far as they are computed
* `Trapping.unary`, `Trapping.binary` — the checked operations, step by step
* `CheckedInt.IsExact` — a result is the exact one, or an overflow

## Main statements

* `Trapping.unary_eq`, `Trapping.binary_eq` — no step traps
* `checkedInt_exact_without_trap` — the operations of checked integers are exact, and so is each of
  their steps
-/

namespace Formula

open CheckedInt (InRange inRange_iff inRange_toInt bmod_eq overflow divisionByZero)

/-! ### Arithmetic that traps -/

namespace Trapping

/-- The result of a step, unless it is outside the range. -/
def fit (i : Int) : Option Int32 :=
  if InRange i then some (Int32.ofInt i) else none

def sum (x y : Int32) : Option Int32 := fit (x.toInt + y.toInt)

def difference (x y : Int32) : Option Int32 := fit (x.toInt - y.toInt)

def product (x y : Int32) : Option Int32 := fit (x.toInt * y.toInt)

def quotient (x y : Int32) : Option Int32 := if y = 0 then none else fit (x.toInt.tdiv y.toInt)

def remainder (x y : Int32) : Option Int32 := if y = 0 then none else fit (x.toInt.tmod y.toInt)

def negation (x : Int32) : Option Int32 := fit (-x.toInt)

/-- Whether a bound is exceeded.  The bound is computed only where a condition on it holds. -/
def boundTest (condition : Bool) (bound : Option Int32) (exceeds : Int32 → Bool) : Option Bool :=
  if condition then bound.map exceeds else some false

/-- Whether one of two tests is positive.  The second is done only where the first is negative. -/
def either (first second : Option Bool) : Option Bool :=
  first.bind fun positive => if positive then some true else second

/-! ### Checked operations, step by step -/

def addOverflows (x y : Int32) : Option Bool :=
  either (boundTest (0 < y) (difference Int32.maxValue y) (· < x))
    (boundTest (y < 0) (difference Int32.minValue y) (x < ·))

def subtractOverflows (x y : Int32) : Option Bool :=
  either (boundTest (y < 0) (sum Int32.maxValue y) (· < x))
    (boundTest (0 < y) (sum Int32.minValue y) (x < ·))

/-- Both parts of the guard of the product are computed, whatever the first one says. -/
def orderedProductOverflows (x y : Int32) : Option Bool :=
  (either (boundTest (0 < y) (quotient Int32.maxValue y) (· < x))
      (boundTest (y < 0) (quotient Int32.maxValue y) (x < ·))).bind fun tooLarge =>
    (boundTest (0 < y) (quotient Int32.minValue y) (x < ·)).map fun tooSmall => tooLarge || tooSmall

def multiplyOverflows (a b : Int32) : Option Bool :=
  if b < a then orderedProductOverflows b a else orderedProductOverflows a b

/-- A step that is done only where its guard says that it does not overflow. -/
def guarded (op : BinaryOp) (overflows : Option Bool) (result : Option Int32) (x y : Int32) :
    Option (Except ArithmeticError Int32) :=
  overflows.bind fun overflows => if overflows then some (overflow op x y) else result.map .ok

def divide (x y : Int32) : Option (Except ArithmeticError Int32) :=
  if y = 0 then some (divisionByZero .divide x y)
  else if x = Int32.minValue ∧ y = -1 then some (overflow .divide x y)
  else (quotient x y).map .ok

def modulo (x y : Int32) : Option (Except ArithmeticError Int32) :=
  if y = 0 then some (divisionByZero .modulo x y) else (remainder x y).map .ok

def negate (x : Int32) : Option (Except ArithmeticError Int32) :=
  if x = Int32.minValue then some (.error (.overflow (.unary .negate x.toInt)))
  else (negation x).map .ok

/-- The result of an operator on two operands. -/
def binary : BinaryOp → Int32 → Int32 → Option (Except ArithmeticError Int32)
  | .add, x, y => guarded .add (addOverflows x y) (sum x y) x y
  | .subtract, x, y => guarded .subtract (subtractOverflows x y) (difference x y) x y
  | .multiply, x, y => guarded .multiply (multiplyOverflows x y) (product x y) x y
  | .divide, x, y => divide x y
  | .modulo, x, y => modulo x y

/-- The result of an operator on one operand; a square is a product. -/
def unary : UnaryOp → Int32 → Option (Except ArithmeticError Int32)
  | .negate, x => negate x
  | .abs, x => if x < 0 then negate x else some (.ok x)
  | .square, x => binary .multiply x x

/-! ### Results of steps -/

section Steps

variable {i : Int} {x y : Int32}

/-- A step whose 32-bit result is the exact one does not trap. -/
theorem fit_eq (exact : x.toInt = i) : fit i = some x := by
  subst exact
  rw [fit, if_pos (inRange_toInt x), Int32.ofInt_toInt]

theorem sum_eq (inRange : InRange (x.toInt + y.toInt)) : sum x y = some (x + y) :=
  fit_eq ((Int32.toInt_add x y).trans (bmod_eq inRange))

theorem difference_eq (inRange : InRange (x.toInt - y.toInt)) : difference x y = some (x - y) :=
  fit_eq ((Int32.toInt_sub x y).trans (bmod_eq inRange))

theorem product_eq (inRange : InRange (x.toInt * y.toInt)) : product x y = some (x * y) :=
  fit_eq ((Int32.toInt_mul x y).trans (bmod_eq inRange))

theorem quotient_eq (nonzero : y ≠ 0) (other : ¬(x = Int32.minValue ∧ y = -1)) :
    quotient x y = some (x / y) := by
  rw [quotient, if_neg nonzero, fit_eq (CheckedInt.toInt_div other)]

theorem remainder_eq (nonzero : y ≠ 0) : remainder x y = some (x % y) := by
  rw [remainder, if_neg nonzero, fit_eq (Int32.toInt_mod x y)]

theorem negation_eq (other : x ≠ Int32.minValue) : negation x = some (-x) :=
  fit_eq ((Int32.toInt_neg x).trans (bmod_eq (CheckedInt.inRange_neg other)))

/-! ### Bounds of guards -/

theorem toInt_pos (positive : decide (0 < y) = true) : 0 < y.toInt :=
  Int32.lt_iff_toInt_lt.mp (of_decide_eq_true positive)

theorem toInt_neg (negative : decide (y < 0) = true) : y.toInt < 0 :=
  Int32.lt_iff_toInt_lt.mp (of_decide_eq_true negative)

/-- A positive number can be taken from the upper bound. -/
theorem maxValue_difference (positive : decide (0 < y) = true) :
    difference Int32.maxValue y = some (Int32.maxValue - y) :=
  fit_eq (CheckedInt.toInt_maxValue_sub (toInt_pos positive))

/-- A negative number can be taken from the lower bound. -/
theorem minValue_difference (negative : decide (y < 0) = true) :
    difference Int32.minValue y = some (Int32.minValue - y) :=
  fit_eq (CheckedInt.toInt_minValue_sub (toInt_neg negative))

/-- A negative number can be added to the upper bound. -/
theorem maxValue_sum (negative : decide (y < 0) = true) :
    sum Int32.maxValue y = some (Int32.maxValue + y) :=
  fit_eq (CheckedInt.toInt_maxValue_add (toInt_neg negative))

/-- A positive number can be added to the lower bound. -/
theorem minValue_sum (positive : decide (0 < y) = true) :
    sum Int32.minValue y = some (Int32.minValue + y) :=
  fit_eq (CheckedInt.toInt_minValue_add (toInt_pos positive))

/-- Any number but zero can divide the upper bound. -/
theorem maxValue_quotient (nonzero : y.toInt ≠ 0) :
    quotient Int32.maxValue y = some (Int32.maxValue / y) :=
  quotient_eq (fun zero => nonzero (Int32.toInt_inj.mpr zero))
    fun least => absurd least.1 (by decide)

/-- A positive number can divide the lower bound. -/
theorem minValue_quotient (positive : decide (0 < y) = true) :
    quotient Int32.minValue y = some (Int32.minValue / y) := by
  have sign := toInt_pos positive
  refine quotient_eq ?_ fun least => ?_
  · rintro rfl
    exact absurd sign (by decide)
  · rw [least.2] at sign
    exact absurd sign (by decide)

end Steps

/-! ### No step traps -/

section Operations

variable {condition : Bool} {bound : Option Int32} {b x y : Int32} {exceeds : Int32 → Bool}

/-- A test whose bound can be computed where its condition holds. -/
theorem boundTest_eq (computed : condition = true → bound = some b) :
    boundTest condition bound exceeds = some (condition && exceeds b) := by
  rw [boundTest]
  cases condition with
  | true => rw [if_pos rfl, computed rfl, Option.map_some, Bool.true_and]
  | false => rfl

theorem either_some (first second : Bool) :
    either (some first) (some second) = some (first || second) := by
  cases first <;> rfl

/-- The guard of the sum can be computed. -/
theorem addOverflows_eq (x y : Int32) :
    addOverflows x y = some (CheckedInt.addOverflows x y) := by
  rw [addOverflows, boundTest_eq maxValue_difference, boundTest_eq minValue_difference, either_some]
  rfl

/-- The guard of the difference can be computed. -/
theorem subtractOverflows_eq (x y : Int32) :
    subtractOverflows x y = some (CheckedInt.subtractOverflows x y) := by
  rw [subtractOverflows, boundTest_eq maxValue_sum, boundTest_eq minValue_sum, either_some]
  rfl

/-- The guard of the product can be computed: only numbers other than zero divide the upper bound,
and only positive ones the lower bound. -/
theorem orderedProductOverflows_eq (x y : Int32) :
    orderedProductOverflows x y = some (CheckedInt.orderedProductOverflows x y) := by
  rw [orderedProductOverflows,
    boundTest_eq fun positive => maxValue_quotient (Int.ne_of_gt (toInt_pos positive)),
    boundTest_eq fun negative => maxValue_quotient (Int.ne_of_lt (toInt_neg negative)),
    boundTest_eq minValue_quotient, either_some]
  rfl

theorem multiplyOverflows_eq (x y : Int32) :
    multiplyOverflows x y = some (CheckedInt.multiplyOverflows x y) := by
  rw [multiplyOverflows, CheckedInt.multiplyOverflows]
  split <;> exact orderedProductOverflows_eq _ _

/-- An operation behind an exact guard is done only where it does not overflow. -/
theorem guarded_eq {op : BinaryOp} {overflows : Bool} {i : Int} {result : Option Int32} {r : Int32}
    (isExact : overflows = true ↔ ¬InRange i) (computed : InRange i → result = some r) :
    guarded op (some overflows) result x y =
      some (if overflows then overflow op x y else .ok r) := by
  rw [guarded, Option.bind_some]
  by_cases inRange : InRange i
  · rw [if_neg fun overflows => isExact.mp overflows inRange,
      if_neg fun overflows => isExact.mp overflows inRange, computed inRange]
    rfl
  · rw [if_pos (isExact.mpr inRange), if_pos (isExact.mpr inRange)]

/-- **No step of an operation on two operands traps.** -/
theorem binary_eq (op : BinaryOp) (x y : Int32) :
    binary op x y = some (checkedInt.binary op x y) := by
  cases op with
  | add =>
      rw [binary, addOverflows_eq, guarded_eq (CheckedInt.addOverflows_eq_true_iff x y) sum_eq]
      rfl
  | subtract =>
      rw [binary, subtractOverflows_eq,
        guarded_eq (CheckedInt.subtractOverflows_eq_true_iff x y) difference_eq]
      rfl
  | multiply =>
      rw [binary, multiplyOverflows_eq,
        guarded_eq (CheckedInt.multiplyOverflows_eq_true_iff x y) product_eq]
      rfl
  | divide =>
      show divide x y = some (CheckedInt.divide x y)
      rw [divide, CheckedInt.divide]
      split
      next => rfl
      next nonzero =>
        split
        next => rfl
        next other =>
          rw [quotient_eq nonzero other]
          rfl
  | modulo =>
      show modulo x y = some (CheckedInt.modulo x y)
      rw [modulo, CheckedInt.modulo]
      split
      next => rfl
      next nonzero =>
        rw [remainder_eq nonzero]
        rfl

/-- With operands of other signs than the conditions ask for, the bounds would trap. -/
example : difference Int32.maxValue (-1) = none ∧ quotient Int32.minValue (-1) = none := by decide

theorem negate_eq (x : Int32) : negate x = some (CheckedInt.negate x) := by
  rw [negate, CheckedInt.negate]
  split
  next => rfl
  next other =>
    rw [negation_eq other]
    rfl

/-- **No step of an operation on one operand traps.** -/
theorem unary_eq (op : UnaryOp) (x : Int32) : unary op x = some (checkedInt.unary op x) := by
  cases op with
  | negate => exact negate_eq x
  | abs =>
      show (if x < 0 then negate x else some (.ok x)) = some (CheckedInt.abs x)
      rw [CheckedInt.abs]
      split
      next => exact negate_eq x
      next => rfl
  | square => exact binary_eq .multiply x x

end Operations

end Trapping

/-! ### Exact operations -/

namespace CheckedInt

/-- How an operation ends whose exact result, if there is one, is a given integer: with a division
by zero or an overflow exactly under given conditions, of which an error names the operation, and
otherwise with the exact result. -/
structure IsExact (operation : Operation) (zeroDivisor overflows : Prop) (i : Int)
    (result : Except ArithmeticError Int32) : Prop where
  divisionByZero (named : Operation) :
    result = .error (.divisionByZero named) ↔ zeroDivisor ∧ named = operation
  overflow (named : Operation) :
    result = .error (.overflow named) ↔ overflows ∧ named = operation
  value (noZeroDivisor : ¬zeroDivisor) (noOverflow : ¬overflows) :
    ∃ x, result = .ok x ∧ x.toInt = i

section Exact

variable {operation : Operation} {zeroDivisor overflows : Prop} {i : Int} {a b : Int32}

/-- An operation that has a result did not overflow, and the result is the exact one. -/
theorem IsExact.of_ok {x : Int32} (exact : IsExact operation zeroDivisor overflows i (.ok x)) :
    ¬overflows ∧ x.toInt = i := by
  have noZeroDivisor : ¬zeroDivisor := fun zero =>
    nomatch (exact.divisionByZero operation).mpr ⟨zero, rfl⟩
  have noOverflow : ¬overflows := fun outside =>
    nomatch (exact.overflow operation).mpr ⟨outside, rfl⟩
  obtain ⟨y, same, exactValue⟩ := exact.value noZeroDivisor noOverflow
  obtain rfl := Except.ok.inj same
  exact ⟨noOverflow, exactValue⟩

/-- A narrowed result overflows exactly where the exact one leaves the range. -/
theorem isExact_narrow (noZeroDivisor : ¬zeroDivisor) (leaves : overflows ↔ ¬InRange i) :
    IsExact operation zeroDivisor overflows i (narrow operation i) := by
  by_cases inRange : InRange i
  · rw [narrow, if_pos inRange]
    exact ⟨fun named => iff_of_false (by simp) fun zero => noZeroDivisor zero.1,
      fun named => iff_of_false (by simp) fun outside => leaves.mp outside.1 inRange,
      fun _ _ => ⟨Int32.ofInt i, rfl, toInt_ofInt inRange⟩⟩
  · rw [narrow, if_neg inRange]
    refine ⟨fun named => iff_of_false (by simp) fun zero => noZeroDivisor zero.1, fun named => ?_,
      fun _ noOverflow => absurd (leaves.mpr inRange) noOverflow⟩
    rw [Except.error.injEq, ArithmeticError.overflow.injEq, eq_comm]
    exact (and_iff_right (leaves.mpr inRange)).symm

/-- A zero divisor is the only reason for which a division by zero is reported. -/
theorem isExact_divisionByZero (zero : zeroDivisor) (noOverflow : ¬overflows) :
    IsExact operation zeroDivisor overflows i (.error (.divisionByZero operation)) := by
  refine ⟨fun named => ?_, fun named => iff_of_false (by simp) fun outside => noOverflow outside.1,
    fun noZeroDivisor => absurd zero noZeroDivisor⟩
  rw [Except.error.injEq, ArithmeticError.divisionByZero.injEq, eq_comm]
  exact (and_iff_right zero).symm

/-- The only quotient outside the range is that of the least integer by minus one. -/
theorem not_inRange_tdiv_iff :
    a = Int32.minValue ∧ b = -1 ↔ ¬InRange (a.toInt.tdiv b.toInt) := by
  constructor
  · rintro ⟨rfl, rfl⟩
    decide
  · intro outside
    exact Decidable.of_not_not fun other => outside (toInt_div other ▸ inRange_toInt (a / b))

/-- The only negation outside the range is that of the least integer. -/
theorem not_inRange_neg_iff : a = Int32.minValue ↔ ¬InRange (-a.toInt) := by
  constructor
  · rintro rfl
    decide
  · intro outside
    exact Decidable.of_not_not fun other => outside (inRange_neg other)

/-- The only absolute value outside the range is that of the least integer. -/
theorem not_inRange_natAbs_iff : a = Int32.minValue ↔ ¬InRange a.toInt.natAbs := by
  have range := inRange_iff.mp (inRange_toInt a)
  rw [not_inRange_neg_iff, inRange_iff, inRange_iff]
  omega

theorem isExact_divide (a b : Int32) :
    IsExact (.binary .divide a.toInt b.toInt) (b = 0) (a = Int32.minValue ∧ b = -1)
      (a.toInt.tdiv b.toInt) (checkedInt.binary .divide a b) := by
  show IsExact _ _ _ _ (divide a b)
  by_cases zero : b = 0
  · rw [divide, if_pos zero]
    refine isExact_divisionByZero zero fun least => ?_
    exact absurd (zero.symm.trans least.2) (by decide)
  · rw [divide_eq_narrow zero]
    exact isExact_narrow zero not_inRange_tdiv_iff

theorem isExact_modulo (a b : Int32) :
    IsExact (.binary .modulo a.toInt b.toInt) (b = 0) False (a.toInt.tmod b.toInt)
      (checkedInt.binary .modulo a b) := by
  show IsExact _ _ _ _ (modulo a b)
  by_cases zero : b = 0
  · rw [modulo, if_pos zero]
    exact isExact_divisionByZero zero id
  · rw [modulo_eq_narrow zero]
    have inRange : InRange (a.toInt.tmod b.toInt) := Int32.toInt_mod a b ▸ inRange_toInt (a % b)
    exact isExact_narrow zero (iff_of_false id (not_not_intro inRange))

end Exact

end CheckedInt

open CheckedInt (IsExact)

/-- **The operations of checked integers are exact, and so is each of their steps.**  Sums,
differences and products overflow exactly where the exact result is outside the range, and the
message has the operands in the order in which they were given.  A quotient overflows for the least
integer and minus one only, a remainder never, and both report a zero divisor.  The least integer
has neither a negation nor an absolute value, and a square is a product.  No bound that a guard
computes, and no result behind a guard, leaves the range where it is computed. -/
theorem checkedInt_exact_without_trap (a b : Int32) :
    IsExact (.binary .add a.toInt b.toInt) False (¬InRange (a.toInt + b.toInt))
      (a.toInt + b.toInt) (checkedInt.binary .add a b) ∧
    IsExact (.binary .subtract a.toInt b.toInt) False (¬InRange (a.toInt - b.toInt))
      (a.toInt - b.toInt) (checkedInt.binary .subtract a b) ∧
    IsExact (.binary .multiply a.toInt b.toInt) False (¬InRange (a.toInt * b.toInt))
      (a.toInt * b.toInt) (checkedInt.binary .multiply a b) ∧
    (∀ op, (ArithmeticError.overflow (.binary op a.toInt b.toInt)).message =
      "Overflow: " ++ (toString a ++ " " ++ op.symbol ++ " " ++ toString b)) ∧
    IsExact (.binary .divide a.toInt b.toInt) (b = 0) (a = Int32.minValue ∧ b = -1)
      (a.toInt.tdiv b.toInt) (checkedInt.binary .divide a b) ∧
    IsExact (.binary .modulo a.toInt b.toInt) (b = 0) False (a.toInt.tmod b.toInt)
      (checkedInt.binary .modulo a b) ∧
    IsExact (.unary .negate a.toInt) False (a = Int32.minValue) (-a.toInt)
      (checkedInt.unary .negate a) ∧
    IsExact (.unary .negate a.toInt) False (a = Int32.minValue) a.toInt.natAbs
      (checkedInt.unary .abs a) ∧
    checkedInt.unary .square a = checkedInt.binary .multiply a a ∧
    (∀ op, Trapping.binary op a b = some (checkedInt.binary op a b)) ∧
    ∀ op, Trapping.unary op a = some (checkedInt.unary op a) := by
  refine ⟨?_, ?_, ?_, fun op => rfl, CheckedInt.isExact_divide a b, CheckedInt.isExact_modulo a b,
    ?_, ?_, rfl, fun op => Trapping.binary_eq op a b, fun op => Trapping.unary_eq op a⟩
  · show IsExact _ _ _ _ (CheckedInt.add a b)
    rw [CheckedInt.add_eq_narrow]
    exact CheckedInt.isExact_narrow id Iff.rfl
  · show IsExact _ _ _ _ (CheckedInt.subtract a b)
    rw [CheckedInt.subtract_eq_narrow]
    exact CheckedInt.isExact_narrow id Iff.rfl
  · show IsExact _ _ _ _ (CheckedInt.multiply a b)
    rw [CheckedInt.multiply_eq_narrow]
    exact CheckedInt.isExact_narrow id Iff.rfl
  · rw [checkedInt_unary]
    exact CheckedInt.isExact_narrow id CheckedInt.not_inRange_neg_iff
  · rw [checkedInt_unary]
    exact CheckedInt.isExact_narrow id CheckedInt.not_inRange_natAbs_iff

end Formula
