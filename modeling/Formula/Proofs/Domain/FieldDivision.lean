import Formula.Proofs.Domain.Inverses
import Formula.Proofs.Domain.Trapping

/-!
# Division modulo a prime

Modulo a prime every number divides all others, unless it is a multiple of the prime.  So division
undoes multiplication, whatever integers of 32 bits stand for the classes.

Residues are small enough for their products to be computed with 32 bits.  To see this the
operations and the table of inverses are taken through their steps in arithmetic that traps.  In
this arithmetic an entry of the table that has not been made yet is not found, so it is seen as well
that none is read too early.

## Main definitions

* `Trapping.Modular.reduce`, `Trapping.Modular.inverses` — residues and the table, step by step
* `Trapping.Modular.unary`, `Trapping.Modular.binary` — the operations, step by step

## Main statements

* `Trapping.Modular.inverses_eq`, `Trapping.Modular.binary_eq`, `Trapping.Modular.unary_eq` — no
  step traps
* `modularInt_divides` — division modulo a prime is that of a field
-/

namespace Formula

open CheckedInt (InRange inRange_iff inRange_toInt toInt_ofInt)
open ModularInt (modulus residue ofResidue residue_lt)

namespace Trapping

/-! ### Small numbers -/

section Small

variable {m n : Nat}

/-- Nothing is lost of a natural number in the range. -/
theorem toInt_ofResidue_of_lt (small : n < 2147483648) : (ofResidue n).toInt = n :=
  Int32.toInt_ofNat_of_lt small

theorem sum_ofResidue (small : m + n < 2147483648) :
    sum (ofResidue m) (ofResidue n) = some (ofResidue (m + n)) := by
  refine fit_eq ?_
  rw [toInt_ofResidue_of_lt small, toInt_ofResidue_of_lt (by omega),
    toInt_ofResidue_of_lt (by omega), Int.natCast_add]

theorem difference_ofResidue (ordered : n ≤ m) (small : m < 2147483648) :
    difference (ofResidue m) (ofResidue n) = some (ofResidue (m - n)) := by
  refine fit_eq ?_
  rw [toInt_ofResidue_of_lt small, toInt_ofResidue_of_lt (by omega),
    toInt_ofResidue_of_lt (by omega), Int.natCast_sub ordered]

theorem modulus_lt : modulus < 2147483648 := by
  decide

/-- The product of two residues is far below the bound. -/
theorem mul_lt_of_residues (left : m < modulus) (right : n < modulus) : m * n < 2147483648 := by
  have small : m * n < modulus * modulus := Nat.mul_lt_mul_of_lt_of_lt left right
  exact small.trans (by decide)

theorem product_ofResidue (left : m < modulus) (right : n < modulus) :
    product (ofResidue m) (ofResidue n) = some (ofResidue (m * n)) := by
  refine fit_eq ?_
  rw [toInt_ofResidue_of_lt (mul_lt_of_residues left right), ModularInt.toInt_ofResidue left,
    ModularInt.toInt_ofResidue right, Int.natCast_mul]

theorem ofResidue_ne_zero (positive : 0 < n) (small : n < 2147483648) : ofResidue n ≠ 0 := by
  intro zero
  have same := congrArg Int32.toInt zero
  rw [toInt_ofResidue_of_lt small, Int32.toInt_zero] at same
  omega

theorem quotient_ofResidue (small : m < 2147483648) (positive : 0 < n) (small' : n < 2147483648) :
    quotient (ofResidue m) (ofResidue n) = some (ofResidue (m / n)) := by
  have less := Nat.div_le_self m n
  rw [quotient, if_neg (ofResidue_ne_zero positive small')]
  refine fit_eq ?_
  rw [toInt_ofResidue_of_lt (by omega), toInt_ofResidue_of_lt small, toInt_ofResidue_of_lt small',
    Int.natCast_ediv, Int.tdiv_eq_ediv_of_nonneg (Int.natCast_nonneg m)]

theorem remainder_ofResidue (small : m < 2147483648) (positive : 0 < n) (small' : n < 2147483648) :
    remainder (ofResidue m) (ofResidue n) = some (ofResidue (m % n)) := by
  have less := Nat.mod_le m n
  rw [remainder, if_neg (ofResidue_ne_zero positive small')]
  refine fit_eq ?_
  rw [toInt_ofResidue_of_lt (by omega), toInt_ofResidue_of_lt small, toInt_ofResidue_of_lt small',
    Int.natCast_emod, Int.tmod_eq_emod_of_nonneg (Int.natCast_nonneg m)]

end Small

namespace Modular

/-- The modulus as a value. -/
def prime : Int32 := ofResidue modulus

/-! ### The operations, step by step -/

/-- The remainder that is not negative: the one of truncated division, moved up if it is. -/
def reduce (x : Int32) : Option Int32 := do
  let rest ← remainder x prime
  if rest < 0 then sum rest prime else some rest

/-- The inverse that follows those in a table. -/
def nextInverse (table : Array Int32) (i : Int32) : Option Int32 := do
  let times ← quotient prime i
  let rest ← remainder prime i
  let inverse ← table[rest.toInt.toNat]?
  let multiple ← product times inverse
  let taken ← remainder multiple prime
  let left ← difference prime taken
  remainder left prime

/-- The table after so many steps. -/
def inversesBelow (steps : Nat) : Option (Array Int32) :=
  (List.range' 2 steps).foldlM (fun table i => (nextInverse table (ofResidue i)).map table.push)
    #[0, 1]

def inverses : Option (Array Int32) := inversesBelow (modulus - 2)

def add (x y : Int32) : Option Int32 := do
  let total ← sum (← reduce x) (← reduce y)
  remainder total prime

def subtract (x y : Int32) : Option Int32 := do
  let less ← difference (← reduce x) (← reduce y)
  let total ← sum less prime
  remainder total prime

def multiply (x y : Int32) : Option Int32 := do
  let multiple ← product (← reduce x) (← reduce y)
  remainder multiple prime

def negate (x : Int32) : Option Int32 := do
  let less ← difference prime (← reduce x)
  remainder less prime

def divide (x y : Int32) : Option (Except ArithmeticError Int32) := do
  let divisor ← reduce y
  if divisor = 0 then some (.error (.divisionByZero (.binary .divide x.toInt y.toInt)))
  else
    let inverse ← (← inverses)[divisor.toInt.toNat]?
    let multiple ← product (← reduce x) inverse
    (remainder multiple prime).map .ok

def modulo (x y : Int32) : Option (Except ArithmeticError Int32) := do
  let dividend ← reduce x
  let divisor ← reduce y
  if divisor = 0 then
    some (.error (.divisionByZero (.binary .modulo dividend.toInt divisor.toInt)))
  else (remainder dividend divisor).map .ok

/-- The result of an operator on two operands. -/
def binary : BinaryOp → Int32 → Int32 → Option (Except ArithmeticError Int32)
  | .add, x, y => (add x y).map .ok
  | .subtract, x, y => (subtract x y).map .ok
  | .multiply, x, y => (multiply x y).map .ok
  | .divide, x, y => divide x y
  | .modulo, x, y => modulo x y

/-- The result of an operator on one operand; a square is a product. -/
def unary : UnaryOp → Int32 → Option (Except ArithmeticError Int32)
  | .negate, x => (negate x).map .ok
  | .abs, x => (reduce x).map .ok
  | .square, x => binary .multiply x x

/-! ### No step traps -/

/-- A small number can be reduced. -/
theorem remainder_prime {n : Nat} (small : n < 2147483648) :
    remainder (ofResidue n) prime = some (ofResidue (n % modulus)) :=
  remainder_ofResidue small (by decide) (by decide)

/-- The remainder of truncated division is the residue, or lacks the modulus to it. -/
theorem toInt_mod_prime (x : Int32) :
    (x % prime).toInt = residue x ∨ (x % prime).toInt = residue x - modulus := by
  have truncated : (x % prime).toInt = x.toInt.tmod modulus := Int32.toInt_mod x prime
  rw [Int.tmod_eq_emod, ← ModularInt.natCast_residue] at truncated
  split at truncated
  · exact .inl (by omega)
  · exact .inr truncated

/-- **Any number can be reduced.** -/
theorem reduce_eq (x : Int32) : reduce x = some (ofResidue (residue x)) := by
  have small := residue_lt x
  rw [reduce, remainder_eq (by decide)]
  show (if x % prime < 0 then sum (x % prime) prime else some (x % prime)) = _
  split
  next negative =>
    have negative : (x % prime).toInt < 0 := Int32.lt_iff_toInt_lt.mp negative
    refine fit_eq ?_
    show _ = (x % prime).toInt + modulus
    rw [ModularInt.toInt_ofResidue small]
    rcases toInt_mod_prime x with same | lacks <;> omega
  next nonneg =>
    have nonneg : 0 ≤ (x % prime).toInt :=
      Int.not_lt.mp fun negative => nonneg (Int32.lt_iff_toInt_lt.mpr negative)
    refine congrArg some (Int32.toInt_inj.mp ?_)
    rw [ModularInt.toInt_ofResidue small]
    rcases toInt_mod_prime x with same | lacks <;> omega

/-- A residue can be multiplied by a residue and reduced again. -/
theorem multiple_eq {m n : Nat} (left : m < modulus) (right : n < modulus) :
    ((product (ofResidue m) (ofResidue n)).bind fun multiple => remainder multiple prime) =
      some (ofResidue (m * n % modulus)) := by
  rw [product_ofResidue left right, Option.bind_some,
    remainder_prime (mul_lt_of_residues left right)]

/-- What is taken from the modulus can be reduced. -/
theorem left_eq {n : Nat} (small : n ≤ modulus) :
    ((difference prime (ofResidue n)).bind fun left => remainder left prime) =
      some (ofResidue ((modulus - n) % modulus)) := by
  have bound := modulus_lt
  rw [prime, difference_ofResidue small bound, Option.bind_some]
  exact remainder_prime (by omega)

/-- The entry of a residue is found in the table. -/
theorem getElem?_map_ofResidue {table : Array Nat} {i : Nat} (inside : i < table.size)
    (small : i < modulus) :
    (table.map ofResidue)[(ofResidue i).toInt.toNat]? = some (ofResidue (table.getD i 0)) := by
  rw [ModularInt.toInt_ofResidue small, Int.toNat_natCast]
  simp [inside]

/-- **No step that enters an inverse traps**, and the entry that it needs is there. -/
theorem nextInverse_eq {table : Array Nat} (holds : ModularInt.HoldsInverses table) {i : Nat}
    (other : 1 < i) (small : i < modulus) (inside : i ≤ table.size) :
    nextInverse (table.map ofResidue) (ofResidue i) =
      some (ofResidue (ModularInt.nextInverse table i)) := by
  have less : modulus % i < i := Nat.mod_lt _ (by omega)
  have times : modulus / i < modulus := Nat.div_lt_self (by decide) other
  have bound := modulus_lt
  have entry := holds.lt_modulus (Nat.lt_of_lt_of_le less inside)
  have taken := Nat.le_of_lt
    (ModularInt.mod_modulus_lt (modulus / i * table.getD (modulus % i) 0))
  calc nextInverse (table.map ofResidue) (ofResidue i)
      = ((product (ofResidue (modulus / i)) (ofResidue (table.getD (modulus % i) 0))).bind
          fun multiple => remainder multiple prime).bind fun taken =>
          (difference prime taken).bind fun left => remainder left prime := by
        rw [nextInverse, prime, quotient_ofResidue bound (by omega) (by omega),
          remainder_ofResidue bound (by omega) (by omega)]
        simp only [Option.bind_eq_bind, Option.bind_some, Option.bind_assoc,
          getElem?_map_ofResidue (Nat.lt_of_lt_of_le less inside) (less.trans small)]
    _ = some (ofResidue (ModularInt.nextInverse table i)) := by
        rw [multiple_eq times entry, Option.bind_some, left_eq taken]
        rfl

/-- The table is made without a trap. -/
theorem inversesBelow_eq {steps : Nat} (within : 2 + steps ≤ modulus) :
    inversesBelow steps = some ((ModularInt.inversesBelow steps).map ofResidue) := by
  induction steps with
  | zero => simp [inversesBelow, ModularInt.inversesBelow, ofResidue]
  | succ steps ih =>
      have size := ModularInt.size_inversesBelow steps
      have holds : ModularInt.HoldsInverses (ModularInt.inversesBelow steps) :=
        ModularInt.holdsInverses_inversesBelow (by omega)
      have entered := nextInverse_eq holds (show 1 < 2 + steps by omega) (by omega) (by omega)
      have before : (List.range' 2 steps).foldlM (fun table i =>
          (nextInverse table (ofResidue i)).map table.push) #[0, 1] =
          some ((ModularInt.inversesBelow steps).map ofResidue) := ih (by omega)
      rw [inversesBelow, List.range'_concat, List.foldlM_append, before,
        ModularInt.inversesBelow_succ, Nat.one_mul]
      simp [entered]

/-- **The table of inverses is made without a trap.** -/
theorem inverses_eq : inverses = some (ModularInt.inverses.map ofResidue) :=
  inversesBelow_eq (by decide)

/-! ### Operations -/

theorem add_eq (x y : Int32) : add x y = some (ofResidue (ModularInt.add x y)) := by
  have left := residue_lt x
  have right := residue_lt y
  have bound : modulus + modulus < 2147483648 := by decide
  rw [add, reduce_eq, reduce_eq]
  simp only [Option.bind_eq_bind, Option.bind_some]
  rw [sum_ofResidue (by omega), Option.bind_some, remainder_prime (by omega)]
  rfl

/-- The difference of two residues may be negative; the modulus that is added makes up for it. -/
theorem subtract_eq (x y : Int32) : subtract x y = some (ofResidue (ModularInt.subtract x y)) := by
  have left := residue_lt x
  have right := residue_lt y
  have size : modulus = 1009 := rfl
  have less : difference (ofResidue (residue x)) (ofResidue (residue y)) =
      some (Int32.ofInt (residue x - residue y)) := by
    refine fit_eq ?_
    rw [toInt_ofInt (inRange_iff.mpr (by omega)), ModularInt.toInt_ofResidue left,
      ModularInt.toInt_ofResidue right]
  have total : sum (Int32.ofInt (residue x - residue y)) prime =
      some (ofResidue (residue x + modulus - residue y)) := by
    refine fit_eq ?_
    rw [toInt_ofResidue_of_lt (by omega), toInt_ofInt (inRange_iff.mpr (by omega)), prime,
      toInt_ofResidue_of_lt (by omega)]
    omega
  rw [subtract, reduce_eq, reduce_eq]
  simp only [Option.bind_eq_bind, Option.bind_some]
  rw [less, Option.bind_some, total, Option.bind_some, remainder_prime (by omega)]
  rfl

theorem multiply_eq (x y : Int32) : multiply x y = some (ofResidue (ModularInt.multiply x y)) := by
  rw [multiply, reduce_eq, reduce_eq]
  exact multiple_eq (residue_lt x) (residue_lt y)

theorem negate_eq (x : Int32) : negate x = some (ofResidue (ModularInt.negate x)) := by
  rw [negate, reduce_eq]
  exact left_eq (Nat.le_of_lt (residue_lt x))

theorem ofResidue_eq_zero_iff {n : Nat} (small : n < modulus) : ofResidue n = 0 ↔ n = 0 := by
  rw [← Int32.toInt_inj, ModularInt.toInt_ofResidue small, Int32.toInt_zero, Int.natCast_eq_zero]

theorem divide_eq (x y : Int32) : divide x y = some (ofResidue <$> ModularInt.divide x y) := by
  have inside : residue y < ModularInt.inverses.size := by
    rw [ModularInt.size_inverses]
    exact residue_lt y
  rw [divide, reduce_eq, ModularInt.divide, ModularInt.inverse?_eq]
  simp only [Option.bind_eq_bind, Option.bind_some, ofResidue_eq_zero_iff (residue_lt y)]
  by_cases zero : residue y = 0
  · rw [if_pos zero, if_pos zero]
    rfl
  · have entry := ModularInt.holdsInverses_inverses.lt_modulus inside
    rw [if_neg zero, if_neg zero, inverses_eq, reduce_eq, Option.bind_some,
      getElem?_map_ofResidue inside (residue_lt y), Option.bind_some, Option.bind_some,
      product_ofResidue (residue_lt x) entry, Option.bind_some,
      remainder_prime (mul_lt_of_residues (residue_lt x) entry)]
    rfl

theorem modulo_eq (x y : Int32) : modulo x y = some (ofResidue <$> ModularInt.modulo x y) := by
  have left := residue_lt x
  have right := residue_lt y
  rw [modulo, reduce_eq, reduce_eq, ModularInt.modulo]
  simp only [Option.bind_eq_bind, Option.bind_some, ofResidue_eq_zero_iff right,
    ModularInt.toInt_ofResidue left, ModularInt.toInt_ofResidue right]
  split
  next zero => rfl
  next nonzero =>
    have bound := modulus_lt
    rw [remainder_ofResidue (by omega) (by omega) (by omega)]
    rfl

/-- **No step of an operation on two operands traps.** -/
theorem binary_eq (op : BinaryOp) (x y : Int32) :
    binary op x y = some (modularInt.binary op x y) := by
  cases op with
  | add => exact congrArg (Option.map Except.ok) (add_eq x y)
  | subtract => exact congrArg (Option.map Except.ok) (subtract_eq x y)
  | multiply => exact congrArg (Option.map Except.ok) (multiply_eq x y)
  | divide => exact divide_eq x y
  | modulo => exact modulo_eq x y

/-- **No step of an operation on one operand traps.** -/
theorem unary_eq (op : UnaryOp) (x : Int32) : unary op x = some (modularInt.unary op x) := by
  cases op with
  | negate => exact congrArg (Option.map Except.ok) (negate_eq x)
  | abs => exact congrArg (Option.map Except.ok) (reduce_eq x)
  | square => exact binary_eq .multiply x x

end Modular

end Trapping

/-! ### Division -/

namespace ModularInt

/-- A product as a value. -/
theorem binary_multiply (a b : Int32) :
    modularInt.binary .multiply a b = .ok (wrap (a.toInt * b.toInt)) :=
  modularInt_isIntegersModulo.binary rfl a b

/-- The value of an integer is a quotient of the multiples of the integer. -/
theorem isQuotient_ofInt32 (a : Int32) (divisor : Int) :
    IsQuotient (a.toInt * divisor) divisor (modularInt.ofInt32 a).toInt := by
  show IsQuotient (a.toInt * divisor) divisor (ofResidue (residue a)).toInt
  rw [toInt_ofResidue (residue_lt a)]
  exact .of_natCast (residue_lt a) ((residue_modEq a).mul_right divisor)

/-- Multiplying undoes division. -/
theorem multiply_quotient {a b q : Int32} (isQuotient : IsQuotient a.toInt b.toInt q.toInt) :
    modularInt.binary .multiply q b = .ok (modularInt.ofInt32 a) := by
  rw [binary_multiply, modularInt_isIntegersModulo.ofInt32,
    modularInt_isIntegersModulo.wrap_congr isQuotient.mul_modEq]

/-- Division undoes multiplying. -/
theorem divide_product (a : Int32) {b m : Int32} {inverse : Nat}
    (found : inverse? b = some inverse) (product : modularInt.binary .multiply a b = .ok m) :
    modularInt.binary .divide m b = .ok (modularInt.ofInt32 a) := by
  obtain ⟨quotient, divided, isQuotient⟩ := binary_divide m found
  rw [binary_multiply] at product
  obtain rfl := Except.ok.inj product
  have factor := isQuotient.congr (modularInt_isIntegersModulo.toInt_wrap _)
  have same := (isQuotient_inverse found).unique factor (isQuotient_ofInt32 a b.toInt)
  rw [divided, Int32.toInt_inj.mp same]

end ModularInt

open ModularInt (IsQuotient inverse? inverses)

/-- **Division modulo a prime is that of a field**, for any integers of 32 bits.  A multiple of the
modulus divides nothing and has no inverse.  By any other number there is exactly one quotient,
which division gives; multiplying undoes division, division undoes multiplying, and the inverse is
the quotient of one.  No step of the operations, or of making the table of inverses, leaves the
range of 32 bits. -/
theorem modularInt_divides (a b : Int32) :
    (if (modulus : Int) ∣ b.toInt then
      modularInt.binary .divide a b =
          .error (.divisionByZero (.binary .divide a.toInt b.toInt)) ∧
        inverse? b = none
    else
      ∃ (q m : Int32) (i : Nat),
        modularInt.binary .divide a b = .ok q ∧ IsQuotient a.toInt b.toInt q.toInt ∧
        (∀ j, IsQuotient a.toInt b.toInt j → j = q.toInt) ∧
        modularInt.binary .multiply q b = .ok (modularInt.ofInt32 a) ∧
        modularInt.binary .multiply a b = .ok m ∧
        modularInt.binary .divide m b = .ok (modularInt.ofInt32 a) ∧
        inverse? b = some i ∧ 0 < i ∧ IsQuotient 1 b.toInt i ∧
        ∀ j, IsQuotient 1 b.toInt j → j = i) ∧
    Trapping.Modular.inverses = some (inverses.map ofResidue) ∧
    (∀ op, Trapping.Modular.binary op a b = some (modularInt.binary op a b)) ∧
    ∀ op, Trapping.Modular.unary op a = some (modularInt.unary op a) := by
  refine ⟨?_, Trapping.Modular.inverses_eq, fun op => Trapping.Modular.binary_eq op a b,
    fun op => Trapping.Modular.unary_eq op a⟩
  have multiple := ModularInt.inverse?_eq_none_iff b
  cases found : inverse? b with
  | none =>
      rw [if_pos (multiple.mp found)]
      exact ⟨ModularInt.binary_divide_of_none a found, rfl⟩
  | some i =>
      rw [if_neg fun divides => nomatch found.symm.trans (multiple.mpr divides)]
      have isInverse := ModularInt.isQuotient_inverse found
      obtain ⟨q, divided, isQuotient⟩ := ModularInt.binary_divide a found
      have product := ModularInt.binary_multiply a b
      refine ⟨q, _, i, divided, isQuotient, fun j other => ?_,
        ModularInt.multiply_quotient isQuotient, product, ModularInt.divide_product a found product,
        rfl, ?_, isInverse, fun j other => ?_⟩
      · exact isInverse.unique other isQuotient
      · exact_mod_cast isInverse.pos
      · exact isInverse.unique other isInverse

end Formula
