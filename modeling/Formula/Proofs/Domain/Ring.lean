import Formula.Mode
import Formula.Proofs.Domain.Exact
import Formula.Proofs.Domain.ModularInt
import Mathlib.Data.Int.ModEq

/-!
# Integers modulo a number

Four of the number systems compute with integers up to multiples of a modulus: none at all for
integers of any size, a power of two for those that wrap around, and a prime.  They differ in the
integer by which they represent a class, but sums, differences and products do not depend on it.
So the laws of a ring hold in all of them, and these operations never fail.

Division is no operation of this kind: wrapping around changes quotients.

## Main definitions

* `Domain.IsIntegersModulo` — sums, differences and products are those of the integers modulo a
  number

## Main statements

* `Domain.IsIntegersModulo.regroup` — which operations may be regrouped
* `Mode.exists_isIntegersModulo` — the modes that compute modulo a number
-/

namespace Formula

/-- Sums, differences and products depend on the classes of their operands only. -/
theorem BinaryOp.onInt_modEq {op : BinaryOp} (continuous : op.isContinuous = true)
    {m a a' b b' : Int} (left : a ≡ a' [ZMOD m]) (right : b ≡ b' [ZMOD m]) :
    op.onInt a b ≡ op.onInt a' b' [ZMOD m] := by
  cases op with
  | add => exact left.add right
  | subtract => exact left.sub right
  | multiply => exact left.mul right
  | divide => cases continuous
  | modulo => cases continuous

/-- A continuous operator does not divide. -/
theorem BinaryOp.isDivision_of_isContinuous {op : BinaryOp} (continuous : op.isContinuous = true) :
    op.isDivision = false := by
  cases op with
  | divide => cases continuous
  | modulo => cases continuous
  | _ => rfl

/-- An associative operator is continuous. -/
theorem BinaryOp.isContinuous_of_isAssociative {op : BinaryOp}
    (associative : op.isAssociative = true) : op.isContinuous = true := by
  cases op with
  | add => rfl
  | multiply => rfl
  | _ => cases associative

/-- The integers may be regrouped in the way that the properties of the operators say. -/
theorem BinaryOp.onInt_regroup {op op' : BinaryOp} (associative : op.isAssociative = true)
    (continuous : op'.isContinuous = true) (sameRank : op.rank = op'.rank) (a b c : Int) :
    op'.onInt (op.onInt a b) c = op.onInt a (op'.onInt b c) := by
  cases op with
  | add =>
      cases op' with
      | add => exact Int.add_assoc a b c
      | subtract => exact Int.add_sub_assoc a b c
      | _ => cases sameRank
  | multiply =>
      cases op' with
      | multiply => exact Int.mul_assoc a b c
      | divide | modulo => cases continuous
      | _ => cases sameRank
  | _ => cases associative

/-- The values of a number system stand for the classes of integers modulo a number, and its sums,
differences and products are those of the classes. -/
structure Domain.IsIntegersModulo {V : Type} (d : Domain V) (m : Int) (toInt : V → Int)
    (wrap : Int → V) : Prop where
  /-- The value of an integer represents its class. -/
  toInt_wrap (i : Int) : toInt (wrap i) ≡ i [ZMOD m]
  /-- A class has one value. -/
  wrap_congr {i j : Int} (congruent : i ≡ j [ZMOD m]) : wrap i = wrap j
  ofInt32 (i : Int32) : d.ofInt32 i = wrap i.toInt
  negate (a : V) : d.unary .negate a = .ok (wrap (-toInt a))
  square (a : V) : d.unary .square a = .ok (wrap (toInt a * toInt a))
  binary {op : BinaryOp} (continuous : op.isContinuous = true) (a b : V) :
    d.binary op a b = .ok (wrap (op.onInt (toInt a) (toInt b)))

/-! ### Laws -/

namespace Domain.IsIntegersModulo

variable {V : Type} {d : Domain V} {m : Int} {toInt : V → Int} {wrap : Int → V}

/-- What is wrapped may also be wrapped before it is combined. -/
theorem wrap_onInt (laws : d.IsIntegersModulo m toInt wrap) {op : BinaryOp}
    (continuous : op.isContinuous = true) {i i' j j' : Int} (left : i ≡ i' [ZMOD m])
    (right : j ≡ j' [ZMOD m]) : wrap (op.onInt i j) = wrap (op.onInt i' j') :=
  laws.wrap_congr (op.onInt_modEq continuous left right)

/-- **Regrouping.**  A continuous operator behind an associative one of its rank may be applied
first.  All the operations have results. -/
theorem regroup (laws : d.IsIntegersModulo m toInt wrap) {op op' : BinaryOp}
    (associative : op.isAssociative = true) (continuous : op'.isContinuous = true)
    (sameRank : op.rank = op'.rank) (a b c : V) :
    ∃ ab bc, d.binary op a b = .ok ab ∧ d.binary op' b c = .ok bc ∧
      d.binary op' ab c = d.binary op a bc := by
  have total := BinaryOp.isContinuous_of_isAssociative associative
  refine ⟨_, _, laws.binary total a b, laws.binary continuous b c, ?_⟩
  rw [laws.binary continuous, laws.binary total]
  congr 1
  calc wrap (op'.onInt (toInt (wrap (op.onInt (toInt a) (toInt b)))) (toInt c))
      = wrap (op'.onInt (op.onInt (toInt a) (toInt b)) (toInt c)) :=
        laws.wrap_onInt continuous (laws.toInt_wrap _) (Int.ModEq.refl _)
    _ = wrap (op.onInt (toInt a) (op'.onInt (toInt b) (toInt c))) := by
        rw [BinaryOp.onInt_regroup associative continuous sameRank]
    _ = wrap (op.onInt (toInt a) (toInt (wrap (op'.onInt (toInt b) (toInt c))))) :=
        (laws.wrap_onInt total (Int.ModEq.refl _) (laws.toInt_wrap _)).symm

end Domain.IsIntegersModulo

/-! ### Number systems -/

/-- Truncating integers compute modulo a number if wrapping does. -/
theorem truncating_isIntegersModulo {V : Type} {m : Int} {toInt : V → Int} {wrap : Int → V}
    {read? : List Char → Option V} (toInt_wrap : ∀ i, toInt (wrap i) ≡ i [ZMOD m])
    (wrap_congr : ∀ {i j}, i ≡ j [ZMOD m] → wrap i = wrap j) :
    (truncating toInt wrap read?).IsIntegersModulo m toInt wrap where
  toInt_wrap := toInt_wrap
  wrap_congr := wrap_congr
  ofInt32 _ := rfl
  negate _ := rfl
  square _ := rfl
  binary {op} continuous a b := by
    rw [truncating_binary, BinaryOp.isDivision_of_isContinuous continuous]
    rfl

theorem bigInteger_isIntegersModulo : bigInteger.IsIntegersModulo 0 id id :=
  truncating_isIntegersModulo (fun _ => Int.ModEq.refl _) Int.modEq_zero_iff.mp

/-- What two integers wrap around to is the same if they are congruent. -/
theorem bmod_congr {size : Nat} {i j : Int} (congruent : i ≡ j [ZMOD size]) :
    i.bmod size = j.bmod size := by
  rw [← Int.emod_bmod, congruent, Int.emod_bmod]

theorem uncheckedInt_isIntegersModulo :
    uncheckedInt.IsIntegersModulo Int32.size Int32.toInt Int32.ofInt := by
  refine truncating_isIntegersModulo (fun i => ?_) fun congruent => ?_
  · rw [Int32.toInt_ofInt]
    exact Int.bmod_emod
  · rw [← Int32.toInt_inj, Int32.toInt_ofInt, Int32.toInt_ofInt, bmod_congr congruent]

theorem byte_isIntegersModulo : byte.IsIntegersModulo Int8.size Int8.toInt Int8.ofInt := by
  refine truncating_isIntegersModulo (fun i => ?_) fun congruent => ?_
  · rw [Int8.toInt_ofInt]
    exact Int.bmod_emod
  · rw [← Int8.toInt_inj, Int8.toInt_ofInt, Int8.toInt_ofInt, bmod_congr congruent]

namespace ModularInt

/-- The value of the class of an integer. -/
def wrap (i : Int) : Int32 := ofResidue (i % modulus).toNat

/-- The value of a class is its least member that is not negative. -/
theorem toInt_wrap (i : Int) : (wrap i).toInt = i % modulus := by
  have nonneg := Int.emod_nonneg i (show (modulus : Int) ≠ 0 by decide)
  have small := Int.emod_lt_of_pos i (show (0 : Int) < modulus by decide)
  rw [wrap, toInt_ofResidue (by omega), Int.toNat_of_nonneg nonneg]

/-- The value of a class is the residue in it. -/
theorem ofResidue_eq_wrap {r : Nat} {i : Int} (small : r < modulus)
    (congruent : (r : Int) ≡ i [ZMOD modulus]) : ofResidue r = wrap i := by
  rw [wrap, ← congruent, Int.emod_eq_of_lt (by omega) (by omega), Int.toNat_natCast]

/-- The value of the class of a natural number is its remainder. -/
theorem ofResidue_mod_eq_wrap {n : Nat} {i : Int} (congruent : (n : Int) ≡ i [ZMOD modulus]) :
    ofResidue (n % modulus) = wrap i := by
  refine ofResidue_eq_wrap (mod_modulus_lt n) ?_
  rw [Int.natCast_mod]
  exact (Int.mod_modEq _ _).trans congruent

/-- An integer is in the class of its residue. -/
theorem residue_modEq (x : Int32) : (residue x : Int) ≡ x.toInt [ZMOD modulus] := by
  rw [natCast_residue]
  exact Int.mod_modEq _ _

/-- A difference to which the modulus is added is in the class of the difference. -/
theorem natCast_sub_modEq {a b : Nat} {i j : Int} (small : b < modulus)
    (left : (a : Int) ≡ i [ZMOD modulus]) (right : (b : Int) ≡ j [ZMOD modulus]) :
    ((a + modulus - b : Nat) : Int) ≡ i - j [ZMOD modulus] := by
  have exact : ((a + modulus - b : Nat) : Int) = a - b + modulus := by omega
  rw [exact]
  exact (Int.add_modEq_right).trans (left.sub right)

/-- What a residue lacks to the modulus is in the class of its negation. -/
theorem natCast_modulus_sub_modEq {b : Nat} {j : Int} (small : b < modulus)
    (same : (b : Int) ≡ j [ZMOD modulus]) : ((modulus - b : Nat) : Int) ≡ -j [ZMOD modulus] := by
  have negated := natCast_sub_modEq small (Int.ModEq.refl (0 : Nat)) same
  rwa [Nat.zero_add, Int.natCast_zero, Int.zero_sub] at negated

end ModularInt

theorem modularInt_isIntegersModulo :
    modularInt.IsIntegersModulo ModularInt.modulus Int32.toInt ModularInt.wrap where
  toInt_wrap i := by
    rw [ModularInt.toInt_wrap]
    exact Int.mod_modEq i _
  wrap_congr congruent := by
    rw [ModularInt.wrap, ModularInt.wrap, congruent]
  ofInt32 _ := rfl
  negate a := by
    refine congrArg Except.ok (ModularInt.ofResidue_mod_eq_wrap ?_)
    exact ModularInt.natCast_modulus_sub_modEq (ModularInt.residue_lt a)
      (ModularInt.residue_modEq a)
  square a := by
    refine congrArg Except.ok (ModularInt.ofResidue_mod_eq_wrap ?_)
    rw [Int.natCast_mul]
    exact (ModularInt.residue_modEq a).mul (ModularInt.residue_modEq a)
  binary {op} continuous a b := by
    have left := ModularInt.residue_modEq a
    have right := ModularInt.residue_modEq b
    cases op with
    | add =>
        refine congrArg Except.ok (ModularInt.ofResidue_mod_eq_wrap ?_)
        rw [Int.natCast_add]
        exact left.add right
    | subtract =>
        exact congrArg Except.ok (ModularInt.ofResidue_mod_eq_wrap
          (ModularInt.natCast_sub_modEq (ModularInt.residue_lt b) left right))
    | multiply =>
        refine congrArg Except.ok (ModularInt.ofResidue_mod_eq_wrap ?_)
        rw [Int.natCast_mul]
        exact left.mul right
    | divide => cases continuous
    | modulo => cases continuous

/-! ### Modes -/

/-- The modes other than those of doubles and of integers that refuse to overflow compute with
integers modulo a number. -/
theorem Mode.exists_isIntegersModulo {mode : Mode} (notFloat : mode ≠ .float)
    (notChecked : mode ≠ .checkedInt) :
    ∃ m toInt wrap, mode.domain.IsIntegersModulo m toInt wrap := by
  cases mode with
  | checkedInt => exact absurd rfl notChecked
  | float => exact absurd rfl notFloat
  | bigInteger => exact ⟨_, _, _, bigInteger_isIntegersModulo⟩
  | uncheckedInt => exact ⟨_, _, _, uncheckedInt_isIntegersModulo⟩
  | modularInt => exact ⟨_, _, _, modularInt_isIntegersModulo⟩
  | byte => exact ⟨_, _, _, byte_isIntegersModulo⟩

end Formula
