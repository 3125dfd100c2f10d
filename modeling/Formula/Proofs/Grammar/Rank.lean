import Formula.Proofs.Grammar.Symbols

/-!
# Phrases by rank

The grammar has a category of phrases for each rank of operators, and one for operands, which bind
more tightly than any operator.  With ranks in place of categories the rules for sums and products
become one rule, and so do the rules that make a sum of a single product and a product of a single
operand.

Printed expressions put a blank behind every operator and in front of those on two operands.  A
blank ends words and constants, so nothing that is printed runs into what comes after it.

## Main definitions

* `Category.ofRank` — the phrases of a rank
* `Detached` — texts that what comes before them does not run into

## Main statements

* `Derives.lower`, `Derives.join` — the rules of the grammar by rank
* `UnaryOp.symbol_derives`, `BinaryOp.symbol_derives` — printed operators are recognised
-/

namespace Formula

variable {V : Type}

/-! ### Phrases of a rank -/

/-- The phrases of a rank: sums, products, and operands. -/
def Category.ofRank : Nat → Category
  | 1 => .expression
  | 2 => .term
  | _ => .operand

theorem BinaryOp.rank_pos (op : BinaryOp) : 1 ≤ op.rank := by
  cases op <;> decide

theorem BinaryOp.rank_le (op : BinaryOp) : op.rank ≤ 2 := by
  cases op <;> decide

/-- Operators bind less tightly than operands, whose rank is three. -/
theorem BinaryOp.rank_lt_three (op : BinaryOp) : op.rank < 3 := Nat.lt_succ_of_le op.rank_le

variable {d : Domain V} {text mid next rest : List Char} {e left right : Expr V} {n m : Nat}

/-- A phrase of a higher rank is one of a lower rank. -/
theorem Derives.lower {low high : Nat} (positive : 1 ≤ low) (below : low ≤ high)
    (derivation : Derives d (.ofRank high) text e n rest) :
    Derives d (.ofRank low) text e n rest := by
  match low, high, positive, below with
  | 1, 1, _, _ => exact derivation
  | 1, 2, _, _ => exact .term derivation
  | 1, _ + 3, _, _ => exact .term (.operand derivation)
  | 2, 2, _, _ => exact derivation
  | 2, _ + 3, _, _ => exact .operand derivation
  | _ + 3, _ + 3, _, _ => exact derivation

/-- A phrase of the rank of an operator goes on with this operator and a phrase of a higher rank. -/
theorem Derives.join {op : BinaryOp} (first : Derives d (.ofRank op.rank) text left n mid)
    (symbol : BinarySymbol op mid next)
    (last : Derives d (.ofRank (op.rank + 1)) next right m rest) :
    Derives d (.ofRank op.rank) text (.binary op left right) (max n m) rest := by
  cases op with
  | add => exact .sum first symbol rfl last
  | subtract => exact .sum first symbol rfl last
  | multiply => exact .product first symbol rfl last
  | divide => exact .product first symbol rfl last
  | modulo => exact .product first symbol rfl last

/-! ### Printed symbols -/

/-- A text that neither continues a word nor a constant. -/
structure Detached (d : Domain V) (text : List Char) : Prop where
  endsWord : endsWord text = true
  endsConstant : d.startsConstant text = false

theorem Detached.nil : Detached d [] := ⟨rfl, rfl⟩

/-- A blank keeps apart what stands on both sides of it. -/
theorem Detached.blank (text : List Char) : Detached d (' ' :: text) :=
  ⟨rfl, (Domain.startsConstant_cons _ _).trans (Domain.isLiteralChar_eq_false rfl)⟩

/-- A closing bracket keeps apart what stands on both sides of it. -/
theorem Detached.closing (text : List Char) : Detached d (')' :: text) :=
  ⟨rfl, (Domain.startsConstant_cons _ _).trans (Domain.isLiteralChar_eq_false rfl)⟩

/-- The symbol of an operator on one operand, with the blank behind it. -/
theorem UnaryOp.symbol_derives (op : UnaryOp) (text : List Char) :
    UnarySymbol d op (op.symbol.toList ++ ' ' :: text) (' ' :: text) := by
  cases op with
  | negate => exact .negate (Detached.blank text).endsConstant
  | abs => exact .abs (Detached.blank (d := d) text).endsWord
  | square => exact .square (Detached.blank (d := d) text).endsWord

/-- The symbol of an operator on two operands, with the blank behind it. -/
theorem BinaryOp.symbol_derives (op : BinaryOp) (text : List Char) :
    BinarySymbol op (op.symbol.toList ++ ' ' :: text) (' ' :: text) := by
  cases op with
  | add => exact .add
  | subtract => exact .subtract
  | multiply => exact .multiply
  | divide => exact .divide
  | modulo => exact .modulo rfl

end Formula
