import Formula.Domain
import Formula.Number.Integer

/-!
# Integers modulo a prime

The residues modulo 1009.  Operands may be any 32-bit integers; they are reduced before they are
combined, and every result is a residue.  Division multiplies by an inverse from a table.

## Main definitions

* `ModularInt.modulus`, `ModularInt.residue` — the prime and the reduction
* `ModularInt.inverses`, `ModularInt.inverse?` — the table of inverses and its use
* `modularInt` — the number system
-/

namespace Formula

namespace ModularInt

/-- The prime modulus. -/
def modulus : Nat := 1009

/-- The remainder of an integer on division by the modulus, between zero and the modulus also for
negative integers. -/
def residue (x : Int32) : Nat := (x.toInt % modulus).toNat

/-- A residue as a value. -/
def ofResidue (r : Nat) : Int32 := Int32.ofNat r

/-- The inverse of `i` from the inverses of all smaller numbers: from
`modulus = (modulus / i) * i + modulus % i` the inverse of `i` is `-(modulus / i)` times that of
`modulus % i`. -/
def nextInverse (smaller : Array Nat) (i : Nat) : Nat :=
  (modulus - modulus / i * smaller.getD (modulus % i) 0 % modulus) % modulus

/-- At each index between zero and the modulus, its inverse; nothing of use at index zero. -/
def inverses : Array Nat :=
  (List.range' 2 (modulus - 2)).foldl (fun table i => table.push (nextInverse table i)) #[0, 1]

/-- The inverse of a number, if it is no multiple of the modulus. -/
def inverse? (x : Int32) : Option Nat :=
  match residue x with
  | 0 => none
  | r => some (inverses.getD r 0)

/-- The sum of two numbers. -/
def add (x y : Int32) : Nat := (residue x + residue y) % modulus

/-- The difference of two numbers. -/
def subtract (x y : Int32) : Nat := (residue x + modulus - residue y) % modulus

/-- The product of two numbers. -/
def multiply (x y : Int32) : Nat := residue x * residue y % modulus

/-- The negated number. -/
def negate (x : Int32) : Nat := (modulus - residue x) % modulus

/-- The product with the inverse of the divisor.  An error names the operands as they were given. -/
def divide (x y : Int32) : Except ArithmeticError Nat :=
  match inverse? y with
  | some inverse => .ok (residue x * inverse % modulus)
  | none => .error (.divisionByZero (.binary .divide x.toInt y.toInt))

/-- The remainder of the residues.  An error names the operands after their reduction. -/
def modulo (x y : Int32) : Except ArithmeticError Nat :=
  if residue y = 0 then .error (.divisionByZero (.binary .modulo (residue x) (residue y)))
  else .ok (residue x % residue y)

/-- The result of an operator on one operand; a residue is its own absolute value. -/
def unary : UnaryOp → Int32 → Except ArithmeticError Int32
  | .negate, x => .ok (ofResidue (negate x))
  | .abs, x => .ok (ofResidue (residue x))
  | .square, x => .ok (ofResidue (multiply x x))

/-- The result of an operator on two operands. -/
def binary : BinaryOp → Int32 → Int32 → Except ArithmeticError Int32
  | .add, x, y => .ok (ofResidue (add x y))
  | .subtract, x, y => .ok (ofResidue (subtract x y))
  | .multiply, x, y => .ok (ofResidue (multiply x y))
  | .divide, x, y => ofResidue <$> divide x y
  | .modulo, x, y => ofResidue <$> modulo x y

end ModularInt

/-- The integers modulo a prime.  A constant is a 32-bit integer, reduced. -/
def modularInt : Domain Int32 where
  ofInt32 := fun i => ModularInt.ofResidue (ModularInt.residue i)
  unary := ModularInt.unary
  binary := ModularInt.binary
  hasDecimalPoint := false
  read? := fun text =>
    (readInt32 text).toOption.map fun i => ModularInt.ofResidue (ModularInt.residue i)
  text := toString

end Formula
