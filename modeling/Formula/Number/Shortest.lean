/-!
# Shortest decimals

A positive binary number `m * 2 ^ e` stands for all the real numbers that round to it.  Among the
decimals in that interval, this module selects one with as few digits as possible, and of those the
one nearest to the number.

## Main definitions

* `Decimal` — a whole number times a power of ten
* `Rounding` — the interval of the reals that round to a binary number
* `shortestDecimal` — the selected decimal
* `Decimal.positional` — a decimal written without an exponent
-/

namespace Formula

/-- The number `coefficient * 10 ^ exponent`. -/
structure Decimal where
  coefficient : Nat
  exponent : Int
  deriving DecidableEq

/-- The reals that round to a binary number, measured in quarters of its last place
`2 ^ exponent`.  The ends belong to the interval when the number is even. -/
structure Rounding where
  low : Nat
  centre : Nat
  high : Nat
  closed : Bool
  exponent : Int

namespace Rounding

/-- The interval around `m * 2 ^ e`, where `m` has at most 53 bits.  Below a power of two the
numbers lie twice as close, so the lower half is only half as wide, except at the least exponent,
where the spacing no longer changes. -/
def around (m : Nat) (e : Int) : Rounding where
  low := if m = Nat.pow 2 52 ∧ -1074 < e then 4 * m - 1 else 4 * m - 2
  centre := 4 * m
  high := 4 * m + 2
  closed := m % 2 = 0
  exponent := e - 2

variable (r : Rounding)

/-- The factor that brings the interval to the common scale with the multiples of `10 ^ k`. -/
def binaryScale (k : Int) : Nat := Nat.pow 2 r.exponent.toNat * Nat.pow 10 (-k).toNat

/-- The factor that brings a multiple of `10 ^ k` to the common scale with the interval. -/
def decimalScale (k : Int) : Nat := Nat.pow 10 k.toNat * Nat.pow 2 (-r.exponent).toNat

/-- Whether `n * 10 ^ k` lies in the interval. -/
def contains (n : Nat) (k : Int) : Bool :=
  let low := r.low * r.binaryScale k
  let point := n * r.decimalScale k
  let high := r.high * r.binaryScale k
  if r.closed then low ≤ point && point ≤ high else low < point && point < high

/-- The multiple of `10 ^ k` in the interval that lies nearest to its centre, if there is one.  Of
two at the same distance the greater is taken.  It is enough to look at the two neighbours of the
centre among the multiples. -/
def nearestMultiple? (k : Int) : Option Decimal :=
  let centre := r.centre * r.binaryScale k
  let step := r.decimalScale k
  let below := centre / step
  let remainder := centre % step
  match r.contains below k, r.contains (below + 1) k with
  | true, true => some ⟨if 2 * remainder < step then below else below + 1, k⟩
  | true, false => some ⟨below, k⟩
  | false, true => some ⟨below + 1, k⟩
  | false, false => none

/-- An exponent `k` with the centre at most `10 ^ k`.  The fraction is slightly above the decimal
logarithm of two. -/
def upperExponent : Int := (r.centre.log2 + 1 + r.exponent) * 30103 / 100000 + 1

end Rounding

/-- The shortest decimal that rounds to `m * 2 ^ e`.  Coarse multiples are tried before fine ones.
Seventeen digits always suffice, so the search finds one within the given number of steps. -/
def shortestDecimal (m : Nat) (e : Int) : Decimal :=
  let r := Rounding.around m e
  ((List.range 24).findSome? fun (i : Nat) =>
    r.nearestMultiple? (r.upperExponent - i)).getD ⟨0, 0⟩

/-- A decimal written with all its places and without an exponent.  Before the point there is at
least one digit, and the point itself is left out where no digit follows. -/
def Decimal.positional (d : Decimal) : String :=
  let digits := (toString d.coefficient).toList
  if 0 ≤ d.exponent then
    String.ofList (digits ++ List.replicate d.exponent.toNat '0')
  else
    let places := (-d.exponent).toNat
    let padded := List.replicate (places + 1 - digits.length) '0' ++ digits
    let whole := padded.length - places
    String.ofList (padded.take whole ++ '.' :: padded.drop whole)

end Formula
