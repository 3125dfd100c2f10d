import Formula.Number.Shortest

/-!
# Floating-point numbers

Reading and writing of double-precision numbers, and their exact remainder.

## Main definitions

* `Floating.read?` — the number nearest to a decimal text
* `Floating.text` — the shortest text that reads back, without an exponent
* `Floating.remainder` — the exact remainder of a division that truncates
-/

namespace Formula.Floating

open Float.Model

/-- The decimal digits at the start of a text, and what follows them. -/
def digitRun (text : List Char) : List Char × List Char := text.span Char.isDigit

/-- Splits a sign off a text and tells whether it is a minus. -/
def splitSign : List Char → Bool × List Char
  | '+' :: rest => (false, rest)
  | '-' :: rest => (true, rest)
  | rest => (false, rest)

/-- The natural number of a list of decimal digits. -/
def natOfDigits (digits : List Char) : Nat := Nat.ofDigitChars 10 digits 0

/-- The power of ten at the end of a number: nothing, or the letter `e` in either case, a sign if
wanted, and at least one digit. -/
def readExponent? : List Char → Option Int
  | [] => some 0
  | c :: rest =>
    if c = 'e' ∨ c = 'E' then
      let (isNegative, digits) := splitSign rest
      if digits ≠ [] ∧ digits.all Char.isDigit then
        some (if isNegative then -(natOfDigits digits : Int) else natOfDigits digits)
      else none
    else none

/-- The double nearest to `n * 10 ^ exponent`. -/
def ofDecimal (n : Nat) (exponent : Int) : Float :=
  Float.ofScientific n (exponent < 0) exponent.natAbs

/-- The digits of a number without a sign: whole digits, a point and further digits if wanted, at
least one digit altogether, and a power of ten if wanted. -/
def readMagnitude? (text : List Char) : Option Float :=
  let (whole, afterWhole) := digitRun text
  let (fraction, rest) :=
    match afterWhole with
    | '.' :: afterPoint => digitRun afterPoint
    | _ => ([], afterWhole)
  if whole = [] ∧ fraction = [] then none
  else
    (readExponent? rest).map fun exponent =>
      ofDecimal (natOfDigits (whole ++ fraction)) (exponent - fraction.length)

/-- Positive infinity. -/
def infinity : Float := 1 / 0

/-- The number that is no number. -/
def notANumber : Float := 0 / 0

/-- The named numbers, in lower case. -/
def named? (text : List Char) : Option Float :=
  if text = ['i', 'n', 'f'] ∨ text = ['i', 'n', 'f', 'i', 'n', 'i', 't', 'y'] then some infinity
  else if text = ['n', 'a', 'n'] then some notANumber
  else none

/-- The double that a text denotes: a name in any case or a decimal, with at most one sign in
front. -/
def read? (text : List Char) : Option Float :=
  let (isNegative, magnitude) := splitSign text
  ((named? (magnitude.map Char.toLower)).or (readMagnitude? magnitude)).map fun value =>
    if isNegative then -value else value

/-- The text of a sign. -/
def signText : UnpackedFloat.Sign → String
  | .negative => "-"
  | .positive => ""

/-- The shortest decimal that reads back to the number, written without an exponent.  Zeros and
infinities keep their sign; what is no number has none. -/
def text (x : Float) : String :=
  match x.toModel.unpack with
  | .notANumber => "NaN"
  | .infinity sign => signText sign ++ "inf"
  | .zero sign => signText sign ++ "0"
  | .finite sign m e _ => signText sign ++ (shortestDecimal m e).positional

/-- The remainder of `m * 2 ^ e` divided by `n * 2 ^ f`, in units of the smaller of both last
places. -/
def alignedRemainder (m : Nat) (e : Int) (n : Nat) (f : Int) : Nat × Int :=
  let unit := min e f
  ((m <<< (e - unit).toNat) % (n <<< (f - unit).toNat), unit)

/-- The exact remainder of the truncated quotient, with the sign of the dividend.  There is no such
number where the dividend is infinite or the divisor zero. -/
def remainder (x y : Float) : Float :=
  match x.toModel.unpack, y.toModel.unpack with
  | .finite sign m e _, .finite _ n f _ =>
    let (r, unit) := alignedRemainder m e n f
    .ofModel (pack (UnpackedFloat.normalize Format.binary64 (sign.apply r) unit sign))
  | .finite .., .infinity _ => x
  | .zero _, .finite .. => x
  | .zero _, .infinity _ => x
  | _, _ => notANumber

end Formula.Floating
