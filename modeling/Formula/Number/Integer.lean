/-!
# Reading integers

A bounded integer is written as decimal digits with at most one sign in front.  An unbounded one
may also group its digits with low lines.

## Main definitions

* `NumberError` — why a text is no integer of the range
* `readWithin` — the integer of a text, within given limits
* `readInt32`, `readInt8` — the same for the fixed widths
* `readGrouped?` — an integer of any size
-/

namespace Formula

/-- Why a text is no integer of a given range. -/
inductive NumberError where
  | empty
  | invalidDigit
  | tooLarge
  | tooSmall
  deriving DecidableEq

/-- What is reported about a text that is no integer. -/
def NumberError.message : NumberError → String
  | empty => "cannot parse integer from empty string"
  | invalidDigit => "invalid digit found in string"
  | tooLarge => "number too large to fit in target type"
  | tooSmall => "number too small to fit in target type"

/-- The value of a decimal digit. -/
def digitValue (c : Char) : Nat := c.toNat - '0'.toNat

/-- Reads digits from the left onto a value that must not rise above `last`.  The first character
that is no digit, or that makes the value too large, decides the error. -/
def readUpTo (last : Int) (digits : List Char) : Except NumberError Int :=
  digits.foldlM (fun value c =>
    if c.isDigit then
      let next := 10 * value + digitValue c
      if next ≤ last then .ok next else .error .tooLarge
    else .error .invalidDigit) 0

/-- Reads digits from the left onto a value that must not fall below `first`, each digit counting
downwards. -/
def readDownTo (first : Int) (digits : List Char) : Except NumberError Int :=
  digits.foldlM (fun value c =>
    if c.isDigit then
      let next := 10 * value - digitValue c
      if first ≤ next then .ok next else .error .tooSmall
    else .error .invalidDigit) 0

/-- The integer between `first` and `last` that a text denotes.  One sign may stand before the
digits, and at least one digit is needed. -/
def readWithin (first last : Int) : List Char → Except NumberError Int
  | [] => .error .empty
  | ['+'] => .error .invalidDigit
  | ['-'] => .error .invalidDigit
  | '+' :: digits => readUpTo last digits
  | '-' :: digits => readDownTo first digits
  | digits => readUpTo last digits

/-- The 32-bit integer that a text denotes. -/
def readInt32 (text : List Char) : Except NumberError Int32 :=
  Int32.ofInt <$> readWithin Int32.minValue.toInt Int32.maxValue.toInt text

/-- The 8-bit integer that a text denotes. -/
def readInt8 (text : List Char) : Except NumberError Int8 :=
  Int8.ofInt <$> readWithin Int8.minValue.toInt Int8.maxValue.toInt text

/-- The natural number of digits between which low lines may stand.  The first character is a
digit; low lines have no meaning after it. -/
def readGroupedDigits? (text : List Char) : Option Nat :=
  match text with
  | [] => none
  | first :: _ =>
    if first.isDigit && text.all (fun c => c.isDigit || c == '_') then
      some (Nat.ofDigitChars 10 (text.filter Char.isDigit) 0)
    else none

/-- The integer of any size that a text denotes: digits that may be grouped, after at most one
sign. -/
def readGrouped? : List Char → Option Int
  | '+' :: digits => (readGroupedDigits? digits).map Int.ofNat
  | '-' :: digits => (readGroupedDigits? digits).map fun n => -Int.ofNat n
  | digits => (readGroupedDigits? digits).map Int.ofNat

end Formula
