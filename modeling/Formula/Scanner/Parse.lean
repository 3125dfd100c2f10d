import Formula.Parse
import Formula.Scanner.Words

/-!
# Reading expressions from a source

A text that comes character by character from a source is read with a scanner.  The grammar is the
one of texts that are at hand.  What differs is how places are kept: the scanner moves on while it
reads, takes characters from the source to look ahead, and goes back where a word does not match.
Behind each operand it forgets what was read, as nothing before that place is visited again.

## Main definitions

* `Scanner.acceptSymbol` — the first of several symbols that comes next
* `scanOperand`, `scanExpression` — the grammar, read with a scanner
* `scanWithin` — reading with given limits on nesting and on the length of chains
* `scanSource` — the expression of a source

## Design notes

A scanner that did not find what it was asked for may have taken characters from its source all the
same.  So every function hands on the scanner that it is left with, found or not.
-/

namespace Formula

variable {V α : Type}

/-! ### Symbols -/

namespace Scanner

/-- Reads a character if it comes next, and tells whether it did. -/
def acceptChar (expected : Char) (s : Scanner Char) : Bool × Scanner Char :=
  let (found, after) := s.accept expected
  (found.isSome, after)

/-- Reads the first of some symbols that comes next.  Each symbol is given by the function that
reads it, together with its meaning. -/
def acceptSymbol : List ((Scanner Char → Bool × Scanner Char) × α) → Scanner Char →
    Option α × Scanner Char
  | [], s => (none, s)
  | (reads, meaning) :: others, s =>
    match reads s with
    | (true, after) => (some meaning, after)
    | (false, after) => acceptSymbol others after

/-- The operators on one operand. -/
def unarySymbols : List ((Scanner Char → Bool × Scanner Char) × UnaryOp) :=
  [(acceptChar '-', .negate), (acceptWord "abs", .abs), (acceptWord "square", .square)]

/-- The operators of the lower rank. -/
def additiveSymbols : List ((Scanner Char → Bool × Scanner Char) × BinaryOp) :=
  [(acceptChar '+', .add), (acceptChar '-', .subtract)]

/-- The operators of the higher rank. -/
def multiplicativeSymbols : List ((Scanner Char → Bool × Scanner Char) × BinaryOp) :=
  [(acceptChar '*', .multiply), (acceptChar '/', .divide), (acceptWord "mod", .modulo)]

/-- Reads the name of a variable. -/
def acceptVariable (s : Scanner Char) : Option Variable × Scanner Char :=
  let (found, after) := s.acceptLongest (Variable.all.map Variable.name)
  (found.bind fun name => Variable.all.find? fun v => v.name == name, after)

/-- Whether a constant without a sign comes next. -/
def atLiteral (d : Domain V) (s : Scanner Char) : Bool × Scanner Char :=
  let (next, ahead) := s.peek
  (next.any d.isLiteralChar, ahead)

/-- Whether a constant with a minus comes next. -/
def atSignedLiteral (d : Domain V) (s : Scanner Char) : Bool × Scanner Char :=
  let (sign, ahead) := s.peek
  if sign == some '-' then
    let (digit, further) := ahead.peekNth 1
    (digit.any d.isLiteralChar, further)
  else (false, ahead)

/-- The error that something other than the expected comes next. -/
def illegalNext (expected : Expectation) (s : Scanner Char) : ParseError :=
  .illegalSymbol expected s.column s.peek.1

end Scanner

/-! ### The grammar -/

/-- What reading with a scanner gives: an expression and the scanner behind it, or an error. -/
abbrev Scan (V : Type) : Type := Except ParseError (Expr V × Scanner Char)

/-- Reads a constant: a minus if one is there, and the longest run of characters of a constant. -/
def scanLiteral (d : Domain V) (s : Scanner Char) : Scan V :=
  let (signed, afterSign) := s.acceptChar '-'
  let (digits, after) := afterSign.scanWhile d.isLiteralChar
  let text := (if signed then "-" else "") ++ digits
  match d.literal text with
  | .ok value => .ok (.const value, after)
  | .error error => .error (.constantFormat s.column (after.column - 1) error.literal.toList)

/-- Reads the links of a chain that follow its first part. -/
def scanLinks (op? : Scanner Char → Option BinaryOp × Scanner Char)
    (part : Scanner Char → Scan V) : Nat → Expr V → Scanner Char → Scan V
  | 0, e, s => .ok (e, s)
  | links + 1, e, s =>
    match op? s with
    | (none, ahead) => .ok (e, ahead)
    | (some op, afterOp) =>
      match part afterOp with
      | .ok (right, after) => scanLinks op? part links (.binary op e right) after
      | .error error => .error error

/-- Reads a part and what is chained to it, with a bound on the number of links. -/
def scanChain (op? : Scanner Char → Option BinaryOp × Scanner Char)
    (part : Scanner Char → Scan V) (links : Nat) (s : Scanner Char) : Scan V :=
  match part s with
  | .ok (first, after) => scanLinks op? part links first after
  | .error error => .error error

/-- Reads sums and differences of products, quotients and remainders of operands. -/
def scanExpression (links : Nat) (operand : Scanner Char → Scan V) : Scanner Char → Scan V :=
  scanChain (Scanner.acceptSymbol Scanner.additiveSymbols)
    (scanChain (Scanner.acceptSymbol Scanner.multiplicativeSymbols) operand links) links

/-- Reads an expression in brackets, from behind the opening one. -/
def scanBracketed (expression : Scanner Char → Scan V) (s : Scanner Char) : Scan V :=
  match expression s with
  | .ok (inner, after) =>
    match after.acceptChar ')' with
    | (true, closed) => .ok (inner, closed)
    | (false, ahead) => .error (.bracketImbalance ahead.column ahead.peek.1)
  | .error error => .error error

/-- Reads the operand of a unary operator, from behind the operator. -/
def scanApplied (op : UnaryOp) (operand : Scanner Char → Scan V) (s : Scanner Char) : Scan V :=
  match operand s with
  | .ok (e, after) => .ok (.unary op e, after)
  | .error error => .error error

/-- Reads a constant without a sign or a variable. -/
def scanLeaf (d : Domain V) (s : Scanner Char) : Scan V :=
  match s.atLiteral d with
  | (true, ahead) => scanLiteral d ahead
  | (false, ahead) =>
    match ahead.acceptVariable with
    | (some v, after) => .ok (.var v, after)
    | (none, after) => .error (after.illegalNext .operand)

/-- Reads an operand without the blanks around it, given how operands inside it are read. -/
def scanBareOperand (d : Domain V) (links : Nat) (inner : Scanner Char → Scan V)
    (s : Scanner Char) : Scan V :=
  match s.atSignedLiteral d with
  | (true, ahead) => scanLiteral d ahead
  | (false, ahead) =>
    match ahead.acceptSymbol Scanner.unarySymbols with
    | (some op, afterOp) => scanApplied op inner afterOp
    | (none, ahead) =>
      match ahead.acceptChar '(' with
      | (true, opened) => scanBracketed (scanExpression links inner) opened
      | (false, ahead) => scanLeaf d ahead

/-- Reads what the given function reads, and the blanks before and after it.  All of it is forgotten
then. -/
def scanBetweenBlanks (read : Scanner Char → Scan V) (s : Scanner Char) : Scan V :=
  match read s.skipBlanks.2 with
  | .ok (e, after) => .ok (e, after.skipBlanks.2.commit)
  | .error error => .error error

/-- Reads an operand and the blanks around it.  The number is the nesting still allowed; where none
is, the operand is refused before its blanks are skipped. -/
def scanOperand (d : Domain V) (links : Nat) : Nat → Scanner Char → Scan V
  | 0, s => .error (.tooDeep s.column)
  | nesting + 1, s => scanBetweenBlanks (scanBareOperand d links (scanOperand d links nesting)) s

/-! ### Whole sources -/

/-- The expression that a source consists of, with limits on the nesting of operands and on the
length of chains. -/
def scanWithin (d : Domain V) (nesting links : Nat) (source : List Char) :
    Except ParseError (Expr V) :=
  match scanExpression links (scanOperand d links nesting) (.ofList source) with
  | .ok (e, after) =>
    match after.peek with
    | (none, _) => .ok e
    | (some _, ahead) => .error (ahead.illegalNext .binaryOperator)
  | .error error => .error error

/-- The expression that a source consists of. -/
def scanSource (d : Domain V) (source : List Char) : Except ParseError (Expr V) :=
  scanWithin d maxNesting source.length source

end Formula
