import Formula.Cursor
import Formula.Domain
import Formula.Expr
import Formula.ParseError

/-!
# Reading expressions

An expression is read from left to right without a stage of tokens:

```text
expression := term (('+' | '-') term)*
term       := operand (('*' | '/' | 'mod') operand)*
operand    := '-' operand | 'abs' operand | 'square' operand
            | constant | variable | '(' expression ')'
```

Blanks may stand around every operand.  A minus in front of an operand that is directly followed by
a character of a constant belongs to that constant.  Words end where no letter or digit follows.
Chains of operators group to the left.

## Main definitions

* `chain` — operands joined by operators of one rank
* `operand`, `expression` — the grammar
* `parseWithin` — reading with given limits on nesting and on the length of chains
* `parseChars`, `parse` — the expression of a text

## Design notes

Operands are read by recursion on the nesting that is still allowed, so reading stops at every
depth, and the loop of a chain by recursion on a bound for its links.  Each link takes a character
of the text at least; `parseChars` therefore allows as many links as the text has characters, and
no chain is ever cut short.

A text that comes from a source is read with a scanner, by `scanSource`.  It is read alike
(`scanSource_eq`), so what is shown for a text that is at hand holds for it as well.
-/

namespace Formula

variable {V : Type}

/-- What reading from a place gives: an expression and the place after it, or an error. -/
abbrev Reading (V : Type) : Type := Except ParseError (Expr V × Cursor)

/-! ### Symbols -/

/-- The operator on one operand at the place. -/
def unaryOpAt? (c : Cursor) : Option (UnaryOp × Cursor) :=
  if let some after := c.accept? '-' then some (.negate, after)
  else if let some after := c.acceptWord? ['a', 'b', 's'] then some (.abs, after)
  else if let some after := c.acceptWord? ['s', 'q', 'u', 'a', 'r', 'e'] then some (.square, after)
  else none

/-- The operator of the lower rank at the place. -/
def additiveOpAt? (c : Cursor) : Option (BinaryOp × Cursor) :=
  if let some after := c.accept? '+' then some (.add, after)
  else if let some after := c.accept? '-' then some (.subtract, after)
  else none

/-- The operator of the higher rank at the place. -/
def multiplicativeOpAt? (c : Cursor) : Option (BinaryOp × Cursor) :=
  if let some after := c.accept? '*' then some (.multiply, after)
  else if let some after := c.accept? '/' then some (.divide, after)
  else if let some after := c.acceptWord? ['m', 'o', 'd'] then some (.modulo, after)
  else none

/-- The variable at the place. -/
def variableAt? (c : Cursor) : Option (Variable × Cursor) :=
  Variable.all.findSome? fun v => (c.acceptWord? [v.letter]).map fun after => (v, after)

/-- Whether a constant without a sign starts at the place. -/
def startsLiteral (d : Domain V) (c : Cursor) : Bool :=
  c.peek?.any d.isLiteralChar

/-- Whether a constant with a minus starts at the place. -/
def startsSignedLiteral (d : Domain V) (c : Cursor) : Bool :=
  (c.accept? '-').any (startsLiteral d)

/-- The error that something other than the expected stands at the place. -/
def illegalAt (expected : Expectation) (c : Cursor) : ParseError :=
  .illegalSymbol expected c.column c.peek?

/-! ### The grammar -/

/-- Reads a constant: a minus if one is there, and the longest run of characters of a constant. -/
def literal (d : Domain V) (c : Cursor) : Reading V :=
  let (sign, afterSign) :=
    match c.accept? '-' with
    | some after => (['-'], after)
    | none => ([], c)
  let (digits, after) := afterSign.takeWhile d.isLiteralChar
  let text := sign ++ digits
  match d.read? text with
  | some value => .ok (.const value, after)
  | none => .error (.constantFormat c.column (after.column - 1) text)

/-- Reads the links of a chain that follow its first part: operator and part, again and again, each
joined to the whole before it. -/
def chainLinks (op? : Cursor → Option (BinaryOp × Cursor)) (part : Cursor → Reading V) :
    Nat → Expr V → Cursor → Reading V
  | 0, e, c => .ok (e, c)
  | links + 1, e, c =>
    match op? c with
    | none => .ok (e, c)
    | some (op, afterOp) =>
      match part afterOp with
      | .ok (right, after) => chainLinks op? part links (.binary op e right) after
      | .error error => .error error

/-- Reads a part and what is chained to it, with a bound on the number of links. -/
def chain (op? : Cursor → Option (BinaryOp × Cursor)) (part : Cursor → Reading V) (links : Nat)
    (c : Cursor) : Reading V :=
  match part c with
  | .ok (first, after) => chainLinks op? part links first after
  | .error error => .error error

/-- Reads sums and differences of products, quotients and remainders of operands. -/
def expression (links : Nat) (operand : Cursor → Reading V) : Cursor → Reading V :=
  chain additiveOpAt? (chain multiplicativeOpAt? operand links) links

/-- Reads an expression in brackets, from behind the opening one. -/
def bracketed (expression : Cursor → Reading V) (c : Cursor) : Reading V :=
  match expression c with
  | .ok (inner, after) =>
    match after.accept? ')' with
    | some closed => .ok (inner, closed)
    | none => .error (.bracketImbalance after.column after.peek?)
  | .error error => .error error

/-- Reads the operand of a unary operator, from behind the operator. -/
def applied (op : UnaryOp) (operand : Cursor → Reading V) (c : Cursor) : Reading V :=
  match operand c with
  | .ok (e, after) => .ok (.unary op e, after)
  | .error error => .error error

/-- Reads a constant without a sign or a variable. -/
def leaf (d : Domain V) (c : Cursor) : Reading V :=
  if startsLiteral d c then literal d c
  else
    match variableAt? c with
    | some (v, after) => .ok (.var v, after)
    | none => .error (illegalAt .operand c)

/-- Reads an operand without the blanks around it, given how operands inside it are read. -/
def bareOperand (d : Domain V) (links : Nat) (inner : Cursor → Reading V) (c : Cursor) :
    Reading V :=
  if startsSignedLiteral d c then literal d c
  else
    match unaryOpAt? c with
    | some (op, afterOp) => applied op inner afterOp
    | none =>
      match c.accept? '(' with
      | some opened => bracketed (expression links inner) opened
      | none => leaf d c

/-- Reads what the given function reads, and the blanks before and after it. -/
def betweenBlanks (read : Cursor → Reading V) (c : Cursor) : Reading V :=
  match read c.skipBlanks with
  | .ok (e, after) => .ok (e, after.skipBlanks)
  | .error error => .error error

/-- Reads an operand and the blanks around it.  The number is the nesting still allowed; where none
is, the operand is refused before its blanks are skipped. -/
def operand (d : Domain V) (links : Nat) : Nat → Cursor → Reading V
  | 0, c => .error (.tooDeep c.column)
  | nesting + 1, c => betweenBlanks (bareOperand d links (operand d links nesting)) c

/-! ### Whole texts -/

/-- The expression that a text consists of, with limits on the nesting of operands and on the
length of chains. -/
def parseWithin (d : Domain V) (nesting links : Nat) (text : List Char) :
    Except ParseError (Expr V) :=
  match expression links (operand d links nesting) (.start text) with
  | .ok (e, after) =>
    if after.peek?.isNone then .ok e else .error (illegalAt .binaryOperator after)
  | .error error => .error error

/-- The expression that a sequence of characters consists of. -/
def parseChars (d : Domain V) (text : List Char) : Except ParseError (Expr V) :=
  parseWithin d maxNesting text.length text

/-- The expression that a text consists of. -/
def parse (d : Domain V) (text : String) : Except ParseError (Expr V) :=
  parseChars d text.toList

end Formula
