import Formula.Cursor
import Formula.Domain
import Formula.Expr

/-!
# The grammar of written expressions

The grammar says which texts are written expressions, and of which trees, without saying how they
are read:

```text
expression := term (('+' | '-') term)*
term       := operand (('*' | '/' | 'mod') operand)*
operand    := blanks bare blanks
bare       := ['-'] digits | '-' operand | 'abs' operand | 'square' operand
            | 'x' | 'y' | 'z' | '(' expression ')'
```

What makes it depend on context is what follows a symbol.  A word is not followed by a letter or
digit, a run of digits not by a further digit, and the minus of a negation not by a digit.

## Main definitions

* `Category` — what a part of a text is
* `UnarySymbol`, `BinarySymbol` — operators in front of a text
* `Derives` — the phrases of the grammar, with their trees and their nesting

## Design notes

`Derives d category text e nesting rest` says that `text` starts with a phrase of the category and
goes on with `rest`.  Keeping the rest of the text in sight is how a rule can look at what follows
a symbol.  The blanks of an operand are any blanks: the grammar does not say that all are taken.
Chains are left recursive, which is what groups them to the left.
-/

namespace Formula

/-- What a part of a written expression is. -/
inductive Category where
  /-- Terms joined by operators of the lower rank. -/
  | expression
  /-- Operands joined by operators of the higher rank. -/
  | term
  /-- An operand with the blanks around it. -/
  | operand
  /-- An operand without the blanks around it. -/
  | bare
  deriving DecidableEq

/-- Whether a text starts with a character of a constant. -/
def Domain.startsConstant {V : Type} (d : Domain V) (text : List Char) : Bool :=
  text.head?.any d.isLiteralChar

/-- An operator on one operand in front of a text.  A minus that a constant follows is no operator,
but the sign of the constant. -/
inductive UnarySymbol {V : Type} (d : Domain V) : UnaryOp → List Char → List Char → Prop
  | negate {rest} (noSign : d.startsConstant rest = false) :
      UnarySymbol d .negate ('-' :: rest) rest
  | abs {rest} (ends : endsWord rest = true) :
      UnarySymbol d .abs ('a' :: 'b' :: 's' :: rest) rest
  | square {rest} (ends : endsWord rest = true) :
      UnarySymbol d .square ('s' :: 'q' :: 'u' :: 'a' :: 'r' :: 'e' :: rest) rest

/-- An operator on two operands in front of a text. -/
inductive BinarySymbol : BinaryOp → List Char → List Char → Prop
  | add {rest} : BinarySymbol .add ('+' :: rest) rest
  | subtract {rest} : BinarySymbol .subtract ('-' :: rest) rest
  | multiply {rest} : BinarySymbol .multiply ('*' :: rest) rest
  | divide {rest} : BinarySymbol .divide ('/' :: rest) rest
  | modulo {rest} (ends : endsWord rest = true) :
      BinarySymbol .modulo ('m' :: 'o' :: 'd' :: rest) rest

/-- **The grammar.**  A text starts with a phrase of a category, whose tree has a nesting of
brackets and unary operators, and goes on with a rest. -/
inductive Derives {V : Type} (d : Domain V) :
    Category → List Char → Expr V → Nat → List Char → Prop
  /-- An expression may be a single term. -/
  | term {text e n rest} (first : Derives d .term text e n rest) :
      Derives d .expression text e n rest
  /-- An expression may go on with an operator of the lower rank and a term. -/
  | sum {text left n mid op next right m rest} (first : Derives d .expression text left n mid)
      (symbol : BinarySymbol op mid next) (isSum : op.rank = 1)
      (last : Derives d .term next right m rest) :
      Derives d .expression text (.binary op left right) (max n m) rest
  /-- A term may be a single operand. -/
  | operand {text e n rest} (first : Derives d .operand text e n rest) :
      Derives d .term text e n rest
  /-- A term may go on with an operator of the higher rank and an operand. -/
  | product {text left n mid op next right m rest} (first : Derives d .term text left n mid)
      (symbol : BinarySymbol op mid next) (isProduct : op.rank = 2)
      (last : Derives d .operand next right m rest) :
      Derives d .term text (.binary op left right) (max n m) rest
  /-- An operand may have blanks on both sides. -/
  | blanks {before text e n after rest} (blanksBefore : ∀ c ∈ before, isBlank c)
      (inner : Derives d .bare text e n (after ++ rest)) (blanksAfter : ∀ c ∈ after, isBlank c) :
      Derives d .operand (before ++ text) e n rest
  /-- A constant is a longest run of its characters, with at most a minus in front. -/
  | constant {sign digits value rest} (isSign : sign = [] ∨ sign = ['-']) (nonempty : digits ≠ [])
      (areDigits : ∀ c ∈ digits, d.isLiteralChar c) (longest : d.startsConstant rest = false)
      (denotes : d.read? (sign ++ digits) = some value) :
      Derives d .bare (sign ++ digits ++ rest) (.const value) 1 rest
  /-- A variable is a word. -/
  | letter {v : Variable} {rest} (ends : endsWord rest = true) :
      Derives d .bare (v.letter :: rest) (.var v) 1 rest
  /-- An operator applies to the operand after it. -/
  | unary {op text next e n rest} (symbol : UnarySymbol d op text next)
      (inner : Derives d .operand next e n rest) :
      Derives d .bare text (.unary op e) (n + 1) rest
  /-- An expression may stand in brackets. -/
  | brackets {text e n rest} (inner : Derives d .expression text e n (')' :: rest)) :
      Derives d .bare ('(' :: text) e (n + 1) rest

variable {V : Type} {d : Domain V}

/-! ### Symbols -/

/-- An operator takes characters of the text. -/
theorem UnarySymbol.length_lt {op : UnaryOp} {text rest : List Char}
    (symbol : UnarySymbol d op text rest) : rest.length < text.length := by
  cases symbol <;> simp only [List.length_cons] <;> omega

/-- An operator takes characters of the text. -/
theorem BinarySymbol.length_lt {op : BinaryOp} {text rest : List Char}
    (symbol : BinarySymbol op text rest) : rest.length < text.length := by
  cases symbol <;> simp only [List.length_cons] <;> omega

/-! ### Phrases -/

namespace Derives

variable {category : Category} {text rest : List Char} {e : Expr V} {n : Nat}

/-- A phrase takes a part of the text. -/
theorem length_le (derivation : Derives d category text e n rest) :
    rest.length ≤ text.length := by
  induction derivation with
  | term _ ih => exact ih
  | sum _ symbol _ _ ihFirst ihLast =>
      have := symbol.length_lt
      omega
  | operand _ ih => exact ih
  | product _ symbol _ _ ihFirst ihLast =>
      have := symbol.length_lt
      omega
  | blanks _ _ _ ih =>
      simp only [List.length_append] at ih ⊢
      omega
  | constant =>
      simp only [List.length_append]
      omega
  | letter => simp
  | unary symbol _ ih =>
      have := symbol.length_lt
      omega
  | brackets _ ih =>
      simp only [List.length_cons] at ih ⊢
      omega

/-- Every leaf counts as one level. -/
theorem nesting_pos (derivation : Derives d category text e n rest) : 0 < n := by
  induction derivation with
  | term _ ih => exact ih
  | sum _ _ _ _ ihFirst _ => omega
  | operand _ ih => exact ih
  | product _ _ _ _ ihFirst _ => omega
  | blanks _ _ _ ih => exact ih
  | constant => exact Nat.one_pos
  | letter => exact Nat.one_pos
  | unary _ _ ih => omega
  | brackets _ ih => omega

end Derives

end Formula
