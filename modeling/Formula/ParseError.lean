/-!
# Errors of reading

A text that is no expression is refused at one place, for one of four reasons.

## Main definitions

* `maxNesting` — how deeply operands may be nested
* `Expectation` — what could have followed at the place of an error
* `ParseError`, `ParseError.position`, `ParseError.message` — the errors
-/

namespace Formula

/-- The greatest number of operands inside one another, through brackets or unary operators. -/
def maxNesting : Nat := 256

/-- What an expression could have gone on with. -/
inductive Expectation where
  | operand
  | binaryOperator
  deriving DecidableEq

/-- The description of what was expected. -/
def Expectation.description : Expectation → String
  | operand => "constant, variable, unary operation or bracket expression"
  | binaryOperator => "binary operator"

/-- Why a text is no expression.  Positions count the characters of the text from one; a character
that was not found is missing where the text ends. -/
inductive ParseError where
  /-- An opening bracket is not closed where its content ends. -/
  | bracketImbalance (position : Nat) (found : Option Char)
  /-- Something else stands in the place of an operand or an operator. -/
  | illegalSymbol (expected : Expectation) (position : Nat) (found : Option Char)
  /-- A run of characters of a constant denotes no value. -/
  | constantFormat (first last : Nat) (literal : List Char)
  /-- An operand is nested too deeply. -/
  | tooDeep (position : Nat)
  deriving DecidableEq

namespace ParseError

/-- The description of what was found. -/
def found : Option Char → String
  | some c => c.toString
  | none => "end of input"

/-- The place that the error points at: the first character of a malformed constant, and otherwise
the place where reading stopped. -/
def position : ParseError → Nat
  | bracketImbalance position _ => position
  | illegalSymbol _ position _ => position
  | constantFormat first _ _ => first
  | tooDeep position => position

/-- The report that something was expected and something else found. -/
def expectedFound (expected : String) (position : Nat) (c : Option Char) : String :=
  "Expected: " ++ expected ++ " on position " ++ toString position ++ "\nFound: " ++ found c

/-- What is reported about a text that is no expression. -/
def message : ParseError → String
  | bracketImbalance position c => expectedFound ")" position c
  | illegalSymbol expected position c => expectedFound expected.description position c
  | constantFormat first last literal =>
      "Invalid constant on positions " ++ toString first ++ " - " ++ toString last ++ ": " ++
        String.ofList literal
  | tooDeep position =>
      "Nesting deeper than " ++ toString maxNesting ++ " levels on position " ++ toString position

end ParseError

end Formula
