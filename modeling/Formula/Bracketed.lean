import Formula.Expr

/-!
# Bracketed expressions

A written expression shows its tree through the ranks of the operators, the order from left to
right, and brackets.  A bracketed expression is a tree in which each pair of brackets is a node of
its own, so that its text can be read off without further decisions.

## Main definitions

* `Bracketed` — trees with explicit brackets
* `Bracketed.text` — the written form
* `Bracketed.strip` — the tree without its brackets
* `Bracketed.nesting` — how deeply brackets and unary operators enclose a leaf
* `Expr.fullyBracketed` — brackets around every operator on two operands
* `Expr.minimallyBracketed` — only the brackets that ranks and grouping require
-/

namespace Formula

/-- An expression whose brackets are nodes. -/
inductive Bracketed (V : Type) where
  | const (value : V)
  | var (letter : Variable)
  | unary (op : UnaryOp) (operand : Bracketed V)
  | binary (op : BinaryOp) (left right : Bracketed V)
  | group (inner : Bracketed V)

namespace Bracketed

variable {V : Type}

/-- The written form, given the text of the constants.  The blank after a unary operator keeps the
negation of a constant apart from a negative constant. -/
def text (constant : V → String) : Bracketed V → String
  | const value => constant value
  | var v => v.name
  | unary op operand => op.symbol ++ " " ++ operand.text constant
  | binary op left right => left.text constant ++ " " ++ op.symbol ++ " " ++ right.text constant
  | group inner => "(" ++ inner.text constant ++ ")"

/-- The expression that the brackets were put into. -/
def strip : Bracketed V → Expr V
  | const value => .const value
  | var v => .var v
  | unary op operand => .unary op operand.strip
  | binary op left right => .binary op left.strip right.strip
  | group inner => inner.strip

/-- One more than the largest number of brackets and unary operators around one leaf. -/
def nesting : Bracketed V → Nat
  | const _ => 1
  | var _ => 1
  | unary _ operand => operand.nesting + 1
  | binary _ left right => max left.nesting right.nesting
  | group inner => inner.nesting + 1

/-- A tree, in brackets if so required. -/
def groupIf (brackets : Bool) (e : Bracketed V) : Bracketed V :=
  if brackets then group e else e

end Bracketed

/-- Where an expression stands in a written form. -/
inductive Slot where
  /-- On its own. -/
  | whole
  /-- As the operand of a unary operator. -/
  | operand
  /-- As the left operand of an operator. -/
  | left (parent : BinaryOp)
  /-- As the right operand of an operator. -/
  | right (parent : BinaryOp)

namespace Expr

variable {V : Type}

/-- The tree with brackets around every operator on two operands. -/
def fullyBracketed : Expr V → Bracketed V
  | const value => .const value
  | var v => .var v
  | unary op operand => .unary op operand.fullyBracketed
  | binary op left right => .group (.binary op left.fullyBracketed right.fullyBracketed)

/-- Whether the operators of a given rank down the left spine, from the root on, are all
continuous.  A right operand without brackets merges this spine into the chain of its parent. -/
def hasContinuousSpine (rank : Nat) : Expr V → Bool
  | binary op left _ => op.rank ≠ rank || (op.isContinuous && left.hasContinuousSpine rank)
  | _ => true

/-- Whether an expression needs brackets where it stands.  A leaf never does, and an operator never
does on its own; below a unary operator every operator does.  Otherwise an operator of lower rank
than its parent needs them, and so does a right operand of the same rank, unless the parent is
associative and the spine of the operand continuous. -/
def needsBrackets : Slot → Expr V → Bool
  | .whole, _ => false
  | _, const _ => false
  | _, var _ => false
  | .operand, _ => true
  | _, unary _ _ => false
  | .left parent, binary op _ _ => op.rank < parent.rank
  | .right parent, e@(binary op _ _) =>
      op.rank < parent.rank ||
        (op.rank == parent.rank && !(parent.isAssociative && e.hasContinuousSpine op.rank))

/-- The tree in a given place with only the brackets that are needed. -/
def minimallyBracketedIn (slot : Slot) : Expr V → Bracketed V
  | const value => .const value
  | var v => .var v
  | unary op operand =>
      .groupIf ((unary op operand).needsBrackets slot)
        (.unary op (operand.minimallyBracketedIn .operand))
  | binary op left right =>
      .groupIf ((binary op left right).needsBrackets slot)
        (.binary op (left.minimallyBracketedIn (.left op))
          (right.minimallyBracketedIn (.right op)))

/-- The tree with only the brackets that are needed. -/
def minimallyBracketed (e : Expr V) : Bracketed V := e.minimallyBracketedIn .whole

/-- The written form with brackets around every operator on two operands. -/
def fullText (constant : V → String) (e : Expr V) : String := e.fullyBracketed.text constant

/-- The written form with only the brackets that are needed. -/
def minimalText (constant : V → String) (e : Expr V) : String :=
  e.minimallyBracketed.text constant

end Expr

end Formula
