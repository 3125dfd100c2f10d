import Formula.Expr

/-!
# Postorder listings

The nodes of an expression, operands before their operator and left before right, form a list from
which the tree can be built again with a stack.

## Main definitions

* `Instruction` — what a node does to the stack
* `Expr.postorder` — the listing of a tree
* `Expr.ofPostorder?` — the tree of a listing, if the list is one
-/

namespace Formula

/-- One entry of a postorder listing.  A leaf pushes, an operator takes its operands from the stack
and pushes its result. -/
inductive Instruction (V : Type) where
  | const (value : V)
  | var (letter : Variable)
  | unary (op : UnaryOp)
  | binary (op : BinaryOp)

namespace Expr

variable {V : Type}

/-- The nodes of a tree in postorder, in front of a given listing. -/
def postorderOnto : Expr V → List (Instruction V) → List (Instruction V)
  | const value, after => .const value :: after
  | var v, after => .var v :: after
  | unary op operand, after => operand.postorderOnto (.unary op :: after)
  | binary op left right, after =>
      left.postorderOnto (right.postorderOnto (.binary op :: after))

/-- The nodes of a tree, operands first and the left operand before the right one. -/
def postorder (e : Expr V) : List (Instruction V) := e.postorderOnto []

/-- One instruction on a stack of trees, the last operand on top.  There is no result where an
operand is missing. -/
def push? : Instruction V → List (Expr V) → Option (List (Expr V))
  | .const value, stack => some (const value :: stack)
  | .var v, stack => some (var v :: stack)
  | .unary op, operand :: stack => some (unary op operand :: stack)
  | .binary op, right :: left :: stack => some (binary op left right :: stack)
  | _, _ => none

/-- The tree whose postorder listing is given.  A list that is no listing has none: one that misses
an operand, or leaves another number of trees than one. -/
def ofPostorder? (listing : List (Instruction V)) : Option (Expr V) :=
  match listing.foldlM (fun stack instruction => push? instruction stack) [] with
  | some [e] => some e
  | _ => none

end Expr

end Formula
