import Formula.Domain.CheckedInt
import Formula.Expr.Postorder
import Formula.Proofs.Expr.Basic
import Formula.Proofs.Expr.Value

/-!
# Evaluation on a stack machine

The postorder listing of an expression is a program for a machine with a stack.  A leaf pushes its
value.  An operator takes its operands from the stack, the right one first, and pushes its result.
The machine halts at the first operator that has no result.

Evaluation is the same as running this program.  So operands are valued from left to right, nothing
is valued after a failure, and the error of an expression is that of the first node in postorder
that has no value.  The operands of this node have values, and it is their operation that fails.

## Main definitions

* `Instruction.execute`, `Machine.run` — the machine
* `Expr.instruction` — the instruction of a node
* `Expr.FailsAtRoot` — the operation at the root fails, and none before it

## Main statements

* `Machine.run_postorderOnto` — the program of an expression in front of any other
* `Expr.value_eq_error_iff` — which error an expression has
* `value_eq_run_postorder` — evaluation and the machine agree
-/

namespace Formula

variable {V : Type} {d : Domain V} {p : Point}

/-! ### The machine -/

/-- Why a machine halts before the end of its program. -/
inductive Halt where
  | failed (error : ArithmeticError)
  | missingOperand
  deriving DecidableEq

/-- Pushes the result of an operation, if there is one. -/
def pushResult (result : Except ArithmeticError V) (stack : List V) : Except Halt (List V) :=
  match result with
  | .ok value => .ok (value :: stack)
  | .error error => .error (.failed error)

/-- One step of the machine.  The first item of the stack is on its top, so the right operand comes
before the left one. -/
def Instruction.execute (d : Domain V) (p : Point) :
    Instruction V → List V → Except Halt (List V)
  | .const value, stack => .ok (value :: stack)
  | .var v, stack => .ok (d.ofInt32 (p.coordinate v) :: stack)
  | .unary op, a :: stack => pushResult (d.unary op a) stack
  | .binary op, b :: a :: stack => pushResult (d.binary op a b) stack
  | _, _ => .error .missingOperand

namespace Machine

/-- Executes the instructions of a program one after the other, up to the first that halts the
machine. -/
def run (d : Domain V) (p : Point) : List (Instruction V) → List V → Except Halt (List V)
  | [], stack => .ok stack
  | instruction :: program, stack =>
    match instruction.execute d p stack with
    | .ok stack => run d p program stack
    | .error halt => .error halt

theorem run_cons (instruction : Instruction V) (program : List (Instruction V)) (stack : List V) :
    run d p (instruction :: program) stack =
      (instruction.execute d p stack).bind (run d p program) := by
  rw [run]
  cases instruction.execute d p stack <;> rfl

/-- A result is pushed for the rest of the program, or halts the machine. -/
theorem pushResult_bind (result : Except ArithmeticError V) (stack : List V)
    (program : List (Instruction V)) :
    (pushResult result stack).bind (run d p program) =
      match result with
      | .ok value => run d p program (value :: stack)
      | .error error => .error (.failed error) := by
  cases result <;> rfl

/-- The program of an expression leaves its value on the stack for the rest of the program, or halts
the machine. -/
theorem run_postorderOnto (e : Expr V) (after : List (Instruction V)) (stack : List V) :
    run d p (e.postorderOnto after) stack =
      match e.value d p with
      | .ok value => run d p after (value :: stack)
      | .error error => .error (.failed error) := by
  induction e generalizing after stack with
  | const value => rfl
  | var v => rfl
  | unary op operand ih =>
      rw [Expr.postorderOnto, ih]
      cases result : operand.value d p with
      | error error => rw [Expr.value_unary_error op result]
      | ok a =>
          rw [Expr.value_unary op result]
          exact (run_cons _ after (a :: stack)).trans (pushResult_bind _ stack after)
  | binary op left right ihLeft ihRight =>
      rw [Expr.postorderOnto, ihLeft]
      cases resultLeft : left.value d p with
      | error error => rw [Expr.value_left_error op right resultLeft]
      | ok a =>
          dsimp only
          rw [ihRight]
          cases resultRight : right.value d p with
          | error error => rw [Expr.value_right_error op resultLeft resultRight]
          | ok b =>
              rw [Expr.value_binary op resultLeft resultRight]
              exact (run_cons _ after (b :: a :: stack)).trans (pushResult_bind _ stack after)

/-- Running the program of an expression is evaluation. -/
theorem run_postorder (e : Expr V) : run d p e.postorder [] = pushResult (e.value d p) [] := by
  rw [Expr.postorder, run_postorderOnto]
  cases e.value d p <;> rfl

end Machine

namespace Expr

/-! ### Failures -/

/-- The instruction of the root. -/
def instruction : Expr V → Instruction V
  | const value => .const value
  | var v => .var v
  | unary op _ => .unary op
  | binary op _ _ => .binary op

/-- The listing of an expression has an instruction for each of its nodes, in the order of their
evaluation. -/
theorem postorderOnto_eq (e : Expr V) (after : List (Instruction V)) :
    e.postorderOnto after = e.subtrees.map instruction ++ after := by
  induction e generalizing after with
  | const value => rfl
  | var v => rfl
  | unary op operand ih => simp [postorderOnto, subtrees, instruction, ih]
  | binary op left right ihLeft ihRight =>
      simp [postorderOnto, subtrees, instruction, ihLeft, ihRight]

/-- The operation at the root fails, applied to the values of the operands. -/
inductive FailsAtRoot (d : Domain V) (p : Point) : Expr V → ArithmeticError → Prop
  | unary {op : UnaryOp} {operand : Expr V} {a : V} {error : ArithmeticError}
      (value : operand.value d p = .ok a) (fails : d.unary op a = .error error) :
      FailsAtRoot d p (.unary op operand) error
  | binary {op : BinaryOp} {left right : Expr V} {a b : V} {error : ArithmeticError}
      (valueLeft : left.value d p = .ok a) (valueRight : right.value d p = .ok b)
      (fails : d.binary op a b = .error error) : FailsAtRoot d p (.binary op left right) error

/-- Whether an expression has no value. -/
def lacksValue (d : Domain V) (p : Point) (e : Expr V) : Bool :=
  match e.value d p with
  | .ok _ => false
  | .error _ => true

/-- The first node without a value, in the order of evaluation. -/
def firstWithoutValue? (d : Domain V) (p : Point) (e : Expr V) : Option (Expr V) :=
  e.subtrees.find? (lacksValue d p)

variable {e u : Expr V} {error : ArithmeticError} {x : V}

theorem lacksValue_of_ok (result : e.value d p = .ok x) : e.lacksValue d p = false := by
  rw [lacksValue, result]

theorem lacksValue_of_error (result : e.value d p = .error error) : e.lacksValue d p = true := by
  rw [lacksValue, result]

theorem firstWithoutValue?_unary (op : UnaryOp) (operand : Expr V) :
    (unary op operand).firstWithoutValue? d p =
      (operand.firstWithoutValue? d p).or
        (if (unary op operand).lacksValue d p then some (unary op operand) else none) := by
  rw [firstWithoutValue?, subtrees, List.find?_append, List.find?_singleton]
  rfl

theorem firstWithoutValue?_binary (op : BinaryOp) (left right : Expr V) :
    (binary op left right).firstWithoutValue? d p =
      ((left.firstWithoutValue? d p).or (right.firstWithoutValue? d p)).or
        (if (binary op left right).lacksValue d p then some (binary op left right) else none) := by
  rw [firstWithoutValue?, subtrees, List.find?_append, List.find?_append, List.find?_singleton]
  rfl

/-- A node whose operation fails has no value. -/
theorem FailsAtRoot.value_eq (fails : FailsAtRoot d p u error) : u.value d p = .error error := by
  cases fails with
  | unary value fails => exact (value_unary _ value).trans fails
  | binary valueLeft valueRight fails => exact (value_binary _ valueLeft valueRight).trans fails

/-- How the evaluation of an expression ends: with a value, and so does that of all its nodes, or
with the error of the first node without a value, whose operation fails. -/
inductive Ending (d : Domain V) (p : Point) (e : Expr V) : Prop
  | value (x : V) (result : e.value d p = .ok x) (noFailure : e.firstWithoutValue? d p = none)
  | failure {u : Expr V} {error : ArithmeticError} (result : e.value d p = .error error)
      (first : e.firstWithoutValue? d p = some u) (root : FailsAtRoot d p u error)

namespace Ending

/-- An operator that is applied to values ends with the result of its operation. -/
theorem of_root {result : Except ArithmeticError V} (valued : e.value d p = result)
    (first : e.firstWithoutValue? d p = if e.lacksValue d p then some e else none)
    (root : ∀ error, result = .error error → FailsAtRoot d p e error) : Ending d p e := by
  cases result with
  | ok x => exact .value x valued (by rw [first, lacksValue_of_ok valued]; rfl)
  | error error =>
      exact .failure valued (by rw [first, lacksValue_of_error valued]; rfl) (root error rfl)

theorem leaf (valued : e.value d p = .ok x) (alone : e.subtrees = [e]) : Ending d p e := by
  refine .value x valued ?_
  rw [firstWithoutValue?, alone, List.find?_singleton, lacksValue_of_ok valued]
  rfl

theorem unary (op : UnaryOp) {operand : Expr V} (ending : Ending d p operand) :
    Ending d p (.unary op operand) := by
  have split := firstWithoutValue?_unary (d := d) (p := p) op operand
  cases ending with
  | value a result noFailure =>
      rw [noFailure, Option.none_or] at split
      exact .of_root (value_unary op result) split fun error fails => .unary result fails
  | failure result first root =>
      rw [first, Option.some_or] at split
      exact .failure (value_unary_error op result) split root

/-- The right operand is valued only if the left one has a value. -/
theorem binary (op : BinaryOp) {left right : Expr V} (endingLeft : Ending d p left)
    (endingRight : Ending d p right) : Ending d p (.binary op left right) := by
  have split := firstWithoutValue?_binary (d := d) (p := p) op left right
  cases endingLeft with
  | failure result first root =>
      rw [first, Option.some_or, Option.some_or] at split
      exact .failure (value_left_error op right result) split root
  | value a resultLeft noFailureLeft =>
      rw [noFailureLeft, Option.none_or] at split
      cases endingRight with
      | failure result first root =>
          rw [first, Option.some_or] at split
          exact .failure (value_right_error op resultLeft result) split root
      | value b resultRight noFailureRight =>
          rw [noFailureRight, Option.none_or] at split
          exact .of_root (value_binary op resultLeft resultRight) split
            fun error fails => .binary resultLeft resultRight fails

end Ending

/-- **How evaluation ends**, by induction on the expression with one case for each kind of node. -/
theorem ending (d : Domain V) (p : Point) (e : Expr V) : Ending d p e := by
  induction e with
  | const value => exact .leaf rfl rfl
  | var v => exact .leaf rfl rfl
  | unary op operand ih => exact .unary op ih
  | binary op left right ihLeft ihRight => exact .binary op ihLeft ihRight

/-- The error of an expression is that of the operation of its first node without a value. -/
theorem value_eq_error_iff : e.value d p = .error error ↔
    ∃ u, e.firstWithoutValue? d p = some u ∧ FailsAtRoot d p u error := by
  constructor
  · intro failed
    cases ending d p e with
    | value x result => cases failed.symm.trans result
    | failure result first root =>
        cases failed.symm.trans result
        exact ⟨_, first, root⟩
  · rintro ⟨u, first, root⟩
    cases ending d p e with
    | value x result noFailure => cases noFailure.symm.trans first
    | failure result first' root' =>
        obtain rfl := Option.some.inj (first.symm.trans first')
        exact result.trans (root'.value_eq.symm.trans root.value_eq)

/-- An expression has no value if any of its nodes has none. -/
theorem lacksValue_of_mem_subtrees (member : u ∈ e.subtrees) (lacks : u.lacksValue d p = true) :
    e.lacksValue d p = true := by
  cases ending d p e with
  | value x result noFailure => exact absurd lacks (List.find?_eq_none.mp noFailure u member)
  | failure result => exact lacksValue_of_error result

end Expr

/-- **Evaluation is running the postorder listing**, in every number system.  The listing has the
instructions of the nodes, operands first and left before right.  Running it on a stack leaves the
value of the expression there, or halts with its error.  This is the error of the first node in
postorder that has no value, the operation of which fails on the values of its operands, and if any
node has no value the whole expression has none. -/
theorem value_eq_run_postorder (d : Domain V) (p : Point) (e : Expr V) :
    (match e.value d p with
      | .ok value => Machine.run d p e.postorder [] = .ok [value]
      | .error error => Machine.run d p e.postorder [] = .error (.failed error)) ∧
    e.postorder = e.subtrees.map Expr.instruction ∧
    (∀ error, e.value d p = .error error ↔
      ∃ u, e.firstWithoutValue? d p = some u ∧ Expr.FailsAtRoot d p u error) ∧
    ∀ u ∈ e.subtrees, u.lacksValue d p = true → e.lacksValue d p = true := by
  refine ⟨?_, ?_, fun error => Expr.value_eq_error_iff,
    fun u member lacks => Expr.lacksValue_of_mem_subtrees member lacks⟩
  · have ran := Machine.run_postorder (d := d) (p := p) e
    cases result : e.value d p with
    | ok value => rwa [result] at ran
    | error error => rwa [result] at ran
  · rw [Expr.postorder, Expr.postorderOnto_eq, List.append_nil]

/-- Where neither operand has a value, the left one is reported. -/
example :
    (Expr.binary .add (.binary .divide (.const 1) (.const 0))
      (.unary .negate (.const Int32.minValue))).value checkedInt .origin =
    .error (.divisionByZero (.binary .divide 1 0)) := rfl

end Formula
