import Formula.Proofs.Domain.CheckedInt
import Formula.Proofs.Expr.Basic
import Formula.Proofs.Expr.Value

/-!
# Checked evaluation is exact or says so

The same expression can be valued over checked integers, over integers that wrap around, and over
integers of any size.  The last of these gives its exact value, against which the other two are
compared.

An expression is at fault where its exact value leaves the range of 32 bits or where it divides by
zero.  As long as no node is at fault all three evaluations agree.  The first node at fault, in the
order of evaluation, decides what checked evaluation reports, and if it is a division by zero the
other two report it as well.

## Main definitions

* `Expr.exactValue` — the value over integers of any size
* `Expr.leavesRange`, `Expr.hasZeroDivisor`, `Expr.firstFault?` — the faults of an expression
* `Verdict` — the three ways in which the evaluations may end

## Main statements

* `verdict` — there is no other way
* `checkedInt_value_exact` — what can be told from the result of checked evaluation
-/

namespace Formula

namespace Expr

/-- The value over integers of any size. -/
def exactValue (p : Point) (t : Expr Int32) : Except ArithmeticError Int :=
  (t.map Int32.toInt).value bigInteger p

/-- Whether the exact value of an expression is outside the range of 32-bit integers. -/
def leavesRange (p : Point) (t : Expr Int32) : Bool :=
  match t.exactValue p with
  | .ok i => !decide (CheckedInt.InRange i)
  | .error _ => false

/-- Whether an expression is a quotient or a remainder whose divisor has the exact value zero. -/
def hasZeroDivisor (p : Point) : Expr Int32 → Bool
  | binary op _ divisor => op.isDivision && (divisor.exactValue p).toOption == some 0
  | _ => false

/-- Whether evaluation goes wrong at the root of an expression. -/
def isFault (p : Point) (t : Expr Int32) : Bool :=
  t.leavesRange p || t.hasZeroDivisor p

/-- The first node in the order of evaluation at which evaluation goes wrong. -/
def firstFault? (p : Point) (t : Expr Int32) : Option (Expr Int32) :=
  t.subtrees.find? (isFault p)

variable {p : Point}

/-! ### The first fault -/

/-- The fault of a root itself, if it has one. -/
def rootFault? (p : Point) (t : Expr Int32) : Option (Expr Int32) :=
  if t.isFault p then some t else none

theorem firstFault?_unary (op : UnaryOp) (operand : Expr Int32) :
    (unary op operand).firstFault? p =
      (operand.firstFault? p).or ((unary op operand).rootFault? p) := by
  rw [firstFault?, subtrees, List.find?_append, rootFault?, List.find?_singleton]
  rfl

theorem firstFault?_binary (op : BinaryOp) (left right : Expr Int32) :
    (binary op left right).firstFault? p =
      ((left.firstFault? p).or (right.firstFault? p)).or ((binary op left right).rootFault? p) := by
  rw [firstFault?, subtrees, List.find?_append, List.find?_append, rootFault?,
    List.find?_singleton]
  rfl

end Expr

/-! ### Verdicts -/

/-- How the evaluations of an expression over checked integers, over integers of any size and over
integers that wrap around end together. -/
inductive Verdict (p : Point) (t : Expr Int32) : Prop
  /-- They have the same result, and nothing is at fault. -/
  | exact (x : Int32) (checked : t.value checkedInt p = .ok x)
      (exact : t.exactValue p = .ok x.toInt) (unchecked : t.value uncheckedInt p = .ok x)
      (faultless : t.firstFault? p = none)
  /-- They divide by zero in the same operation, and this is the first fault. -/
  | divisionByZero {operation : Operation} {u : Expr Int32}
      (checked : t.value checkedInt p = .error (.divisionByZero operation))
      (exact : t.exactValue p = .error (.divisionByZero operation))
      (unchecked : t.value uncheckedInt p = .error (.divisionByZero operation))
      (fault : t.firstFault? p = some u) (staysInRange : u.leavesRange p = false)
  /-- Checked evaluation overflows, and the first fault is a node that leaves the range. -/
  | overflow {operation : Operation} {u : Expr Int32}
      (checked : t.value checkedInt p = .error (.overflow operation))
      (fault : t.firstFault? p = some u) (leaves : u.leavesRange p = true)

namespace Verdict

variable {p : Point} {t a b : Expr Int32}

/-- A node whose exact value is in the range. -/
theorem of_inRange {x : Int32} (checked : t.value checkedInt p = .ok x)
    (exact : t.exactValue p = .ok x.toInt) (unchecked : t.value uncheckedInt p = .ok x)
    (noZeroDivisor : t.hasZeroDivisor p = false) (faults : t.firstFault? p = t.rootFault? p) :
    Verdict p t := by
  have staysInRange : t.leavesRange p = false := by
    rw [Expr.leavesRange, exact]
    simpa using CheckedInt.inRange_toInt x
  refine .exact x checked exact unchecked ?_
  rw [faults, Expr.rootFault?, Expr.isFault, staysInRange, noZeroDivisor]
  rfl

/-- A node at which an exact result is narrowed. -/
theorem of_narrow (operation : Operation) (i : Int)
    (checked : t.value checkedInt p = CheckedInt.narrow operation i)
    (exact : t.exactValue p = .ok i) (unchecked : t.value uncheckedInt p = .ok (Int32.ofInt i))
    (noZeroDivisor : t.hasZeroDivisor p = false) (faults : t.firstFault? p = t.rootFault? p) :
    Verdict p t := by
  by_cases inRange : CheckedInt.InRange i
  · rw [CheckedInt.narrow, if_pos inRange] at checked
    rw [← CheckedInt.toInt_ofInt inRange] at exact
    exact of_inRange checked exact unchecked noZeroDivisor faults
  · rw [CheckedInt.narrow, if_neg inRange] at checked
    have leaves : t.leavesRange p = true := by
      rw [Expr.leavesRange, exact]
      simpa using inRange
    have fault : t.firstFault? p = some t := by
      rw [faults, Expr.rootFault?, Expr.isFault, leaves]
      rfl
    exact .overflow checked fault leaves

/-- A constant. -/
theorem const (x : Int32) : Verdict p (.const x) :=
  of_inRange rfl rfl rfl rfl (by rw [Expr.firstFault?, Expr.subtrees, List.find?_singleton]; rfl)

/-- A variable: every coordinate is a value of all three number systems. -/
theorem var (v : Variable) : Verdict p (.var v) :=
  of_inRange rfl rfl (congrArg Except.ok (p.coordinate v).ofInt_toInt) rfl
    (by rw [Expr.firstFault?, Expr.subtrees, List.find?_singleton]; rfl)

/-- An operator on one operand. -/
theorem unary (op : UnaryOp) (operand : Verdict p a) : Verdict p (.unary op a) := by
  have faults := Expr.firstFault?_unary (p := p) op a
  cases operand with
  | exact x checked exact unchecked faultless =>
      rw [faultless] at faults
      refine of_narrow (CheckedInt.performed op x.toInt) (op.onInt x.toInt) ?_ ?_ ?_ rfl faults
      · rw [Expr.value_unary op checked, checkedInt_unary]
      · exact (Expr.value_unary op exact).trans (bigInteger_unary op x.toInt)
      · rw [Expr.value_unary op unchecked, uncheckedInt_unary]
  | divisionByZero checked exact unchecked fault staysInRange =>
      rw [fault] at faults
      exact .divisionByZero (Expr.value_unary_error op checked) (Expr.value_unary_error op exact)
        (Expr.value_unary_error op unchecked) faults staysInRange
  | overflow checked fault leaves =>
      rw [fault] at faults
      exact .overflow (Expr.value_unary_error op checked) faults leaves

/-- An operator on two operands that both have values. -/
theorem binary_of_values {op : BinaryOp} {x y : Int32} (checkedLeft : a.value checkedInt p = .ok x)
    (exactLeft : a.exactValue p = .ok x.toInt) (uncheckedLeft : a.value uncheckedInt p = .ok x)
    (checkedRight : b.value checkedInt p = .ok y) (exactRight : b.exactValue p = .ok y.toInt)
    (uncheckedRight : b.value uncheckedInt p = .ok y)
    (faults : (Expr.binary op a b).firstFault? p = (Expr.binary op a b).rootFault? p) :
    Verdict p (.binary op a b) := by
  have checked := Expr.value_binary op checkedLeft checkedRight
  have unchecked := Expr.value_binary op uncheckedLeft uncheckedRight
  have exact : (Expr.binary op a b).exactValue p = bigInteger.binary op x.toInt y.toInt :=
    Expr.value_binary op exactLeft exactRight
  have zeroDivisor : (Expr.binary op a b).hasZeroDivisor p = (op.isDivision && y.toInt == 0) := by
    rw [Expr.hasZeroDivisor, exactRight]
    rfl
  rw [checkedInt_binary] at checked
  rw [uncheckedInt_binary] at unchecked
  rw [bigInteger_binary] at exact
  by_cases divides : op.isDivision = true ∧ y.toInt = 0
  · rw [if_pos divides] at checked unchecked exact
    have staysInRange : (Expr.binary op a b).leavesRange p = false := by
      rw [Expr.leavesRange, exact]
    refine .divisionByZero checked exact unchecked ?_ staysInRange
    rw [faults, Expr.rootFault?, Expr.isFault, zeroDivisor, divides.1, divides.2, staysInRange]
    rfl
  · rw [if_neg divides] at checked unchecked exact
    refine of_narrow _ _ checked exact unchecked ?_ faults
    rw [zeroDivisor]
    simpa using divides

/-- An operator on two operands. -/
theorem binary (op : BinaryOp) (left : Verdict p a) (right : Verdict p b) :
    Verdict p (.binary op a b) := by
  have faults := Expr.firstFault?_binary (p := p) op a b
  -- The right operand is valued only where the left one has a value.
  cases left with
  | exact x checkedLeft exactLeft uncheckedLeft faultlessLeft =>
      rw [faultlessLeft] at faults
      cases right with
      | exact y checkedRight exactRight uncheckedRight faultlessRight =>
          rw [faultlessRight] at faults
          exact binary_of_values checkedLeft exactLeft uncheckedLeft checkedRight exactRight
            uncheckedRight faults
      | divisionByZero checked exact unchecked fault staysInRange =>
          rw [fault] at faults
          exact .divisionByZero (Expr.value_right_error op checkedLeft checked)
            (Expr.value_right_error op exactLeft exact)
            (Expr.value_right_error op uncheckedLeft unchecked) faults staysInRange
      | overflow checked fault leaves =>
          rw [fault] at faults
          exact .overflow (Expr.value_right_error op checkedLeft checked) faults leaves
  | divisionByZero checked exact unchecked fault staysInRange =>
      rw [fault] at faults
      exact .divisionByZero (Expr.value_left_error op b checked)
        (Expr.value_left_error op (b.map Int32.toInt) exact)
        (Expr.value_left_error op b unchecked) faults staysInRange
  | overflow checked fault leaves =>
      rw [fault] at faults
      exact .overflow (Expr.value_left_error op b checked) faults leaves

end Verdict

/-- **The three ways in which evaluation may end.**  The induction follows the tree, as the
evaluations do. -/
theorem verdict (p : Point) (t : Expr Int32) : Verdict p t := by
  induction t with
  | const x => exact .const x
  | var v => exact .var v
  | unary op operand ih => exact ih.unary op
  | binary op left right ihLeft ihRight => exact ihLeft.binary op ihRight

/-- **Checked evaluation is exact or says so.**  A result is the exact value, and the one that
wrapping around gives.  A division by zero is one for exact values and for wrapping around.  And an
overflow is reported if and only if the first node at which exact evaluation leaves the range or
divides by zero is one that leaves the range. -/
theorem checkedInt_value_exact (t : Expr Int32) (p : Point) :
    (∀ x, t.value checkedInt p = .ok x →
      t.exactValue p = .ok x.toInt ∧ t.value uncheckedInt p = .ok x) ∧
    (∀ operation, t.value checkedInt p = .error (.divisionByZero operation) →
      t.exactValue p = .error (.divisionByZero operation) ∧
        t.value uncheckedInt p = .error (.divisionByZero operation)) ∧
    ((∃ operation, t.value checkedInt p = .error (.overflow operation)) ↔
      ∃ u, t.firstFault? p = some u ∧ u.leavesRange p = true) := by
  cases verdict p t with
  | exact x checked exact unchecked faultless =>
      rw [checked, faultless]
      refine ⟨?_, ?_, ?_⟩
      · rintro _ ⟨⟩
        exact ⟨exact, unchecked⟩
      · rintro _ ⟨⟩
      · simp
  | divisionByZero checked exact unchecked fault staysInRange =>
      rw [checked, fault]
      refine ⟨?_, ?_, ?_⟩
      · rintro _ ⟨⟩
      · rintro _ ⟨⟩
        exact ⟨exact, unchecked⟩
      · simp [staysInRange]
  | overflow checked fault leaves =>
      rw [checked, fault]
      refine ⟨?_, ?_, ?_⟩
      · rintro _ ⟨⟩
      · rintro _ ⟨⟩
      · simp [leaves]

end Formula
