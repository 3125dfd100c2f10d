import Formula.Proofs.Bracketed

/-!
# The full form is read back

With brackets around every operator on two operands nothing is left to ranks and chains: the text of
an expression is read as this expression.  The brackets and unary operators around a leaf are then
the nodes above it, so the height of the expression decides whether its text can be read at all.

## Main statements

* `Expr.parse_fullText` — the full form is read as the expression it was written for
-/

namespace Formula

namespace Expr

variable {V : Type}

/-- A fully bracketed tree is an operand. -/
theorem rank_fullyBracketed (t : Expr V) : t.fullyBracketed.rank = 3 := by
  cases t <;> rfl

/-- No brackets are missing in a fully bracketed tree. -/
theorem wellBracketed_fullyBracketed (t : Expr V) : t.fullyBracketed.WellBracketed := by
  have binds (op : BinaryOp) (operand : Expr V) : op.rank ≤ operand.fullyBracketed.rank := by
    rw [rank_fullyBracketed]
    exact Nat.le_of_lt op.rank_lt_three
  induction t with
  | const value => trivial
  | var v => trivial
  | unary op operand ih => exact ⟨operand.rank_fullyBracketed, ih⟩
  | binary op left right ihLeft ihRight =>
      exact ⟨binds op left, binds op right, ihLeft, ihRight⟩

@[simp] theorem strip_fullyBracketed (t : Expr V) : t.fullyBracketed.strip = t := by
  induction t with
  | const value => rfl
  | var v => rfl
  | unary op operand ih => rw [fullyBracketed, Bracketed.strip, ih]
  | binary op left right ihLeft ihRight =>
      rw [fullyBracketed, Bracketed.strip, Bracketed.strip, ihLeft, ihRight]

/-- Each node above a leaf puts brackets or an operator around it. -/
theorem nesting_fullyBracketed (t : Expr V) : t.fullyBracketed.nesting = t.height := by
  induction t with
  | const value => rfl
  | var v => rfl
  | unary op operand ih => rw [fullyBracketed, Bracketed.nesting, ih, height, Nat.add_comm]
  | binary op left right ihLeft ihRight =>
      rw [fullyBracketed, Bracketed.nesting, Bracketed.nesting, ihLeft, ihRight, height,
        Nat.add_comm]

/-- Wherever a fully bracketed tree stands, it is read as the expression. -/
theorem readAfter_fullyBracketed (t : Expr V) (lead : Lead V) :
    t.fullyBracketed.readAfter lead = lead.join t := by
  induction t generalizing lead with
  | const value => rfl
  | var v => rfl
  | unary op operand ih => rw [fullyBracketed, Bracketed.readAfter, ih, Lead.join]
  | binary op left right ihLeft ihRight =>
      have inner : (Bracketed.binary op left.fullyBracketed right.fullyBracketed).readAfter .start =
          binary op left right :=
        calc (Bracketed.binary op left.fullyBracketed right.fullyBracketed).readAfter .start
            = right.fullyBracketed.readAfter (.chain (left.fullyBracketed.readAfter .start) op) :=
              rfl
          _ = binary op left right := by rw [ihRight, ihLeft, Lead.join, Lead.join]
      rw [fullyBracketed, Bracketed.readAfter, inner]

/-- **The full form is read back.**  In every mode of integers the text of an expression whose
constants are reduced is read as this very expression if the expression is not too high, and is
otherwise refused as nested too deeply. -/
theorem parse_fullText {mode : Mode} (integral : mode ≠ .float) (t : Expr mode.Value)
    (reduced : ∀ value ∈ t.constants, mode.IsReduced value) :
    if t.height ≤ maxNesting then parse mode.domain (t.fullText mode.domain.text) = .ok t
    else
      ∃ position,
        parse mode.domain (t.fullText mode.domain.text) = .error (.tooDeep position) := by
  have reading := Bracketed.parse_text (d := mode.domain) t.wellBracketed_fullyBracketed
    fun value member => mode.rereads integral (reduced value (t.strip_fullyBracketed ▸ member))
  rwa [nesting_fullyBracketed, Bracketed.reading, readAfter_fullyBracketed] at reading

/-- The full form of a negated residue from which a variable is subtracted. -/
theorem parse_fullText_residue :
    parse Mode.modularInt.domain (fullText Mode.modularInt.domain.text
        (.binary .subtract (.unary .negate (.const (1008 : Int32))) (.var .x))) =
      .ok (.binary .subtract (.unary .negate (.const (1008 : Int32))) (.var .x)) := by
  have reduced : ∀ value ∈ [(1008 : Int32)], Mode.modularInt.IsReduced value := by
    intro value member
    obtain rfl := List.mem_singleton.mp member
    exact ⟨by decide, by decide⟩
  have reading := @parse_fullText .modularInt (by decide)
    (.binary .subtract (.unary .negate (.const (1008 : Int32))) (.var .x)) reduced
  rwa [if_pos (by decide)] at reading

end Expr

end Formula
