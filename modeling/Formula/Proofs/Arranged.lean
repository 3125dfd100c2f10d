import Formula.Proofs.Residues

/-!
# What a text without some of its brackets is read as

Where brackets are taken away from a tree, its text is still made of the same symbols, but the tree
may no longer be the one that the text stands for: an operator on one operand takes the first
operand of what follows it, and an operator on two operands takes the terms next to it.  The tree
can be arranged as the text is read, one operator after the other, without a change to its symbols.
The result misses no brackets, so every text of a tree is an expression.

## Main definitions

* `Bracketed.joinUnary`, `Bracketed.joinBinary` — an operator joined to trees as their texts require
* `Bracketed.arranged` — a tree arranged as its text is read
* `Bracketed.openings` — how many brackets are opened where

## Main statements

* `Bracketed.wellBracketed_arranged` — no bracket is missing
* `Bracketed.text_arranged`, `Bracketed.openings_arranged` — the symbols are the same
* `Bracketed.parse_text_arranged` — the text of any tree is read, or refused for its nesting
-/

namespace Formula

namespace Bracketed

variable {V : Type}

/-! ### Joining -/

/-- An operator on one operand in front of a tree.  It applies to the first operand. -/
def joinUnary (op : UnaryOp) : Bracketed V → Bracketed V
  | binary inner left right => binary inner (left.joinUnary op) right
  | b => unary op b

/-- A tree and an operator in front of another tree.  Operators of a lower rank stay above. -/
def joinRight (op : BinaryOp) (first : Bracketed V) : Bracketed V → Bracketed V
  | binary inner left right =>
      if inner.rank < op.rank then binary inner (first.joinRight op left) right
      else binary op first (binary inner left right)
  | b => binary op first b

/-- An operator between two trees.  Operators of a lower rank stay above, on both sides. -/
def joinBinary (op : BinaryOp) : Bracketed V → Bracketed V → Bracketed V
  | binary inner left right, last =>
      if inner.rank < op.rank then binary inner left (right.joinBinary op last)
      else (binary inner left right).joinRight op last
  | b, last => b.joinRight op last

/-- The tree with the symbols of a given one, arranged as its text is read. -/
def arranged : Bracketed V → Bracketed V
  | const value => const value
  | var v => var v
  | unary op operand => operand.arranged.joinUnary op
  | binary op left right => left.arranged.joinBinary op right.arranged
  | group inner => group inner.arranged

/-! ### No bracket is missing -/

theorem rank_joinUnary (op : UnaryOp) (b : Bracketed V) : (b.joinUnary op).rank = b.rank := by
  cases b <;> rfl

theorem WellBracketed.joinUnary {b : Bracketed V} (wellBracketed : b.WellBracketed)
    (op : UnaryOp) : (b.joinUnary op).WellBracketed := by
  induction b with
  | const value => exact ⟨rfl, trivial⟩
  | var v => exact ⟨rfl, trivial⟩
  | unary inner operand _ => exact ⟨rfl, wellBracketed⟩
  | binary inner left right ihLeft _ =>
      obtain ⟨bindsLeft, bindsRight, wellLeft, wellRight⟩ := wellBracketed
      exact ⟨(rank_joinUnary op left).symm ▸ bindsLeft, bindsRight, ihLeft wellLeft, wellRight⟩
  | group inner _ => exact ⟨rfl, wellBracketed⟩

theorem rank_joinRight (op : BinaryOp) (first b : Bracketed V) :
    (first.joinRight op b).rank = min op.rank b.rank := by
  have below : op.rank ≤ 3 := Nat.le_of_lt op.rank_lt_three
  cases b with
  | binary inner left right =>
      rw [joinRight]
      split
      next lower => exact (Nat.min_eq_right (Nat.le_of_lt lower)).symm
      next higher => exact (Nat.min_eq_left (Nat.le_of_not_lt higher)).symm
  | const | var | unary | group => exact (Nat.min_eq_left below).symm

theorem WellBracketed.joinRight {op : BinaryOp} {first b : Bracketed V}
    (wellBracketed : b.WellBracketed) (binds : op.rank ≤ first.rank)
    (wellFirst : first.WellBracketed) : (first.joinRight op b).WellBracketed := by
  have below : op.rank ≤ 3 := Nat.le_of_lt op.rank_lt_three
  induction b with
  | const value => exact ⟨binds, below, wellFirst, trivial⟩
  | var v => exact ⟨binds, below, wellFirst, trivial⟩
  | unary inner operand _ => exact ⟨binds, below, wellFirst, wellBracketed⟩
  | binary inner left right ihLeft _ =>
      rw [Bracketed.joinRight]
      split
      next lower =>
        obtain ⟨bindsLeft, bindsRight, wellLeft, wellRight⟩ := wellBracketed
        refine ⟨?_, bindsRight, ihLeft wellLeft, wellRight⟩
        rw [rank_joinRight]
        exact Nat.le_min.mpr ⟨Nat.le_of_lt lower, bindsLeft⟩
      next higher => exact ⟨binds, Nat.le_of_not_lt higher, wellFirst, wellBracketed⟩
  | group inner _ => exact ⟨binds, below, wellFirst, wellBracketed⟩

theorem rank_joinBinary (op : BinaryOp) (b last : Bracketed V) :
    (b.joinBinary op last).rank = min b.rank (min op.rank last.rank) := by
  have below : min op.rank last.rank ≤ 3 :=
    Nat.le_trans (Nat.min_le_left _ _) (Nat.le_of_lt op.rank_lt_three)
  have alone (isOperand : b.rank = 3) :
      (b.joinRight op last).rank = min b.rank (min op.rank last.rank) := by
    rw [rank_joinRight, isOperand, Nat.min_eq_right below]
  cases b with
  | binary inner left right =>
      rw [joinBinary]
      split
      next lower =>
        -- Of two ranks the lower one is the lowest that there is.
        have := op.rank_le
        have := last.rank_pos
        have own (right : Bracketed V) : (binary inner left right).rank = inner.rank := rfl
        rw [own, own]
        omega
      next higher =>
        rw [rank_joinRight, rank]
        omega
  | const | var | unary | group => exact alone rfl

theorem WellBracketed.joinBinary {op : BinaryOp} {b last : Bracketed V}
    (wellBracketed : b.WellBracketed) (wellLast : last.WellBracketed) :
    (b.joinBinary op last).WellBracketed := by
  have below : op.rank ≤ 3 := Nat.le_of_lt op.rank_lt_three
  induction b with
  | const value => exact wellLast.joinRight below wellBracketed
  | var v => exact wellLast.joinRight below wellBracketed
  | unary inner operand _ => exact wellLast.joinRight below wellBracketed
  | binary inner left right _ ihRight =>
      rw [Bracketed.joinBinary]
      split
      next lower =>
        obtain ⟨bindsLeft, bindsRight, wellLeft, wellRight⟩ := wellBracketed
        refine ⟨bindsLeft, ?_, wellLeft, ihRight wellRight⟩
        have := op.rank_le
        have := last.rank_pos
        rw [rank_joinBinary]
        omega
      next higher => exact wellLast.joinRight (Nat.le_of_not_lt higher) wellBracketed
  | group inner _ => exact wellLast.joinRight below wellBracketed

/-- **No bracket is missing** in a tree that is arranged as its text is read. -/
theorem wellBracketed_arranged (b : Bracketed V) : b.arranged.WellBracketed := by
  induction b with
  | const value => trivial
  | var v => trivial
  | unary op operand ih => exact ih.joinUnary op
  | binary op left right ihLeft ihRight => exact ihLeft.joinBinary ihRight
  | group inner ih => exact ih

/-! ### The symbols are the same -/

section Text

variable (constant : V → String)

theorem text_joinUnary (op : UnaryOp) (b : Bracketed V) :
    (b.joinUnary op).text constant = (unary op b).text constant := by
  induction b with
  | binary inner left right ihLeft _ => simp only [joinUnary, text, ihLeft, String.append_assoc]
  | const | var | unary | group => rfl

theorem text_joinRight (op : BinaryOp) (first b : Bracketed V) :
    (first.joinRight op b).text constant = (binary op first b).text constant := by
  induction b with
  | binary inner left right ihLeft _ =>
      rw [joinRight]
      split
      next => simp only [text, ihLeft, String.append_assoc]
      next => rfl
  | const | var | unary | group => rfl

theorem text_joinBinary (op : BinaryOp) (b last : Bracketed V) :
    (b.joinBinary op last).text constant = (binary op b last).text constant := by
  induction b with
  | binary inner left right _ ihRight =>
      rw [joinBinary]
      split
      next => simp only [text, ihRight, String.append_assoc]
      next => exact text_joinRight constant op _ last
  | const | var | unary | group => exact text_joinRight constant op _ last

/-- An arranged tree has the text of the tree. -/
theorem text_arranged (b : Bracketed V) : b.arranged.text constant = b.text constant := by
  induction b with
  | const value => rfl
  | var v => rfl
  | unary op operand ih => rw [arranged, text_joinUnary, text, text, ih]
  | binary op left right ihLeft ihRight =>
      rw [arranged, text_joinBinary, text, text, ihLeft, ihRight]
  | group inner ih => rw [arranged, text, text, ih]

end Text

/-- How many brackets are opened in front of each leaf and each operator on one operand, from left
to right, with some brackets before the tree. -/
def openings (before : Nat) : Bracketed V → List Nat
  | const _ => [before]
  | var _ => [before]
  | unary _ operand => before :: operand.openings 0
  | binary _ left right => left.openings before ++ right.openings 0
  | group inner => inner.openings (before + 1)

theorem openings_joinUnary (op : UnaryOp) (b : Bracketed V) (before : Nat) :
    (b.joinUnary op).openings before = (unary op b).openings before := by
  induction b with
  | binary inner left right ihLeft _ =>
      simp only [joinUnary, openings, ihLeft, List.cons_append]
  | const | var | unary | group => rfl

theorem openings_joinRight (op : BinaryOp) (first b : Bracketed V) (before : Nat) :
    (first.joinRight op b).openings before = (binary op first b).openings before := by
  induction b with
  | binary inner left right ihLeft _ =>
      rw [joinRight]
      split
      next => simp only [openings, ihLeft, List.append_assoc]
      next => rfl
  | const | var | unary | group => rfl

theorem openings_joinBinary (op : BinaryOp) (b last : Bracketed V) (before : Nat) :
    (b.joinBinary op last).openings before = (binary op b last).openings before := by
  induction b generalizing before with
  | binary inner left right _ ihRight =>
      rw [joinBinary]
      split
      next => simp only [openings, ihRight, List.append_assoc]
      next => exact openings_joinRight op _ last before
  | const | var | unary | group => exact openings_joinRight op _ last before

/-- In an arranged tree brackets are opened where they are opened in the tree. -/
theorem openings_arranged (b : Bracketed V) (before : Nat) :
    b.arranged.openings before = b.openings before := by
  induction b generalizing before with
  | const value => rfl
  | var v => rfl
  | unary op operand ih => rw [arranged, openings_joinUnary, openings, openings, ih]
  | binary op left right ihLeft ihRight =>
      rw [arranged, openings_joinBinary, openings, openings, ihLeft, ihRight]
  | group inner ih => rw [arranged, openings, openings, ih]

/-! ### Reading -/

/-- **Every text of a tree is read**, as the reading of the arranged tree with its constants
reduced, or refused for its nesting. -/
theorem parse_text_arranged {mode : Mode} (integral : mode ≠ .float) (b : Bracketed mode.Value) :
    if b.arranged.nesting ≤ maxNesting then
      parse mode.domain (b.text mode.domain.text) = .ok (b.arranged.reading.map mode.reduce)
    else
      ∃ position, parse mode.domain (b.text mode.domain.text) = .error (.tooDeep position) := by
  rw [← b.text_arranged]
  exact parse_text_reduce integral b.wellBracketed_arranged

end Bracketed

end Formula
