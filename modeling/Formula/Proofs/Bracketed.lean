import Formula.Bracketed
import Formula.Proofs.Constants
import Formula.Proofs.Expr.Basic
import Formula.Proofs.Grammar.Complete
import Formula.Proofs.Grammar.Rank

/-!
# How a bracketed expression is read

A bracketed expression need not be read as the tree that it was written for.  Operators of one rank
form a chain, and a chain groups to the left, whatever the tree of nodes was.  What a text is read
as is therefore found by walking through the tree with what has been read of the chain so far.

The text is a phrase of the grammar as soon as no operator stands below one of a higher rank without
brackets, and the operand of a unary operator is no operator on two operands.

## Main definitions

* `Lead`, `Bracketed.readAfter` — the tree that is read, given what comes before it in its chain
* `Bracketed.rank`, `Bracketed.WellBracketed` — where brackets cannot be missing
* `Bracketed.IsDerived` — the text is a phrase, on its own and in a chain

## Main statements

* `Bracketed.isDerived` — the texts of well-bracketed trees are phrases of the grammar
* `Bracketed.parse_text` — how they are read
-/

namespace Formula

variable {V : Type}

/-- What comes before an operand in its chain. -/
inductive Lead (V : Type) where
  /-- The operand is the first one. -/
  | start
  /-- A part of the chain and an operator come before it. -/
  | chain (left : Expr V) (op : BinaryOp)

namespace Lead

/-- An operand joined to what comes before it. -/
def join : Lead V → Expr V → Expr V
  | start, e => e
  | chain left op, e => .binary op left e

/-- Whether an operator of a rank belongs to the chain that its left operand stands in. -/
def continues (rank : Nat) : Lead V → Bool
  | start => false
  | chain _ op => op.rank == rank

end Lead

namespace Bracketed

/-! ### Readings -/

/-- What is read of a chain once a tree has been read in it. -/
def readAfter : Bracketed V → Lead V → Expr V
  | const value, lead => lead.join (.const value)
  | var v, lead => lead.join (.var v)
  | unary op operand, lead => lead.join (.unary op (operand.readAfter .start))
  | binary op left right, lead =>
      if lead.continues op.rank then right.readAfter (.chain (left.readAfter lead) op)
      else lead.join (right.readAfter (.chain (left.readAfter .start) op))
  | group inner, lead => lead.join (inner.readAfter .start)

/-- The tree that the text of a bracketed tree is read as. -/
def reading (b : Bracketed V) : Expr V := b.readAfter .start

/-- How tightly the text of a tree holds together: as its operator binds, or more than any operator
does. -/
def rank : Bracketed V → Nat
  | binary op _ _ => op.rank
  | const _ | var _ | unary _ _ | group _ => 3

theorem rank_pos (b : Bracketed V) : 1 ≤ b.rank := by
  cases b with
  | binary op => exact op.rank_pos
  | const | var | unary | group => exact Nat.le_add_left 1 2

/-- No operator stands without brackets below one of a higher rank, nor below one on one operand. -/
def WellBracketed : Bracketed V → Prop
  | const _ | var _ => True
  | unary _ operand => operand.rank = 3 ∧ operand.WellBracketed
  | binary op left right =>
      op.rank ≤ left.rank ∧ op.rank ≤ right.rank ∧ left.WellBracketed ∧ right.WellBracketed
  | group inner => inner.WellBracketed

end Bracketed

/-! ### Texts -/

namespace Bracketed

variable {d : Domain V} {b left right : Bracketed V}

/-- The text of a tree is a phrase of its rank, and is read as its reading. -/
structure IsDerived (d : Domain V) (b : Bracketed V) : Prop where
  /-- The text on its own, with blanks around it. -/
  alone (before after rest : List Char) (blanksBefore : ∀ c ∈ before, isBlank c)
    (blanksAfter : ∀ c ∈ after, isBlank c) (detached : Detached d (after ++ rest)) :
    Derives d (.ofRank b.rank) (before ++ ((b.text d.text).toList ++ (after ++ rest))) b.reading
      b.nesting rest
  /-- The text behind an operator that binds no tighter. -/
  chained {op : BinaryOp} {text mid : List Char} {e : Expr V} {n : Nat}
    (before after rest : List Char) (bindsLess : op.rank ≤ b.rank)
    (first : Derives d (.ofRank op.rank) text e n mid)
    (symbol : BinarySymbol op mid (before ++ ((b.text d.text).toList ++ (after ++ rest))))
    (blanksBefore : ∀ c ∈ before, isBlank c) (blanksAfter : ∀ c ∈ after, isBlank c)
    (detached : Detached d (after ++ rest)) :
    Derives d (.ofRank op.rank) text (b.readAfter (.chain e op)) (max n b.nesting) rest

/-- Behind an operator of a lower rank a text is read as on its own. -/
theorem derives_of_alone {op : BinaryOp} {text mid next rest : List Char} {e : Expr V} {n : Nat}
    (tighter : op.rank < b.rank) (joins : b.readAfter (.chain e op) = .binary op e b.reading)
    (first : Derives d (.ofRank op.rank) text e n mid) (symbol : BinarySymbol op mid next)
    (alone : Derives d (.ofRank b.rank) next b.reading b.nesting rest) :
    Derives d (.ofRank op.rank) text (b.readAfter (.chain e op)) (max n b.nesting) rest := by
  rw [joins]
  exact first.join symbol (alone.lower (Nat.le_add_left 1 op.rank) tighter)

/-- An operator goes on with a chain of its own rank only. -/
theorem readAfter_binary_of_continues {op : BinaryOp} {lead : Lead V}
    (continues : lead.continues op.rank = true) :
    (binary op left right).readAfter lead = right.readAfter (.chain (left.readAfter lead) op) := by
  rw [readAfter, if_pos continues]

/-- An operator of another rank than the chain makes a part of the chain. -/
theorem readAfter_binary {op : BinaryOp} {lead : Lead V}
    (separate : lead.continues op.rank = false) :
    (binary op left right).readAfter lead = lead.join (binary op left right).reading := by
  rw [readAfter, separate]
  rfl

/-- The text of an operator on one operand, in front of another text. -/
theorem toList_text_unary (constant : V → String) (op : UnaryOp) (b : Bracketed V)
    (rest : List Char) :
    ((unary op b).text constant).toList ++ rest =
      op.symbol.toList ++ ' ' :: ((b.text constant).toList ++ rest) := by
  simp [text]

/-- The text of an operator on two operands, in front of another text. -/
theorem toList_text_binary (constant : V → String) (op : BinaryOp) (left right : Bracketed V)
    (rest : List Char) :
    ((binary op left right).text constant).toList ++ rest =
      (left.text constant).toList ++ ([' '] ++ (op.symbol.toList ++
        ' ' :: ((right.text constant).toList ++ rest))) := by
  simp [text]

/-- The text of brackets, in front of another text. -/
theorem toList_text_group (constant : V → String) (b : Bracketed V) (rest : List Char) :
    ((group b).text constant).toList ++ rest =
      '(' :: ((b.text constant).toList ++ ')' :: rest) := by
  simp [text]

/-- The blank that stands around printed operators. -/
theorem isBlank_of_mem_blank : ∀ c ∈ [' '], isBlank c := by
  intro c member
  obtain rfl := List.mem_singleton.mp member
  rfl

namespace IsDerived

/-- A tree whose text is an operand. -/
theorem of_bare (isOperand : b.rank = 3) (joins : ∀ lead, b.readAfter lead = lead.join b.reading)
    (bare : ∀ rest, Detached d rest →
      Derives d .bare ((b.text d.text).toList ++ rest) b.reading b.nesting rest) :
    b.IsDerived d := by
  have alone (before after rest : List Char) (blanksBefore : ∀ c ∈ before, isBlank c)
      (blanksAfter : ∀ c ∈ after, isBlank c) (detached : Detached d (after ++ rest)) :
      Derives d (.ofRank b.rank) (before ++ ((b.text d.text).toList ++ (after ++ rest))) b.reading
        b.nesting rest := by
    rw [isOperand]
    exact .blanks blanksBefore (bare _ detached) blanksAfter
  refine ⟨alone, ?_⟩
  intro op text mid e n before after rest _ first symbol blanksBefore blanksAfter detached
  have tighter : op.rank < b.rank := by
    rw [isOperand]
    exact op.rank_lt_three
  exact derives_of_alone tighter (joins _) first symbol
    (alone _ _ _ blanksBefore blanksAfter detached)

/-- An operator between two trees whose operators bind no less.  The left text leads up to the
operator, on its own or in the chain before it, and the right one continues this chain. -/
theorem binary {op : BinaryOp} (bindsLeft : op.rank ≤ left.rank) (bindsRight : op.rank ≤ right.rank)
    (derivedLeft : left.IsDerived d) (derivedRight : right.IsDerived d) :
    (Bracketed.binary op left right).IsDerived d := by
  have alone (before after rest : List Char) (blanksBefore : ∀ c ∈ before, isBlank c)
      (blanksAfter : ∀ c ∈ after, isBlank c) (detached : Detached d (after ++ rest)) :
      Derives d (.ofRank op.rank)
        (before ++ (((Bracketed.binary op left right).text d.text).toList ++ (after ++ rest)))
        (Bracketed.binary op left right).reading (max left.nesting right.nesting) rest := by
    rw [toList_text_binary]
    have first := derivedLeft.alone before [' '] (op.symbol.toList ++
      ' ' :: ((right.text d.text).toList ++ (after ++ rest))) blanksBefore isBlank_of_mem_blank
      (.blank _)
    exact derivedRight.chained [' '] after rest bindsRight (first.lower op.rank_pos bindsLeft)
      (op.symbol_derives _) isBlank_of_mem_blank blanksAfter detached
  refine ⟨alone, ?_⟩
  intro op' text mid e n before after rest bindsLess first symbol blanksBefore blanksAfter detached
  rw [show (Bracketed.binary op left right).rank = op.rank from rfl] at bindsLess
  -- A chain of a lower rank takes the text as one part.  A chain of the same rank goes on through
  -- the left text, up to the operator, and then through the right one.
  rcases Nat.lt_or_eq_of_le bindsLess with lower | same
  · have separate : (Lead.chain e op').continues op.rank = false :=
      beq_eq_false_iff_ne.mpr (Nat.ne_of_lt lower)
    exact derives_of_alone lower (readAfter_binary separate) first symbol
      (alone _ _ _ blanksBefore blanksAfter detached)
  · have continues : (Lead.chain e op').continues op.rank = true := beq_iff_eq.mpr same
    rw [toList_text_binary] at symbol
    have whole := derivedLeft.chained before [' '] (op.symbol.toList ++
      ' ' :: ((right.text d.text).toList ++ (after ++ rest))) (same ▸ bindsLeft) first symbol
      blanksBefore isBlank_of_mem_blank (.blank _)
    rw [readAfter_binary_of_continues continues, nesting, ← Nat.max_assoc]
    rw [same] at whole ⊢
    exact derivedRight.chained [' '] after rest bindsRight whole (op.symbol_derives _)
      isBlank_of_mem_blank blanksAfter detached

/-- A constant that is read back. -/
theorem const {value : V} (rereads : d.Rereads value) : (Bracketed.const value).IsDerived d := by
  obtain ⟨sign, digits, written, isSign, nonempty, areDigits, denotes⟩ := rereads
  refine of_bare rfl (fun _ => rfl) fun rest detached => ?_
  rw [text, written]
  exact .constant isSign nonempty areDigits detached.endsConstant denotes

/-- A variable. -/
theorem var (v : Variable) : (Bracketed.var v : Bracketed V).IsDerived d := by
  refine of_bare rfl (fun _ => rfl) fun rest detached => ?_
  rw [text, Variable.name, Char.toString, String.toList_singleton]
  exact .letter detached.endsWord

/-- An operator in front of an operand. -/
theorem unary {op : UnaryOp} (isOperand : b.rank = 3) (derived : b.IsDerived d) :
    (Bracketed.unary op b).IsDerived d := by
  refine of_bare rfl (fun _ => rfl) fun rest detached => ?_
  have inner := derived.alone [' '] [] rest isBlank_of_mem_blank (by simp) detached
  rw [isOperand] at inner
  rw [toList_text_unary]
  exact .unary (op.symbol_derives _) inner

/-- Brackets around any text. -/
theorem group (derived : b.IsDerived d) : (Bracketed.group b).IsDerived d := by
  refine of_bare rfl (fun _ => rfl) fun rest _ => ?_
  have inner := derived.alone [] [] (')' :: rest) (by simp) (by simp) (.closing rest)
  rw [toList_text_group]
  exact .brackets (inner.lower (Nat.le_refl 1) b.rank_pos)

end IsDerived

/-- **Phrases of the grammar.**  The text of a well-bracketed tree whose constants are read back is
a phrase of the grammar. -/
theorem isDerived (wellBracketed : b.WellBracketed)
    (rereads : ∀ value ∈ b.strip.constants, d.Rereads value) : b.IsDerived d := by
  induction b with
  | const value => exact .const (rereads value (List.mem_singleton_self value))
  | var v => exact .var v
  | unary op operand ih =>
      obtain ⟨isOperand, wellBracketed⟩ := wellBracketed
      exact .unary isOperand (ih wellBracketed rereads)
  | binary op left right ihLeft ihRight =>
      obtain ⟨bindsLeft, bindsRight, wellLeft, wellRight⟩ := wellBracketed
      exact .binary bindsLeft bindsRight
        (ihLeft wellLeft fun value member => rereads value (List.mem_append_left _ member))
        (ihRight wellRight fun value member => rereads value (List.mem_append_right _ member))
  | group inner ih => exact .group (ih wellBracketed rereads)

/-- The text of a well-bracketed tree whose constants are read back is an expression. -/
theorem derives_text (wellBracketed : b.WellBracketed)
    (rereads : ∀ value ∈ b.strip.constants, d.Rereads value) :
    Derives d .expression (b.text d.text).toList b.reading b.nesting [] := by
  have phrase := (isDerived wellBracketed rereads).alone [] [] [] (by simp) (by simp) .nil
  simp only [List.nil_append, List.append_nil] at phrase
  exact phrase.lower (Nat.le_refl 1) b.rank_pos

/-- **The reading of a bracketed tree.**  The text of a well-bracketed tree whose constants are read
back is read as its reading, or refused for its nesting. -/
theorem parse_text (wellBracketed : b.WellBracketed)
    (rereads : ∀ value ∈ b.strip.constants, d.Rereads value) :
    if b.nesting ≤ maxNesting then parse d (b.text d.text) = .ok b.reading
    else ∃ position, parse d (b.text d.text) = .error (.tooDeep position) :=
  (derives_text wellBracketed rereads).parseWithin_eq maxNesting (Nat.le_refl _)

end Bracketed

end Formula
