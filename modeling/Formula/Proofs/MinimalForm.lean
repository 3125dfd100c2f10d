import Formula.Proofs.Bracketed
import Formula.Proofs.Domain.Ring
import Formula.Proofs.Expr.Value

/-!
# The minimal form keeps the meaning

Where brackets are left out around a right operand, its operators become a part of the chain of
their parent, and the text is read as another tree.  With the part of the chain before it called
`a`, the reading turns `a + (b - c)` into `(a + b) - c`, and so on down the left spine of the
operand.  Brackets are left out only where the parent is associative and all operators on this spine
are continuous.  In a ring the two trees then have the same values; and as these operators never
fail, the first error is that of the same operation in both.

## Main definitions

* `Slot.rank` — how tightly an expression has to bind in a place
* `Lead.Admits` — which operands may join a chain without brackets

## Main statements

* `Expr.wellBracketed_minimallyBracketedIn` — no bracket is missing
* `Expr.sameValues_readAfter` — the reading has the values of the expression
* `Expr.parse_minimalText` — the minimal form is read as an expression of the same values
-/

namespace Formula

variable {V : Type} {d : Domain V}

/-! ### Brackets -/

/-- How tightly an expression has to bind in a place to need no brackets there. -/
def Slot.rank : Slot → Nat
  | whole => 1
  | operand => 3
  | left parent | right parent => parent.rank

theorem Slot.rank_le (slot : Slot) : slot.rank ≤ 3 := by
  cases slot with
  | whole => decide
  | operand => decide
  | left parent => exact Nat.le_of_lt parent.rank_lt_three
  | right parent => exact Nat.le_of_lt parent.rank_lt_three

namespace Bracketed

theorem rank_le (b : Bracketed V) : b.rank ≤ 3 := by
  cases b with
  | binary op => exact Nat.le_of_lt op.rank_lt_three
  | const | var | unary | group => exact Nat.le_refl 3

/-- Brackets around a tree do no harm. -/
theorem WellBracketed.groupIf {b : Bracketed V} (wellBracketed : b.WellBracketed)
    (brackets : Bool) : (Bracketed.groupIf brackets b).WellBracketed := by
  cases brackets with
  | true => exact wellBracketed
  | false => exact wellBracketed

/-- Brackets make an operand of a tree. -/
theorem rank_groupIf (brackets : Bool) (b : Bracketed V) :
    (groupIf brackets b).rank = if brackets then 3 else b.rank := by
  cases brackets <;> rfl

@[simp] theorem strip_groupIf (brackets : Bool) (b : Bracketed V) :
    (groupIf brackets b).strip = b.strip := by
  cases brackets <;> rfl

end Bracketed

namespace Expr

/-- An operator without brackets binds as tightly as its place requires. -/
theorem rank_le_of_needsBrackets {slot : Slot} {op : BinaryOp} {l r : Expr V}
    (bare : (binary op l r).needsBrackets slot = false) : slot.rank ≤ op.rank := by
  cases slot with
  | whole => exact op.rank_pos
  | operand => cases bare
  | left parent => simpa [needsBrackets, Slot.rank] using bare
  | right parent =>
      rw [needsBrackets, Bool.or_eq_false_iff] at bare
      simpa [Slot.rank] using bare.1

/-- In every place an expression is printed so that it binds as tightly as required. -/
theorem rank_minimallyBracketedIn (slot : Slot) (t : Expr V) :
    slot.rank ≤ (t.minimallyBracketedIn slot).rank := by
  cases t with
  | const value => exact slot.rank_le
  | var v => exact slot.rank_le
  | unary op operand =>
      rw [minimallyBracketedIn, Bracketed.rank_groupIf]
      split <;> exact slot.rank_le
  | binary op l r =>
      rw [minimallyBracketedIn, Bracketed.rank_groupIf]
      split
      next => exact slot.rank_le
      next bare => exact rank_le_of_needsBrackets (Bool.eq_false_iff.mpr bare)

/-- **No bracket is missing** in a minimally bracketed tree. -/
theorem wellBracketed_minimallyBracketedIn (slot : Slot) (t : Expr V) :
    (t.minimallyBracketedIn slot).WellBracketed := by
  induction t generalizing slot with
  | const value => trivial
  | var v => trivial
  | unary op operand ih =>
      have isOperand : (operand.minimallyBracketedIn .operand).rank = 3 :=
        Nat.le_antisymm (Bracketed.rank_le _) (rank_minimallyBracketedIn .operand operand)
      have well : (Bracketed.unary op (operand.minimallyBracketedIn .operand)).WellBracketed :=
        ⟨isOperand, ih .operand⟩
      exact well.groupIf _
  | binary op l r ihLeft ihRight =>
      have well : (Bracketed.binary op (l.minimallyBracketedIn (.left op))
          (r.minimallyBracketedIn (.right op))).WellBracketed :=
        ⟨rank_minimallyBracketedIn (.left op) l, rank_minimallyBracketedIn (.right op) r,
          ihLeft (.left op), ihRight (.right op)⟩
      exact well.groupIf _

@[simp] theorem strip_minimallyBracketedIn (slot : Slot) (t : Expr V) :
    (t.minimallyBracketedIn slot).strip = t := by
  induction t generalizing slot with
  | const value => rfl
  | var v => rfl
  | unary op operand ih =>
      rw [minimallyBracketedIn, Bracketed.strip_groupIf, Bracketed.strip, ih]
  | binary op l r ihLeft ihRight =>
      rw [minimallyBracketedIn, Bracketed.strip_groupIf, Bracketed.strip, ihLeft, ihRight]

end Expr

/-! ### Right operands without brackets -/

/-- A chain of the rank of an operand admits the operand if the operator before it is associative
and all operators of this rank down the left spine of the operand are continuous. -/
def Lead.Admits : Lead V → Slot → Expr V → Prop
  | .start, _, _ => True
  | .chain _ op, slot, t =>
      (t.minimallyBracketedIn slot).rank = op.rank →
        op.isAssociative = true ∧ t.hasContinuousSpine op.rank = true

/-- An operand of an operator with its brackets, if it needs any, may stand behind this operator. -/
theorem Lead.admits_right (left : Expr V) (parent : BinaryOp) (t : Expr V) :
    (Lead.chain left parent).Admits (.right parent) t := by
  have notOperand : 3 ≠ parent.rank := Nat.ne_of_gt parent.rank_lt_three
  intro sameRank
  cases t with
  | const value => exact absurd sameRank notOperand
  | var v => exact absurd sameRank notOperand
  | unary op operand =>
      rw [Expr.minimallyBracketedIn, Bracketed.rank_groupIf] at sameRank
      split at sameRank <;> exact absurd sameRank notOperand
  | binary op l r =>
      rw [Expr.minimallyBracketedIn, Bracketed.rank_groupIf] at sameRank
      split at sameRank
      next => exact absurd sameRank notOperand
      next bare =>
        replace sameRank : op.rank = parent.rank := sameRank
        simpa [Expr.needsBrackets, sameRank] using bare

/-- What a chain that goes on with an operand has to do with the operand. -/
theorem Lead.Admits.binary {slot : Slot} {op parent : BinaryOp} {left l r : Expr V}
    (admits : (Lead.chain left parent).Admits slot (.binary op l r))
    (bare : (Expr.binary op l r).needsBrackets slot = false) (sameRank : parent.rank = op.rank) :
    parent.isAssociative = true ∧ op.isContinuous = true ∧
      (Lead.chain left parent).Admits (.left op) l := by
  have rank : ((Expr.binary op l r).minimallyBracketedIn slot).rank = parent.rank := by
    rw [Expr.minimallyBracketedIn, bare, sameRank]
    rfl
  obtain ⟨associative, spine⟩ := admits rank
  rw [Expr.hasContinuousSpine] at spine
  have ⟨continuous, spineLeft⟩ : op.isContinuous = true ∧
      l.hasContinuousSpine parent.rank = true := by simpa [sameRank] using spine
  exact ⟨associative, continuous, fun _ => ⟨associative, spineLeft⟩⟩

/-! ### Values -/

namespace Expr

variable {m : Int} {toInt : V → Int} {wrap : Int → V}

/-- An operand may be replaced in a chain. -/
theorem SameValues.join {a a' : Expr V} (same : SameValues d a a') (lead : Lead V) :
    SameValues d (lead.join a) (lead.join a') := by
  cases lead with
  | start => exact same
  | chain left op => exact .binary op (.refl left) same

/-- An operator that joins a chain may be applied before the one it joins.  In both orders the
operands are valued from left to right, and the operators always have results. -/
theorem sameValues_regroup (laws : d.IsIntegersModulo m toInt wrap) {op op' : BinaryOp}
    (associative : op.isAssociative = true) (continuous : op'.isContinuous = true)
    (sameRank : op.rank = op'.rank) (a b c : Expr V) :
    SameValues d (.binary op' (.binary op a b) c) (.binary op a (.binary op' b c)) := by
  intro p
  simp only [value]
  cases a.value d p with
  | error error => rfl
  | ok x =>
      cases b.value d p with
      | error error => rfl
      | ok y =>
          cases c.value d p with
          | error error =>
              have total := BinaryOp.isContinuous_of_isAssociative associative
              show (d.binary op x y >>= fun _ => .error error) = .error error
              rw [laws.binary total]
              rfl
          | ok z =>
              obtain ⟨xy, yz, first, second, equal⟩ :=
                laws.regroup associative continuous sameRank x y z
              show (d.binary op x y >>= fun xy => d.binary op' xy z) =
                (d.binary op' y z >>= fun yz => d.binary op x yz)
              rw [first, second]
              exact equal

/-- **The reading has the values of the expression.**  Wherever an expression is printed with the
brackets that it needs there, what is read of the chain up to its end has the values of the chain
before it, joined to the expression. -/
theorem sameValues_readAfter (laws : d.IsIntegersModulo m toInt wrap) (t : Expr V) (slot : Slot)
    (lead : Lead V) (admits : lead.Admits slot t) :
    SameValues d ((t.minimallyBracketedIn slot).readAfter lead) (lead.join t) := by
  induction t generalizing slot lead with
  | const value => exact .refl _
  | var v => exact .refl _
  | unary op operand ih =>
      have reading : ((unary op operand).minimallyBracketedIn slot).readAfter lead =
          lead.join (.unary op ((operand.minimallyBracketedIn .operand).readAfter .start)) := by
        rw [minimallyBracketedIn]
        cases (unary op operand).needsBrackets slot <;> rfl
      rw [reading]
      exact ((ih .operand .start trivial).unary op).join lead
  | binary op l r ihLeft ihRight =>
      -- The right operand joins whatever the left one is read as.
      have right (left : Expr V) : SameValues d
          ((r.minimallyBracketedIn (.right op)).readAfter (.chain left op)) (.binary op left r) :=
        ihRight (.right op) (.chain left op) (Lead.admits_right left op r)
      have apart : SameValues d (Bracketed.binary op (l.minimallyBracketedIn (.left op))
          (r.minimallyBracketedIn (.right op))).reading (.binary op l r) :=
        (right _).trans ((ihLeft (.left op) .start trivial).binary op (.refl r))
      rw [minimallyBracketedIn]
      cases brackets : (binary op l r).needsBrackets slot with
      | true => exact apart.join lead
      | false =>
          -- Without brackets the chain goes through the left operand first.
          rw [Bracketed.groupIf, if_neg Bool.false_ne_true]
          cases lead with
          | start => exact apart
          | chain left parent =>
              by_cases sameRank : parent.rank = op.rank
              · have continues : (Lead.chain left parent).continues op.rank = true :=
                  beq_iff_eq.mpr sameRank
                rw [Bracketed.readAfter_binary_of_continues continues]
                obtain ⟨associative, continuous, admitsLeft⟩ := admits.binary brackets sameRank
                exact ((right _).trans
                  ((ihLeft (.left op) (.chain left parent) admitsLeft).binary op (.refl r))).trans
                  (sameValues_regroup laws associative continuous sameRank left l r)
              · have separate : (Lead.chain left parent).continues op.rank = false :=
                  beq_eq_false_iff_ne.mpr sameRank
                rw [Bracketed.readAfter_binary separate]
                exact apart.join (.chain left parent)

/-- The reading of a difference that loses its brackets behind a sum. -/
example :
    (minimallyBracketed (.binary .add (.var .x)
        (.binary .subtract (.var .y) (.const (3 : Int))))).reading =
      .binary .subtract (.binary .add (.var .x) (.var .y)) (.const 3) :=
  rfl

/-- **The minimal form keeps the meaning.**  In every mode that computes with integers modulo a
number, the minimal form of an expression whose constants are reduced is read as an expression that
has the same value or the same error at every point, if it is not nested too deeply, and is
otherwise refused as that. -/
theorem parse_minimalText {mode : Mode} (notFloat : mode ≠ .float)
    (notChecked : mode ≠ .checkedInt) (t : Expr mode.Value)
    (reduced : ∀ value ∈ t.constants, mode.IsReduced value) :
    if t.minimallyBracketed.nesting ≤ maxNesting then
      ∃ t', parse mode.domain (t.minimalText mode.domain.text) = .ok t' ∧
        ∀ p, t'.value mode.domain p = t.value mode.domain p
    else
      ∃ position,
        parse mode.domain (t.minimalText mode.domain.text) = .error (.tooDeep position) := by
  obtain ⟨m, toInt, wrap, laws⟩ := mode.exists_isIntegersModulo notFloat notChecked
  have reading := Bracketed.parse_text (d := mode.domain)
    (t.wellBracketed_minimallyBracketedIn .whole) fun value member =>
      mode.rereads notFloat (reduced value (t.strip_minimallyBracketedIn .whole ▸ member))
  by_cases fits : t.minimallyBracketed.nesting ≤ maxNesting
  · rw [if_pos fits]
    exact ⟨_, (if_pos fits).mp reading, t.sameValues_readAfter laws .whole .start trivial⟩
  · rw [if_neg fits]
    exact (if_neg fits).mp reading

/-- A difference that loses its brackets behind a sum, with a residue as its right operand. -/
theorem parse_minimalText_residue :
    ∃ t', parse Mode.modularInt.domain (minimalText Mode.modularInt.domain.text
        (.binary .add (.var .x) (.binary .subtract (.var .y) (.const (1008 : Int32))))) = .ok t' ∧
      ∀ p, t'.value Mode.modularInt.domain p =
        value Mode.modularInt.domain p
          (.binary .add (.var .x) (.binary .subtract (.var .y) (.const (1008 : Int32)))) := by
  have reduced : ∀ value ∈ [(1008 : Int32)], Mode.modularInt.IsReduced value := by
    intro value member
    obtain rfl := List.mem_singleton.mp member
    exact ⟨by decide, by decide⟩
  have reading := @parse_minimalText .modularInt (by decide) (by decide)
    (.binary .add (.var .x) (.binary .subtract (.var .y) (.const (1008 : Int32)))) reduced
  rwa [if_pos (by decide)] at reading

end Expr

end Formula
