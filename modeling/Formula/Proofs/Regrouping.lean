import Formula.Expr.Postorder
import Formula.Proofs.MinimalForm
import Mathlib.Logic.Relation

/-!
# The minimal form normalises

Reading the minimal form of an expression moves right operands that have lost their brackets into
the chain of their parent.  One such move turns `a + (b - c)` into `(a + b) - c` somewhere in the
tree.  What is read arises from the expression by a number of these moves, and none is left to be
made in it.

A move changes neither the order of leaves and operators nor the minimal form: it changes which
operator is the root of an operand, but neither the rank of the root nor whether the spine below it
is continuous, and no decision about brackets depends on anything else.  So the minimal form of what
is read is the text that was read, and an expression is read as itself exactly if no move can be
made in it.

## Main definitions

* `Expr.inOrder`, `Expr.leftSpine` — leaves and operators from left to right, and those of a rank
  down the left spine
* `Expr.joins` — which right operands stand in the chain of their parent
* `Regroups` — one move
* `Expr.regrouped` — what the minimal form is read as
* `Expr.IsGrouped` — no move can be made

## Main statements

* `Regroups.text_eq` — a move keeps the minimal form
* `Expr.regroups_regrouped`, `Expr.isGrouped_regrouped` — reading makes all moves
* `Expr.parse_minimalText_normalizes` — the minimal form is a normal form
-/

namespace Formula

variable {V : Type}

/-! ### The order of an expression -/

namespace Expr

/-- Leaves and operators in the order in which they are written, an operator on two operands between
them. -/
def inOrder : Expr V → List (Instruction V)
  | const value => [.const value]
  | var v => [.var v]
  | unary op operand => .unary op :: operand.inOrder
  | binary op left right => left.inOrder ++ .binary op :: right.inOrder

/-- Each node is a leaf or an operator. -/
theorem length_inOrder (t : Expr V) : t.inOrder.length = t.size := by
  induction t with
  | const value => rfl
  | var v => rfl
  | unary op operand ih => rw [inOrder, List.length_cons, ih, size, Nat.add_comm]
  | binary op left right ihLeft ihRight =>
      rw [inOrder, List.length_append, List.length_cons, ihLeft, ihRight, size]
      omega

/-- The operators of a rank that stand at the root of an expression, at the root of its left
operand, and so on. -/
def leftSpine (rank : Nat) : Expr V → List BinaryOp
  | binary op left _ => if op.rank = rank then op :: left.leftSpine rank else []
  | _ => []

/-- A spine is continuous if all its operators are. -/
theorem hasContinuousSpine_iff (rank : Nat) (t : Expr V) :
    t.hasContinuousSpine rank = true ↔ ∀ op ∈ t.leftSpine rank, op.isContinuous = true := by
  induction t with
  | const value => simp [hasContinuousSpine, leftSpine]
  | var v => simp [hasContinuousSpine, leftSpine]
  | unary op operand _ => simp [hasContinuousSpine, leftSpine]
  | binary op left right ihLeft _ =>
      by_cases sameRank : op.rank = rank
      · simp [hasContinuousSpine, leftSpine, sameRank, ihLeft]
      · simp [hasContinuousSpine, leftSpine, sameRank]

/-! ### Right operands in a chain -/

/-- Whether an expression stands, as the right operand of an operator, without brackets in the chain
of this operator. -/
def joins (parent : BinaryOp) : Expr V → Bool
  | e@(binary op _ _) => op.rank == parent.rank && !e.needsBrackets (.right parent)
  | _ => false

/-- What it takes to stand in the chain of an operator: the rank of this operator, which has to be
associative, and a continuous spine. -/
theorem joins_binary_iff {parent op : BinaryOp} {left right : Expr V} :
    (binary op left right).joins parent = true ↔
      op.rank = parent.rank ∧ parent.isAssociative = true ∧ op.isContinuous = true ∧
        left.hasContinuousSpine op.rank = true := by
  rw [joins, Bool.and_eq_true, beq_iff_eq]
  refine and_congr_right fun sameRank => ?_
  simp [needsBrackets, hasContinuousSpine, sameRank]

theorem minimallyBracketedIn_binary (slot : Slot) (op : BinaryOp) (left right : Expr V) :
    (binary op left right).minimallyBracketedIn slot =
      .groupIf ((binary op left right).needsBrackets slot)
        (.binary op (left.minimallyBracketedIn (.left op))
          (right.minimallyBracketedIn (.right op))) :=
  rfl

/-- Which brackets an expression has inside does not depend on its place, but for those around
it. -/
theorem minimallyBracketedIn_congr {slot slot' : Slot} {t : Expr V}
    (same : t.needsBrackets slot = t.needsBrackets slot') :
    t.minimallyBracketedIn slot = t.minimallyBracketedIn slot' := by
  cases t with
  | const value => rfl
  | var v => rfl
  | unary op operand => rw [minimallyBracketedIn, minimallyBracketedIn, same]
  | binary op left right => rw [minimallyBracketedIn, minimallyBracketedIn, same]

/-- A right operand in the chain has no brackets. -/
theorem needsBrackets_right_of_joins {parent op : BinaryOp} {left right : Expr V}
    (joined : (binary op left right).joins parent = true) :
    (binary op left right).needsBrackets (.right parent) = false := by
  have sameRank := (joins_binary_iff.mp joined).1
  simpa [joins, sameRank] using joined

/-- The left operand of a right operand in the chain needs the brackets that it would need behind the
operator of the chain. -/
theorem needsBrackets_left_of_joins {parent op : BinaryOp} {left right : Expr V}
    (joined : (binary op left right).joins parent = true) :
    left.needsBrackets (.left op) = left.needsBrackets (.right parent) := by
  obtain ⟨sameRank, associative, -, spine⟩ := joins_binary_iff.mp joined
  cases left with
  | const value => rfl
  | var v => rfl
  | unary inner operand => rfl
  | binary inner first second =>
      rw [needsBrackets, needsBrackets, sameRank]
      by_cases innerRank : inner.rank = parent.rank
      · rw [sameRank, ← innerRank] at spine
        simp [associative, spine]
      · simp [innerRank]

/-- The left operand of a right operand in the chain may as well stand behind the operator of the
chain. -/
theorem minimallyBracketedIn_of_joins {parent op : BinaryOp} {left right : Expr V}
    (joined : (binary op left right).joins parent = true) :
    left.minimallyBracketedIn (.left op) = left.minimallyBracketedIn (.right parent) :=
  minimallyBracketedIn_congr (needsBrackets_left_of_joins joined)

end Expr

/-! ### Moves -/

/-- One move: somewhere in an expression, a right operand in the chain of its parent takes the
parent and what comes before it for its left operand. -/
inductive Regroups : Expr V → Expr V → Prop
  | shift {op op' a b c} (joined : (Expr.binary op' b c).joins op = true) :
      Regroups (.binary op a (.binary op' b c)) (.binary op' (.binary op a b) c)
  | operand (op) {e e'} (move : Regroups e e') : Regroups (.unary op e) (.unary op e')
  | left (op) {a a'} (b) (move : Regroups a a') : Regroups (.binary op a b) (.binary op a' b)
  | right (op a) {b b'} (move : Regroups b b') : Regroups (.binary op a b) (.binary op a b')

namespace Regroups

open Formula.Expr

variable {t t' : Expr V}

/-- A move keeps the order of leaves and operators. -/
theorem inOrder_eq (move : Regroups t t') : t'.inOrder = t.inOrder := by
  induction move with
  | shift _ => simp [inOrder]
  | operand op _ ih => rw [inOrder, inOrder, ih]
  | left op b _ ih => rw [inOrder, inOrder, ih]
  | right op a _ ih => rw [inOrder, inOrder, ih]

/-- A move keeps continuous spines: what comes onto a spine is associative, and therefore
continuous. -/
theorem hasContinuousSpine_eq (move : Regroups t t') (rank : Nat) :
    t'.hasContinuousSpine rank = t.hasContinuousSpine rank := by
  induction move with
  | shift joined =>
      obtain ⟨sameRank, associative, continuous, -⟩ := joins_binary_iff.mp joined
      have total := BinaryOp.isContinuous_of_isAssociative associative
      simp [hasContinuousSpine, sameRank, continuous, total]
  | operand op _ _ => rfl
  | left op b _ ih => rw [hasContinuousSpine, hasContinuousSpine, ih]
  | right op a _ _ => rfl

/-- A move keeps the decision about brackets in every place. -/
theorem needsBrackets_eq (move : Regroups t t') (slot : Slot) :
    t'.needsBrackets slot = t.needsBrackets slot := by
  have spine := move.hasContinuousSpine_eq
  cases move with
  | shift joined =>
      have sameRank := (joins_binary_iff.mp joined).1
      cases slot with
      | whole => rfl
      | operand => rfl
      | left parent => rw [needsBrackets, needsBrackets, sameRank]
      | right parent => rw [needsBrackets, needsBrackets, spine, sameRank]
  | operand op _ => cases slot <;> rfl
  | left op b _ =>
      cases slot with
      | right parent => rw [needsBrackets, needsBrackets, spine]
      | _ => rfl
  | right op a _ => cases slot <;> rfl

/-- A move keeps which right operands stand in a chain. -/
theorem joins_eq (move : Regroups t t') (parent : BinaryOp) :
    t'.joins parent = t.joins parent := by
  have brackets := move.needsBrackets_eq (.right parent)
  cases move with
  | shift joined => rw [joins, joins, brackets, (joins_binary_iff.mp joined).1]
  | operand op _ => rfl
  | left op b _ => rw [joins, joins, brackets]
  | right op a _ => rw [joins, joins, brackets]

end Regroups

/-- Brackets around two trees with the same text make the same text. -/
theorem Bracketed.text_groupIf_congr {constant : V → String} {b b' : Bracketed V}
    (same : b.text constant = b'.text constant) (brackets : Bool) :
    (groupIf brackets b).text constant = (groupIf brackets b').text constant := by
  cases brackets with
  | true => rw [groupIf, groupIf, if_pos rfl, if_pos rfl, text, text, same]
  | false => exact same

/-- **A move keeps the minimal form** in every place. -/
theorem Regroups.text_eq {t t' : Expr V} (move : Regroups t t') (constant : V → String)
    (slot : Slot) :
    (t'.minimallyBracketedIn slot).text constant = (t.minimallyBracketedIn slot).text constant := by
  induction move generalizing slot with
  | @shift op op' a b c joined =>
      have sameRank := (Expr.joins_binary_iff.mp joined).1
      -- Before the move the right operand has no brackets, and after it the left one has none.
      have bareRight : (Expr.binary op' b c).minimallyBracketedIn (.right op) =
          .binary op' (b.minimallyBracketedIn (.right op))
            (c.minimallyBracketedIn (.right op')) := by
        rw [Expr.minimallyBracketedIn_binary, Expr.needsBrackets_right_of_joins joined,
          Expr.minimallyBracketedIn_of_joins joined]
        rfl
      have bareLeft : (Expr.binary op a b).minimallyBracketedIn (.left op') =
          .binary op (a.minimallyBracketedIn (.left op)) (b.minimallyBracketedIn (.right op)) := by
        have bare : (Expr.binary op a b).needsBrackets (.left op') = false := by
          simp [Expr.needsBrackets, sameRank]
        rw [Expr.minimallyBracketedIn_binary, bare]
        rfl
      rw [Expr.minimallyBracketedIn_binary slot op', Expr.minimallyBracketedIn_binary slot op,
        (Regroups.shift joined).needsBrackets_eq]
      refine Bracketed.text_groupIf_congr ?_ _
      rw [bareRight, bareLeft]
      simp only [Bracketed.text, String.append_assoc]
  | operand op move ih =>
      rw [Expr.minimallyBracketedIn, Expr.minimallyBracketedIn,
        (Regroups.operand op move).needsBrackets_eq]
      refine Bracketed.text_groupIf_congr ?_ _
      rw [Bracketed.text, Bracketed.text, ih]
  | left op b move ih =>
      rw [Expr.minimallyBracketedIn, Expr.minimallyBracketedIn,
        (Regroups.left op b move).needsBrackets_eq]
      refine Bracketed.text_groupIf_congr ?_ _
      rw [Bracketed.text, Bracketed.text, ih]
  | right op a move ih =>
      rw [Expr.minimallyBracketedIn, Expr.minimallyBracketedIn,
        (Regroups.right op a move).needsBrackets_eq]
      refine Bracketed.text_groupIf_congr ?_ _
      rw [Bracketed.text, Bracketed.text, ih]

/-! ### Reading -/

namespace Expr

/-- The expression that the minimal form of an expression is read as. -/
def regrouped (t : Expr V) : Expr V := t.minimallyBracketed.reading

/-- What is read of a chain, once its last operator and the right operand of this operator have been
read. -/
def joinedTo (t left : Expr V) (op : BinaryOp) : Expr V :=
  (t.minimallyBracketedIn (.right op)).readAfter (.chain left op)

/-- Brackets around an expression make no difference to how it is read on its own. -/
theorem readAfter_start (slot : Slot) (t : Expr V) :
    (t.minimallyBracketedIn slot).readAfter .start = t.regrouped := by
  cases t with
  | const value => rfl
  | var v => rfl
  | unary op operand =>
      rw [minimallyBracketedIn]
      cases (unary op operand).needsBrackets slot <;> rfl
  | binary op left right =>
      rw [minimallyBracketedIn_binary]
      cases (binary op left right).needsBrackets slot <;> rfl

theorem regrouped_unary (op : UnaryOp) (operand : Expr V) :
    (unary op operand).regrouped = .unary op operand.regrouped :=
  congrArg (Expr.unary op) (readAfter_start .operand operand)

/-- The left operand starts a chain, and the right one is read in it. -/
theorem regrouped_binary (op : BinaryOp) (left right : Expr V) :
    (binary op left right).regrouped = right.joinedTo left.regrouped op :=
  congrArg (fun read => right.joinedTo read op) (readAfter_start (.left op) left)

/-- A right operand outside the chain of its parent is read on its own. -/
theorem joinedTo_of_apart {t : Expr V} {op : BinaryOp} (apart : t.joins op = false)
    (left : Expr V) : t.joinedTo left op = .binary op left t.regrouped := by
  cases t with
  | const value => rfl
  | var v => rfl
  | unary inner operand => rfl
  | binary inner first second =>
      rw [joinedTo, minimallyBracketedIn_binary]
      cases brackets : (binary inner first second).needsBrackets (.right op) with
      | true => rfl
      | false =>
          have otherRank : (inner.rank == op.rank) = false := by simpa [joins, brackets] using apart
          have separate : (Lead.chain left op).continues inner.rank = false := by
            rw [Lead.continues, Bool.beq_comm, otherRank]
          exact Bracketed.readAfter_binary separate

/-- A right operand in the chain of its parent is read through: first its left operand, and then
its right one behind its operator. -/
theorem joinedTo_of_joins {op inner : BinaryOp} {first second : Expr V}
    (joined : (binary inner first second).joins op = true) (left : Expr V) :
    (binary inner first second).joinedTo left op =
      second.joinedTo (first.joinedTo left op) inner := by
  have sameRank := (joins_binary_iff.mp joined).1
  have bare := needsBrackets_right_of_joins joined
  have continues : (Lead.chain left op).continues inner.rank = true := beq_iff_eq.mpr sameRank.symm
  rw [joinedTo, minimallyBracketedIn_binary, bare]
  refine (Bracketed.readAfter_binary_of_continues continues).trans ?_
  rw [minimallyBracketedIn_of_joins joined]
  rfl

/-- **Reading makes moves only.**  What is read arises from the expression by moves, and so does
what is read of a chain from the chain and its last operand. -/
theorem regroups_regrouped (t : Expr V) :
    Relation.ReflTransGen Regroups t t.regrouped ∧
      ∀ left op, Relation.ReflTransGen Regroups (.binary op left t) (t.joinedTo left op) := by
  have outside {t : Expr V} {op : BinaryOp} (apart : t.joins op = false)
      (own : Relation.ReflTransGen Regroups t t.regrouped) (left : Expr V) :
      Relation.ReflTransGen Regroups (.binary op left t) (t.joinedTo left op) := by
    rw [joinedTo_of_apart apart]
    exact own.lift (binary op left ·) fun _ _ => .right op left
  induction t with
  | const value => exact ⟨.refl, fun left op => outside rfl .refl left⟩
  | var v => exact ⟨.refl, fun left op => outside rfl .refl left⟩
  | unary op operand ih =>
      have own : Relation.ReflTransGen Regroups (unary op operand)
          (unary op operand).regrouped := by
        rw [regrouped_unary]
        exact ih.1.lift (unary op ·) fun _ _ => .operand op
      exact ⟨own, fun left op => outside rfl own left⟩
  | binary op first second ihFirst ihSecond =>
      have own : Relation.ReflTransGen Regroups (binary op first second)
          (binary op first second).regrouped := by
        rw [regrouped_binary]
        exact (ihFirst.1.lift (binary op · second) fun _ _ => .left op second).trans
          (ihSecond.2 first.regrouped op)
      refine ⟨own, fun left parent => ?_⟩
      cases joined : (binary op first second).joins parent with
      | false => exact outside joined own left
      | true =>
          -- The operand is moved into the chain first, and its own operands are read there.
          rw [joinedTo_of_joins joined]
          exact .head (.shift joined)
            (((ihFirst.2 left parent).lift (binary op · second) fun _ _ => .left op second).trans
              (ihSecond.2 _ op))

/-! ### Grouped expressions -/

/-- No right operand stands in the chain of its parent. -/
def IsGrouped : Expr V → Prop
  | const _ => True
  | var _ => True
  | unary _ operand => operand.IsGrouped
  | binary op left right => right.joins op = false ∧ left.IsGrouped ∧ right.IsGrouped

/-- What moves keep is kept by reading. -/
theorem regrouped_eq_of_move {α : Type} {f : Expr V → α}
    (kept : ∀ {e e'}, Regroups e e' → f e' = f e) (t : Expr V) : f t.regrouped = f t := by
  have moves := (regroups_regrouped t).1
  generalize t.regrouped = t' at moves
  induction moves with
  | refl => rfl
  | tail _ move ih => rw [kept move, ih]

/-- **Reading leaves no move to be made.** -/
theorem isGrouped_regrouped (t : Expr V) :
    t.regrouped.IsGrouped ∧
      ∀ left op, left.IsGrouped → (t.joinedTo left op).IsGrouped := by
  have outside {t left : Expr V} {op : BinaryOp} (apart : t.joins op = false)
      (own : t.regrouped.IsGrouped) (grouped : left.IsGrouped) :
      (t.joinedTo left op).IsGrouped := by
    rw [joinedTo_of_apart apart]
    refine ⟨?_, grouped, own⟩
    rw [regrouped_eq_of_move (fun move => move.joins_eq op), apart]
  induction t with
  | const value => exact ⟨trivial, fun left op => outside rfl trivial⟩
  | var v => exact ⟨trivial, fun left op => outside rfl trivial⟩
  | unary op operand ih =>
      have own : (unary op operand).regrouped.IsGrouped := by
        rw [regrouped_unary]
        exact ih.1
      exact ⟨own, fun left op => outside rfl own⟩
  | binary op first second ihFirst ihSecond =>
      have own : (binary op first second).regrouped.IsGrouped := by
        rw [regrouped_binary]
        exact ihSecond.2 _ op ihFirst.1
      refine ⟨own, fun left parent grouped => ?_⟩
      cases joined : (binary op first second).joins parent with
      | false => exact outside joined own grouped
      | true =>
          rw [joinedTo_of_joins joined]
          exact ihSecond.2 _ op (ihFirst.2 left parent grouped)

/-- A grouped expression is read as itself. -/
theorem regrouped_of_isGrouped {t : Expr V} (grouped : t.IsGrouped) : t.regrouped = t := by
  induction t with
  | const value => rfl
  | var v => rfl
  | unary op operand ih => rw [regrouped_unary, ih grouped]
  | binary op left right ihLeft ihRight =>
      obtain ⟨apart, groupedLeft, groupedRight⟩ := grouped
      rw [regrouped_binary, joinedTo_of_apart apart, ihLeft groupedLeft, ihRight groupedRight]

/-- **An expression is read as itself exactly if it is grouped.** -/
theorem regrouped_eq_self_iff (t : Expr V) : t.regrouped = t ↔ t.IsGrouped :=
  ⟨fun same => same ▸ (isGrouped_regrouped t).1, regrouped_of_isGrouped⟩

/-- A grouped expression is one in which no right operand, at any node, stands in the chain of its
parent. -/
theorem isGrouped_iff (t : Expr V) :
    t.IsGrouped ↔ ∀ op left right, binary op left right ∈ t.subtrees → right.joins op = false := by
  induction t with
  | const value => simp [IsGrouped, subtrees]
  | var v => simp [IsGrouped, subtrees]
  | unary op operand ih => simp [IsGrouped, subtrees, ih]
  | binary op left right ihLeft ihRight =>
      rw [IsGrouped, ihLeft, ihRight]
      simp only [subtrees, List.mem_append, List.mem_singleton, binary.injEq]
      constructor
      · rintro ⟨apart, groupedLeft, groupedRight⟩ op' left' right' ((inLeft | inRight) | same)
        · exact groupedLeft op' left' right' inLeft
        · exact groupedRight op' left' right' inRight
        · obtain ⟨rfl, rfl, rfl⟩ := same
          exact apart
      · intro grouped
        exact ⟨grouped op left right (.inr ⟨rfl, rfl, rfl⟩),
          fun op' left' right' inside => grouped op' left' right' (.inl (.inl inside)),
          fun op' left' right' inside => grouped op' left' right' (.inl (.inr inside))⟩

/-- No sum has a sum or a difference for its right operand, and no product has a product for its
right operand with nothing but products down the left spine. -/
structure IsLeftGrouped (t : Expr V) : Prop where
  noSum (a c d : Expr V) : binary .add a (.binary .add c d) ∉ t.subtrees
  noDifference (a c d : Expr V) : binary .add a (.binary .subtract c d) ∉ t.subtrees
  noProduct (a c d : Expr V) (inside : binary .multiply a (.binary .multiply c d) ∈ t.subtrees) :
    ∃ op ∈ (binary .multiply c d).leftSpine 2, op ≠ .multiply

/-- The operators of a spine have its rank. -/
theorem rank_of_mem_leftSpine {rank : Nat} {t : Expr V} {op : BinaryOp}
    (member : op ∈ t.leftSpine rank) : op.rank = rank := by
  induction t with
  | const value => cases member
  | var v => cases member
  | unary inner operand _ => cases member
  | binary inner left right ihLeft _ =>
      rw [leftSpine] at member
      split at member
      next sameRank =>
        rcases List.mem_cons.mp member with rfl | inside
        · exact sameRank
        · exact ihLeft inside
      next => cases member

/-- All operators of the lower rank are continuous. -/
theorem hasContinuousSpine_one (t : Expr V) : t.hasContinuousSpine 1 = true := by
  rw [hasContinuousSpine_iff]
  intro op member
  have rank := rank_of_mem_leftSpine member
  cases op with
  | add => rfl
  | subtract => rfl
  | multiply | divide | modulo => cases rank

/-- Of the operators of the higher rank only products are continuous. -/
theorem hasContinuousSpine_two_iff (t : Expr V) :
    t.hasContinuousSpine 2 = true ↔ ∀ op ∈ t.leftSpine 2, op = .multiply := by
  rw [hasContinuousSpine_iff]
  refine forall₂_congr fun op member => ?_
  have rank := rank_of_mem_leftSpine member
  cases op with
  | add | subtract => cases rank
  | multiply | divide | modulo => simp [BinaryOp.isContinuous]

/-- Which operands stand in the chain of a sum: sums and differences. -/
theorem joins_add_iff (t : Expr V) :
    t.joins .add = true ↔ ∃ c d, t = .binary .add c d ∨ t = .binary .subtract c d := by
  cases t with
  | const value => simp [joins]
  | var v => simp [joins]
  | unary op operand => simp [joins]
  | binary op c d =>
      rw [joins_binary_iff]
      cases op <;> simp [BinaryOp.rank, BinaryOp.isAssociative, BinaryOp.isContinuous,
        hasContinuousSpine_one]

/-- Which operands stand in the chain of a product: products with nothing but products down the left
spine. -/
theorem joins_multiply_iff (t : Expr V) :
    t.joins .multiply = true ↔
      ∃ c d, t = .binary .multiply c d ∧ ∀ op ∈ t.leftSpine 2, op = .multiply := by
  cases t with
  | const value => simp [joins]
  | var v => simp [joins]
  | unary op operand => simp [joins]
  | binary op c d =>
      rw [joins_binary_iff]
      cases op <;> simp [BinaryOp.rank, BinaryOp.isAssociative, BinaryOp.isContinuous,
        hasContinuousSpine_two_iff, leftSpine]

/-- What it means for an expression to be grouped. -/
theorem isGrouped_iff_isLeftGrouped (t : Expr V) : t.IsGrouped ↔ t.IsLeftGrouped := by
  rw [isGrouped_iff]
  constructor
  · intro grouped
    refine ⟨fun a c d inside => ?_, fun a c d inside => ?_, fun a c d inside => ?_⟩
    · have joined := (joins_add_iff _).mpr ⟨c, d, .inl rfl⟩
      rw [grouped .add a _ inside] at joined
      cases joined
    · have joined := (joins_add_iff _).mpr ⟨c, d, .inr rfl⟩
      rw [grouped .add a _ inside] at joined
      cases joined
    · by_contra pure
      have joined := (joins_multiply_iff (binary .multiply c d)).mpr
        ⟨c, d, rfl, fun op member => by_contra fun other => pure ⟨op, member, other⟩⟩
      rw [grouped .multiply a _ inside] at joined
      cases joined
  · intro grouped op left right inside
    rw [← Bool.not_eq_true]
    intro joined
    cases op with
    | add =>
        obtain ⟨c, d, rfl | rfl⟩ := (joins_add_iff right).mp joined
        · exact grouped.noSum left c d inside
        · exact grouped.noDifference left c d inside
    | multiply =>
        obtain ⟨c, d, rfl, pure⟩ := (joins_multiply_iff right).mp joined
        obtain ⟨op, member, other⟩ := grouped.noProduct left c d inside
        exact other (pure op member)
    | subtract | divide | modulo =>
        cases right with
        | binary inner c d => cases (joins_binary_iff.mp joined).2.1
        | const | var | unary => cases joined

/-! ### Whole texts -/

/-- The minimal form is read as the regrouped expression, or refused for its nesting. -/
theorem parse_minimalText_eq {mode : Mode} (integral : mode ≠ .float) (t : Expr mode.Value)
    (reduced : ∀ value ∈ t.constants, mode.IsReduced value) :
    if t.minimallyBracketed.nesting ≤ maxNesting then
      parse mode.domain (t.minimalText mode.domain.text) = .ok t.regrouped
    else
      ∃ position,
        parse mode.domain (t.minimalText mode.domain.text) = .error (.tooDeep position) :=
  Bracketed.parse_text (t.wellBracketed_minimallyBracketedIn .whole) fun value member =>
    mode.rereads integral (reduced value (t.strip_minimallyBracketedIn .whole ▸ member))

/-- **The minimal form is a normal form.**  Unless the minimal form of an expression is refused for
its nesting, it is read as an expression with the same leaves and operators in the same order and
with the same minimal form.  This is the expression itself exactly if no right operand of it stands
in the chain of its parent. -/
theorem parse_minimalText_normalizes {mode : Mode} (integral : mode ≠ .float)
    (t : Expr mode.Value) (reduced : ∀ value ∈ t.constants, mode.IsReduced value)
    (accepted : ∀ position,
      parse mode.domain (t.minimalText mode.domain.text) ≠ .error (.tooDeep position)) :
    ∃ t', parse mode.domain (t.minimalText mode.domain.text) = .ok t' ∧
      t'.inOrder = t.inOrder ∧ t'.size = t.size ∧
      t'.minimalText mode.domain.text = t.minimalText mode.domain.text ∧
      (t' = t ↔ t.IsLeftGrouped) := by
  have reading := parse_minimalText_eq integral t reduced
  split at reading
  next =>
    have order := regrouped_eq_of_move Regroups.inOrder_eq t
    refine ⟨t.regrouped, reading, order, ?_, ?_, ?_⟩
    · rw [← length_inOrder, order, length_inOrder]
    · exact regrouped_eq_of_move (fun move => move.text_eq mode.domain.text .whole) t
    · rw [regrouped_eq_self_iff, isGrouped_iff_isLeftGrouped]
  next =>
    obtain ⟨position, refused⟩ := reading
    exact absurd refused (accepted position)

/-- A product of residues that loses its brackets behind another product. -/
theorem parse_minimalText_normalizes_residues :
    ∃ t', parse Mode.modularInt.domain (minimalText Mode.modularInt.domain.text
        (.binary .multiply (.var .x) (.binary .multiply (.const (1008 : Int32)) (.var .y)))) =
          .ok t' ∧
      t'.inOrder = [.var .x, .binary .multiply, .const (1008 : Int32), .binary .multiply, .var .y] ∧
      t'.size = 5 ∧
      t'.minimalText Mode.modularInt.domain.text = minimalText Mode.modularInt.domain.text
        (.binary .multiply (.var .x) (.binary .multiply (.const (1008 : Int32)) (.var .y))) ∧
      (t' = .binary .multiply (.var .x) (.binary .multiply (.const (1008 : Int32)) (.var .y)) ↔
        IsLeftGrouped
          (.binary .multiply (.var .x) (.binary .multiply (.const (1008 : Int32)) (.var .y)))) := by
  have reduced : ∀ value ∈ [(1008 : Int32)], Mode.modularInt.IsReduced value := by
    intro value member
    obtain rfl := List.mem_singleton.mp member
    exact ⟨by decide, by decide⟩
  refine @parse_minimalText_normalizes .modularInt (by decide)
    (.binary .multiply (.var .x) (.binary .multiply (.const (1008 : Int32)) (.var .y))) reduced ?_
  intro position refused
  have reading := @parse_minimalText_eq .modularInt (by decide)
    (.binary .multiply (.var .x) (.binary .multiply (.const (1008 : Int32)) (.var .y))) reduced
  rw [if_pos (by decide), refused] at reading
  cases reading

end Expr

end Formula
