import Formula.Proofs.Arranged
import Formula.Proofs.Regrouping
import Mathlib.Data.List.Forall2

/-!
# Every bracket of the minimal form is needed

The minimal form puts brackets around an operator on two operands only where its text would
otherwise be read as another tree.  Without any one of these pairs of brackets the text is still an
expression, but not the same one.

The tree that is read says how many brackets its text has to open in front of each leaf and each
operator on one operand: as many as the minimal form of this tree opens there.  Any text that is
read as the tree opens at least as many in each place.  Moves into a chain change none of these
numbers, so they are the same for an expression and for what its minimal form is read as.  The
brackets that the minimal form opens in front of an operator on two operands are no more than the
needed ones, so without one of them there are too few.

Brackets around operators on one operand are not counted.  The minimal form has them below other
such operators, where the text would be read the same without them.

## Main definitions

* `DeletesPair`, `Bracketed.DropsPair` — a pair of brackets is left out of a text and of a tree
* `Expr.needed` — how many brackets have to be opened where
* `Bracketed.OpensNeeded` — a text opens the brackets that its reading needs

## Main statements

* `Bracketed.opensNeeded` — the texts of well-bracketed trees do
* `Regroups.needed_eq` — a move keeps how many brackets are needed
* `Expr.not_needed_le_of_dropsPair` — where a pair is left out a bracket is missing
* `Expr.parse_ne_of_dropsPair` — without a pair the minimal form is read as another expression
-/

namespace Formula

variable {V : Type}

/-! ### Numbers in places -/

theorem forall₂_le_trans {xs ys zs : List Nat} (first : List.Forall₂ (· ≤ ·) xs ys)
    (second : List.Forall₂ (· ≤ ·) ys zs) : List.Forall₂ (· ≤ ·) xs zs := by
  induction first generalizing zs with
  | nil => exact second
  | cons le _ ih =>
      cases second with
      | cons le' others => exact .cons (Nat.le_trans le le') (ih others)

theorem forall₂_of_append {α β : Type} {R : α → β → Prop} {xs xs' : List α} {ys ys' : List β}
    (sameLength : xs.length = ys.length) (related : List.Forall₂ R (xs ++ xs') (ys ++ ys')) :
    List.Forall₂ R xs' ys' := by
  have behind := List.forall₂_drop xs.length related
  rwa [List.drop_left, List.drop_left' sameLength.symm] at behind

/-! ### Leaving out brackets -/

/-- One pair of brackets around a part of a text is left out. -/
def DeletesPair (inner text without : String) : Prop :=
  ∃ before after, text = before ++ "(" ++ inner ++ ")" ++ after ∧ without = before ++ inner ++ after

/-- The pair may stand anywhere inside a text. -/
theorem DeletesPair.inside {inner text without : String} (deletes : DeletesPair inner text without)
    (front back : String) : DeletesPair inner (front ++ text ++ back) (front ++ without ++ back) := by
  obtain ⟨before, after, rfl, rfl⟩ := deletes
  exact ⟨front ++ before, after ++ back, by simp only [String.append_assoc],
    by simp only [String.append_assoc]⟩

namespace Bracketed

/-- One pair of brackets, around an operator on two operands, is left out. -/
inductive DropsPair : Bracketed V → Bracketed V → Prop
  | here {op left right} :
      DropsPair (Bracketed.group (.binary op left right)) (.binary op left right)
  | operand (op) {b b'} (drops : DropsPair b b') : DropsPair (.unary op b) (.unary op b')
  | left (op) {b b'} (right) (drops : DropsPair b b') :
      DropsPair (.binary op b right) (.binary op b' right)
  | right (op left) {b b'} (drops : DropsPair b b') :
      DropsPair (.binary op left b) (.binary op left b')
  | group {b b'} (drops : DropsPair b b') : DropsPair (.group b) (.group b')

variable {b b' : Bracketed V}

/-- The text loses an opening and a closing bracket, and what stands between them is the text of an
operator on two operands. -/
theorem DropsPair.deletesPair (drops : b.DropsPair b') (constant : V → String) :
    ∃ op left right,
      DeletesPair ((binary op left right).text constant) (b.text constant) (b'.text constant) := by
  induction drops with
  | @here op left right => exact ⟨op, left, right, "", "", by simp [text], by simp⟩
  | operand outer _ ih =>
      obtain ⟨op, left, right, deletes⟩ := ih
      have inside := deletes.inside (outer.symbol ++ " ") ""
      exact ⟨op, left, right, by simpa only [text, String.append_empty] using inside⟩
  | left outer last _ ih =>
      obtain ⟨op, left, right, deletes⟩ := ih
      have inside := deletes.inside "" (" " ++ outer.symbol ++ " " ++ last.text constant)
      exact ⟨op, left, right,
        by simpa only [text, String.empty_append, String.append_assoc] using inside⟩
  | right outer first _ ih =>
      obtain ⟨op, left, right, deletes⟩ := ih
      have inside := deletes.inside (first.text constant ++ " " ++ outer.symbol ++ " ") ""
      exact ⟨op, left, right, by simpa only [text, String.append_empty] using inside⟩
  | group _ ih =>
      obtain ⟨op, left, right, deletes⟩ := ih
      exact ⟨op, left, right, deletes.inside "(" ")"⟩

/-- From an operator on one operand, in brackets or without, a pair is left out inside. -/
theorem DropsPair.of_groupIf_unary {brackets : Bool} {op : UnaryOp} {operand : Bracketed V}
    (drops : (groupIf brackets (unary op operand)).DropsPair b') :
    ∃ operand', operand.DropsPair operand' ∧ b' = groupIf brackets (unary op operand') := by
  cases brackets with
  | false =>
      cases drops with
      | operand _ inside => exact ⟨_, inside, rfl⟩
  | true =>
      cases drops with
      | group drops =>
          cases drops with
          | operand _ inside => exact ⟨_, inside, rfl⟩

/-- From an operator on two operands, in brackets or without, a pair is left out inside, or its own
brackets are. -/
theorem DropsPair.of_groupIf_binary {brackets : Bool} {op : BinaryOp} {left right : Bracketed V}
    (drops : (groupIf brackets (binary op left right)).DropsPair b') :
    (brackets = true ∧ b' = binary op left right) ∨
      (∃ left', left.DropsPair left' ∧ b' = groupIf brackets (binary op left' right)) ∨
      ∃ right', right.DropsPair right' ∧ b' = groupIf brackets (binary op left right') := by
  have bare {b' : Bracketed V} (drops : (binary op left right).DropsPair b') :
      (∃ left', left.DropsPair left' ∧ b' = binary op left' right) ∨
        ∃ right', right.DropsPair right' ∧ b' = binary op left right' := by
    cases drops with
    | left _ _ inside => exact .inl ⟨_, inside, rfl⟩
    | right _ _ inside => exact .inr ⟨_, inside, rfl⟩
  cases brackets with
  | false => exact .inr (bare drops)
  | true =>
      cases drops with
      | here => exact .inl ⟨rfl, rfl⟩
      | group drops =>
          obtain ⟨left', inside, rfl⟩ | ⟨right', inside, rfl⟩ := bare drops
          · exact .inr (.inl ⟨left', inside, rfl⟩)
          · exact .inr (.inr ⟨right', inside, rfl⟩)

/-- Brackets around a tree are opened in front of its first leaf or operator on one operand. -/
theorem openings_groupIf (brackets : Bool) (b : Bracketed V) (before : Nat) :
    (groupIf brackets b).openings before = b.openings (before + brackets.toNat) := by
  cases brackets <;> rfl

end Bracketed

/-! ### The brackets that are needed -/

/-- How tightly a text binds that is read as one operand in a place, and not as a part of a chain
that the place is in. -/
def Slot.apartRank : Slot → Nat
  | whole => 1
  | operand => 3
  | left parent => parent.rank
  | right parent => parent.rank + 1

namespace Expr

/-- How many brackets have to be opened in front of each leaf and each operator on one operand, from
left to right, for an expression in a place with some brackets before it.  These are the brackets of
the minimal form around operators on two operands. -/
def needed (slot : Slot) (before : Nat) : Expr V → List Nat
  | const _ => [before]
  | var _ => [before]
  | unary _ operand => before :: operand.needed .operand 0
  | binary op left right =>
      left.needed (.left op) (before + ((binary op left right).needsBrackets slot).toNat) ++
        right.needed (.right op) 0

/-- An operator without brackets passes on those before it. -/
theorem needed_binary {slot : Slot} {op : BinaryOp} {left right : Expr V}
    (bare : (binary op left right).needsBrackets slot = false) (before : Nat) :
    (binary op left right).needed slot before =
      left.needed (.left op) before ++ right.needed (.right op) 0 := by
  rw [needed, bare]
  rfl

/-- Which brackets are needed inside an expression does not depend on its place. -/
theorem needed_congr {slot slot' : Slot} {t : Expr V}
    (same : t.needsBrackets slot = t.needsBrackets slot') (before : Nat) :
    t.needed slot before = t.needed slot' before := by
  cases t with
  | const value => rfl
  | var v => rfl
  | unary op operand => rfl
  | binary op left right => rw [needed, needed, same]

/-- An operator that binds tightly enough needs no brackets. -/
theorem needsBrackets_of_apartRank_le {slot : Slot} {op : BinaryOp}
    (binds : slot.apartRank ≤ op.rank) (left right : Expr V) :
    (binary op left right).needsBrackets slot = false := by
  cases slot with
  | whole => rfl
  | operand => exact absurd op.rank_le (Nat.not_le_of_lt binds)
  | left parent =>
      rw [Slot.apartRank] at binds
      simpa [needsBrackets] using binds
  | right parent =>
      rw [Slot.apartRank] at binds
      have higher : ¬ op.rank < parent.rank := by omega
      have other : op.rank ≠ parent.rank := by omega
      simp [needsBrackets, higher, other]

/-- More brackets before an expression make more in front of its first leaf or operator. -/
theorem needed_mono {m n : Nat} (more : m ≤ n) (slot : Slot) (t : Expr V) :
    List.Forall₂ (· ≤ ·) (t.needed slot m) (t.needed slot n) := by
  induction t generalizing slot m n with
  | const value => exact .cons more .nil
  | var v => exact .cons more .nil
  | unary op operand _ => exact .cons more (List.forall₂_refl _)
  | binary op left right ihLeft _ =>
      exact List.rel_append (ihLeft (Nat.add_le_add_right more _) _) (List.forall₂_refl _)

/-- One pair of brackets around an expression is enough in any place. -/
theorem needed_le_whole (slot : Slot) (before : Nat) (t : Expr V) :
    List.Forall₂ (· ≤ ·) (t.needed slot before) (t.needed .whole (before + 1)) := by
  have more := Nat.le_succ before
  cases t with
  | const value => exact .cons more .nil
  | var v => exact .cons more .nil
  | unary op operand => exact .cons more (List.forall₂_refl _)
  | binary op left right =>
      exact List.rel_append (needed_mono (Nat.add_le_add_left (Bool.toNat_le _) before) _ _)
        (List.forall₂_refl _)

end Expr

/-! ### What is read opens what it needs -/

namespace Bracketed

open Formula.Expr

variable {b left right : Bracketed V}

/-- The text of a tree opens the brackets that its reading needs. -/
structure OpensNeeded (b : Bracketed V) : Prop where
  /-- On its own, in a place where the text is one operand. -/
  alone (slot : Slot) (before : Nat) (binds : slot.apartRank ≤ b.rank) :
    List.Forall₂ (· ≤ ·) (b.reading.needed slot before) (b.openings before)
  /-- Behind an operator that binds no tighter, with the brackets of the chain up to it. -/
  chained {op : BinaryOp} {e : Expr V} {before : Nat} {opened : List Nat} (slot : Slot)
    (bindsLess : op.rank ≤ b.rank) (binds : slot.apartRank ≤ op.rank)
    (first : List.Forall₂ (· ≤ ·) (e.needed (.left op) before) opened) :
    List.Forall₂ (· ≤ ·) ((b.readAfter (.chain e op)).needed slot before)
      (opened ++ b.openings 0)

namespace OpensNeeded

/-- A text that is read as one operand of the chain before it. -/
theorem of_bare (joins : ∀ lead, b.readAfter lead = lead.join b.reading)
    (alone : ∀ slot before, List.Forall₂ (· ≤ ·) (b.reading.needed slot before)
      (b.openings before)) : b.OpensNeeded where
  alone slot before _ := alone slot before
  chained {op e before opened} slot _ binds first := by
    rw [joins, Lead.join, needed_binary (needsBrackets_of_apartRank_le binds e b.reading)]
    exact List.rel_append first (alone (.right op) 0)

/-- An operator between two trees whose operators bind no less. -/
theorem binary {op : BinaryOp} (bindsLeft : op.rank ≤ left.rank) (bindsRight : op.rank ≤ right.rank)
    (opensLeft : left.OpensNeeded) (opensRight : right.OpensNeeded) :
    (Bracketed.binary op left right).OpensNeeded := by
  have alone (slot : Slot) (before : Nat) (binds : slot.apartRank ≤ op.rank) :
      List.Forall₂ (· ≤ ·) ((Bracketed.binary op left right).reading.needed slot before)
        ((Bracketed.binary op left right).openings before) :=
    opensRight.chained slot bindsRight binds (opensLeft.alone (.left op) before bindsLeft)
  refine ⟨alone, ?_⟩
  intro parent e before opened slot bindsLess binds first
  rw [show (Bracketed.binary op left right).rank = op.rank from rfl] at bindsLess
  -- A chain of a lower rank takes the text as one operand.  A chain of the same rank goes on through
  -- the left text and then through the right one.
  rcases Nat.lt_or_eq_of_le bindsLess with lower | same
  · have separate : (Lead.chain e parent).continues op.rank = false :=
      beq_eq_false_iff_ne.mpr (Nat.ne_of_lt lower)
    rw [readAfter_binary separate, Lead.join,
      needed_binary (needsBrackets_of_apartRank_le binds e _)]
    exact List.rel_append first (alone (.right parent) 0 lower)
  · have continues : (Lead.chain e parent).continues op.rank = true := beq_iff_eq.mpr same
    rw [readAfter_binary_of_continues continues, openings, ← List.append_assoc]
    exact opensRight.chained slot bindsRight (same ▸ binds)
      (opensLeft.chained (.left op) (same ▸ bindsLeft) (Nat.le_of_eq same.symm) first)

end OpensNeeded

/-- **What is read opens what it needs.**  The text of a well-bracketed tree opens, in front of each
leaf and each operator on one operand, at least the brackets that its reading needs there. -/
theorem opensNeeded (wellBracketed : b.WellBracketed) : b.OpensNeeded := by
  induction b with
  | const value =>
      exact .of_bare (fun _ => rfl) fun slot before => .cons (Nat.le_refl before) .nil
  | var v =>
      exact .of_bare (fun _ => rfl) fun slot before => .cons (Nat.le_refl before) .nil
  | unary op operand ih =>
      obtain ⟨isOperand, wellBracketed⟩ := wellBracketed
      refine .of_bare (fun _ => rfl) fun slot before => .cons (Nat.le_refl before) ?_
      exact (ih wellBracketed).alone .operand 0 (Nat.le_of_eq isOperand.symm)
  | binary op left right ihLeft ihRight =>
      obtain ⟨bindsLeft, bindsRight, wellLeft, wellRight⟩ := wellBracketed
      exact .binary bindsLeft bindsRight (ihLeft wellLeft) (ihRight wellRight)
  | group inner ih =>
      refine .of_bare (fun _ => rfl) fun slot before => ?_
      exact forall₂_le_trans (needed_le_whole slot before inner.reading)
        ((ih wellBracketed).alone .whole (before + 1) inner.rank_pos)

end Bracketed

/-! ### Moves -/

/-- **A move keeps how many brackets are needed** in each place. -/
theorem Regroups.needed_eq {t t' : Expr V} (move : Regroups t t') (slot : Slot) (before : Nat) :
    t'.needed slot before = t.needed slot before := by
  induction move generalizing slot before with
  | @shift op op' a b c joined =>
      have sameRank := (Expr.joins_binary_iff.mp joined).1
      -- Before the move the right operand has no brackets, and after it the left one has none.
      have bareLeft : (Expr.binary op a b).needsBrackets (.left op') = false := by
        simp [Expr.needsBrackets, sameRank]
      rw [Expr.needed, (Regroups.shift joined).needsBrackets_eq, Expr.needed_binary bareLeft,
        Expr.needed, Expr.needed_binary (Expr.needsBrackets_right_of_joins joined),
        Expr.needed_congr (Expr.needsBrackets_left_of_joins joined), List.append_assoc]
  | operand op move ih => rw [Expr.needed, Expr.needed, ih]
  | left op b move ih =>
      rw [Expr.needed, Expr.needed, (Regroups.left op b move).needsBrackets_eq, ih]
  | right op a move ih =>
      rw [Expr.needed, Expr.needed, (Regroups.right op a move).needsBrackets_eq, ih]

namespace Expr

open Formula.Bracketed

/-! ### What the minimal form opens -/

/-- The brackets of the minimal form are opened in the places where brackets may be needed. -/
theorem length_openings_minimallyBracketedIn (slot slot' : Slot) (before before' : Nat)
    (t : Expr V) :
    ((t.minimallyBracketedIn slot).openings before).length = (t.needed slot' before').length := by
  induction t generalizing slot slot' before before' with
  | const value => rfl
  | var v => rfl
  | unary op operand ih =>
      rw [minimallyBracketedIn, openings_groupIf, openings, needed, List.length_cons,
        List.length_cons, ih]
  | binary op left right ihLeft ihRight =>
      rw [minimallyBracketedIn, openings_groupIf, openings, needed, List.length_append,
        List.length_append, ihLeft, ihRight]

/-- In front of a left operand the minimal form opens no more brackets than needed: if one more is
needed there, it is missing. -/
theorem not_needed_succ_le (parent : BinaryOp) (before : Nat) (t : Expr V) (more others : List Nat) :
    ¬ List.Forall₂ (· ≤ ·) (t.needed (.left parent) (before + 1) ++ more)
      ((t.minimallyBracketedIn (.left parent)).openings before ++ others) := by
  have missing (before : Nat) {xs ys : List Nat} :
      ¬ List.Forall₂ (· ≤ ·) ((before + 1) :: xs) (before :: ys) := by
    rintro (_ | ⟨le, _⟩)
    exact absurd le (Nat.not_succ_le_self before)
  induction t generalizing parent before more others with
  | const value => exact missing before
  | var v => exact missing before
  | unary op operand _ => exact missing before
  | binary op left right ihLeft _ =>
      rw [needed, minimallyBracketedIn, openings_groupIf, openings, List.append_assoc,
        List.append_assoc, Nat.add_right_comm]
      exact ihLeft op _ _ _

/-- **Where a pair is left out a bracket is missing.**  Without one pair of brackets around an
operator on two operands, the minimal form does not open all the brackets that are needed. -/
theorem not_needed_le_of_dropsPair {t : Expr V} {slot : Slot} {b : Bracketed V}
    (drops : (t.minimallyBracketedIn slot).DropsPair b) (before : Nat) (more others : List Nat) :
    ¬ List.Forall₂ (· ≤ ·) (t.needed slot before ++ more) (b.openings before ++ others) := by
  induction t generalizing slot b before more others with
  | const value => cases drops
  | var v => cases drops
  | unary op operand ih =>
      obtain ⟨operand', inside, rfl⟩ := drops.of_groupIf_unary
      rw [needed, openings_groupIf, openings]
      rintro (_ | ⟨-, enough⟩)
      exact ih inside 0 more others enough
  | binary op left right ihLeft ihRight =>
      obtain ⟨brackets, rfl⟩ | ⟨left', inside, rfl⟩ | ⟨right', inside, rfl⟩ := drops.of_groupIf_binary
      · rw [needed, brackets, openings, List.append_assoc, List.append_assoc]
        exact not_needed_succ_le op before left _ _
      · rw [needed, openings_groupIf, openings, List.append_assoc, List.append_assoc]
        exact ihLeft inside _ _ _
      · rw [needed, openings_groupIf, openings, List.append_assoc, List.append_assoc]
        intro enough
        -- Up to the right operand the text opens brackets in as many places as it may have to.
        refine ihRight inside 0 more others (forall₂_of_append ?_ enough)
        exact (length_openings_minimallyBracketedIn (.left op) (.left op) _ _ left).symm

/-! ### Whole texts -/

section Map

variable {W : Type} (f : V → W)

theorem hasContinuousSpine_map (rank : Nat) (t : Expr V) :
    (t.map f).hasContinuousSpine rank = t.hasContinuousSpine rank := by
  induction t with
  | const value => rfl
  | var v => rfl
  | unary op operand _ => rfl
  | binary op left right ihLeft _ => rw [map, hasContinuousSpine, hasContinuousSpine, ihLeft]

theorem needsBrackets_map (slot : Slot) (t : Expr V) :
    (t.map f).needsBrackets slot = t.needsBrackets slot := by
  have spine := t.hasContinuousSpine_map f
  cases t with
  | const value => cases slot <;> rfl
  | var v => cases slot <;> rfl
  | unary op operand => cases slot <;> rfl
  | binary op left right =>
      cases slot with
      | right parent => rw [map, needsBrackets, needsBrackets, ← map, spine]
      | _ => rfl

/-- Constants play no part in which brackets are needed. -/
theorem needed_map (slot : Slot) (before : Nat) (t : Expr V) :
    (t.map f).needed slot before = t.needed slot before := by
  induction t generalizing slot before with
  | const value => rfl
  | var v => rfl
  | unary op operand ih => rw [map, needed, needed, ih]
  | binary op left right ihLeft ihRight =>
      rw [map, needed, needed, ← map, needsBrackets_map, ihLeft, ihRight]

end Map

/-- A text that is read as an expression of other constants opens the brackets that are needed for
the expression. -/
theorem needed_le_openings {W : Type} {f : V → W} {t : Expr V} {b : Bracketed V}
    (same : b.arranged.reading.map f = t.regrouped.map f) :
    List.Forall₂ (· ≤ ·) (t.needed .whole 0) (b.openings 0) := by
  have needs : t.needed .whole 0 = b.arranged.reading.needed .whole 0 :=
    calc t.needed .whole 0
        = t.regrouped.needed .whole 0 :=
          (regrouped_eq_of_move (fun move => move.needed_eq .whole 0) t).symm
      _ = b.arranged.reading.needed .whole 0 := by
          rw [← needed_map f, ← same, needed_map]
  rw [needs, ← openings_arranged]
  exact (opensNeeded b.wellBracketed_arranged).alone .whole 0 b.arranged.rank_pos

/-- **Every bracket around an operator on two operands is needed.**  In every mode of integers, let
one pair of brackets around an operator on two operands be left out of the minimal form of an
expression.  If neither text is refused for its nesting, both are read, as two different
expressions. -/
theorem parse_ne_of_dropsPair {mode : Mode} (integral : mode ≠ .float) (t : Expr mode.Value)
    {b : Bracketed mode.Value} (drops : t.minimallyBracketed.DropsPair b)
    (accepted : ∀ position,
      parse mode.domain (t.minimalText mode.domain.text) ≠ .error (.tooDeep position))
    (acceptedWithout : ∀ position,
      parse mode.domain (b.text mode.domain.text) ≠ .error (.tooDeep position)) :
    (∃ op left right, DeletesPair ((Bracketed.binary op left right).text mode.domain.text)
      (t.minimalText mode.domain.text) (b.text mode.domain.text)) ∧
    ∃ t' t'', parse mode.domain (t.minimalText mode.domain.text) = .ok t' ∧
      parse mode.domain (b.text mode.domain.text) = .ok t'' ∧ t'' ≠ t' := by
  refine ⟨drops.deletesPair _, ?_⟩
  have reading := parse_text_reduce integral (t.wellBracketed_minimallyBracketedIn .whole)
  have readingWithout := parse_text_arranged integral b
  split at reading
  next =>
    split at readingWithout
    next =>
      refine ⟨_, _, reading, readingWithout, fun same => ?_⟩
      have missing := not_needed_le_of_dropsPair drops 0 [] []
      rw [List.append_nil, List.append_nil] at missing
      exact missing (needed_le_openings same)
    next =>
      obtain ⟨position, refused⟩ := readingWithout
      exact absurd refused (acceptedWithout position)
  next =>
    obtain ⟨position, refused⟩ := reading
    exact absurd refused (accepted position)

/-- A product whose brackets are due to a quotient down its left spine, by a constant that is no
residue.  Without them the text is read as a longer chain. -/
theorem parse_ne_of_dropsPair_spine :
    let t : Expr Mode.modularInt.Value := .binary .multiply (.var .x)
      (.binary .multiply (.binary .divide (.var .y) (.const (-2020 : Int32))) (.var .z))
    let b : Bracketed Mode.modularInt.Value := .binary .multiply (.var .x)
      (.binary .multiply (.binary .divide (.var .y) (.const (-2020 : Int32))) (.var .z))
    t.minimallyBracketed.DropsPair b ∧
      (∃ op left right, DeletesPair
        ((Bracketed.binary op left right).text Mode.modularInt.domain.text)
        (t.minimalText Mode.modularInt.domain.text) (b.text Mode.modularInt.domain.text)) ∧
      ∃ t' t'', parse Mode.modularInt.domain (t.minimalText Mode.modularInt.domain.text) = .ok t' ∧
        parse Mode.modularInt.domain (b.text Mode.modularInt.domain.text) = .ok t'' ∧ t'' ≠ t' := by
  intro t b
  have drops : t.minimallyBracketed.DropsPair b := .right .multiply _ .here
  have reading := @parse_text_reduce .modularInt (by decide) t.minimallyBracketed
    (t.wellBracketed_minimallyBracketedIn .whole)
  rw [if_pos (by decide)] at reading
  have readingWithout := @parse_text_arranged .modularInt (by decide) b
  rw [if_pos (by decide)] at readingWithout
  refine ⟨drops, @parse_ne_of_dropsPair .modularInt (by decide) t b drops ?_ ?_⟩
  · intro position refused
    cases reading.symm.trans refused
  · intro position refused
    cases readingWithout.symm.trans refused

end Expr

end Formula
