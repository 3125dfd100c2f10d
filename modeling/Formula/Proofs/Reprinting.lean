import Formula.Proofs.FullForm
import Formula.Proofs.Grammar.Sound
import Formula.Proofs.Regrouping

/-!
# Printing what was read

An expression that was read from a text can be printed in both forms, and these can be read again.
The constants of the expression stand in no way, since what is read as a constant is reduced.  But
the brackets of a printed form count as nesting, and there may be more of them than in the text:
the full form puts brackets around every link of a chain, and the minimal form around every unary
operator below another one.  A printed form that is nested too deeply is refused, and that is the
only reason for which one can be refused.

The minimal form at least is at most twice as deep as the text.

## Main definitions

* `Slot.Takes` — which phrases may stand in a place without brackets of their own

## Main statements

* `parse_isReduced` — the constants of an expression that was read
* `Derives.nesting_minimallyBracketedIn_lt` — the nesting of the minimal form
* `Expr.parse_printed` — when printed forms are accepted again
* `Expr.not_parse_printed` — they are not always
-/

namespace Formula

variable {V : Type} {d : Domain V}

/-! ### Constants -/

/-- The constants of a phrase were read. -/
theorem Derives.exists_read?_eq_some {category : Category} {text rest : List Char} {e : Expr V}
    {n : Nat} (derivation : Derives d category text e n rest) :
    ∀ value ∈ e.constants, ∃ literal, d.read? literal = some value := by
  induction derivation with
  | term _ ih => exact ih
  | sum _ _ _ _ ihFirst ihLast =>
      intro value member
      exact (List.mem_append.mp member).elim (ihFirst value) (ihLast value)
  | operand _ ih => exact ih
  | product _ _ _ _ ihFirst ihLast =>
      intro value member
      exact (List.mem_append.mp member).elim (ihFirst value) (ihLast value)
  | blanks _ _ _ ih => exact ih
  | constant _ _ _ _ denotes =>
      intro value member
      obtain rfl := List.mem_singleton.mp member
      exact ⟨_, denotes⟩
  | letter =>
      intro value member
      cases member
  | unary _ _ ih => exact ih
  | brackets _ ih => exact ih

/-- What is read as a constant of a mode is reduced. -/
theorem Mode.isReduced_of_read? {mode : Mode} {literal : List Char} {value : mode.Value}
    (read : mode.domain.read? literal = some value) : mode.IsReduced value := by
  cases mode with
  | modularInt =>
      obtain ⟨i, -, rfl⟩ := Option.map_eq_some_iff.mp read
      show 0 ≤ (ModularInt.ofResidue _).toInt ∧ (ModularInt.ofResidue _).toInt < _
      rw [ModularInt.toInt_ofResidue (ModularInt.residue_lt i)]
      have := ModularInt.residue_lt i
      omega
  | checkedInt | float | bigInteger | uncheckedInt | byte => trivial

/-- **The constants of an expression that was read are reduced.** -/
theorem parse_isReduced {mode : Mode} {text : String} {t : Expr mode.Value}
    (found : parse mode.domain text = .ok t) : ∀ value ∈ t.constants, mode.IsReduced value := by
  obtain ⟨n, -, derivation⟩ := derives_of_parseWithin found
  intro value member
  obtain ⟨literal, read⟩ := derivation.exists_read?_eq_some value member
  exact Mode.isReduced_of_read? read

/-! ### Nesting of the minimal form -/

/-- Whether the phrases of a category need no brackets of their own in a place.  Where a sum or a
product needs some, it is not a phrase of a category that the place takes. -/
def Slot.Takes : Slot → Category → Prop
  | _, .bare | _, .operand => True
  | whole, _ => True
  | operand, _ => False
  | left _, .term => True
  | left parent, .expression => parent.rank = 1
  | right parent, .term => parent.rank = 1
  | right _, .expression => False

/-- Brackets cost a level at most. -/
theorem Bracketed.nesting_groupIf_le (brackets : Bool) (b : Bracketed V) :
    (groupIf brackets b).nesting ≤ b.nesting + 1 := by
  cases brackets with
  | true => exact Nat.le_refl _
  | false => exact Nat.le_succ _

/-- Another place costs one pair of brackets at most. -/
theorem Expr.nesting_minimallyBracketedIn_le (t : Expr V) (slot : Slot) :
    (t.minimallyBracketedIn slot).nesting ≤ t.minimallyBracketed.nesting + 1 := by
  cases t with
  | const value => exact Nat.le_succ _
  | var v => exact Nat.le_succ _
  | unary op operand => exact Bracketed.nesting_groupIf_le _ _
  | binary op left right => exact Bracketed.nesting_groupIf_le _ _

/-- A place that takes sums takes products as well. -/
theorem Slot.Takes.term {slot : Slot} (takes : slot.Takes .expression) : slot.Takes .term := by
  cases slot with
  | whole => trivial
  | operand => cases takes
  | left parent => trivial
  | right parent => cases takes

/-- A sum needs no brackets where sums are taken. -/
theorem Slot.Takes.sum {slot : Slot} {op : BinaryOp} (takes : slot.Takes .expression)
    (isSum : op.rank = 1) (left right : Expr V) :
    (Expr.binary op left right).needsBrackets slot = false := by
  cases slot with
  | whole => rfl
  | operand => cases takes
  | left parent =>
      replace takes : parent.rank = 1 := takes
      rw [Expr.needsBrackets, takes, isSum]
      rfl
  | right parent => cases takes

/-- A product needs no brackets where products are taken. -/
theorem Slot.Takes.product {slot : Slot} {op : BinaryOp} (takes : slot.Takes .term)
    (isProduct : op.rank = 2) (left right : Expr V) :
    (Expr.binary op left right).needsBrackets slot = false := by
  cases slot with
  | whole => rfl
  | operand => cases takes
  | left parent =>
      rw [Expr.needsBrackets, isProduct]
      exact decide_eq_false (Nat.not_lt.mpr parent.rank_le)
  | right parent =>
      replace takes : parent.rank = 1 := takes
      rw [Expr.needsBrackets, takes, isProduct]
      rfl

/-- **The minimal form is at most twice as deep** as the text that an expression was read from.  A
unary operator in the text may cost a pair of brackets besides, and everything else that the minimal
form has around a leaf was there in the text. -/
theorem Derives.nesting_minimallyBracketedIn_lt {category : Category} {text rest : List Char}
    {e : Expr V} {n : Nat} (derivation : Derives d category text e n rest) (slot : Slot)
    (takes : slot.Takes category) : (e.minimallyBracketedIn slot).nesting < 2 * n := by
  induction derivation generalizing slot with
  | term _ ih => exact ih slot takes.term
  | @sum _ left _ _ op _ right _ _ _ _ isSum _ ihFirst ihLast =>
      have first := ihFirst (.left op) isSum
      have last := ihLast (.right op) isSum
      rw [Expr.minimallyBracketedIn_binary, takes.sum isSum]
      show max _ _ < _
      omega
  | operand _ ih => exact ih slot trivial
  | @product _ left _ _ op _ right _ _ _ _ isProduct _ ihFirst ihLast =>
      have first := ihFirst (.left op) trivial
      have last := ihLast (.right op) trivial
      rw [Expr.minimallyBracketedIn_binary, takes.product isProduct]
      show max _ _ < _
      omega
  | blanks _ _ _ ih => exact ih slot trivial
  | constant => exact Nat.one_lt_two
  | letter => exact Nat.one_lt_two
  | @unary op _ _ e _ _ _ _ ih =>
      have inner := ih .operand trivial
      have whole : (Expr.unary op e).minimallyBracketed.nesting =
          (e.minimallyBracketedIn .operand).nesting + 1 := rfl
      have placed := (Expr.unary op e).nesting_minimallyBracketedIn_le slot
      omega
  | @brackets _ e _ _ _ ih =>
      have inner : e.minimallyBracketed.nesting < _ := ih .whole trivial
      have placed := e.nesting_minimallyBracketedIn_le slot
      omega

/-! ### Printed forms -/

namespace Expr

/-- **When printed forms are accepted again.**  An expression that was read in a mode of integers
can be read from its full form if it is not too high, and its minimal form can be read if that is
not nested too deeply, as is the case if the text was at most half as deep as is allowed.  Otherwise
the printed form is refused for its nesting. -/
theorem parse_printed {mode : Mode} (integral : mode ≠ .float) {text : String}
    {t : Expr mode.Value} (found : parse mode.domain text = .ok t) :
    (if t.height ≤ maxNesting then
      parse mode.domain (t.fullText mode.domain.text) = .ok t
    else
      ∃ position,
        parse mode.domain (t.fullText mode.domain.text) = .error (.tooDeep position)) ∧
    (if t.minimallyBracketed.nesting ≤ maxNesting then
      ∃ t', parse mode.domain (t.minimalText mode.domain.text) = .ok t'
    else
      ∃ position,
        parse mode.domain (t.minimalText mode.domain.text) = .error (.tooDeep position)) ∧
    ∀ n, Derives mode.domain .expression text.toList t n [] → 2 * n ≤ maxNesting →
      ∃ t', parse mode.domain (t.minimalText mode.domain.text) = .ok t' := by
  have reduced := parse_isReduced found
  have full := Bracketed.parse_text (d := mode.domain) t.wellBracketed_fullyBracketed
    fun value member => mode.rereads integral (reduced value (t.strip_fullyBracketed ▸ member))
  rw [nesting_fullyBracketed, Bracketed.reading, readAfter_fullyBracketed] at full
  have minimal := parse_minimalText_eq integral t reduced
  refine ⟨full, ?_, fun n derivation shallow => ?_⟩
  · split at minimal
    next fits =>
      rw [if_pos fits]
      exact ⟨_, minimal⟩
    next exceeds =>
      rw [if_neg exceeds]
      exact minimal
  · have bound : t.minimallyBracketed.nesting < 2 * n :=
      derivation.nesting_minimallyBracketedIn_lt .whole trivial
    rw [if_pos (by omega)] at minimal
    exact ⟨_, minimal⟩

/-- A negative constant is printed as its residue. -/
theorem parse_printed_residue :
    parse Mode.modularInt.domain "x - -5" =
        .ok (.binary .subtract (.var .x) (.const (1004 : Int32))) ∧
      parse Mode.modularInt.domain (fullText Mode.modularInt.domain.text
        (.binary .subtract (.var .x) (.const (1004 : Int32)))) =
          .ok (.binary .subtract (.var .x) (.const (1004 : Int32))) ∧
      ∃ t', parse Mode.modularInt.domain (minimalText Mode.modularInt.domain.text
        (.binary .subtract (.var .x) (.const (1004 : Int32)))) = .ok t' := by
  have found : parse Mode.modularInt.domain "x - -5" =
      .ok (.binary .subtract (.var .x) (.const (1004 : Int32))) := rfl
  obtain ⟨full, minimal, -⟩ := @parse_printed .modularInt (by decide) "x - -5" _ found
  rw [if_pos (by decide)] at full minimal
  exact ⟨found, full, minimal⟩

/-! ### Printed forms that are refused -/

/-- The sum `x + x + … + x` with a number of operators. -/
def longSum : Nat → Expr V
  | 0 => .var .x
  | links + 1 => .binary .add (longSum links) (.var .x)

/-- The negation `- - … - x` with a number of operators. -/
def deepNegation : Nat → Expr V
  | 0 => .var .x
  | depth + 1 => .unary .negate (deepNegation depth)

/-- Each link of a sum makes it higher. -/
theorem height_longSum (links : Nat) : (longSum links : Expr V).height = links + 1 := by
  induction links with
  | zero => rfl
  | succ links ih =>
      rw [longSum, height, ih, height]
      omega

theorem isGrouped_longSum (links : Nat) : (longSum links : Expr V).IsGrouped := by
  induction links with
  | zero => trivial
  | succ links ih => exact ⟨rfl, ih, trivial⟩

/-- In its minimal form a sum has no brackets. -/
theorem nesting_longSum (links : Nat) (slot : Slot) (takes : slot.Takes .expression) :
    ((longSum links : Expr V).minimallyBracketedIn slot).nesting = 1 := by
  induction links generalizing slot with
  | zero => rfl
  | succ links ih =>
      rw [longSum, minimallyBracketedIn_binary, takes.sum rfl]
      show max _ _ = 1
      rw [ih (.left .add) rfl]
      rfl

theorem height_deepNegation (depth : Nat) : (deepNegation depth : Expr V).height = depth + 1 := by
  induction depth with
  | zero => rfl
  | succ depth ih => rw [deepNegation, height, ih, Nat.add_comm]

/-- In its minimal form a negation has brackets around each negation inside. -/
theorem nesting_deepNegation (depth : Nat) :
    ((deepNegation depth : Expr V).minimallyBracketedIn .operand).nesting = 2 * depth + 1 := by
  induction depth with
  | zero => rfl
  | succ depth ih =>
      show ((deepNegation depth : Expr V).minimallyBracketedIn .operand).nesting + 1 + 1 = _
      rw [ih]
      omega

/-- A long sum is read from its minimal form. -/
theorem parse_minimalText_longSum (links : Nat) :
    parse checkedInt ((longSum links).minimalText checkedInt.text) = .ok (longSum links) := by
  have reading := @parse_minimalText_eq .checkedInt (by decide) (longSum links) fun _ _ => trivial
  have flat : (longSum links : Expr Int32).minimallyBracketed.nesting = 1 :=
    nesting_longSum links .whole trivial
  rwa [if_pos (flat ▸ by decide), regrouped_of_isGrouped (isGrouped_longSum links)] at reading

/-- A long sum is refused in its full form. -/
theorem parse_fullText_longSum (links : Nat) (long : maxNesting ≤ links) :
    ∃ position,
      parse checkedInt ((longSum links).fullText checkedInt.text) = .error (.tooDeep position) := by
  have reading := Bracketed.parse_text (d := checkedInt)
    (longSum links).wellBracketed_fullyBracketed fun value _ => checkedInt_rereads value
  rwa [nesting_fullyBracketed, height_longSum, if_neg (Nat.not_le.mpr (Nat.lt_succ_of_le long))]
    at reading

/-- A deep negation is read from its full form. -/
theorem parse_fullText_deepNegation (depth : Nat) (shallow : depth < maxNesting) :
    parse checkedInt ((deepNegation depth).fullText checkedInt.text) =
      .ok (deepNegation depth) := by
  have reading := Bracketed.parse_text (d := checkedInt)
    (deepNegation depth).wellBracketed_fullyBracketed fun value _ => checkedInt_rereads value
  rwa [nesting_fullyBracketed, height_deepNegation, if_pos (Nat.succ_le_of_lt shallow),
    Bracketed.reading, readAfter_fullyBracketed] at reading

/-- A deep negation is refused in its minimal form, which is twice as deep. -/
theorem parse_minimalText_deepNegation (depth : Nat) (deep : maxNesting < 2 * (depth + 1)) :
    ∃ position, parse checkedInt ((deepNegation (depth + 1)).minimalText checkedInt.text) =
      .error (.tooDeep position) := by
  have reading := @parse_minimalText_eq .checkedInt (by decide) (deepNegation (depth + 1))
    fun _ _ => trivial
  have doubled : (deepNegation (depth + 1) : Expr Int32).minimallyBracketed.nesting =
      2 * (depth + 1) := congrArg (· + 1) (nesting_deepNegation depth)
  rwa [if_neg (doubled ▸ Nat.not_le.mpr deep)] at reading

/-- **Printed forms can be refused.**  A sum of 257 variables is read from its minimal form and
refused in its full form.  A variable that is negated 129 times is read from its full form and
refused in its minimal form. -/
theorem not_parse_printed :
    (¬∀ (text : String) (t : Expr Int32), parse checkedInt text = .ok t →
      parse checkedInt (t.fullText checkedInt.text) = .ok t) ∧
    ¬∀ (text : String) (t : Expr Int32), parse checkedInt text = .ok t →
      ∃ t', parse checkedInt (t.minimalText checkedInt.text) = .ok t' := by
  constructor
  · intro accepted
    obtain ⟨position, refused⟩ := parse_fullText_longSum 256 (by decide)
    rw [accepted _ _ (parse_minimalText_longSum 256)] at refused
    cases refused
  · intro accepted
    obtain ⟨position, refused⟩ := parse_minimalText_deepNegation 128 (by decide)
    obtain ⟨t', found⟩ := accepted _ _ (parse_fullText_deepNegation 129 (by decide))
    rw [found] at refused
    cases refused

end Expr

end Formula
