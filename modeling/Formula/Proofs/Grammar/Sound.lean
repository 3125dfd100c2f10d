import Formula.Domain.CheckedInt
import Formula.Proofs.Grammar.Complete

/-!
# What is read is in the grammar

Whatever reading gives is the tree of a phrase that ends where reading stands, and the phrase is
nested no deeper than was allowed.  Every function that reads passes this on from the functions it
is given, so the proof follows the functions one by one, by induction on the links of a chain and
on the levels of nesting.

Together with the converse this makes the reading of whole texts a decision procedure for the
grammar.

## Main definitions

* `Sound` — reading gives phrases of a category
* `ChainRules` — how the phrases of a category are chained

## Main statements

* `sound_operand`, `sound_expression` — what is read is in the grammar
* `parse_eq_ok_iff_derives` — a text is read as a tree exactly if the grammar has it
* `Derives.unambiguous` — no text has two trees
-/

namespace Formula

variable {V : Type} {d : Domain V}

/-- What is read is a phrase of the category that is nested no deeper than a bound. -/
def Sound (d : Domain V) (category : Category) (bound : Nat) (read : Cursor → Reading V) : Prop :=
  ∀ (c : Cursor) (e : Expr V) (after : Cursor), read c = .ok (e, after) →
    ∃ n ≤ bound, Derives d category c.rest e n after.rest

/-! ### Chains -/

/-- The rules by which phrases of one category are chained to a phrase of another. -/
structure ChainRules (d : Domain V) (whole single : Category)
    (op? : Cursor → Option (BinaryOp × Cursor)) : Prop where
  /-- A single part is a chain. -/
  first {text e n rest} (part : Derives d single text e n rest) : Derives d whole text e n rest
  /-- A chain may go on with an operator and a part. -/
  link {c afterOp : Cursor} {text left n op right m rest} (found : op? c = some (op, afterOp))
      (chained : Derives d whole text left n c.rest)
      (part : Derives d single afterOp.rest right m rest) :
      Derives d whole text (.binary op left right) (max n m) rest

theorem chainRules_multiplicative : ChainRules d .term .operand multiplicativeOpAt? where
  first := .operand
  link found chained part :=
    have ⟨symbol, isProduct⟩ := binarySymbol_of_multiplicativeOpAt? found
    .product chained symbol isProduct part

theorem chainRules_additive : ChainRules d .expression .term additiveOpAt? where
  first := .term
  link found chained part :=
    have ⟨symbol, isSum⟩ := binarySymbol_of_additiveOpAt? found
    .sum chained symbol isSum part

section Chains

variable {whole single : Category} {op? : Cursor → Option (BinaryOp × Cursor)}
  {part : Cursor → Reading V} {bound : Nat}

/-- The loop of a chain makes longer chains of a chain.  The induction is on the number of links,
with the chain that has been read so far as the invariant. -/
theorem ChainRules.derives_of_chainLinks (rules : ChainRules d whole single op?)
    (sound : Sound d single bound part) {text : List Char} (links : Nat) :
    ∀ {e : Expr V} {c : Cursor} {e' : Expr V} {after : Cursor},
      (∃ n ≤ bound, Derives d whole text e n c.rest) →
      chainLinks op? part links e c = .ok (e', after) →
      ∃ n ≤ bound, Derives d whole text e' n after.rest := by
  induction links with
  | zero =>
      intro e c e' after chained found
      obtain ⟨rfl, rfl⟩ := Prod.mk.inj (Except.ok.inj found)
      exact chained
  | succ links ih =>
      intro e c e' after chained found
      rw [chainLinks] at found
      split at found
      next =>
        obtain ⟨rfl, rfl⟩ := Prod.mk.inj (Except.ok.inj found)
        exact chained
      next op afterOp foundOp =>
        split at found
        next right afterPart foundPart =>
          obtain ⟨n, fits, derivation⟩ := chained
          obtain ⟨m, fitsPart, derivationPart⟩ := sound afterOp right afterPart foundPart
          exact ih ⟨max n m, Nat.max_le.mpr ⟨fits, fitsPart⟩,
            rules.link foundOp derivation derivationPart⟩ found
        next => cases found

/-- What is read as a chain is a chain. -/
theorem ChainRules.sound_chain (rules : ChainRules d whole single op?)
    (sound : Sound d single bound part) (links : Nat) :
    Sound d whole bound (chain op? part links) := by
  intro c e after found
  rw [chain] at found
  split at found
  next first afterFirst foundFirst =>
    obtain ⟨n, fits, derivation⟩ := sound c first afterFirst foundFirst
    exact rules.derives_of_chainLinks sound links ⟨n, fits, rules.first derivation⟩ found
  next => cases found

end Chains

/-! ### Operands -/

section Operands

variable {links bound : Nat} {inner : Cursor → Reading V}

/-- What is read as an expression is one. -/
theorem sound_expression (sound : Sound d .operand bound inner) :
    Sound d .expression bound (expression links inner) :=
  chainRules_additive.sound_chain (chainRules_multiplicative.sound_chain sound links) links

/-- What is read as a constant is one. -/
theorem derives_of_literal {c after : Cursor} {e : Expr V}
    (starts : startsSignedLiteral d c = true ∨ startsLiteral d c = true)
    (found : literal d c = .ok (e, after)) : Derives d .bare c.rest e 1 after.rest := by
  obtain ⟨sign, digits, value, isSign, nonempty, areDigits, longest, denotes, comes, rfl⟩ :=
    exists_constant_of_literal starts found
  rw [comes]
  exact .constant isSign nonempty areDigits longest denotes

/-- What is read as a leaf is a constant or a variable. -/
theorem derives_of_leaf {c after : Cursor} {e : Expr V} (found : leaf d c = .ok (e, after)) :
    Derives d .bare c.rest e 1 after.rest := by
  unfold leaf at found
  split at found
  next starts => exact derives_of_literal (.inr starts) found
  next =>
    split at found
    next v afterWord foundWord =>
      obtain ⟨rfl, rfl⟩ := Prod.mk.inj (Except.ok.inj found)
      obtain ⟨comes, ends⟩ := rest_of_variableAt? foundWord
      rw [comes]
      exact .letter ends
    next => cases found

/-- What is read as an operand without blanks is one, of at most one more level than what is read
inside. -/
theorem sound_bareOperand (sound : Sound d .operand bound inner) :
    Sound d .bare (bound + 1) (bareOperand d links inner) := by
  intro c e after found
  unfold bareOperand at found
  split at found
  next starts => exact ⟨1, Nat.le_add_left 1 bound, derives_of_literal (.inl starts) found⟩
  next noSign =>
    split at found
    next op afterOp foundOp =>
      have symbol := unarySymbol_of_unaryOpAt? (Bool.eq_false_iff.mpr noSign) foundOp
      unfold applied at found
      split at found
      next e' after' foundInner =>
        obtain ⟨rfl, rfl⟩ := Prod.mk.inj (Except.ok.inj found)
        obtain ⟨n, fits, derivation⟩ := sound _ _ _ foundInner
        exact ⟨n + 1, Nat.succ_le_succ fits, .unary symbol derivation⟩
      next => cases found
    next =>
      split at found
      next opened accepted =>
        unfold bracketed at found
        split at found
        next e' after' foundInner =>
          split at found
          next closed acceptedClosing =>
            obtain ⟨rfl, rfl⟩ := Prod.mk.inj (Except.ok.inj found)
            obtain ⟨n, fits, derivation⟩ := sound_expression sound _ _ _ foundInner
            rw [(Cursor.accept?_eq_some_iff.mp acceptedClosing).1] at derivation
            rw [(Cursor.accept?_eq_some_iff.mp accepted).1]
            exact ⟨n + 1, Nat.succ_le_succ fits, .brackets derivation⟩
          next => cases found
        next => cases found
      next => exact ⟨1, Nat.le_add_left 1 bound, derives_of_leaf found⟩

/-- Blanks on both sides make an operand. -/
theorem sound_betweenBlanks (sound : Sound d .bare bound inner) :
    Sound d .operand bound (betweenBlanks inner) := by
  intro c e after found
  unfold betweenBlanks at found
  split at found
  next e' after' foundInner =>
    obtain ⟨rfl, rfl⟩ := Prod.mk.inj (Except.ok.inj found)
    obtain ⟨n, fits, derivation⟩ := sound _ _ _ foundInner
    obtain ⟨before, blanksBefore, split⟩ := c.exists_blanks_skipBlanks
    obtain ⟨behind, blanksBehind, splitBehind⟩ := after'.exists_blanks_skipBlanks
    rw [splitBehind] at derivation
    rw [split]
    exact ⟨n, fits, .blanks blanksBefore derivation blanksBehind⟩
  next => cases found

/-- **What is read as an operand is one**, of at most the levels that are allowed. -/
theorem sound_operand (d : Domain V) (links bound : Nat) :
    Sound d .operand bound (operand d links bound) := by
  induction bound with
  | zero =>
      intro c e after found
      cases found
  | succ bound ih => exact sound_betweenBlanks (sound_bareOperand ih)

end Operands

/-! ### Whole texts -/

section Texts

variable {nesting links : Nat} {text : List Char} {e : Expr V}

/-- What a whole text is read as is its tree in the grammar. -/
theorem derives_of_parseWithin (found : parseWithin d nesting links text = .ok e) :
    ∃ n ≤ nesting, Derives d .expression text e n [] := by
  unfold parseWithin at found
  split at found
  next e' after foundInner =>
    split at found
    next atEnd =>
      obtain rfl := Except.ok.inj found
      obtain ⟨n, fits, derivation⟩ :=
        sound_expression (sound_operand d links nesting) _ _ _ foundInner
      have nothingLeft : after.rest = [] := by simpa using atEnd
      rw [nothingLeft] at derivation
      exact ⟨n, fits, derivation⟩
    next => cases found
  next => cases found

/-- **The grammar is unambiguous.**  A text has one tree at most, with one nesting. -/
theorem Derives.unambiguous {e' : Expr V} {n m : Nat}
    (derivation : Derives d .expression text e n [])
    (derivation' : Derives d .expression text e' m []) : e = e' ∧ n = m := by
  have within : parseWithin d n text.length text = .ok e := by
    simpa using derivation.parseWithin_eq n (Nat.le_refl text.length)
  have within' : parseWithin d m text.length text = .ok e' := by
    simpa using derivation'.parseWithin_eq m (Nat.le_refl text.length)
  -- With the nesting of the one derivation, the other one is read only if it is no deeper.
  have reading := derivation'.parseWithin_eq n (Nat.le_refl text.length)
  have reading' := derivation.parseWithin_eq m (Nat.le_refl text.length)
  rw [within] at reading
  rw [within'] at reading'
  split at reading
  next fits =>
    split at reading'
    next fits' => exact ⟨Except.ok.inj reading, Nat.le_antisymm fits' fits⟩
    next =>
      obtain ⟨_, refused⟩ := reading'
      cases refused
  next =>
    obtain ⟨_, refused⟩ := reading
    cases refused

/-- **Reading decides the grammar.**  A text is read as a tree exactly if the grammar derives this
tree from it with at most the nesting allowed, and a text that the grammar derives a tree from
with a larger nesting is refused as too deep. -/
theorem parse_eq_ok_iff_derives (d : Domain V) (text : String) :
    (∀ e, (∃ n ≤ maxNesting, Derives d .expression text.toList e n []) ↔ parse d text = .ok e) ∧
      ∀ e n, Derives d .expression text.toList e n [] → maxNesting < n →
        ∃ position, parse d text = .error (.tooDeep position) := by
  refine ⟨fun e => ⟨?_, derives_of_parseWithin⟩, ?_⟩
  · rintro ⟨n, fits, derivation⟩
    have reading := derivation.parseWithin_eq maxNesting (Nat.le_refl _)
    rwa [if_pos fits] at reading
  · intro e n derivation exceeds
    have reading := derivation.parseWithin_eq maxNesting (Nat.le_refl _)
    rwa [if_neg (Nat.not_le.mpr exceeds)] at reading

/-- The first minus is an operator, and the second one the sign of a constant. -/
example : parse checkedInt "x--5" = .ok (.binary .subtract (.var .x) (.const (-5))) :=
  rfl

end Texts

end Formula
