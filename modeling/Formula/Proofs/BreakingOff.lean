import Formula.Proofs.Grammar.Continuation
import Formula.Proofs.Grammar.Sound

/-!
# Where reading breaks off

A text that is refused for another reason than its nesting is in order up to the position of the
error: what stands before the position is the beginning of a written expression.  What it lacks to
be one can be said from the error.  At most it lacks an operand, for which a blank and a variable
will do, and the brackets that are open at the position lack their closing ones.

The position is a place between two symbols, never one inside a symbol, however far reading has
looked ahead there.  This is what allows the text to go on differently from this place.  The blank
before the variable keeps it apart from a word or a constant, and so do closing brackets.

## Main definitions

* `Phrase` — phrases of a bounded nesting
* `ParseError.supplement` — what an error says is missing
* `Breaks` — texts that are in order up to the position of an error
* `Ends` — how reading from a place may end

## Main statements

* `ends_operand`, `ends_expression` — where reading breaks off, the text is in order so far
* `parse_error_prefix` — the same for whole texts

## Design notes

Positions count from the start of the text, and reading from a place sees the rest of it only.
`Breaks` therefore measures a position from the end of the text: the position and the number of
characters from there on make up the whole text, whose length all cursors of one text agree on.
-/

namespace Formula

variable {V : Type} {d : Domain V}

/-! ### Phrases of a bounded nesting -/

/-- A text starts with a phrase of a category, nested no deeper than a bound, and goes on with a
rest. -/
def Phrase (d : Domain V) (category : Category) (bound : Nat) (text rest : List Char) : Prop :=
  ∃ e, ∃ n ≤ bound, Derives d category text e n rest

namespace Phrase

variable {category : Category} {bound : Nat} {text mid next rest : List Char}

theorem portable (phrase : Phrase d category bound text rest) :
    Portable d (Phrase d category bound) text rest := by
  obtain ⟨e, n, fits, derivation⟩ := phrase
  exact derivation.portable.mono fun _ _ moved => ⟨e, n, fits, moved⟩

/-- A phrase of a higher rank is one of a lower rank. -/
theorem lower {low high : Nat} (positive : 1 ≤ low) (below : low ≤ high)
    (phrase : Phrase d (.ofRank high) bound text rest) :
    Phrase d (.ofRank low) bound text rest := by
  obtain ⟨e, n, fits, derivation⟩ := phrase
  exact ⟨e, n, fits, derivation.lower positive below⟩

/-- A phrase of the rank of an operator goes on with this operator and a phrase of a higher rank. -/
theorem join {op : BinaryOp} (first : Phrase d (.ofRank op.rank) bound text mid)
    (symbol : BinarySymbol op mid next) (last : Phrase d (.ofRank (op.rank + 1)) bound next rest) :
    Phrase d (.ofRank op.rank) bound text rest := by
  obtain ⟨left, n, fits, derivation⟩ := first
  obtain ⟨right, m, fits', derivation'⟩ := last
  exact ⟨_, max n m, Nat.max_le.mpr ⟨fits, fits'⟩, derivation.join symbol derivation'⟩

/-- An operand without blanks is one with no blanks. -/
theorem operand (bare : Phrase d .bare bound text rest) : Phrase d .operand bound text rest := by
  obtain ⟨e, n, fits, derivation⟩ := bare
  have none : ∀ c ∈ ([] : List Char), isBlank c := by simp
  have padded : Derives d .operand ([] ++ text) e n rest :=
    .blanks none (show Derives d .bare text e n ([] ++ rest) from derivation) none
  exact ⟨e, n, fits, padded⟩

/-- More blanks may stand before an operand. -/
theorem blanks {before : List Char} (areBlanks : ∀ c ∈ before, isBlank c)
    (phrase : Phrase d .operand bound text rest) :
    Phrase d .operand bound (before ++ text) rest := by
  obtain ⟨e, n, fits, derivation⟩ := phrase
  cases derivation with
  | @blanks before' _ _ _ _ _ blanksBefore inner blanksAfter =>
      rw [← List.append_assoc]
      refine ⟨e, n, fits, .blanks (fun c member => ?_) inner blanksAfter⟩
      exact (List.mem_append.mp member).elim (areBlanks c) (blanksBefore c)

/-- An operator on one operand costs a level. -/
theorem unary {op : UnaryOp} (symbol : UnarySymbol d op text next)
    (inner : Phrase d .operand bound next rest) : Phrase d .bare (bound + 1) text rest := by
  obtain ⟨e, n, fits, derivation⟩ := inner
  exact ⟨_, n + 1, Nat.succ_le_succ fits, .unary symbol derivation⟩

/-- Brackets cost a level. -/
theorem brackets (inner : Phrase d .expression bound text (')' :: rest)) :
    Phrase d .bare (bound + 1) ('(' :: text) rest := by
  obtain ⟨e, n, fits, derivation⟩ := inner
  exact ⟨e, n + 1, Nat.succ_le_succ fits, .brackets derivation⟩

/-- What is read is a phrase. -/
theorem of_sound {read : Cursor → Reading V} (sound : Sound d category bound read)
    {c after : Cursor} {e : Expr V} (found : read c = .ok (e, after)) :
    Phrase d category bound c.rest after.rest := by
  obtain ⟨n, fits, derivation⟩ := sound c e after found
  exact ⟨e, n, fits, derivation⟩

/-- A text that is an expression can be read. -/
theorem parse_ofList (phrase : Phrase d .expression maxNesting text []) :
    ∃ e, parse d (String.ofList text) = .ok e := by
  obtain ⟨e, n, fits, derivation⟩ := phrase
  have reading := derivation.parseWithin_eq maxNesting (Nat.le_refl text.length)
  rw [if_pos fits] at reading
  exact ⟨e, by rwa [parse, String.toList_ofList, parseChars]⟩

end Phrase

/-! ### What is missing -/

/-- What can be put in at the position of an error so that only closing brackets are missing behind
it: an operand, if one was expected, and otherwise nothing. -/
def ParseError.supplement : ParseError → List Char
  | .illegalSymbol .operand _ _ | .constantFormat _ _ _ => [' ', 'x']
  | .illegalSymbol .binaryOperator _ _ | .bracketImbalance _ _ | .tooDeep _ => []

/-- What may be missing where an expression breaks off with a number of open brackets: an operand,
or the closing one of these brackets. -/
inductive Missing : ParseError → Nat → Prop
  | closing {position found brackets} (opened : 0 < brackets) :
      Missing (.bracketImbalance position found) brackets
  | operand {position found brackets} : Missing (.illegalSymbol .operand position found) brackets
  | constant {first last literal brackets} : Missing (.constantFormat first last literal) brackets

namespace Missing

variable {error : ParseError} {brackets : Nat}

/-- With no bracket open, an operand is missing. -/
theorem supplement_eq (missing : Missing error 0) : error.supplement = [' ', 'x'] := by
  cases missing with
  | closing opened => exact absurd opened (Nat.lt_irrefl 0)
  | operand => rfl
  | constant => rfl

theorem succ (missing : Missing error brackets) : Missing error (brackets + 1) := by
  cases missing with
  | closing => exact .closing (Nat.succ_pos brackets)
  | operand => exact .operand
  | constant => exact .constant

end Missing

/-- A text that is the end of one of the given length is in order up to the position of an error.
With what is missing there, and with closing brackets for those that are open, it starts as is said
of a text and its rest, whatever follows that continues none of this. -/
def Breaks (d : Domain V) (starts : List Char → List Char → Prop) (error : ParseError)
    (length : Nat) (text : List Char) : Prop :=
  ∃ before after brackets, text = before ++ after ∧ error.position + after.length = length + 1 ∧
    Opens before brackets ∧ Missing error brackets ∧
    ∀ rest, Detached d rest →
      starts (before ++ (error.supplement ++ (List.replicate brackets ')' ++ rest))) rest

namespace Breaks

variable {starts starts' : List Char → List Char → Prop} {error : ParseError} {length : Nat}
  {text mid : List Char}

theorem mono (breaks : Breaks d starts error length text)
    (follows : ∀ text rest, starts text rest → starts' text rest) :
    Breaks d starts' error length text := by
  obtain ⟨before, after, brackets, split, position, opens, missing, completed⟩ := breaks
  exact ⟨before, after, brackets, split, position, opens, missing,
    fun rest detached => follows _ _ (completed rest detached)⟩

/-- What stands before the text that breaks off may stand before the completed text as well. -/
theorem after (first : Portable d starts text mid) (breaks : Breaks d starts' error length mid) :
    Breaks d (fun text rest => ∃ mid, starts text mid ∧ starts' mid rest) error length text := by
  obtain ⟨part, rfl, balanced, moved⟩ := first
  obtain ⟨before, after, brackets, rfl, position, opens, missing, completed⟩ := breaks
  refine ⟨part ++ before, after, brackets, by simp, position, balanced.append_zero opens, missing,
    fun rest detached => ⟨_, ?_, completed rest detached⟩⟩
  rw [List.append_assoc]
  refine moved _ ?_
  cases before with
  | cons x before => exact .of_head rfl
  | nil =>
      -- No bracket is open here, so an operand is missing, and its blank comes first.
      obtain rfl : brackets = 0 := by simpa [Opens] using opens.symm
      rw [missing.supplement_eq]
      exact (Detached.blank _).replaces _

/-- An open bracket before the text that breaks off is closed behind the completed text. -/
theorem bracketed (breaks : Breaks d starts error length text) :
    Breaks d (fun text rest => ∃ inner, text = '(' :: inner ∧ starts inner (')' :: rest)) error
      length ('(' :: text) := by
  obtain ⟨before, after, brackets, rfl, position, opens, missing, completed⟩ := breaks
  refine ⟨'(' :: before, after, brackets + 1, rfl, position, opens.opening, missing.succ,
    fun rest _ => ⟨_, rfl, ?_⟩⟩
  have closed := completed (')' :: rest) (.closing rest)
  rwa [List.replicate_succ', List.append_assoc, List.singleton_append]

/-- Where a bracket is not closed behind its content, the closing one is all that is missing. -/
theorem unclosed {position : Nat} {found : Option Char} (inner : Portable d starts text mid)
    (place : position + mid.length = length + 1) :
    Breaks d (fun text rest => ∃ inner, text = '(' :: inner ∧ starts inner (')' :: rest))
      (.bracketImbalance position found) length ('(' :: text) := by
  obtain ⟨part, rfl, balanced, moved⟩ := inner
  exact ⟨'(' :: part, mid, 1, rfl, place, balanced.opening, .closing Nat.one_pos,
    fun rest _ => ⟨_, rfl, moved _ ((Detached.closing rest).replaces mid)⟩⟩

/-- Where an operand is expected and missing, a variable will do. -/
theorem missingOperand {bound : Nat} (missing : Missing error 0)
    (place : error.position + text.length = length + 1) :
    Breaks d (Phrase d .operand (bound + 1)) error length text := by
  refine ⟨[], text, 0, rfl, place, rfl, missing, fun rest detached => ?_⟩
  have letter : Phrase d .bare (bound + 1) (Variable.x.letter :: rest) rest :=
    ⟨_, 1, Nat.le_add_left 1 bound, .letter detached.endsWord⟩
  have blank : ∀ c ∈ [' '], isBlank c := by simp [isBlank]
  have spaced : Phrase d .operand (bound + 1) ([' '] ++ Variable.x.letter :: rest) rest :=
    letter.operand.blanks blank
  rwa [missing.supplement_eq]

end Breaks

/-! ### How reading ends -/

/-- How reading phrases of a category, nested no deeper than a bound, may end from a place. -/
inductive Ends (d : Domain V) (category : Category) (bound : Nat) (c : Cursor) : Reading V → Prop
  /-- Something was read, and the place after it is one of the same text. -/
  | reads {e after} (same : after.extent = c.extent) : Ends d category bound c (.ok (e, after))
  /-- An operand is nested too deeply. -/
  | tooDeep {position} : Ends d category bound c (.error (.tooDeep position))
  /-- Reading breaks off, and the text is in order up to there. -/
  | breaks {error} (breaks : Breaks d (Phrase d category bound) error c.extent c.rest) :
      Ends d category bound c (.error error)

/-! ### Chains -/

/-- Only operators of one rank are found, where they stand in the text. -/
structure Finds (op? : Cursor → Option (BinaryOp × Cursor)) (rank : Nat) : Prop where
  symbol {c after op} (found : op? c = some (op, after)) :
      BinarySymbol op c.rest after.rest ∧ op.rank = rank
  reaches {c after op} (found : op? c = some (op, after)) : c.Reaches after

theorem finds_additive : Finds additiveOpAt? 1 :=
  ⟨binarySymbol_of_additiveOpAt?, reaches_of_additiveOpAt?⟩

theorem finds_multiplicative : Finds multiplicativeOpAt? 2 :=
  ⟨binarySymbol_of_multiplicativeOpAt?, reaches_of_multiplicativeOpAt?⟩

section Chains

variable {op? : Cursor → Option (BinaryOp × Cursor)} {rank bound : Nat}
  {part : Cursor → Reading V}

/-- The loop of a chain breaks off in one of its parts.  The induction is on the number of links,
with the chain that has been read so far as the invariant. -/
theorem Finds.ends_chainLinks (finds : Finds op? rank)
    (sound : Sound d (.ofRank (rank + 1)) bound part)
    (ends : ∀ c, Ends d (.ofRank (rank + 1)) bound c (part c)) {start : Cursor} (links : Nat) :
    ∀ {e : Expr V} {c : Cursor}, Phrase d (.ofRank rank) bound start.rest c.rest →
      c.extent = start.extent →
      Ends d (.ofRank rank) bound start (chainLinks op? part links e c) := by
  induction links with
  | zero =>
      intro e c _ same
      exact .reads same
  | succ links ih =>
      intro e c chained same
      rw [chainLinks]
      split
      next => exact .reads same
      next op afterOp found =>
        obtain ⟨symbol, rfl⟩ := finds.symbol found
        have sameOp : afterOp.extent = start.extent := (finds.reaches found).extent_eq.trans same
        have outcome := ends afterOp
        generalize read : part afterOp = result at outcome
        cases outcome with
        | reads samePart =>
            exact ih (chained.join symbol (.of_sound sound read)) (samePart.trans sameOp)
        | tooDeep => exact .tooDeep
        | breaks breaks =>
            rw [sameOp] at breaks
            refine .breaks ((breaks.after (chained.portable.andThen (symbol.portable d))).mono ?_)
            rintro _ _ ⟨_, ⟨_, chained, symbol⟩, last⟩
            exact chained.join symbol last

/-- A chain breaks off in one of its parts. -/
theorem Finds.ends_chain (finds : Finds op? rank) (positive : 1 ≤ rank)
    (sound : Sound d (.ofRank (rank + 1)) bound part)
    (ends : ∀ c, Ends d (.ofRank (rank + 1)) bound c (part c)) (links : Nat) (c : Cursor) :
    Ends d (.ofRank rank) bound c (chain op? part links c) := by
  have outcome := ends c
  rw [chain]
  generalize read : part c = result at outcome
  cases outcome with
  | reads same =>
      exact finds.ends_chainLinks sound ends links
        ((Phrase.of_sound sound read).lower positive (Nat.le_succ rank)) same
  | tooDeep => exact .tooDeep
  | breaks breaks => exact .breaks (breaks.mono fun _ _ => .lower positive (Nat.le_succ rank))

end Chains

/-! ### Operands -/

section Operands

variable {links bound : Nat} {inner : Cursor → Reading V}

/-- An expression breaks off in one of its operands. -/
theorem ends_expression (sound : Sound d .operand bound inner)
    (ends : ∀ c, Ends d .operand bound c (inner c)) (c : Cursor) :
    Ends d .expression bound c (expression links inner c) :=
  finds_additive.ends_chain (Nat.le_refl 1) (chainRules_multiplicative.sound_chain sound links)
    (finds_multiplicative.ends_chain (Nat.le_succ 1) sound ends links) links c

/-- A constant that denotes no value is a missing operand, from its sign on. -/
theorem ends_literal (c : Cursor) : Ends d .operand (bound + 1) c (literal d c) := by
  obtain ⟨sign, start, signAt⟩ := exists_signAt c
  obtain ⟨⟨digits, after⟩, taken⟩ :
      ∃ run, start.takeWhile d.isLiteralChar = run := ⟨_, rfl⟩
  cases denotes : d.read? (sign ++ digits) with
  | some value =>
      rw [signAt.literal_eq_ok taken denotes]
      exact .reads (signAt.reaches.trans (Cursor.reaches_of_takeWhile taken)).extent_eq
  | none =>
      rw [signAt.literal_eq_error taken denotes]
      exact .breaks (.missingOperand .constant c.column_add_length)

theorem ends_leaf (c : Cursor) : Ends d .operand (bound + 1) c (leaf d c) := by
  unfold leaf
  split
  next => exact ends_literal c
  next =>
    split
    next v after found => exact .reads (reaches_of_variableAt? found).extent_eq
    next => exact .breaks (.missingOperand .operand c.column_add_length)

/-- An operator on one operand breaks off in its operand. -/
theorem ends_applied {op : UnaryOp} {c afterOp : Cursor}
    (symbol : UnarySymbol d op c.rest afterOp.rest) (same : afterOp.extent = c.extent)
    (ends : ∀ c, Ends d .operand bound c (inner c)) :
    Ends d .operand (bound + 1) c (applied op inner afterOp) := by
  have outcome := ends afterOp
  rw [applied]
  generalize inner afterOp = result at outcome
  cases outcome with
  | reads sameInner => exact .reads (sameInner.trans same)
  | tooDeep => exact .tooDeep
  | breaks breaks =>
      rw [same] at breaks
      refine .breaks ((breaks.after symbol.portable).mono ?_)
      rintro _ _ ⟨_, symbol, inner⟩
      exact (Phrase.unary symbol inner).operand

/-- Brackets break off in the expression between them, or where the closing one is missing. -/
theorem ends_bracketed {read : Cursor → Reading V} {c opened : Cursor}
    (comes : c.rest = '(' :: opened.rest) (same : opened.extent = c.extent)
    (sound : Sound d .expression bound read)
    (ends : ∀ c, Ends d .expression bound c (read c)) :
    Ends d .operand (bound + 1) c (bracketed read opened) := by
  have closes : ∀ text rest : List Char,
      (∃ inner, text = '(' :: inner ∧ Phrase d .expression bound inner (')' :: rest)) →
        Phrase d .operand (bound + 1) text rest := by
    rintro _ _ ⟨_, rfl, phrase⟩
    exact phrase.brackets.operand
  have outcome := ends opened
  rw [bracketed]
  generalize found : read opened = result at outcome
  cases outcome with
  | @reads e after sameInner =>
      dsimp only
      split
      next closed accepted =>
        exact .reads ((Cursor.reaches_of_accept? accepted).extent_eq.trans (sameInner.trans same))
      next =>
        have content := (Phrase.of_sound sound found).portable
        have place : after.column + after.rest.length = c.extent + 1 := by
          rw [after.column_add_length, sameInner, same]
        refine .breaks ?_
        rw [comes]
        exact (Breaks.unclosed content place).mono closes
  | tooDeep => exact .tooDeep
  | breaks breaks =>
      rw [same] at breaks
      refine .breaks ?_
      rw [comes]
      exact breaks.bracketed.mono closes

/-- An operand breaks off inside, or where it should start. -/
theorem ends_bareOperand (sound : Sound d .operand bound inner)
    (ends : ∀ c, Ends d .operand bound c (inner c)) (c : Cursor) :
    Ends d .operand (bound + 1) c (bareOperand d links inner c) := by
  unfold bareOperand
  split
  next => exact ends_literal c
  next noSign =>
    split
    next op afterOp found =>
      exact ends_applied (unarySymbol_of_unaryOpAt? (Bool.eq_false_iff.mpr noSign) found)
        (reaches_of_unaryOpAt? found).extent_eq ends
    next =>
      split
      next opened accepted =>
        exact ends_bracketed (Cursor.accept?_eq_some_iff.mp accepted).1
          (Cursor.reaches_of_accept? accepted).extent_eq (sound_expression sound)
          (ends_expression sound ends)
      next => exact ends_leaf c

/-- Blanks are in order. -/
theorem ends_betweenBlanks {read : Cursor → Reading V}
    (ends : ∀ c, Ends d .operand bound c (read c)) (c : Cursor) :
    Ends d .operand bound c (betweenBlanks read c) := by
  have outcome := ends c.skipBlanks
  rw [betweenBlanks]
  generalize read c.skipBlanks = result at outcome
  cases outcome with
  | @reads e after same =>
      exact .reads (after.extent_skipBlanks.trans (same.trans c.extent_skipBlanks))
  | tooDeep => exact .tooDeep
  | breaks breaks =>
      obtain ⟨before, areBlanks, split⟩ := c.exists_blanks_skipBlanks
      rw [c.extent_skipBlanks] at breaks
      refine .breaks ?_
      rw [split]
      refine (breaks.after (.exactly (.blanks areBlanks) _)).mono ?_
      rintro _ _ ⟨_, rfl, operand⟩
      exact operand.blanks areBlanks

/-- **Where reading an operand breaks off, the text is in order so far.** -/
theorem ends_operand (d : Domain V) (links bound : Nat) (c : Cursor) :
    Ends d .operand bound c (operand d links bound c) := by
  induction bound generalizing c with
  | zero => exact .tooDeep
  | succ bound ih =>
      exact ends_betweenBlanks (ends_bareOperand (sound_operand d links bound) ih) c

end Operands

/-! ### Whole texts -/

/-- **Errors stand behind correct beginnings.**  If a text is refused for another reason than its
nesting, what stands before the position of the error closes no more brackets than it opens.  It
can be read as an expression together with what is missing there and with a closing bracket for
each one that is open.  There is such a bracket where the error asks for a closing one, and there is
none where it asks for an operator on two operands. -/
theorem parse_error_prefix (d : Domain V) (text : String) {error : ParseError}
    (failed : parse d text = .error error) (shallow : ∀ position, error ≠ .tooDeep position) :
    ∃ before after brackets,
      text.toList = before ++ after ∧ error.position = before.length + 1 ∧
      before.count '(' = before.count ')' + brackets ∧
      (∃ e, parse d (String.ofList
        (before ++ error.supplement ++ List.replicate brackets ')')) = .ok e) ∧
      match error with
      | .illegalSymbol .binaryOperator _ _ => brackets = 0
      | .bracketImbalance _ _ => 1 ≤ brackets
      | .illegalSymbol .operand _ _ | .constantFormat _ _ _ | .tooDeep _ => True := by
  have sound := sound_operand d text.toList.length maxNesting
  have outcome : Ends d .expression maxNesting (.start text.toList)
      (expression text.toList.length (operand d text.toList.length maxNesting)
        (.start text.toList)) :=
    ends_expression sound (ends_operand d text.toList.length maxNesting) _
  rw [parse, parseChars, parseWithin] at failed
  generalize found : expression text.toList.length
    (operand d text.toList.length maxNesting) (.start text.toList) = result at outcome failed
  cases outcome with
  | @reads e after same =>
      dsimp only at failed
      split at failed
      next => cases failed
      next =>
        obtain rfl := Except.error.inj failed
        have phrase := Phrase.of_sound (sound_expression sound) found
        obtain ⟨before, (split : text.toList = before ++ after.rest), balanced, moved⟩ :=
          phrase.portable
        have whole := moved [] (Detached.nil.replaces _)
        refine ⟨before, after.rest, 0, split, ?_, balanced, ?_, rfl⟩
        · have column := after.column_add_length
          rw [same, Cursor.extent_start, split, List.length_append] at column
          show after.column = _
          omega
        · simpa [illegalAt, ParseError.supplement] using whole.parse_ofList
  | tooDeep => exact absurd (Except.error.inj failed).symm (shallow _)
  | breaks breaks =>
      obtain rfl := Except.error.inj failed
      obtain ⟨before, after, brackets, (split : text.toList = before ++ after), place, opens,
        missing, completed⟩ := breaks
      have whole := completed [] .nil
      refine ⟨before, after, brackets, split, ?_, opens, ?_, ?_⟩
      · rw [Cursor.extent_start, split, List.length_append] at place
        omega
      · simpa using whole.parse_ofList
      · cases missing with
        | closing opened => exact opened
        | operand => trivial
        | constant => trivial

/-- Two brackets are open where the operand `-5` ends, and no closing one comes. -/
theorem parse_error_prefix_unclosed :
    parse checkedInt "abs(x mod (3--5y)" = .error (.bracketImbalance 16 (some 'y')) ∧
      (∀ position, ParseError.bracketImbalance 16 (some 'y') ≠ .tooDeep position) ∧
      ∃ before after brackets,
        "abs(x mod (3--5y)".toList = before ++ after ∧ 16 = before.length + 1 ∧
        before.count '(' = before.count ')' + brackets ∧
        (∃ e, parse checkedInt (String.ofList
          (before ++ [] ++ List.replicate brackets ')')) = .ok e) ∧ 1 ≤ brackets := by
  have failed : parse checkedInt "abs(x mod (3--5y)" =
      .error (.bracketImbalance 16 (some 'y')) := rfl
  have shallow : ∀ position, ParseError.bracketImbalance 16 (some 'y') ≠ .tooDeep position := by
    intro position same
    cases same
  exact ⟨failed, shallow, parse_error_prefix checkedInt _ failed shallow⟩

end Formula
