import Formula.Proofs.Constants
import Formula.Proofs.Grammar.Symbols

/-!
# Errors point into the text

What an error of reading says about the text is true of it.  Its position is one of the text or the
one behind the last character, the character it names is the one that stands there and no blank, and
the constant it quotes is the run of characters that stands between its two positions.  A constant
is refused only because the number system has no value for it; where the values are integers, this
means that its number lies outside their range.

## Main definitions

* `StandsAt` — the character at a position of a text
* `RefusedAt` — a constant between two positions of a text that denotes no value
* `ParseError.Faithful` — what an error says is true of a text
* `Reports`, `Reporting` — how reading inside a text may end

## Main statements

* `reporting_operand`, `reporting_expression` — reading reports what it finds
* `faithful_of_parse` — the same for whole texts
* `parse_error_faithful` — the same in every mode, with the reason why a constant is refused

## Design notes

A blank is never named because blanks are skipped before and after every operand.  What reading
passes on from one operand to the next is therefore a place of the same text with no blank next,
and this is the invariant of the chains.
-/

namespace Formula

variable {V : Type} {d : Domain V} {text : List Char}

/-! ### What an error says about a text -/

/-- A character stands at a position of a text, counted from one, and is no blank.  No character
stands just behind the last one, and only there. -/
structure StandsAt (text : List Char) (position : Nat) (found : Option Char) : Prop where
  found_eq : found = text[position - 1]?
  none_iff : found = none ↔ position = text.length + 1
  notBlank : ∀ x ∈ found, isBlank x = false

/-- The characters between two positions of a text, both counted from one, are a constant: a minus
or nothing, and characters of constants up to the first other one.  The number system has no value
for it. -/
structure RefusedAt (d : Domain V) (text : List Char) (first last : Nat) (literal : List Char) :
    Prop where
  ordered : first ≤ last
  within : last ≤ text.length
  literal_eq : literal = (text.drop (first - 1)).take (last + 1 - first)
  constant : ∃ sign digits, literal = sign ++ digits ∧ (sign = [] ∨ sign = ['-']) ∧
    digits ≠ [] ∧ ∀ x ∈ digits, d.isLiteralChar x
  longest : d.startsConstant (text.drop last) = false
  rejected : d.literal (String.ofList literal) = .error ⟨String.ofList literal⟩

/-- What an error says is true of a text. -/
structure ParseError.Faithful (d : Domain V) (text : List Char) (error : ParseError) : Prop where
  positive : 1 ≤ error.position
  within : error.position ≤ text.length + 1
  detail : match error with
    | .illegalSymbol _ position found => StandsAt text position found
    | .bracketImbalance position found => StandsAt text position found
    | .constantFormat first last literal => RefusedAt d text first last literal
    | .tooDeep _ => True

/-- A constant is rejected if it denotes no value. -/
theorem Domain.literal_ofList_eq_error_iff {literal : List Char} :
    d.literal (String.ofList literal) = .error ⟨String.ofList literal⟩ ↔
      d.read? literal = none := by
  rw [Domain.literal, String.toList_ofList]
  cases d.read? literal <;> simp

/-! ### Places of a text -/

/-- Blanks have been skipped: no blank comes next. -/
def Cursor.PastBlanks (c : Cursor) : Prop := ∀ x ∈ c.peek?, isBlank x = false

theorem Cursor.pastBlanks_skipBlanks (c : Cursor) : c.skipBlanks.PastBlanks := by
  obtain ⟨-, -, stop⟩ :=
    Cursor.takeWhile_eq_some (show c.takeWhile isBlank = (_, c.skipBlanks) from rfl)
  intro x next
  rw [← Cursor.peek?_eq, Option.mem_def.mp next] at stop
  exact stop

section Places

variable {c : Cursor}

/-- A place of a text is known by what stands before it. -/
theorem exists_before_of_reaches (reached : (Cursor.start text).Reaches c) :
    ∃ before, text = before ++ c.rest ∧ c.consumed = before.length := by
  obtain ⟨before, split, consumed⟩ := reached
  exact ⟨before, split, consumed.trans (Nat.zero_add _)⟩

theorem column_le_of_reaches (reached : (Cursor.start text).Reaches c) :
    c.column ≤ text.length + 1 := by
  obtain ⟨before, rfl, consumed⟩ := exists_before_of_reaches reached
  rw [Cursor.column, consumed, List.length_append]
  omega

/-- What comes next is what stands at the column. -/
theorem standsAt_of_reaches (reached : (Cursor.start text).Reaches c) (past : c.PastBlanks) :
    StandsAt text c.column c.peek? := by
  obtain ⟨before, rfl, consumed⟩ := exists_before_of_reaches reached
  refine ⟨?_, ?_, past⟩
  · rw [Cursor.column, Nat.add_sub_cancel, consumed, List.getElem?_append_right (Nat.le_refl _),
      Nat.sub_self, Cursor.peek?_eq, List.head?_eq_getElem?]
  · rw [Cursor.column, consumed, Cursor.peek?_eq, List.head?_eq_none_iff, List.length_append,
      ← List.length_eq_zero_iff]
    omega

theorem faithful_illegalAt (expected : Expectation) (reached : (Cursor.start text).Reaches c)
    (past : c.PastBlanks) : (illegalAt expected c).Faithful d text :=
  ⟨Nat.le_add_left 1 _, column_le_of_reaches reached, standsAt_of_reaches reached past⟩

theorem faithful_bracketImbalance (reached : (Cursor.start text).Reaches c)
    (past : c.PastBlanks) : (ParseError.bracketImbalance c.column c.peek?).Faithful d text :=
  ⟨Nat.le_add_left 1 _, column_le_of_reaches reached, standsAt_of_reaches reached past⟩

theorem faithful_tooDeep (reached : (Cursor.start text).Reaches c) :
    (ParseError.tooDeep c.column).Faithful d text :=
  ⟨Nat.le_add_left 1 _, column_le_of_reaches reached, trivial⟩

/-- A constant that denotes no value stands from the place before it to the place after it. -/
theorem faithful_constantFormat {sign digits : List Char} {after : Cursor}
    (reached : (Cursor.start text).Reaches c) (passes : c.Reaches after)
    (isSign : sign = [] ∨ sign = ['-']) (nonempty : digits ≠ [])
    (areDigits : ∀ x ∈ digits, d.isLiteralChar x) (longest : d.startsConstant after.rest = false)
    (meaningless : d.read? (sign ++ digits) = none)
    (comes : c.rest = sign ++ digits ++ after.rest) :
    (ParseError.constantFormat c.column (after.column - 1) (sign ++ digits)).Faithful d text := by
  obtain ⟨before, rfl, consumed⟩ := exists_before_of_reaches reached
  have lastEq : after.column - 1 = before.length + (sign ++ digits).length := by
    rw [Cursor.column, Nat.add_sub_cancel, passes.consumed_eq comes, consumed]
  have positive : 0 < (sign ++ digits).length := by
    rw [List.length_append]
    exact Nat.add_pos_right _ (List.length_pos_iff.mpr nonempty)
  have split : before ++ c.rest = before ++ (sign ++ digits) ++ after.rest := by
    rw [comes, List.append_assoc before]
  refine ⟨Nat.le_add_left 1 _, column_le_of_reaches reached, ?_⟩
  show RefusedAt d (before ++ c.rest) c.column (after.column - 1) (sign ++ digits)
  rw [lastEq, Cursor.column, consumed]
  refine ⟨by omega, ?_, ?_, ⟨sign, digits, rfl, isSign, nonempty, areDigits⟩, ?_,
    Domain.literal_ofList_eq_error_iff.mpr meaningless⟩
  · rw [split]
    simp only [List.length_append]
    omega
  · have count : before.length + (sign ++ digits).length + 1 - (before.length + 1) =
        (sign ++ digits).length := by omega
    rw [count, Nat.add_sub_cancel, List.drop_left, comes, List.take_left]
  · rwa [split, ← List.length_append, List.drop_left]

end Places

/-! ### How reading ends -/

/-- How reading inside a text may end: at a place of the text where something holds, or with an
error that is true of the text. -/
inductive Reports (d : Domain V) (text : List Char) (holds : Cursor → Prop) : Reading V → Prop
  | reads {e after} (reached : (Cursor.start text).Reaches after) (there : holds after) :
      Reports d text holds (.ok (e, after))
  | refuses {error} (faithful : error.Faithful d text) : Reports d text holds (.error error)

/-- A function reports what it reads from any place of a text, and ends behind all blanks. -/
def Reporting (d : Domain V) (text : List Char) (read : Cursor → Reading V) : Prop :=
  ∀ c, (Cursor.start text).Reaches c → Reports d text Cursor.PastBlanks (read c)

/-! ### Chains -/

section Chains

variable {op? : Cursor → Option (BinaryOp × Cursor)} {part : Cursor → Reading V}

/-- The loop of a chain reports what its parts report.  The induction is on the number of links,
with a place of the text behind all blanks as the invariant. -/
theorem reports_chainLinks
    (moves : ∀ {c op after}, op? c = some (op, after) → c.Reaches after)
    (reports : Reporting d text part) (links : Nat) :
    ∀ {e : Expr V} {c : Cursor}, (Cursor.start text).Reaches c → c.PastBlanks →
      Reports d text Cursor.PastBlanks (chainLinks op? part links e c) := by
  induction links with
  | zero =>
      intro e c reached past
      exact .reads reached past
  | succ links ih =>
      intro e c reached past
      rw [chainLinks]
      split
      next => exact .reads reached past
      next op afterOp found =>
        have outcome := reports afterOp (reached.trans (moves found))
        generalize part afterOp = result at outcome
        cases outcome with
        | reads reachedPart pastPart => exact ih reachedPart pastPart
        | refuses faithful => exact .refuses faithful

theorem reporting_chain
    (moves : ∀ {c op after}, op? c = some (op, after) → c.Reaches after)
    (reports : Reporting d text part) (links : Nat) :
    Reporting d text (chain op? part links) := by
  intro c reached
  have outcome := reports c reached
  rw [chain]
  generalize part c = result at outcome
  cases outcome with
  | reads reachedPart pastPart => exact reports_chainLinks moves reports links reachedPart pastPart
  | refuses faithful => exact .refuses faithful

end Chains

/-! ### Operands -/

section Operands

variable {links : Nat} {inner : Cursor → Reading V} {c : Cursor}

/-- An expression reports what its operands report. -/
theorem reporting_expression (reports : Reporting d text inner) :
    Reporting d text (expression links inner) :=
  reporting_chain reaches_of_additiveOpAt?
    (reporting_chain reaches_of_multiplicativeOpAt? reports links) links

/-- Where a constant starts, it is read, or it is quoted and denotes no value. -/
theorem reports_literal (reached : (Cursor.start text).Reaches c)
    (starts : startsSignedLiteral d c = true ∨ startsLiteral d c = true) :
    Reports d text (fun _ => True) (literal d c) := by
  obtain ⟨sign, start, signAt⟩ := exists_signAt c
  obtain ⟨digits, after, taken, nonempty, areDigits, longest, comes⟩ := signAt.exists_digits starts
  have passes : c.Reaches after := signAt.reaches.trans (Cursor.reaches_of_takeWhile taken)
  cases denotes : d.read? (sign ++ digits) with
  | some value =>
      rw [signAt.literal_eq_ok taken denotes]
      exact .reads (reached.trans passes) trivial
  | none =>
      rw [signAt.literal_eq_error taken denotes]
      exact .refuses (faithful_constantFormat reached passes signAt.rest_eq.1 nonempty areDigits
        longest denotes comes)

theorem reports_leaf (reached : (Cursor.start text).Reaches c) (past : c.PastBlanks) :
    Reports d text (fun _ => True) (leaf d c) := by
  unfold leaf
  split
  next starts => exact reports_literal reached (.inr starts)
  next =>
    split
    next v after found => exact .reads (reached.trans (reaches_of_variableAt? found)) trivial
    next => exact .refuses (faithful_illegalAt .operand reached past)

/-- An operator on one operand reports what its operand reports. -/
theorem reports_applied (op : UnaryOp) (reports : Reporting d text inner)
    (reached : (Cursor.start text).Reaches c) :
    Reports d text (fun _ => True) (applied op inner c) := by
  have outcome := reports c reached
  rw [applied]
  generalize inner c = result at outcome
  cases outcome with
  | reads reachedInner _ => exact .reads reachedInner trivial
  | refuses faithful => exact .refuses faithful

/-- Brackets report what stands between them, or what stands in the place of the closing one. -/
theorem reports_bracketed {read : Cursor → Reading V} (reports : Reporting d text read)
    (reached : (Cursor.start text).Reaches c) :
    Reports d text (fun _ => True) (bracketed read c) := by
  have outcome := reports c reached
  rw [bracketed]
  generalize read c = result at outcome
  cases outcome with
  | reads reachedInner past =>
      dsimp only
      split
      next closed accepted =>
        exact .reads (reachedInner.trans (Cursor.reaches_of_accept? accepted)) trivial
      next => exact .refuses (faithful_bracketImbalance reachedInner past)
  | refuses faithful => exact .refuses faithful

/-- An operand reports what stands inside it, or what stands where it should start. -/
theorem reports_bareOperand (reports : Reporting d text inner)
    (reached : (Cursor.start text).Reaches c) (past : c.PastBlanks) :
    Reports d text (fun _ => True) (bareOperand d links inner c) := by
  unfold bareOperand
  split
  next starts => exact reports_literal reached (.inl starts)
  next =>
    split
    next op afterOp found =>
      exact reports_applied op reports (reached.trans (reaches_of_unaryOpAt? found))
    next =>
      split
      next opened accepted =>
        exact reports_bracketed (reporting_expression reports)
          (reached.trans (Cursor.reaches_of_accept? accepted))
      next => exact reports_leaf reached past

/-- Between blanks nothing is reported about the blanks. -/
theorem reporting_betweenBlanks {read : Cursor → Reading V}
    (reports : ∀ c, (Cursor.start text).Reaches c → c.PastBlanks →
      Reports d text (fun _ => True) (read c)) :
    Reporting d text (betweenBlanks read) := by
  intro c reached
  have outcome := reports c.skipBlanks (reached.trans c.reaches_skipBlanks) c.pastBlanks_skipBlanks
  rw [betweenBlanks]
  generalize read c.skipBlanks = result at outcome
  cases outcome with
  | @reads e after reachedInner _ =>
      exact .reads (reachedInner.trans after.reaches_skipBlanks) after.pastBlanks_skipBlanks
  | refuses faithful => exact .refuses faithful

/-- **Operands report faithfully**, however deeply they are nested. -/
theorem reporting_operand (d : Domain V) (text : List Char) (links bound : Nat) :
    Reporting d text (operand d links bound) := by
  induction bound with
  | zero =>
      intro c reached
      exact .refuses (faithful_tooDeep reached)
  | succ bound ih =>
      exact reporting_betweenBlanks fun c reached past => reports_bareOperand ih reached past

end Operands

/-! ### Whole texts -/

/-- What an error says is true of the text that was refused. -/
theorem faithful_of_parse {text : String} {error : ParseError}
    (failed : parse d text = .error error) : error.Faithful d text.toList := by
  have outcome : Reports d text.toList Cursor.PastBlanks (expression text.toList.length
      (operand d text.toList.length maxNesting) (.start text.toList)) :=
    reporting_expression (reporting_operand d text.toList text.toList.length maxNesting) _ (.refl _)
  rw [parse, parseChars, parseWithin] at failed
  generalize expression text.toList.length (operand d text.toList.length maxNesting)
    (.start text.toList) = result at outcome failed
  cases outcome with
  | reads reached past =>
      dsimp only at failed
      split at failed
      next => cases failed
      next =>
        obtain rfl := Except.error.inj failed
        exact faithful_illegalAt .binaryOperator reached past
  | refuses faithful =>
      obtain rfl := Except.error.inj failed
      exact faithful

/-! ### Why constants are refused -/

/-- A text is the decimal notation of an integer outside the given limits. -/
def OutOfRange (least greatest : Int) (literal : List Char) : Prop :=
  ∃ i sign digits, literal = sign ++ digits ∧ IsDecimal i sign digits ∧ (i < least ∨ greatest < i)

/-- Why a mode refuses a constant: the number is outside the range of the values.  Integers of any
size have no such constants, and for doubles nothing is said. -/
def Mode.Exceeds : Mode → List Char → Prop
  | .checkedInt | .uncheckedInt | .modularInt =>
      OutOfRange Int32.minValue.toInt Int32.maxValue.toInt
  | .byte => OutOfRange Int8.minValue.toInt Int8.maxValue.toInt
  | .bigInteger => fun _ => False
  | .float => fun _ => True

section Refused

variable {sign digits literal : List Char}

/-- Decimal notation that is not read between two limits is that of an integer outside them. -/
theorem IsDecimal.outOfRange {i least greatest : Int} (decimal : IsDecimal i sign digits)
    (unread : ∀ value, readWithin least greatest (sign ++ digits) ≠ .ok value) :
    OutOfRange least greatest (sign ++ digits) := by
  refine ⟨i, sign, digits, rfl, decimal, ?_⟩
  by_contra inRange
  rw [not_or, Int.not_lt, Int.not_lt] at inRange
  exact unread i (decimal.readWithin_eq inRange.1 inRange.2)

theorem IsDecimal.outOfRange_int32 {i : Int} (decimal : IsDecimal i sign digits)
    (unread : (readInt32 (sign ++ digits)).toOption = none) :
    OutOfRange Int32.minValue.toInt Int32.maxValue.toInt (sign ++ digits) := by
  refine decimal.outOfRange fun value read => ?_
  rw [readInt32, read] at unread
  cases unread

theorem IsDecimal.outOfRange_int8 {i : Int} (decimal : IsDecimal i sign digits)
    (unread : (readInt8 (sign ++ digits)).toOption = none) :
    OutOfRange Int8.minValue.toInt Int8.maxValue.toInt (sign ++ digits) := by
  refine decimal.outOfRange fun value read => ?_
  rw [readInt8, read] at unread
  cases unread

/-- Without a decimal point, constants are decimal notation of integers. -/
theorem exists_isDecimal_of_isLiteralChar (integral : d.hasDecimalPoint = false)
    (isSign : sign = [] ∨ sign = ['-']) (nonempty : digits ≠ [])
    (areDigits : ∀ x ∈ digits, d.isLiteralChar x) : ∃ i, IsDecimal i sign digits := by
  refine exists_isDecimal_of_digits isSign nonempty fun x member => ?_
  simpa [Domain.isLiteralChar, integral] using areDigits x member

theorem Mode.hasDecimalPoint_eq_false {mode : Mode} (integral : mode ≠ .float) :
    mode.domain.hasDecimalPoint = false := by
  cases mode with
  | float => exact absurd rfl integral
  | checkedInt | bigInteger | uncheckedInt | modularInt | byte => rfl

/-- A constant that a mode refuses is outside its range. -/
theorem Mode.exceeds_of_refusedAt {mode : Mode} {first last : Nat}
    (refused : RefusedAt mode.domain text first last literal) : mode.Exceeds literal := by
  by_cases isFloat : mode = .float
  · subst isFloat
    trivial
  · have unread := Domain.literal_ofList_eq_error_iff.mp refused.rejected
    obtain ⟨sign, digits, rfl, isSign, nonempty, areDigits⟩ := refused.constant
    obtain ⟨i, decimal⟩ := exists_isDecimal_of_isLiteralChar
      (Mode.hasDecimalPoint_eq_false isFloat) isSign nonempty areDigits
    cases mode with
    | checkedInt | uncheckedInt => exact decimal.outOfRange_int32 unread
    | float => exact absurd rfl isFloat
    | bigInteger =>
        rw [show bigInteger.domain.read? (sign ++ digits) = some i from decimal.readGrouped?_eq]
          at unread
        cases unread
    | modularInt => exact decimal.outOfRange_int32 (Option.map_eq_none_iff.mp unread)
    | byte => exact decimal.outOfRange_int8 unread

end Refused

/-- **Errors report the text faithfully.**  In every mode, what an error says is true of the text
that was refused.  Where the values are integers of fixed width, the number of a constant it quotes
is outside their range, and integers of any size refuse no constant. -/
theorem parse_error_faithful {mode : Mode} {text : String} {error : ParseError}
    (failed : parse mode.domain text = .error error) :
    error.Faithful mode.domain text.toList ∧
      ∀ first last literal, error = .constantFormat first last literal →
        mode.Exceeds literal := by
  have faithful := faithful_of_parse failed
  refine ⟨faithful, ?_⟩
  rintro first last literal rfl
  exact Mode.exceeds_of_refusedAt faithful.detail

/-- The constant stands behind a minus that is an operator, and is no integer of eight bits. -/
theorem parse_error_faithful_byte :
    parse Mode.byte.domain "x mod (y - -300)" =
        .error (.constantFormat 12 15 ['-', '3', '0', '0']) ∧
      (ParseError.constantFormat 12 15 ['-', '3', '0', '0']).Faithful Mode.byte.domain
        "x mod (y - -300)".toList ∧
      OutOfRange (-128) 127 ['-', '3', '0', '0'] := by
  have failed : parse Mode.byte.domain "x mod (y - -300)" =
      .error (.constantFormat 12 15 ['-', '3', '0', '0']) := rfl
  obtain ⟨faithful, exceeds⟩ := parse_error_faithful failed
  exact ⟨failed, faithful, exceeds 12 15 ['-', '3', '0', '0'] rfl⟩

end Formula
