import Formula.Parse
import Formula.Proofs.Cursor
import Formula.Proofs.Grammar

/-!
# Symbols under a cursor

Reading recognises one symbol at a time.  Each test at a cursor is tied here to the symbols of the
grammar in front of the text: the symbol is found exactly where the grammar has it.

## Main statements

* `UnarySymbol.unaryOpAt?`, `unarySymbol_of_unaryOpAt?` — operators on one operand
* `BinarySymbol.additiveOpAt?`, `BinarySymbol.multiplicativeOpAt?` and their converses — operators
  on two operands
* `variableAt?_of_rest`, `rest_of_variableAt?` — variables
* `literal_of_rest`, `exists_constant_of_literal` — constants
* `reaches_of_unaryOpAt?`, `reaches_of_additiveOpAt?`, `reaches_of_multiplicativeOpAt?`,
  `reaches_of_variableAt?`, `SignAt.reaches` — what is found stands in the same text
-/

namespace Formula

variable {V : Type} {d : Domain V} {c after : Cursor} {rest : List Char}

/-! ### Characters of constants -/

/-- Only digits and the point are characters of constants. -/
theorem Domain.isLiteralChar_eq_false {x : Char} (other : (x.isDigit || x == '.') = false) :
    d.isLiteralChar x = false := by
  rw [Bool.or_eq_false_iff] at other
  rw [isLiteralChar, other.1, other.2, Bool.and_false, Bool.or_false]

/-- A character of a constant is none of a list of other characters. -/
theorem Domain.not_mem_of_isLiteralChar {x : Char} {others : List Char}
    (isLiteral : d.isLiteralChar x)
    (other : others.all (fun y => !(y.isDigit || y == '.')) = true) : x ∉ others := by
  intro member
  have kind := List.all_eq_true.mp other x member
  rw [Bool.not_eq_true'] at kind
  rw [Domain.isLiteralChar_eq_false kind] at isLiteral
  cases isLiteral

/-- A character of a constant is no blank. -/
theorem Domain.isBlank_of_isLiteralChar {x : Char} (isLiteral : d.isLiteralChar x) :
    isBlank x = false := by
  have other : x ∉ [' ', '\n', '\r', '\t'] := Domain.not_mem_of_isLiteralChar isLiteral rfl
  simpa [isBlank, and_assoc] using other

@[simp] theorem Domain.startsConstant_cons (x : Char) (text : List Char) :
    d.startsConstant (x :: text) = d.isLiteralChar x := rfl

theorem startsLiteral_eq (c : Cursor) : startsLiteral d c = d.startsConstant c.rest := rfl

/-- A sign in front of a constant. -/
theorem startsSignedLiteral_of_rest (comes : c.rest = '-' :: rest) :
    startsSignedLiteral d c = d.startsConstant rest := by
  rw [startsSignedLiteral, Cursor.accept?_of_rest comes]
  rfl

/-- No constant with a sign starts at another character than the sign. -/
theorem startsSignedLiteral_eq_false (other : c.rest.head? ≠ some '-') :
    startsSignedLiteral d c = false := by
  rw [startsSignedLiteral, Cursor.accept?_eq_none other]
  rfl

/-! ### Operators on one operand -/

/-- No operator on one operand starts with another character than these. -/
theorem unaryOpAt?_eq_none (notMinus : c.rest.head? ≠ some '-') (notA : c.rest.head? ≠ some 'a')
    (notS : c.rest.head? ≠ some 's') : unaryOpAt? c = none := by
  rw [unaryOpAt?, Cursor.accept?_eq_none notMinus, Cursor.acceptWord?_eq_none notA,
    Cursor.acceptWord?_eq_none notS]

/-- An operator in front of the text is found, and is not taken for the sign of a constant. -/
theorem UnarySymbol.unaryOpAt? {op : UnaryOp} (symbol : UnarySymbol d op c.rest rest) :
    startsSignedLiteral d c = false ∧
      ∃ after, Formula.unaryOpAt? c = some (op, after) ∧ after.rest = rest := by
  generalize comes : c.rest = text at symbol
  cases symbol with
  | negate noSign =>
      refine ⟨by rw [startsSignedLiteral_of_rest comes, noSign], ⟨c.consumed + 1, rest⟩, ?_, rfl⟩
      rw [Formula.unaryOpAt?, Cursor.accept?_of_rest comes]
  | abs ends =>
      have notMinus : c.rest.head? ≠ some '-' := by simp [comes]
      refine ⟨startsSignedLiteral_eq_false notMinus, ⟨c.consumed + 3, rest⟩, ?_, rfl⟩
      rw [Formula.unaryOpAt?, Cursor.accept?_eq_none notMinus,
        Cursor.acceptWord?_of_rest ['a', 'b', 's'] comes ends]
      rfl
  | square ends =>
      have notMinus : c.rest.head? ≠ some '-' := by simp [comes]
      have notA : c.rest.head? ≠ some 'a' := by simp [comes]
      refine ⟨startsSignedLiteral_eq_false notMinus, ⟨c.consumed + 6, rest⟩, ?_, rfl⟩
      rw [Formula.unaryOpAt?, Cursor.accept?_eq_none notMinus, Cursor.acceptWord?_eq_none notA,
        Cursor.acceptWord?_of_rest ['s', 'q', 'u', 'a', 'r', 'e'] comes ends]
      rfl

/-- What is found is an operator in front of the text, unless a constant with a sign starts
there. -/
theorem unarySymbol_of_unaryOpAt? {op : UnaryOp} (noSign : startsSignedLiteral d c = false)
    (found : unaryOpAt? c = some (op, after)) : UnarySymbol d op c.rest after.rest := by
  unfold unaryOpAt? at found
  split at found
  next next accepted =>
    obtain ⟨rfl, rfl⟩ := Prod.mk.inj (Option.some.inj found)
    have comes := (Cursor.accept?_eq_some_iff.mp accepted).1
    rw [startsSignedLiteral_of_rest comes] at noSign
    rw [comes]
    exact .negate noSign
  next =>
    split at found
    next next accepted =>
      obtain ⟨rfl, rfl⟩ := Prod.mk.inj (Option.some.inj found)
      obtain ⟨comes, ends, -⟩ := Cursor.acceptWord?_eq_some_iff.mp accepted
      rw [comes]
      exact .abs ends
    next =>
      split at found
      next next accepted =>
        obtain ⟨rfl, rfl⟩ := Prod.mk.inj (Option.some.inj found)
        obtain ⟨comes, ends, -⟩ := Cursor.acceptWord?_eq_some_iff.mp accepted
        rw [comes]
        exact .square ends
      next => cases found

/-- An operator is no blank, so no blanks are passed before it. -/
theorem UnarySymbol.afterBlanks_eq {op : UnaryOp} {text : List Char}
    (symbol : UnarySymbol d op text rest) : afterBlanks text = text := by
  cases symbol <;> rfl

/-! ### Operators on two operands -/

/-- An operator is no blank, so no blanks are passed before it. -/
theorem BinarySymbol.afterBlanks_eq {op : BinaryOp} {text : List Char}
    (symbol : BinarySymbol op text rest) : afterBlanks text = text := by
  cases symbol <;> rfl

/-- No operator of the lower rank starts with another character than these. -/
theorem additiveOpAt?_eq_none (notPlus : c.rest.head? ≠ some '+')
    (notMinus : c.rest.head? ≠ some '-') : additiveOpAt? c = none := by
  rw [additiveOpAt?, Cursor.accept?_eq_none notPlus, Cursor.accept?_eq_none notMinus]

/-- No operator of the higher rank starts with another character than these. -/
theorem multiplicativeOpAt?_eq_none (notStar : c.rest.head? ≠ some '*')
    (notSlash : c.rest.head? ≠ some '/') (notM : c.rest.head? ≠ some 'm') :
    multiplicativeOpAt? c = none := by
  rw [multiplicativeOpAt?, Cursor.accept?_eq_none notStar, Cursor.accept?_eq_none notSlash,
    Cursor.acceptWord?_eq_none notM]

/-- An operator of the lower rank in front of the text is found, and none of the higher rank. -/
theorem BinarySymbol.additiveOpAt? {op : BinaryOp} (symbol : BinarySymbol op c.rest rest)
    (isSum : op.rank = 1) :
    Formula.multiplicativeOpAt? c = none ∧
      ∃ after, Formula.additiveOpAt? c = some (op, after) ∧ after.rest = rest := by
  generalize comes : c.rest = text at symbol
  cases symbol with
  | add =>
      refine ⟨multiplicativeOpAt?_eq_none (by simp [comes]) (by simp [comes]) (by simp [comes]),
        ⟨c.consumed + 1, rest⟩, ?_, rfl⟩
      rw [Formula.additiveOpAt?, Cursor.accept?_of_rest comes]
  | subtract =>
      refine ⟨multiplicativeOpAt?_eq_none (by simp [comes]) (by simp [comes]) (by simp [comes]),
        ⟨c.consumed + 1, rest⟩, ?_, rfl⟩
      rw [Formula.additiveOpAt?, Cursor.accept?_eq_none (by simp [comes]),
        Cursor.accept?_of_rest comes]
  | multiply => cases isSum
  | divide => cases isSum
  | modulo => cases isSum

/-- An operator of the higher rank in front of the text is found. -/
theorem BinarySymbol.multiplicativeOpAt? {op : BinaryOp} (symbol : BinarySymbol op c.rest rest)
    (isProduct : op.rank = 2) :
    ∃ after, Formula.multiplicativeOpAt? c = some (op, after) ∧ after.rest = rest := by
  generalize comes : c.rest = text at symbol
  cases symbol with
  | add => cases isProduct
  | subtract => cases isProduct
  | multiply =>
      refine ⟨⟨c.consumed + 1, rest⟩, ?_, rfl⟩
      rw [Formula.multiplicativeOpAt?, Cursor.accept?_of_rest comes]
  | divide =>
      refine ⟨⟨c.consumed + 1, rest⟩, ?_, rfl⟩
      rw [Formula.multiplicativeOpAt?, Cursor.accept?_eq_none (by simp [comes]),
        Cursor.accept?_of_rest comes]
  | modulo ends =>
      refine ⟨⟨c.consumed + 3, rest⟩, ?_, rfl⟩
      rw [Formula.multiplicativeOpAt?, Cursor.accept?_eq_none (by simp [comes]),
        Cursor.accept?_eq_none (by simp [comes]),
        Cursor.acceptWord?_of_rest ['m', 'o', 'd'] comes ends]
      rfl

/-- What is found is an operator of the lower rank in front of the text. -/
theorem binarySymbol_of_additiveOpAt? {op : BinaryOp}
    (found : additiveOpAt? c = some (op, after)) :
    BinarySymbol op c.rest after.rest ∧ op.rank = 1 := by
  unfold additiveOpAt? at found
  split at found
  next next accepted =>
    obtain ⟨rfl, rfl⟩ := Prod.mk.inj (Option.some.inj found)
    rw [(Cursor.accept?_eq_some_iff.mp accepted).1]
    exact ⟨.add, rfl⟩
  next =>
    split at found
    next next accepted =>
      obtain ⟨rfl, rfl⟩ := Prod.mk.inj (Option.some.inj found)
      rw [(Cursor.accept?_eq_some_iff.mp accepted).1]
      exact ⟨.subtract, rfl⟩
    next => cases found

/-- What is found is an operator of the higher rank in front of the text. -/
theorem binarySymbol_of_multiplicativeOpAt? {op : BinaryOp}
    (found : multiplicativeOpAt? c = some (op, after)) :
    BinarySymbol op c.rest after.rest ∧ op.rank = 2 := by
  unfold multiplicativeOpAt? at found
  split at found
  next next accepted =>
    obtain ⟨rfl, rfl⟩ := Prod.mk.inj (Option.some.inj found)
    rw [(Cursor.accept?_eq_some_iff.mp accepted).1]
    exact ⟨.multiply, rfl⟩
  next =>
    split at found
    next next accepted =>
      obtain ⟨rfl, rfl⟩ := Prod.mk.inj (Option.some.inj found)
      rw [(Cursor.accept?_eq_some_iff.mp accepted).1]
      exact ⟨.divide, rfl⟩
    next =>
      split at found
      next next accepted =>
        obtain ⟨rfl, rfl⟩ := Prod.mk.inj (Option.some.inj found)
        obtain ⟨comes, ends, -⟩ := Cursor.acceptWord?_eq_some_iff.mp accepted
        rw [comes]
        exact ⟨.modulo ends, rfl⟩
      next => cases found

/-! ### Variables -/

/-- A variable in front of the text is found, and nothing else that may start an operand. -/
theorem variableAt?_of_rest {v : Variable} (comes : c.rest = v.letter :: rest)
    (ends : endsWord rest = true) :
    variableAt? c = some (v, ⟨c.consumed + 1, rest⟩) := by
  have accepted := Cursor.acceptWord?_of_rest [v.letter] comes ends
  cases v with
  | x => simp [variableAt?, Variable.all, accepted]
  | y =>
      have notX : c.acceptWord? [Variable.x.letter] = none :=
        Cursor.acceptWord?_eq_none (by simp [comes, Variable.letter])
      simp [variableAt?, Variable.all, accepted, notX]
  | z =>
      have notX : c.acceptWord? [Variable.x.letter] = none :=
        Cursor.acceptWord?_eq_none (by simp [comes, Variable.letter])
      have notY : c.acceptWord? [Variable.y.letter] = none :=
        Cursor.acceptWord?_eq_none (by simp [comes, Variable.letter])
      simp [variableAt?, Variable.all, accepted, notX, notY]

/-- What is found is a variable in front of the text, and its word ends there. -/
theorem rest_of_variableAt? {v : Variable} (found : variableAt? c = some (v, after)) :
    c.rest = v.letter :: after.rest ∧ endsWord after.rest = true := by
  obtain ⟨w, -, mapped⟩ := List.exists_of_findSome?_eq_some found
  obtain ⟨next, accepted, same⟩ := Option.map_eq_some_iff.mp mapped
  obtain ⟨rfl, rfl⟩ := Prod.mk.inj same
  obtain ⟨comes, ends, -⟩ := Cursor.acceptWord?_eq_some_iff.mp accepted
  exact ⟨comes, ends⟩

/-! ### Constants -/

/-- The digits of a constant start behind a minus, if one comes next, and otherwise at once. -/
inductive SignAt (c : Cursor) : List Char → Cursor → Prop
  | minus {start} (accepted : c.accept? '-' = some start) : SignAt c ['-'] start
  | absent (missing : c.accept? '-' = none) : SignAt c [] c

/-- There is a sign or there is none. -/
theorem exists_signAt (c : Cursor) : ∃ sign start, SignAt c sign start := by
  cases accepted : c.accept? '-' with
  | some start => exact ⟨['-'], start, .minus accepted⟩
  | none => exact ⟨[], c, .absent accepted⟩

/-- The sign comes next, and the start of the digits comes after it. -/
theorem SignAt.rest_eq {sign : List Char} {start : Cursor} (signAt : SignAt c sign start) :
    (sign = [] ∨ sign = ['-']) ∧ c.rest = sign ++ start.rest := by
  cases signAt with
  | minus accepted => exact ⟨.inr rfl, (Cursor.accept?_eq_some_iff.mp accepted).1⟩
  | absent => exact ⟨.inl rfl, rfl⟩

/-- Where a constant starts, with or without a sign, its digits start behind the sign. -/
theorem SignAt.startsConstant_start {sign : List Char} {start : Cursor}
    (signAt : SignAt c sign start)
    (starts : startsSignedLiteral d c = true ∨ startsLiteral d c = true) :
    d.startsConstant start.rest = true := by
  cases signAt with
  | minus accepted =>
      have comes := (Cursor.accept?_eq_some_iff.mp accepted).1
      rcases starts with signed | unsigned
      · rwa [startsSignedLiteral_of_rest comes] at signed
      · rw [startsLiteral_eq, comes, Domain.startsConstant_cons,
          Domain.isLiteralChar_eq_false rfl] at unsigned
        cases unsigned
  | absent missing =>
      rcases starts with signed | unsigned
      · rw [startsSignedLiteral, missing] at signed
        cases signed
      · exact unsigned

/-- A constant is read from its sign and its digits. -/
theorem SignAt.literal_eq_ok {sign digits : List Char} {start : Cursor} {value : V}
    (signAt : SignAt c sign start) (taken : start.takeWhile d.isLiteralChar = (digits, after))
    (denotes : d.read? (sign ++ digits) = some value) :
    literal d c = .ok (.const value, after) := by
  cases signAt with
  | minus accepted => simp only [literal, accepted, taken, denotes]
  | absent missing => simp only [literal, missing, taken, denotes]

/-- A constant that does not denote a value is refused. -/
theorem SignAt.literal_eq_error {sign digits : List Char} {start : Cursor}
    (signAt : SignAt c sign start) (taken : start.takeWhile d.isLiteralChar = (digits, after))
    (meaningless : d.read? (sign ++ digits) = none) :
    literal d c = .error (.constantFormat c.column (after.column - 1) (sign ++ digits)) := by
  cases signAt with
  | minus accepted => simp only [literal, accepted, taken, meaningless]
  | absent missing => simp only [literal, missing, taken, meaningless]

/-- A constant in front of the text is read up to its end. -/
theorem literal_of_rest {sign digits : List Char} {value : V} (isSign : sign = [] ∨ sign = ['-'])
    (nonempty : digits ≠ []) (areDigits : ∀ x ∈ digits, d.isLiteralChar x)
    (longest : d.startsConstant rest = false) (denotes : d.read? (sign ++ digits) = some value)
    (comes : c.rest = sign ++ digits ++ rest) :
    ∃ after, literal d c = .ok (.const value, after) ∧ after.rest = rest := by
  obtain ⟨start, signAt, comesStart⟩ :
      ∃ start, SignAt c sign start ∧ start.rest = digits ++ rest := by
    rcases isSign with rfl | rfl
    · refine ⟨c, .absent (Cursor.accept?_eq_none fun head => ?_), comes⟩
      obtain ⟨first, others, rfl⟩ := List.exists_cons_of_ne_nil nonempty
      have isMinus : first ∈ ['-'] := by simpa [comes] using head
      exact Domain.not_mem_of_isLiteralChar (areDigits first List.mem_cons_self) rfl isMinus
    · exact ⟨⟨c.consumed + 1, digits ++ rest⟩, .minus (Cursor.accept?_of_rest comes), rfl⟩
  have taken := Cursor.takeWhile_eq_of_rest comesStart areDigits longest
  exact ⟨⟨start.consumed + digits.length, rest⟩, signAt.literal_eq_ok taken denotes, rfl⟩

/-- Where a constant starts, with or without a sign, a longest run of its characters stands behind
the sign. -/
theorem SignAt.exists_digits {sign : List Char} {start : Cursor} (signAt : SignAt c sign start)
    (starts : startsSignedLiteral d c = true ∨ startsLiteral d c = true) :
    ∃ digits after, start.takeWhile d.isLiteralChar = (digits, after) ∧ digits ≠ [] ∧
      (∀ x ∈ digits, d.isLiteralChar x) ∧ d.startsConstant after.rest = false ∧
      c.rest = sign ++ digits ++ after.rest := by
  obtain ⟨⟨digits, after⟩, taken⟩ :
      ∃ run, start.takeWhile d.isLiteralChar = run := ⟨_, rfl⟩
  obtain ⟨comesStart, areDigits, longest⟩ := Cursor.takeWhile_eq_some taken
  refine ⟨digits, after, taken, ?_, areDigits, longest, ?_⟩
  · rintro rfl
    rw [List.nil_append] at comesStart
    rw [← comesStart] at longest
    exact absurd (signAt.startsConstant_start starts) (by simp [Domain.startsConstant, longest])
  · rw [signAt.rest_eq.2, comesStart, List.append_assoc]

/-- What is read is a constant in front of the text, if one starts there, with or without its
sign. -/
theorem exists_constant_of_literal {e : Expr V}
    (starts : startsSignedLiteral d c = true ∨ startsLiteral d c = true)
    (found : literal d c = .ok (e, after)) :
    ∃ sign digits value, (sign = [] ∨ sign = ['-']) ∧ digits ≠ [] ∧
      (∀ x ∈ digits, d.isLiteralChar x) ∧ d.startsConstant after.rest = false ∧
      d.read? (sign ++ digits) = some value ∧ c.rest = sign ++ digits ++ after.rest ∧
      e = .const value := by
  obtain ⟨sign, start, signAt⟩ := exists_signAt c
  obtain ⟨digits, next, taken, nonempty, areDigits, longest, comes⟩ := signAt.exists_digits starts
  cases denotes : d.read? (sign ++ digits) with
  | some value =>
      rw [signAt.literal_eq_ok taken denotes] at found
      obtain ⟨rfl, rfl⟩ := Prod.mk.inj (Except.ok.inj found)
      exact ⟨sign, digits, value, signAt.rest_eq.1, nonempty, areDigits, longest, denotes, comes,
        rfl⟩
  | none =>
      rw [signAt.literal_eq_error taken denotes] at found
      cases found

/-! ### Leaves -/

/-- Where neither a minus nor a word of an operator nor a bracket comes next, an operand is a
leaf. -/
theorem bareOperand_eq_leaf {links : Nat} {inner : Cursor → Reading V}
    (other : ∀ x ∈ ['-', 'a', 's', '('], c.rest.head? ≠ some x) :
    bareOperand d links inner c = leaf d c := by
  rw [bareOperand, startsSignedLiteral_eq_false (other '-' (by simp)),
    unaryOpAt?_eq_none (other '-' (by simp)) (other 'a' (by simp)) (other 's' (by simp)),
    Cursor.accept?_eq_none (other '(' (by simp))]
  rfl

/-! ### Places of one text -/

theorem reaches_of_unaryOpAt? {op : UnaryOp} (found : unaryOpAt? c = some (op, after)) :
    c.Reaches after := by
  grind [unaryOpAt?, Cursor.reaches_of_accept?, Cursor.reaches_of_acceptWord?]

theorem reaches_of_additiveOpAt? {op : BinaryOp} (found : additiveOpAt? c = some (op, after)) :
    c.Reaches after := by
  grind [additiveOpAt?, Cursor.reaches_of_accept?]

theorem reaches_of_multiplicativeOpAt? {op : BinaryOp}
    (found : multiplicativeOpAt? c = some (op, after)) : c.Reaches after := by
  grind [multiplicativeOpAt?, Cursor.reaches_of_accept?, Cursor.reaches_of_acceptWord?]

theorem reaches_of_variableAt? {v : Variable} (found : variableAt? c = some (v, after)) :
    c.Reaches after := by
  obtain ⟨w, -, mapped⟩ := List.exists_of_findSome?_eq_some found
  obtain ⟨next, accepted, same⟩ := Option.map_eq_some_iff.mp mapped
  obtain ⟨rfl, rfl⟩ := Prod.mk.inj same
  exact Cursor.reaches_of_acceptWord? accepted

theorem SignAt.reaches {sign : List Char} {start : Cursor} (signAt : SignAt c sign start) :
    c.Reaches start := by
  cases signAt with
  | minus accepted => exact Cursor.reaches_of_accept? accepted
  | absent => exact .refl c

end Formula
