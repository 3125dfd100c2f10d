import Formula.Proofs.Cursor
import Formula.Proofs.Scanner.Matching
import Formula.Scanner.Parse

/-!
# Scanners and cursors

A cursor is a place in a text that is at hand.  A scanner that reads the same text stands for such a
place: it has passed as many characters, those forgotten included, and has the same ones to come.
What the scanner reads, the cursor moves over, and the columns are the same.

So reading with a scanner and reading from a cursor give the same expression or the same error.  In
particular the column of a scanner can be trusted throughout, as reading never brings it to a
position that it does not know.

## Main definitions

* `Scanner.IsAt` — the place that a scanner stands for
* `Accepts`, `Recognises` — scanner and cursor find the same symbol and end in the same place
* `SameReading`, `ReadsAlike` — they read the same expression, or find the same error

## Main statements

* `Scanner.IsAt.column_eq`, `Scanner.IsAt.peekNth`, `Scanner.IsAt.scanWhile`,
  `Scanner.IsAt.commit` — what is asked of a scanner is answered by the cursor
* `Scanner.IsAt.accepts_acceptChar`, `Scanner.IsAt.accepts_acceptWord`,
  `Scanner.IsAt.recognises_acceptVariable` — what a scanner accepts
* `readsAlike_expression`, `readsAlike_operand` — the grammar
* `scanWithin_eq`, `scanSource_eq` — whole texts
-/

namespace Formula

variable {V α : Type} {c : Cursor} {s after : Scanner Char} {d : Domain V}

/-! ### Places -/

namespace Scanner

/-- A scanner stands for a place of a text.  It is settled and has not passed the end.  The
characters before the place are those it has forgotten and passed, and it has the same ones to
come. -/
structure IsAt (s : Scanner Char) (c : Cursor) : Prop where
  settled : s.IsSettled
  within : s.passed ≤ s.remaining.length
  consumed_eq : s.committed + s.passed = c.consumed
  unread_eq : s.unread = c.rest

theorem isAt_ofList (text : List Char) : (ofList text).IsAt (.start text) :=
  ⟨isSettled_ofList text, Nat.zero_le _, rfl, rfl⟩

namespace IsAt

theorem column_eq (isAt : s.IsAt c) : s.column = c.column := by
  rw [isAt.settled.column_eq, Nat.min_eq_left isAt.within, isAt.consumed_eq, Cursor.column]

/-- What comes next for the scanner is what comes next at the place. -/
theorem getElem?_remaining (isAt : s.IsAt c) (count : Nat) :
    s.remaining[s.passed + count]? = c.rest[count]? := by
  rw [← isAt.unread_eq, unread_eq_drop, List.getElem?_drop]

/-- The scanner and the place move on together. -/
theorem advance {count : Nat} (isAt : s.IsAt c) (advances : Advances s count after)
    (within : count ≤ c.rest.length) : after.IsAt (c.advance count) where
  settled := advances.settles isAt.settled
  within := by
    rw [← isAt.unread_eq, unread_eq_drop, List.length_drop] at within
    have inside := isAt.within
    rw [advances.passed_eq, advances.remaining_eq]
    omega
  consumed_eq := by
    rw [advances.committed_eq, advances.passed_eq, ← Nat.add_assoc, isAt.consumed_eq]
    rfl
  unread_eq := by
    rw [advances.unread_eq, isAt.unread_eq]
    rfl

/-- A scanner that has only looked ahead stands for the same place. -/
theorem stay (isAt : s.IsAt c) (advances : Advances s 0 after) : after.IsAt c :=
  isAt.advance advances (Nat.zero_le _)

/-- What is forgotten lies before the place. -/
theorem commit (isAt : s.IsAt c) : s.commit.IsAt c := by
  have count : min s.passed s.buffer.size = s.passed := by
    rw [isAt.settled.min_passed, Nat.min_eq_left isAt.within]
  refine ⟨isSettled_commit s, Nat.zero_le _, ?_, ?_⟩
  · show s.committed + min s.passed s.buffer.size + 0 = c.consumed
    rw [count, Nat.add_zero, isAt.consumed_eq]
  · rw [← isAt.unread_eq, unread_eq_drop, remaining_commit, count]
    rfl

/-! ### Looking ahead -/

theorem peekNth (isAt : s.IsAt c) (count : Nat) :
    (s.peekNth count).1 = c.rest[count]? ∧ (s.peekNth count).2.IsAt c :=
  ⟨(peekNth_answer count s).trans (isAt.getElem?_remaining count),
    isAt.stay (s.advances_peekNth count)⟩

theorem peek (isAt : s.IsAt c) : s.peek.1 = c.peek? ∧ s.peek.2.IsAt c := by
  rw [Cursor.peek?_eq, List.head?_eq_getElem?]
  exact isAt.peekNth 0

/-! ### Runs -/

/-- A run is the same text, and ends in the same place. -/
theorem scanWhile (isAt : s.IsAt c) (p : Char → Bool) :
    (s.scanWhile p).1 = String.ofList (c.takeWhile p).1 ∧
      (s.scanWhile p).2.IsAt (c.takeWhile p).2 := by
  obtain ⟨run, advances⟩ := takeWhile_spec p s
  rw [isAt.unread_eq] at run
  rw [run] at advances
  exact ⟨congrArg String.ofList run, isAt.advance advances (List.takeWhile_prefix p).length_le⟩

theorem skipBlanks (isAt : s.IsAt c) : s.skipBlanks.2.IsAt c.skipBlanks :=
  (isAt.scanWhile isBlank).2

end IsAt

end Scanner

/-! ### Symbols -/

theorem Variable.toList_name (v : Variable) : v.name.toList = [v.letter] := by
  simp [name]

theorem Variable.length_name (v : Variable) : v.name.length = 1 := by
  simp [name]

/-- A scanner has read what a cursor moves over, or has stayed where it was. -/
inductive Accepts (c : Cursor) : Bool × Scanner Char → Option Cursor → Prop
  | passed {s : Scanner Char} {after : Cursor} (isAt : s.IsAt after) :
      Accepts c (true, s) (some after)
  | stayed {s : Scanner Char} (isAt : s.IsAt c) : Accepts c (false, s) none

/-- A scanner has found what is found from a cursor, or has stayed where it was. -/
inductive Recognises (c : Cursor) : Option α × Scanner Char → Option (α × Cursor) → Prop
  | found {a : α} {s : Scanner Char} {after : Cursor} (isAt : s.IsAt after) :
      Recognises c (some a, s) (some (a, after))
  | missing {s : Scanner Char} (isAt : s.IsAt c) : Recognises c (none, s) none

namespace Scanner.IsAt

theorem accepts_acceptChar (isAt : s.IsAt c) (expected : Char) :
    Accepts c (s.acceptChar expected) (c.accept? expected) := by
  rw [acceptChar, accept]
  rcases acceptIf_cases (· == expected) s with ⟨item, head, same, accepted⟩ | ⟨other, refused⟩
  · obtain rfl := eq_of_beq same
    have rest : c.rest = item :: c.rest.drop 1 := by
      rw [← isAt.unread_eq]
      exact unread_of_head head
    have nonempty : 1 ≤ c.rest.length := by
      rw [rest]
      exact Nat.le_add_left 1 _
    rw [accepted, Cursor.accept?_of_rest rest]
    exact .passed (isAt.advance (advances_next head) nonempty)
  · have stays : c.accept? expected = none := by
      refine Cursor.accept?_eq_none fun comes => ?_
      rw [List.head?_eq_getElem?, ← isAt.getElem?_remaining] at comes
      simpa using other expected comes
    -- The scanner may have taken the refused character from its source, but has not passed it.
    rw [refused, stays]
    exact .stayed isAt.peek.2

/-- A cursor moves over the words that come next for the scanner. -/
theorem acceptWord?_eq (isAt : s.IsAt c) (word : String) :
    c.acceptWord? word.toList =
      if comesNext s.unread word then some (c.advance word.length) else none := by
  rw [Cursor.acceptWord?, comesNext, isAt.unread_eq, String.length_toList]

theorem accepts_acceptWord (isAt : s.IsAt c) {word : String} {letters : List Char}
    (spelled : word.toList = letters) :
    Accepts c (s.acceptWord word) (c.acceptWord? letters) := by
  subst spelled
  obtain ⟨answer, advances⟩ := acceptWord_advances word s
  rw [isAt.acceptWord?_eq]
  generalize s.acceptWord word = outcome at answer advances
  obtain ⟨matched, after⟩ := outcome
  obtain rfl : matched = comesNext s.unread word := answer
  cases comes : comesNext s.unread word with
  | true =>
      rw [comes, if_pos rfl] at advances
      have within := length_le_of_comesNext comes
      rw [isAt.unread_eq] at within
      exact .passed (isAt.advance advances within)
  | false =>
      rw [comes] at advances
      exact .stayed (isAt.stay advances)

/-- The variable at a place is the first one whose name comes next. -/
theorem variableAt?_eq (isAt : s.IsAt c) :
    variableAt? c =
      (Variable.all.find? fun v => comesNext s.unread v.name).map fun v => (v, c.advance 1) := by
  rw [variableAt?, List.find?_eq_findSome?_guard, List.map_findSome?]
  congr 1
  funext v
  have word := isAt.acceptWord?_eq v.name
  rw [Variable.toList_name, Variable.length_name] at word
  rw [word, Function.comp_apply, Option.guard_eq_ite]
  split <;> rfl

/-- All names of variables are of one length, so they are tried in their order. -/
theorem byLength_names :
    byLength (Variable.all.map Variable.name) = Variable.all.map Variable.name :=
  List.mergeSort_of_pairwise (by decide)

theorem recognises_acceptVariable (isAt : s.IsAt c) :
    Recognises c s.acceptVariable (variableAt? c) := by
  obtain ⟨answer, advances⟩ := acceptFirst_advances (Variable.all.map Variable.name) s
  simp only [List.find?_map, Function.comp_def] at answer advances
  rw [isAt.variableAt?_eq, acceptVariable, acceptLongest, byLength_names]
  generalize s.acceptFirst (Variable.all.map Variable.name) = outcome at answer advances
  obtain ⟨found, after⟩ := outcome
  obtain rfl := answer
  cases comes : Variable.all.find? fun v => comesNext s.unread v.name with
  | none =>
      rw [comes] at advances
      exact .missing (isAt.stay advances)
  | some v =>
      rw [comes, Option.map_some, Option.elim_some] at advances
      have isNext := List.find?_some comes
      have within := length_le_of_comesNext isNext
      rw [isAt.unread_eq] at within
      rw [Variable.length_name] at advances within
      have named : Variable.all.find? (fun other => other.name == v.name) = some v := by
        cases v <;> decide
      simp only [Option.map_some, Option.bind_some, named]
      exact .found (isAt.advance advances within)

end Scanner.IsAt

section Symbols

open Scanner (acceptSymbol unarySymbols additiveSymbols multiplicativeSymbols)

/-- The first of several symbols decides, unless it does not come next. -/
theorem Recognises.cons {reads : Scanner Char → Bool × Scanner Char} {meaning : α}
    {others : List ((Scanner Char → Bool × Scanner Char) × α)} {moved : Option Cursor}
    {next : Option (α × Cursor)} (first : Accepts c (reads s) moved)
    (rest : ∀ {s}, s.IsAt c → Recognises c (acceptSymbol others s) next) :
    Recognises c (acceptSymbol ((reads, meaning) :: others) s)
      (if let some after := moved then some (meaning, after) else next) := by
  rw [acceptSymbol]
  generalize reads s = outcome at first
  cases first with
  | passed isAt => exact .found isAt
  | stayed isAt => exact rest isAt

theorem Recognises.nil (isAt : s.IsAt c) :
    Recognises c (acceptSymbol ([] : List (_ × α)) s) none :=
  .missing isAt

theorem recognises_unary (isAt : s.IsAt c) :
    Recognises c (acceptSymbol unarySymbols s) (unaryOpAt? c) := by
  refine .cons (isAt.accepts_acceptChar '-') fun isAt => ?_
  refine .cons (isAt.accepts_acceptWord (by decide)) fun isAt => ?_
  exact .cons (isAt.accepts_acceptWord (by decide)) .nil

theorem recognises_additive (isAt : s.IsAt c) :
    Recognises c (acceptSymbol additiveSymbols s) (additiveOpAt? c) := by
  refine .cons (isAt.accepts_acceptChar '+') fun isAt => ?_
  exact .cons (isAt.accepts_acceptChar '-') .nil

theorem recognises_multiplicative (isAt : s.IsAt c) :
    Recognises c (acceptSymbol multiplicativeSymbols s) (multiplicativeOpAt? c) := by
  refine .cons (isAt.accepts_acceptChar '*') fun isAt => ?_
  refine .cons (isAt.accepts_acceptChar '/') fun isAt => ?_
  exact .cons (isAt.accepts_acceptWord (by decide)) .nil

end Symbols

/-! ### Constants -/

/-- A scanner has read what is read from a cursor and stands for the place behind it, or both have
found the same error. -/
inductive SameReading : Scan V → Reading V → Prop
  | read {e : Expr V} {s : Scanner Char} {after : Cursor} (isAt : s.IsAt after) :
      SameReading (.ok (e, s)) (.ok (e, after))
  | error (error : ParseError) : SameReading (.error error) (.error error)

theorem illegalNext_eq (isAt : s.IsAt c) (expected : Expectation) :
    s.illegalNext expected = illegalAt expected c := by
  rw [Scanner.illegalNext, isAt.column_eq, isAt.peek.1]
  rfl

theorem atLiteral_eq (isAt : s.IsAt c) :
    (s.atLiteral d).1 = startsLiteral d c ∧ (s.atLiteral d).2.IsAt c :=
  ⟨congrArg (Option.any d.isLiteralChar) isAt.peek.1, isAt.peek.2⟩

/-- A minus belongs to a constant if a character of a constant is the one after it. -/
theorem startsSignedLiteral_eq (d : Domain V) (c : Cursor) :
    startsSignedLiteral d c = (c.peek? == some '-' && c.rest[1]?.any d.isLiteralChar) := by
  rw [startsSignedLiteral, Cursor.peek?_eq]
  cases rest : c.rest with
  | nil => simp [Cursor.accept?, rest]
  | cons first others =>
      by_cases isMinus : first = '-'
      · subst isMinus
        simp [Cursor.accept?_of_rest rest, startsLiteral, List.head?_eq_getElem?]
      · have other : c.rest.head? ≠ some '-' := by simpa [rest] using isMinus
        simp [Cursor.accept?_eq_none other, isMinus]

theorem atSignedLiteral_eq (isAt : s.IsAt c) :
    (s.atSignedLiteral d).1 = startsSignedLiteral d c ∧ (s.atSignedLiteral d).2.IsAt c := by
  obtain ⟨sign, isAt⟩ := isAt.peek
  rw [startsSignedLiteral_eq, Scanner.atSignedLiteral, ← sign]
  dsimp only
  split
  next isMinus =>
    obtain ⟨digit, isAt⟩ := isAt.peekNth 1
    rw [isMinus, Bool.true_and, ← digit]
    generalize s.peek.2.peekNth 1 = looked at isAt ⊢
    exact ⟨rfl, isAt⟩
  next other =>
    rw [Bool.eq_false_iff.mpr other, Bool.false_and]
    exact ⟨rfl, isAt⟩

/-- A sign that was read, and the digits that follow, are the same constant. -/
theorem sameReading_digits (sign : String) (column : Nat) (isAt : s.IsAt c) :
    SameReading
      (match d.literal (sign ++ (s.scanWhile d.isLiteralChar).1) with
      | .ok value => .ok (.const value, (s.scanWhile d.isLiteralChar).2)
      | .error error =>
        .error (.constantFormat column ((s.scanWhile d.isLiteralChar).2.column - 1)
          error.literal.toList))
      (match d.read? (sign.toList ++ (c.takeWhile d.isLiteralChar).1) with
      | some value => .ok (.const value, (c.takeWhile d.isLiteralChar).2)
      | none =>
        .error (.constantFormat column ((c.takeWhile d.isLiteralChar).2.column - 1)
          (sign.toList ++ (c.takeWhile d.isLiteralChar).1))) := by
  obtain ⟨run, isAfter⟩ := isAt.scanWhile d.isLiteralChar
  have text : (sign ++ (s.scanWhile d.isLiteralChar).1).toList =
      sign.toList ++ (c.takeWhile d.isLiteralChar).1 := by
    rw [run, String.toList_append, String.toList_ofList]
  rw [Domain.literal, text, isAfter.column_eq]
  cases d.read? (sign.toList ++ (c.takeWhile d.isLiteralChar).1) with
  | some value => exact .read isAfter
  | none =>
      dsimp only
      rw [text]
      exact .error _

theorem sameReading_literal (isAt : s.IsAt c) : SameReading (scanLiteral d s) (literal d c) := by
  rw [scanLiteral, literal, isAt.column_eq]
  have sign := isAt.accepts_acceptChar '-'
  generalize s.acceptChar '-' = scanned, c.accept? '-' = moved at sign ⊢
  cases sign with
  | passed isAt => exact sameReading_digits "-" _ isAt
  | stayed isAt => exact sameReading_digits "" _ isAt

/-! ### The grammar -/

/-- A function reads with a scanner what another one reads from a cursor, wherever both start. -/
def ReadsAlike (scan : Scanner Char → Scan V) (read : Cursor → Reading V) : Prop :=
  ∀ {s : Scanner Char} {c : Cursor}, s.IsAt c → SameReading (scan s) (read c)

section Chains

variable {scanOp? : Scanner Char → Option BinaryOp × Scanner Char}
  {op? : Cursor → Option (BinaryOp × Cursor)} {scanPart : Scanner Char → Scan V}
  {part : Cursor → Reading V} {links : Nat}

/-- The induction is on the bound for the links. -/
theorem sameReading_links
    (operators : ∀ {s : Scanner Char} {c : Cursor}, s.IsAt c → Recognises c (scanOp? s) (op? c))
    (parts : ReadsAlike scanPart part) (e : Expr V) (isAt : s.IsAt c) :
    SameReading (scanLinks scanOp? scanPart links e s) (chainLinks op? part links e c) := by
  induction links generalizing e s c with
  | zero => exact .read isAt
  | succ links ih =>
      rw [scanLinks, chainLinks]
      have operator := operators isAt
      generalize scanOp? s = scanned, op? c = found at operator ⊢
      cases operator with
      | missing isAt => exact .read isAt
      | @found op afterOp place isAt =>
          have right := parts isAt
          dsimp only
          generalize scanPart afterOp = scanned, part place = reading at right ⊢
          cases right with
          | read isAt => exact ih _ isAt
          | error error => exact .error error

theorem readsAlike_chain
    (operators : ∀ {s : Scanner Char} {c : Cursor}, s.IsAt c → Recognises c (scanOp? s) (op? c))
    (parts : ReadsAlike scanPart part) (links : Nat) :
    ReadsAlike (scanChain scanOp? scanPart links) (chain op? part links) := by
  intro s c isAt
  rw [scanChain, chain]
  have first := parts isAt
  generalize scanPart s = scanned, part c = reading at first ⊢
  cases first with
  | read isAt => exact sameReading_links operators parts _ isAt
  | error error => exact .error error

end Chains

section Operands

variable {scanInner : Scanner Char → Scan V} {inner : Cursor → Reading V}

theorem readsAlike_expression (operands : ReadsAlike scanInner inner) (links : Nat) :
    ReadsAlike (scanExpression links scanInner) (expression links inner) :=
  readsAlike_chain recognises_additive
    (readsAlike_chain recognises_multiplicative operands links) links

theorem readsAlike_bracketed (expressions : ReadsAlike scanInner inner) :
    ReadsAlike (scanBracketed scanInner) (bracketed inner) := by
  intro s c isAt
  rw [scanBracketed, bracketed]
  have content := expressions isAt
  generalize scanInner s = scanned, inner c = reading at content ⊢
  cases content with
  | error error => exact .error error
  | @read e after place isAt =>
      have closing := isAt.accepts_acceptChar ')'
      dsimp only
      generalize after.acceptChar ')' = scanned, place.accept? ')' = moved at closing ⊢
      cases closing with
      | passed isAt => exact .read isAt
      | stayed isAt =>
          dsimp only
          rw [isAt.column_eq, isAt.peek.1]
          exact .error _

theorem readsAlike_applied (op : UnaryOp) (operands : ReadsAlike scanInner inner) :
    ReadsAlike (scanApplied op scanInner) (applied op inner) := by
  intro s c isAt
  rw [scanApplied, applied]
  have operand := operands isAt
  generalize scanInner s = scanned, inner c = reading at operand ⊢
  cases operand with
  | read isAt => exact .read isAt
  | error error => exact .error error

theorem readsAlike_leaf (d : Domain V) : ReadsAlike (scanLeaf d) (leaf d) := by
  intro s c isAt
  obtain ⟨starts, isAt⟩ := atLiteral_eq (d := d) isAt
  rw [scanLeaf, leaf, ← starts]
  generalize s.atLiteral d = scanned at isAt ⊢
  obtain ⟨isConstant, ahead⟩ := scanned
  cases isConstant with
  | true => exact sameReading_literal isAt
  | false =>
      have letter := isAt.recognises_acceptVariable
      dsimp only
      generalize ahead.acceptVariable = scanned, variableAt? c = found at letter ⊢
      cases letter with
      | found isAt => exact .read isAt
      | missing isAt =>
          dsimp only
          rw [illegalNext_eq isAt]
          exact .error _

theorem readsAlike_bareOperand (d : Domain V) (links : Nat)
    (operands : ReadsAlike scanInner inner) :
    ReadsAlike (scanBareOperand d links scanInner) (bareOperand d links inner) := by
  intro s c isAt
  obtain ⟨starts, isAt⟩ := atSignedLiteral_eq (d := d) isAt
  rw [scanBareOperand, bareOperand, ← starts]
  generalize s.atSignedLiteral d = scanned at isAt ⊢
  obtain ⟨isConstant, ahead⟩ := scanned
  cases isConstant with
  | true => exact sameReading_literal isAt
  | false =>
      have operator := recognises_unary isAt
      dsimp only
      generalize ahead.acceptSymbol Scanner.unarySymbols = scanned, unaryOpAt? c = found
        at operator ⊢
      cases operator with
      | found isAt => exact readsAlike_applied _ operands isAt
      | @missing ahead isAt =>
          have opening := isAt.accepts_acceptChar '('
          dsimp only
          generalize ahead.acceptChar '(' = scanned, c.accept? '(' = moved at opening ⊢
          cases opening with
          | passed isAt => exact readsAlike_bracketed (readsAlike_expression operands links) isAt
          | stayed isAt => exact readsAlike_leaf d isAt

/-- Behind an operand the scanner forgets what it read, and stands for the same place. -/
theorem readsAlike_betweenBlanks (operands : ReadsAlike scanInner inner) :
    ReadsAlike (scanBetweenBlanks scanInner) (betweenBlanks inner) := by
  intro s c isAt
  rw [scanBetweenBlanks, betweenBlanks]
  have operand := operands isAt.skipBlanks
  generalize scanInner s.skipBlanks.2 = scanned, inner c.skipBlanks = reading at operand ⊢
  cases operand with
  | read isAt => exact .read isAt.skipBlanks.commit
  | error error => exact .error error

/-- **Operands.**  The induction is on the nesting still allowed. -/
theorem readsAlike_operand (d : Domain V) (links nesting : Nat) :
    ReadsAlike (scanOperand d links nesting) (operand d links nesting) := by
  induction nesting with
  | zero =>
      intro s c isAt
      rw [scanOperand, operand, isAt.column_eq]
      exact .error _
  | succ nesting ih => exact readsAlike_betweenBlanks (readsAlike_bareOperand d links ih)

end Operands

/-! ### Whole texts -/

/-- **A scanner reads what is read from a cursor**, whatever the limits on nesting and on chains. -/
theorem scanWithin_eq (d : Domain V) (nesting links : Nat) (text : List Char) :
    scanWithin d nesting links text = parseWithin d nesting links text := by
  have whole := readsAlike_expression (readsAlike_operand d links nesting) links
    (Scanner.isAt_ofList text)
  rw [scanWithin, parseWithin]
  generalize scanExpression links (scanOperand d links nesting) (.ofList text) = scanned,
    expression links (operand d links nesting) (.start text) = reading at whole ⊢
  cases whole with
  | error error => rfl
  | @read e after place isAt =>
      obtain ⟨next, isAt⟩ := isAt.peek
      dsimp only
      rw [← next]
      generalize after.peek = scanned at isAt
      obtain ⟨next, ahead⟩ := scanned
      cases next with
      | none => rfl
      | some other => exact congrArg Except.error (illegalNext_eq isAt _)

/-- **A text is read alike from a source and at hand**: as the same expression, or with the same
error at the same place. -/
theorem scanSource_eq (d : Domain V) (text : String) : scanSource d text.toList = parse d text :=
  scanWithin_eq d maxNesting text.toList.length text.toList

end Formula
