import Formula.Proofs.Grammar.Symbols

/-!
# What the grammar has is read

Reading follows every derivation of the grammar: it arrives at the end of the phrase with the tree
of the phrase, or it refuses an operand inside because it is nested too deeply, and which of the
two depends on the nesting of the derivation alone.

The grammar leaves open how many of the blanks behind an operand belong to it, while reading passes
all of them.  What reading arrives at is therefore stated up to blanks.  And in the middle of a
chain reading has not arrived at all: it is inside the loop, with the part that has been read as
the left operand of what may come.

## Main definitions

* `Arrives`, `Loops` — reading is done with a phrase, or may go on with its chain
* `Outcome` — success or refusal, decided by the nesting
* `Reads` — what is said of the phrases of each category

## Main statements

* `Derives.reads` — reading follows derivations
* `Derives.parseWithin_eq` — the same for whole texts
-/

namespace Formula

variable {V : Type} {d : Domain V}

/-! ### How reading may stand -/

/-- Reading is done: it has given a tree and stands in front of a text. -/
def Arrives (e : Expr V) (rest : List Char) (result : Reading V) : Prop :=
  ∃ after, result = .ok (e, after) ∧ after.rest = rest

/-- Reading is in the loop of a chain: a tree has been read, and what is left of the text has no
more links than the loop may still take. -/
def Loops (op? : Cursor → Option (BinaryOp × Cursor)) (part : Cursor → Reading V) (e : Expr V)
    (rest : List Char) (result : Reading V) : Prop :=
  ∃ remaining after, rest.length ≤ remaining ∧ after.rest = afterBlanks rest ∧
    result = chainLinks op? part remaining e after

/-- What reading leads to for a phrase of a nesting where `bound` levels are allowed: the expected
success, or the refusal of an operand. -/
inductive Outcome (bound nesting : Nat) (success : Reading V → Prop) : Reading V → Prop
  | fits {result} (enough : nesting ≤ bound) (reads : success result) :
      Outcome bound nesting success result
  | tooDeep {position} (exceeds : bound < nesting) :
      Outcome bound nesting success (.error (.tooDeep position))

namespace Outcome

variable {bound n m : Nat} {first second : Reading V → Prop} {result : Reading V}

/-- Another success that follows from the expected one. -/
theorem mono (outcome : Outcome bound n first result)
    (follows : ∀ result, first result → second result) : Outcome bound n second result := by
  cases outcome with
  | fits enough reads => exact .fits enough (follows _ reads)
  | tooDeep exceeds => exact .tooDeep exceeds

/-- Two phrases in a row are as deep as the deeper one. -/
theorem andThen (outcome : Outcome bound n first result)
    (next : ∀ result, first result → Outcome bound m second result) :
    Outcome bound (max n m) second result := by
  cases outcome with
  | fits enough reads =>
      cases next _ reads with
      | fits enoughNext readsNext =>
          exact .fits (Nat.max_le.mpr ⟨enough, enoughNext⟩) readsNext
      | tooDeep exceeds => exact .tooDeep (Nat.lt_of_lt_of_le exceeds (Nat.le_max_right n m))
  | tooDeep exceeds => exact .tooDeep (Nat.lt_of_lt_of_le exceeds (Nat.le_max_left n m))

end Outcome

/-! ### Chains -/

section Chains

variable {op? : Cursor → Option (BinaryOp × Cursor)} {part : Cursor → Reading V}
  {bound n : Nat} {e left right : Expr V} {rest : List Char} {c : Cursor}

/-- The loop stops where no operator comes. -/
theorem chainLinks_eq_ok (stop : op? c = none) (links : Nat) (e : Expr V) :
    chainLinks op? part links e c = .ok (e, c) := by
  cases links with
  | zero => rfl
  | succ links => simp only [chainLinks, stop]

/-- Reading is done with a chain where no operator comes. -/
theorem Loops.arrives (stop : ∀ c : Cursor, c.rest = afterBlanks rest → op? c = none)
    {result : Reading V} (loops : Loops op? part e rest result) :
    Arrives e (afterBlanks rest) result := by
  obtain ⟨remaining, after, -, comes, rfl⟩ := loops
  exact ⟨after, chainLinks_eq_ok (stop after comes) remaining e, comes⟩

/-- A part that has been read leads into the loop, joined to what has been read before it. -/
theorem Outcome.enterLoop {links : Nat} {result : Reading V} (join : Expr V → Expr V)
    (enough : rest.length ≤ links) :
    Outcome bound n (Arrives e (afterBlanks rest)) result →
      Outcome bound n (Loops op? part (join e) rest)
        (match result with
        | .ok (e, after) => Formula.chainLinks op? part links (join e) after
        | .error error => .error error) := by
  intro outcome
  cases outcome with
  | fits fitting arrives =>
      obtain ⟨after, rfl, comes⟩ := arrives
      exact .fits fitting ⟨links, after, enough, comes, rfl⟩
  | tooDeep exceeds => exact .tooDeep exceeds

/-- The first part of a chain leads into the loop. -/
theorem Outcome.chain {links : Nat} (enough : rest.length ≤ links)
    (outcome : Outcome bound n (Arrives e (afterBlanks rest)) (part c)) :
    Outcome bound n (Loops op? part e rest) (chain op? part links c) :=
  enterLoop id enough outcome

/-- An operator and the part after it lead through the loop once. -/
theorem Outcome.chainLinks {op : BinaryOp} {afterOp : Cursor} {links : Nat}
    (found : op? c = some (op, afterOp)) (enough : rest.length ≤ links)
    (outcome : Outcome bound n (Arrives right (afterBlanks rest)) (part afterOp)) :
    Outcome bound n (Loops op? part (.binary op left right) rest)
      (chainLinks op? part (links + 1) left c) := by
  rw [Formula.chainLinks, found]
  exact enterLoop (.binary op left) enough outcome

/-- A link of a chain: the loop that stands in front of an operator takes the operator and the part
after it. -/
theorem Loops.link {op : BinaryOp} {mid next : List Char} {result : Reading V}
    (symbol : BinarySymbol op mid next)
    (found : ∀ c : Cursor, c.rest = mid → ∃ after, op? c = some (op, after) ∧ after.rest = next)
    (shorter : rest.length ≤ next.length)
    (outcome : ∀ c : Cursor, c.rest = next →
      Outcome bound n (Arrives right (afterBlanks rest)) (part c))
    (loops : Loops op? part left mid result) :
    Outcome bound n (Loops op? part (.binary op left right) rest) result := by
  obtain ⟨remaining, after, enough, comes, rfl⟩ := loops
  rw [symbol.afterBlanks_eq] at comes
  obtain ⟨afterOp, foundOp, comesOp⟩ := found after comes
  -- The operator takes a character of the text, so the loop still has a link for it.
  have taken := symbol.length_lt
  obtain ⟨links, rfl⟩ : ∃ links, remaining = links + 1 := ⟨remaining - 1, by omega⟩
  exact Outcome.chainLinks foundOp (by omega) (outcome afterOp comesOp)

end Chains

/-! ### Phrases -/

/-- The operators of the higher rank do not come first in a text, but for blanks. -/
def NoProduct (text : List Char) : Prop :=
  ∀ c : Cursor, c.rest = afterBlanks text → multiplicativeOpAt? c = none

theorem BinarySymbol.noProduct {op : BinaryOp} {text rest : List Char}
    (symbol : BinarySymbol op text rest) (isSum : op.rank = 1) : NoProduct text := by
  intro c comes
  rw [symbol.afterBlanks_eq] at comes
  exact ((comes ▸ symbol).additiveOpAt? isSum).1

/-- What reading leads to for a phrase of each category, with a bound on the links of chains.  An
expression is only followed where no further factor comes, and what bare operands leave of the
blanks behind them is open. -/
def Reads (d : Domain V) (links : Nat) :
    Category → List Char → Expr V → Nat → List Char → Prop
  | .expression, text, e, n, rest =>
      NoProduct rest → ∀ (bound : Nat) (c : Cursor), c.rest = text →
        Outcome bound n
          (Loops additiveOpAt? (chain multiplicativeOpAt? (operand d links bound) links) e rest)
          (expression links (operand d links bound) c)
  | .term, text, e, n, rest =>
      ∀ (bound : Nat) (c : Cursor), c.rest = text →
        Outcome bound n (Loops multiplicativeOpAt? (operand d links bound) e rest)
          (chain multiplicativeOpAt? (operand d links bound) links c)
  | .operand, text, e, n, rest =>
      ∀ (bound : Nat) (c : Cursor), c.rest = text →
        Outcome bound n (Arrives e (afterBlanks rest)) (operand d links bound c)
  | .bare, text, e, n, rest =>
      ∀ (bound : Nat) (c : Cursor), c.rest = text →
        Outcome (bound + 1) n
          (fun result => ∃ left, afterBlanks left = afterBlanks rest ∧ Arrives e left result)
          (bareOperand d links (operand d links bound) c)

/-- Whether an expression may end in front of a text: at the end of the text or at a bracket. -/
def EndsExpression (text : List Char) : Prop :=
  text = [] ∨ text.head? = some ')'

/-- No operator is found where an expression ends. -/
theorem EndsExpression.noOperator {text : List Char} {c : Cursor} (ends : EndsExpression text)
    (comes : c.rest = afterBlanks text) :
    multiplicativeOpAt? c = none ∧ additiveOpAt? c = none := by
  have other : ∀ x ∈ ['+', '-', '*', '/', 'm'], c.rest.head? ≠ some x := by
    rw [comes]
    rcases ends with rfl | closing
    · simp
    · obtain ⟨rest, rfl⟩ := List.head?_eq_some_iff.mp closing
      rw [afterBlanks_cons (by decide)]
      simp
  exact ⟨multiplicativeOpAt?_eq_none (other '*' (by simp)) (other '/' (by simp))
      (other 'm' (by simp)), additiveOpAt?_eq_none (other '+' (by simp)) (other '-' (by simp))⟩

namespace Reads

variable {links n m : Nat} {text mid next rest : List Char} {e left right : Expr V}

/-- Reading is done with an expression where it ends. -/
theorem arrives (reads : Reads d links .expression text e n rest) (ends : EndsExpression rest)
    (bound : Nat) {c : Cursor} (comes : c.rest = text) :
    Outcome bound n (Arrives e (afterBlanks rest))
      (expression links (Formula.operand d links bound) c) :=
  (reads (fun _ comes => (ends.noOperator comes).1) bound c comes).mono fun _ loops =>
    loops.arrives fun _ comes => (ends.noOperator comes).2

/-- An expression of a single term. -/
theorem expression_of_term (enough : rest.length ≤ links)
    (reads : Reads d links .term text e n rest) : Reads d links .expression text e n rest :=
  fun noProduct bound c comes =>
    .chain enough ((reads bound c comes).mono fun _ loops => loops.arrives noProduct)

/-- An expression that goes on with a term. -/
theorem sum {op : BinaryOp} (symbol : BinarySymbol op mid next) (isSum : op.rank = 1)
    (shorter : rest.length ≤ next.length) (first : Reads d links .expression text left n mid)
    (last : Reads d links .term next right m rest) :
    Reads d links .expression text (.binary op left right) (max n m) rest := by
  intro noProduct bound c comes
  -- In front of an operator of the lower rank no factor comes either, so the first part is read up
  -- to the operator.
  refine (first (symbol.noProduct isSum) bound c comes).andThen fun result loops => ?_
  refine loops.link symbol (fun c comes => ((comes ▸ symbol).additiveOpAt? isSum).2) shorter ?_
  exact fun c comes => (last bound c comes).mono fun _ loops => loops.arrives noProduct

/-- A term of a single operand. -/
theorem term_of_operand (enough : rest.length ≤ links)
    (reads : Reads d links .operand text e n rest) : Reads d links .term text e n rest :=
  fun bound c comes => .chain enough (reads bound c comes)

/-- A term that goes on with an operand. -/
theorem product {op : BinaryOp} (symbol : BinarySymbol op mid next) (isProduct : op.rank = 2)
    (shorter : rest.length ≤ next.length) (first : Reads d links .term text left n mid)
    (last : Reads d links .operand next right m rest) :
    Reads d links .term text (.binary op left right) (max n m) rest := by
  intro bound c comes
  refine (first bound c comes).andThen fun result loops => ?_
  exact loops.link symbol (fun c comes => (comes ▸ symbol).multiplicativeOpAt? isProduct) shorter
    (last bound)

/-- An operand with the blanks around it.  Where no level is left it is refused at once. -/
theorem blanks {before after : List Char} (blanksBefore : ∀ c ∈ before, isBlank c)
    (blanksAfter : ∀ c ∈ after, isBlank c) (starts : afterBlanks text = text) (deep : 0 < n)
    (inner : Reads d links .bare text e n (after ++ rest)) :
    Reads d links .operand (before ++ text) e n rest := by
  intro bound c comes
  cases bound with
  | zero => exact .tooDeep deep
  | succ bound =>
      have comesBare : c.skipBlanks.rest = text := by
        rw [Cursor.rest_skipBlanks, comes, afterBlanks_append blanksBefore, starts]
      have outcome := inner bound c.skipBlanks comesBare
      rw [operand, betweenBlanks]
      generalize bareOperand d links (operand d links bound) c.skipBlanks = result at outcome
      cases outcome with
      | fits enough reads =>
          -- What is left of the blanks is passed now, whether the grammar takes it or not.
          obtain ⟨left, same, place, rfl, comesLeft⟩ := reads
          refine .fits enough ⟨place.skipBlanks, rfl, ?_⟩
          rw [Cursor.rest_skipBlanks, comesLeft, same, afterBlanks_append blanksAfter]
      | tooDeep exceeds => exact .tooDeep exceeds

/-- A constant. -/
theorem constant {sign digits : List Char} {value : V} (isSign : sign = [] ∨ sign = ['-'])
    (nonempty : digits ≠ []) (areDigits : ∀ c ∈ digits, d.isLiteralChar c)
    (longest : d.startsConstant rest = false) (denotes : d.read? (sign ++ digits) = some value) :
    Reads d links .bare (sign ++ digits ++ rest) (.const value) 1 rest := by
  intro bound c comes
  obtain ⟨place, found, comesRest⟩ :=
    literal_of_rest isSign nonempty areDigits longest denotes comes
  refine .fits (Nat.succ_pos bound) ⟨rest, rfl, place, ?_, comesRest⟩
  obtain ⟨first, others, rfl⟩ := List.exists_cons_of_ne_nil nonempty
  have isLiteral := areDigits first List.mem_cons_self
  rw [← found]
  -- Without a sign the constant is a leaf.  A sign is seen before any operator is tried.
  rcases isSign with rfl | rfl
  · have other : ∀ x ∈ ['-', 'a', 's', '('], c.rest.head? ≠ some x := by
      intro x member same
      have isFirst : first = x := by simpa [comes] using same
      exact Domain.not_mem_of_isLiteralChar isLiteral rfl (isFirst ▸ member)
    rw [bareOperand_eq_leaf other, leaf, startsLiteral_eq, comes]
    exact if_pos isLiteral
  · rw [bareOperand, startsSignedLiteral_of_rest comes]
    exact if_pos isLiteral

/-- A variable. -/
theorem letter {v : Variable} (ends : endsWord rest = true) :
    Reads d links .bare (v.letter :: rest) (.var v) 1 rest := by
  intro bound c comes
  refine .fits (Nat.succ_pos bound) ⟨rest, rfl, ⟨c.consumed + 1, rest⟩, ?_, rfl⟩
  have noConstant : startsLiteral d c = false := by
    rw [startsLiteral_eq, comes, Domain.startsConstant_cons]
    cases v <;> exact Domain.isLiteralChar_eq_false rfl
  have other : ∀ x ∈ ['-', 'a', 's', '('], c.rest.head? ≠ some x := by
    rw [comes]
    cases v <;> simp [Variable.letter]
  rw [bareOperand_eq_leaf other, leaf, noConstant, variableAt?_of_rest comes ends]
  rfl

/-- An operator on one operand, and its operand. -/
theorem unary {op : UnaryOp} (symbol : UnarySymbol d op text next)
    (inner : Reads d links .operand next e n rest) :
    Reads d links .bare text (.unary op e) (n + 1) rest := by
  intro bound c comes
  obtain ⟨noSign, afterOp, found, comesNext⟩ := (comes ▸ symbol).unaryOpAt?
  have reading : bareOperand d links (operand d links bound) c =
      applied op (operand d links bound) afterOp := by
    rw [bareOperand, noSign, found]
    rfl
  have outcome := inner bound afterOp comesNext
  rw [reading, applied]
  generalize operand d links bound afterOp = result at outcome
  cases outcome with
  | fits enough reads =>
      obtain ⟨place, rfl, comesRest⟩ := reads
      exact .fits (Nat.succ_le_succ enough)
        ⟨afterBlanks rest, afterBlanks_afterBlanks rest, place, rfl, comesRest⟩
  | tooDeep exceeds => exact .tooDeep (Nat.succ_lt_succ exceeds)

/-- An expression in brackets: no operator is found in front of the closing one. -/
theorem brackets (inner : Reads d links .expression text e n (')' :: rest)) :
    Reads d links .bare ('(' :: text) e (n + 1) rest := by
  intro bound c comes
  have reading : bareOperand d links (operand d links bound) c =
      bracketed (expression links (operand d links bound)) ⟨c.consumed + 1, text⟩ := by
    rw [bareOperand, startsSignedLiteral_eq_false (by simp [comes]),
      unaryOpAt?_eq_none (by simp [comes]) (by simp [comes]) (by simp [comes]),
      Cursor.accept?_of_rest comes]
    rfl
  have outcome := inner.arrives (.inr rfl) bound
    (show (Cursor.mk (c.consumed + 1) text).rest = text from rfl)
  rw [reading, bracketed]
  generalize expression links (operand d links bound) ⟨c.consumed + 1, text⟩ = result at outcome
  cases outcome with
  | fits enough reads =>
      obtain ⟨place, rfl, comesClosing⟩ := reads
      refine .fits (Nat.succ_le_succ enough) ⟨rest, rfl, ⟨place.consumed + 1, rest⟩, ?_, rfl⟩
      simp only [Cursor.accept?_of_rest (comesClosing.trans rfl : place.rest = ')' :: rest)]
  | tooDeep exceeds => exact .tooDeep (Nat.succ_lt_succ exceeds)

end Reads

/-! ### Derivations -/

namespace Derives

variable {category : Category} {links n : Nat} {text rest : List Char} {e : Expr V}

/-- No operand starts with a blank, but for the blanks around it. -/
theorem afterBlanks_eq (derivation : Derives d .bare text e n rest) :
    afterBlanks text = text := by
  cases derivation with
  | constant isSign nonempty areDigits =>
      obtain ⟨first, others, rfl⟩ := List.exists_cons_of_ne_nil nonempty
      rcases isSign with rfl | rfl
      · exact afterBlanks_cons (Domain.isBlank_of_isLiteralChar (areDigits first (by simp))) _
      · rfl
  | @letter v _ _ => cases v <;> rfl
  | unary symbol => exact symbol.afterBlanks_eq
  | brackets => rfl

/-- **Reading follows derivations.**  With as many links as the text has characters, reading leads
to the end of the phrase, or refuses an operand if the phrase is nested too deeply. -/
theorem reads (derivation : Derives d category text e n rest) (enough : text.length ≤ links) :
    Reads d links category text e n rest := by
  -- The text of a part is no longer than that of the whole, so the links suffice for it as well.
  induction derivation with
  | term first ih => exact (ih enough).expression_of_term (by have := first.length_le; omega)
  | sum first symbol isSum last ihFirst ihLast =>
      have := first.length_le
      have := symbol.length_lt
      exact .sum symbol isSum last.length_le (ihFirst enough) (ihLast (by omega))
  | operand first ih => exact (ih enough).term_of_operand (by have := first.length_le; omega)
  | product first symbol isProduct last ihFirst ihLast =>
      have := first.length_le
      have := symbol.length_lt
      exact .product symbol isProduct last.length_le (ihFirst enough) (ihLast (by omega))
  | blanks blanksBefore inner blanksAfter ih =>
      rw [List.length_append] at enough
      exact .blanks blanksBefore blanksAfter inner.afterBlanks_eq inner.nesting_pos
        (ih (by omega))
  | constant isSign nonempty areDigits longest denotes =>
      exact .constant isSign nonempty areDigits longest denotes
  | letter ends => exact .letter ends
  | unary symbol inner ih =>
      have := symbol.length_lt
      exact .unary symbol (ih (by omega))
  | brackets inner ih => exact .brackets (ih (Nat.le_of_succ_le enough))

/-- **The reading of a written expression.**  A text that the grammar has is read as its tree, or
refused for its nesting. -/
theorem parseWithin_eq (derivation : Derives d .expression text e n []) (nesting : Nat)
    (enough : text.length ≤ links) :
    if n ≤ nesting then parseWithin d nesting links text = .ok e
    else ∃ position, parseWithin d nesting links text = .error (.tooDeep position) := by
  have outcome := (derivation.reads enough).arrives (.inl rfl) nesting
    (show (Cursor.start text).rest = text from rfl)
  rw [parseWithin]
  generalize expression links (Formula.operand d links nesting) (.start text) = result at outcome
  cases outcome with
  | fits fitting reads =>
      obtain ⟨place, rfl, comes⟩ := reads
      rw [if_pos fitting]
      simp [comes]
  | tooDeep exceeds =>
      rw [if_neg (Nat.not_le.mpr exceeds)]
      exact ⟨_, rfl⟩

end Derives

end Formula
