import Formula.Proofs.Grammar.Sound

/-!
# Blanks that make no difference

Blanks at the start and at the end of a text, on either side of a bracket or of the operators `+`,
`*` and `/`, and in front of a minus belong to no phrase in particular.  They may be put in and left
out without a change to what the text is read as.  Behind a minus they are significant: there they
tell the negation of a constant from a constant with a sign.

A text is squeezed by leaving out all blanks of this kind.  Texts that are squeezed to the same text
have the same phrases, so reading cannot tell them apart.

## Main definitions

* `isPunctuation`, `isSolid` — symbols that detach from blanks, and characters that do not
* `squeeze` — a text without its insignificant blanks
* `InsignificantGap` — a place of a text where blanks are insignificant
* `Respaced` — what is said of the phrases of each category

## Main statements

* `squeeze_insert` — blanks in an insignificant gap are squeezed away
* `Derives.respaced` — phrases are found in every text that is squeezed to the same text
* `parse_insert_blanks` — blanks in an insignificant gap make no difference to reading

## Design notes

Whether blanks matter depends on the symbols on both sides of them.  `squeeze` is therefore told
whether the symbol to the left makes the blanks in front of the text insignificant, and looks at the
symbol to the right itself.  This is also how the phrases are compared: behind a word or a constant
only those texts are exchanged that begin alike.
-/

namespace Formula

variable {V : Type} {d : Domain V}

/-! ### Squeezing -/

/-- The symbols with insignificant blanks on both sides. -/
def isPunctuation (c : Char) : Bool :=
  c == '(' || c == ')' || c == '+' || c == '*' || c == '/'

/-- The characters on neither side of which blanks are insignificant. -/
def isSolid (c : Char) : Bool :=
  !(isBlank c || isPunctuation c || c == '-')

/-- Whether blanks in front of a text are insignificant whatever stands before them: the text is at
its end, or goes on with punctuation or a minus. -/
def absorbsBlanks (text : List Char) : Bool :=
  text.head?.all fun c => isPunctuation c || c == '-'

/-- A text without its insignificant blanks.  The flag tells whether blanks at its start are
insignificant for what stands before it. -/
def squeeze (free : Bool) : List Char → List Char
  | [] => []
  | c :: text =>
    if isBlank c then
      if free || absorbsBlanks (afterBlanks text) then squeeze free text
      else c :: squeeze free text
    else c :: squeeze (isPunctuation c) text

section Squeeze

variable {free : Bool} {c : Char} {text text' blanks : List Char}

theorem afterBlanks_cons_of_isBlank (blank : isBlank c = true) :
    afterBlanks (c :: text) = afterBlanks text :=
  List.dropWhile_cons_of_pos blank

/-- A character that is no blank is kept. -/
theorem squeeze_cons (notBlank : isBlank c = false) :
    squeeze free (c :: text) = c :: squeeze (isPunctuation c) text := by
  simp [squeeze, notBlank]

/-- Blanks are left out where what stands before or behind them makes them insignificant. -/
theorem squeeze_append (areBlanks : ∀ c ∈ blanks, isBlank c)
    (insignificant : (free || absorbsBlanks (afterBlanks text)) = true) :
    squeeze free (blanks ++ text) = squeeze free text := by
  induction blanks with
  | nil => rfl
  | cons c blanks ih =>
      have others : ∀ c ∈ blanks, isBlank c := fun c member => areBlanks c (.tail _ member)
      rw [List.cons_append, squeeze, if_pos (areBlanks c (.head _)), afterBlanks_append others,
        if_pos insignificant, ih others]

/-- No blanks are left where what stands before or behind them makes them insignificant. -/
theorem squeeze_afterBlanks (insignificant : (free || absorbsBlanks (afterBlanks text)) = true) :
    squeeze free (afterBlanks text) = squeeze free text := by
  obtain ⟨blanks, areBlanks, split⟩ := exists_blanks_append_afterBlanks text
  rw [← afterBlanks_afterBlanks] at insignificant
  calc squeeze free (afterBlanks text)
      = squeeze free (blanks ++ afterBlanks text) := (squeeze_append areBlanks insignificant).symm
    _ = squeeze free text := by rw [← split]

/-- Significant blanks are those at the start of what is left. -/
theorem afterBlanks_squeeze : afterBlanks (squeeze free text) = squeeze true text := by
  induction text generalizing free with
  | nil => rfl
  | cons c text ih =>
      cases blank : isBlank c with
      | true =>
          rw [squeeze, squeeze, if_pos blank, if_pos blank, Bool.true_or, if_pos rfl]
          split
          next => exact ih
          next => rw [afterBlanks_cons_of_isBlank blank, ih]
      | false => rw [squeeze_cons blank, squeeze_cons blank, afterBlanks_cons blank]

/-- Texts that are alike are alike with more blanks insignificant. -/
theorem squeeze_true_congr (same : squeeze free text' = squeeze free text) :
    squeeze true text' = squeeze true text :=
  calc squeeze true text'
      = afterBlanks (squeeze free text') := afterBlanks_squeeze.symm
    _ = afterBlanks (squeeze free text) := by rw [same]
    _ = squeeze true text := afterBlanks_squeeze

/-- A text without blanks at its start begins with a character that is no blank. -/
theorem isBlank_eq_false_of_starts (starts : afterBlanks (c :: text) = c :: text) :
    isBlank c = false := by
  simpa using List.dropWhile_eq_self_iff.mp starts (Nat.succ_pos _)

/-- A text without blanks at its start begins with the same character when it is squeezed. -/
theorem exists_cons_of_squeeze {squeezed : List Char} (starts : afterBlanks text = text)
    (same : squeeze free text = c :: squeezed) :
    ∃ rest, text = c :: rest ∧ squeeze (isPunctuation c) rest = squeezed := by
  cases text with
  | nil => cases same
  | cons x rest =>
      rw [squeeze_cons (isBlank_eq_false_of_starts starts)] at same
      obtain ⟨rfl, rfl⟩ := List.cons.inj same
      exact ⟨rest, rfl, rfl⟩

/-- Only blanks are squeezed to nothing. -/
theorem eq_nil_of_squeeze (starts : afterBlanks text = text) (same : squeeze free text = []) :
    text = [] := by
  cases text with
  | nil => rfl
  | cons c rest =>
      rw [squeeze_cons (isBlank_eq_false_of_starts starts)] at same
      cases same

/-! ### Solid characters -/

theorem isSolid_iff :
    isSolid c = true ↔ isBlank c = false ∧ isPunctuation c = false ∧ c ≠ '-' := by
  simp [isSolid, and_assoc]

/-- A character of a constant is solid. -/
theorem isSolid_of_isLiteralChar (isLiteral : d.isLiteralChar c) : isSolid c = true := by
  have other : c ∉ [' ', '\n', '\r', '\t', '(', ')', '+', '*', '/', '-'] :=
    Domain.not_mem_of_isLiteralChar isLiteral rfl
  simpa [isSolid, isBlank, isPunctuation, and_assoc] using other

/-- A letter or digit is solid. -/
theorem isSolid_of_isAlphanumeric (letter : isAlphanumeric c = true) : isSolid c = true := by
  have other : ∀ x ∈ [' ', '\n', '\r', '\t', '(', ')', '+', '*', '/', '-'], c ≠ x := by
    rintro x member rfl
    have none : [' ', '\n', '\r', '\t', '(', ')', '+', '*', '/', '-'].all
        (fun y => !isAlphanumeric y) = true := by decide
    simpa [letter] using List.all_eq_true.mp none c member
  simpa [isSolid, isBlank, isPunctuation, and_assoc] using other

/-- Punctuation and the minus are no blanks. -/
theorem isBlank_eq_false_of_symbol (symbol : (isPunctuation c || c == '-') = true) :
    isBlank c = false := by
  have member : c ∈ ['(', ')', '+', '*', '/', '-'] := by
    simpa [isPunctuation, or_assoc] using symbol
  have all : ['(', ')', '+', '*', '/', '-'].all (fun y => !isBlank y) = true := by decide
  simpa using List.all_eq_true.mp all c member

/-- Behind a symbol that does not detach from blanks, squeezing keeps whether a solid character of
some kind comes next. -/
theorem any_head?_squeeze {kind : Char → Bool} (solid : ∀ c, kind c = true → isSolid c = true)
    (text : List Char) : (squeeze false text).head?.any kind = text.head?.any kind := by
  have notKind : ∀ c, isSolid c = false → kind c = false := fun c notSolid =>
    Bool.eq_false_iff.mpr fun isKind => by simp [solid c isKind] at notSolid
  cases text with
  | nil => rfl
  | cons x text =>
      cases blank : isBlank x with
      | false => rw [squeeze_cons blank, List.head?_cons, List.head?_cons]
      | true =>
          have notKindHere : kind x = false := notKind x (by simp [isSolid, blank])
          rw [squeeze, if_pos blank]
          split
          next absorbs =>
            rw [← squeeze_afterBlanks absorbs, List.head?_cons, Option.any_some, notKindHere]
            rw [Bool.false_or] at absorbs
            cases next : afterBlanks text with
            | nil => rfl
            | cons y rest =>
                have symbol : (isPunctuation y || y == '-') = true := by rwa [next] at absorbs
                have notSolid : isSolid y = false := by
                  rw [isSolid, Bool.or_assoc, symbol, Bool.or_true, Bool.not_true]
                rw [squeeze_cons (isBlank_eq_false_of_symbol symbol), List.head?_cons,
                  Option.any_some, notKind y notSolid]
          next => rw [List.head?_cons, List.head?_cons]

/-- Behind a symbol that does not detach from blanks, a solid character is found where it was. -/
theorem exists_cons_of_squeeze_false {squeezed : List Char} (solid : isSolid c = true)
    (same : squeeze false text = c :: squeezed) :
    ∃ rest, text = c :: rest ∧ squeeze false rest = squeezed := by
  have head : text.head?.any (· == c) = true := by
    rw [← any_head?_squeeze (by simpa using solid), same]
    simp
  obtain ⟨notBlank, notPunctuation, -⟩ := isSolid_iff.mp solid
  cases text with
  | nil => cases same
  | cons x rest =>
      obtain rfl : x = c := by simpa using head
      rw [squeeze_cons notBlank, notPunctuation] at same
      exact ⟨rest, rfl, (List.cons.inj same).2⟩

/-- Behind a symbol that does not detach from blanks, a run of solid characters is found where it
was. -/
theorem exists_append_of_squeeze_false {run squeezed : List Char}
    (solid : ∀ c ∈ run, isSolid c = true) (same : squeeze false text = run ++ squeezed) :
    ∃ rest, text = run ++ rest ∧ squeeze false rest = squeezed := by
  induction run generalizing text with
  | nil => exact ⟨text, rfl, same⟩
  | cons c run ih =>
      obtain ⟨left, rfl, sameLeft⟩ := exists_cons_of_squeeze_false (solid c (.head _)) same
      obtain ⟨rest, rfl, sameRest⟩ := ih (fun c member => solid c (.tail _ member)) sameLeft
      exact ⟨rest, rfl, sameRest⟩

/-- Solid characters are kept. -/
theorem squeeze_false_append {run : List Char} (solid : ∀ c ∈ run, isSolid c = true)
    (text : List Char) : squeeze false (run ++ text) = run ++ squeeze false text := by
  induction run with
  | nil => rfl
  | cons c run ih =>
      obtain ⟨notBlank, notPunctuation, -⟩ := isSolid_iff.mp (solid c (.head _))
      rw [List.cons_append, squeeze_cons notBlank, notPunctuation,
        ih fun c member => solid c (.tail _ member), List.cons_append]

end Squeeze

/-! ### Symbols -/

section Symbols

variable {c : Char} {rest text : List Char}

/-- A symbol that does not detach from blanks, with solid characters behind it, is found at the
start of a text that is squeezed to the same text. -/
theorem exists_run_of_squeeze (run : List Char) (notBlank : isBlank c = false)
    (notPunctuation : isPunctuation c = false) (solid : ∀ c ∈ run, isSolid c = true)
    (starts : afterBlanks text = text)
    (same : squeeze true text = squeeze true (c :: (run ++ rest))) :
    ∃ rest', text = c :: (run ++ rest') ∧ squeeze false rest' = squeeze false rest := by
  rw [squeeze_cons notBlank, notPunctuation, squeeze_false_append solid] at same
  obtain ⟨left, rfl, sameLeft⟩ := exists_cons_of_squeeze starts same
  rw [notPunctuation] at sameLeft
  obtain ⟨rest', rfl, sameRest⟩ := exists_append_of_squeeze_false solid sameLeft
  exact ⟨rest', rfl, sameRest⟩

/-- Punctuation is found at the start of a text that is squeezed to the same text. -/
theorem exists_punctuation_of_squeeze (notBlank : isBlank c = false)
    (punctuation : isPunctuation c = true) (starts : afterBlanks text = text)
    (same : squeeze true text = squeeze true (c :: rest)) :
    ∃ rest', text = c :: rest' ∧ squeeze true rest' = squeeze true rest := by
  rw [squeeze_cons notBlank, punctuation] at same
  obtain ⟨rest', rfl, sameRest⟩ := exists_cons_of_squeeze starts same
  exact ⟨rest', rfl, punctuation ▸ sameRest⟩

/-- Where a word may end does not depend on insignificant blanks. -/
theorem endsWord_congr (same : squeeze false text = squeeze false rest) :
    endsWord text = endsWord rest := by
  rw [endsWord, endsWord, ← any_head?_squeeze fun _ => isSolid_of_isAlphanumeric, same,
    any_head?_squeeze fun _ => isSolid_of_isAlphanumeric]

/-- Where a constant starts does not depend on insignificant blanks. -/
theorem startsConstant_congr (d : Domain V) (same : squeeze false text = squeeze false rest) :
    d.startsConstant text = d.startsConstant rest := by
  rw [Domain.startsConstant, Domain.startsConstant,
    ← any_head?_squeeze fun _ => isSolid_of_isLiteralChar, same,
    any_head?_squeeze fun _ => isSolid_of_isLiteralChar]

/-- An operator on one operand is found in every text that is squeezed to the same text. -/
theorem UnarySymbol.respaced {op : UnaryOp} {text' : List Char}
    (symbol : UnarySymbol d op text rest) (starts : afterBlanks text' = text')
    (same : squeeze true text' = squeeze true text) :
    ∃ rest', UnarySymbol d op text' rest' ∧ squeeze true rest' = squeeze true rest := by
  cases symbol with
  | negate noSign =>
      obtain ⟨rest', rfl, sameRest⟩ :=
        exists_run_of_squeeze (c := '-') [] (by decide) (by decide) (by simp) starts same
      rw [← startsConstant_congr d sameRest] at noSign
      exact ⟨rest', .negate noSign, squeeze_true_congr sameRest⟩
  | abs ends =>
      obtain ⟨rest', rfl, sameRest⟩ :=
        exists_run_of_squeeze ['b', 's'] (by decide) (by decide)
          (by simp [isSolid, isBlank, isPunctuation]) starts same
      rw [← endsWord_congr sameRest] at ends
      exact ⟨rest', .abs ends, squeeze_true_congr sameRest⟩
  | square ends =>
      obtain ⟨rest', rfl, sameRest⟩ :=
        exists_run_of_squeeze ['q', 'u', 'a', 'r', 'e'] (by decide) (by decide)
          (by simp [isSolid, isBlank, isPunctuation]) starts same
      rw [← endsWord_congr sameRest] at ends
      exact ⟨rest', .square ends, squeeze_true_congr sameRest⟩

/-- An operator on two operands is found in every text that is squeezed to the same text. -/
theorem BinarySymbol.respaced {op : BinaryOp} {text' : List Char}
    (symbol : BinarySymbol op text rest) (starts : afterBlanks text' = text')
    (same : squeeze true text' = squeeze true text) :
    ∃ rest', BinarySymbol op text' rest' ∧ squeeze true rest' = squeeze true rest := by
  cases symbol with
  | add =>
      obtain ⟨rest', rfl, sameRest⟩ :=
        exists_punctuation_of_squeeze (by decide) (by decide) starts same
      exact ⟨rest', .add, sameRest⟩
  | subtract =>
      obtain ⟨rest', rfl, sameRest⟩ :=
        exists_run_of_squeeze (c := '-') [] (by decide) (by decide) (by simp) starts same
      exact ⟨rest', .subtract, squeeze_true_congr sameRest⟩
  | multiply =>
      obtain ⟨rest', rfl, sameRest⟩ :=
        exists_punctuation_of_squeeze (by decide) (by decide) starts same
      exact ⟨rest', .multiply, sameRest⟩
  | divide =>
      obtain ⟨rest', rfl, sameRest⟩ :=
        exists_punctuation_of_squeeze (by decide) (by decide) starts same
      exact ⟨rest', .divide, sameRest⟩
  | modulo ends =>
      obtain ⟨rest', rfl, sameRest⟩ :=
        exists_run_of_squeeze ['o', 'd'] (by decide) (by decide)
          (by simp [isSolid, isBlank, isPunctuation]) starts same
      rw [← endsWord_congr sameRest] at ends
      exact ⟨rest', .modulo ends, squeeze_true_congr sameRest⟩

end Symbols

/-! ### Phrases -/

/-- What is said of a phrase of each category: it is found in every text that is squeezed to the
same text.  A bare operand is found where no blanks come first, and what it leaves of the blanks
behind it is open; the other phrases take the blanks on both sides. -/
def Respaced (d : Domain V) :
    Category → List Char → Expr V → Nat → List Char → Prop
  | .bare, text, e, n, rest =>
      ∀ text', afterBlanks text' = text' → squeeze true text' = squeeze true text →
        ∃ rest', Derives d .bare text' e n rest' ∧ squeeze true rest' = squeeze true rest
  | category, text, e, n, rest =>
      ∀ text', squeeze true text' = squeeze true text →
        ∃ rest', Derives d category text' e n rest' ∧ afterBlanks rest' = rest' ∧
          squeeze true rest' = squeeze true rest

namespace Respaced

variable {text mid next rest : List Char} {e left right : Expr V} {n m : Nat}

theorem expression_of_term (first : Respaced d .term text e n rest) :
    Respaced d .expression text e n rest := by
  intro text' same
  obtain ⟨rest', derivation, found⟩ := first text' same
  exact ⟨rest', .term derivation, found⟩

theorem term_of_operand (first : Respaced d .operand text e n rest) :
    Respaced d .term text e n rest := by
  intro text' same
  obtain ⟨rest', derivation, found⟩ := first text' same
  exact ⟨rest', .operand derivation, found⟩

theorem sum {op : BinaryOp} (first : Respaced d .expression text left n mid)
    (symbol : BinarySymbol op mid next) (isSum : op.rank = 1)
    (last : Respaced d .term next right m rest) :
    Respaced d .expression text (.binary op left right) (max n m) rest := by
  intro text' same
  obtain ⟨mid', derivation, starts, sameMid⟩ := first text' same
  obtain ⟨next', symbol', sameNext⟩ := symbol.respaced starts sameMid
  obtain ⟨rest', derivation', found⟩ := last next' sameNext
  exact ⟨rest', .sum derivation symbol' isSum derivation', found⟩

theorem product {op : BinaryOp} (first : Respaced d .term text left n mid)
    (symbol : BinarySymbol op mid next) (isProduct : op.rank = 2)
    (last : Respaced d .operand next right m rest) :
    Respaced d .term text (.binary op left right) (max n m) rest := by
  intro text' same
  obtain ⟨mid', derivation, starts, sameMid⟩ := first text' same
  obtain ⟨next', symbol', sameNext⟩ := symbol.respaced starts sameMid
  obtain ⟨rest', derivation', found⟩ := last next' sameNext
  exact ⟨rest', .product derivation symbol' isProduct derivation', found⟩

/-- An operand takes all blanks around it. -/
theorem blanks {before after : List Char} (blanksBefore : ∀ c ∈ before, isBlank c)
    (blanksAfter : ∀ c ∈ after, isBlank c) (inner : Respaced d .bare text e n (after ++ rest)) :
    Respaced d .operand (before ++ text) e n rest := by
  intro text' same
  rw [squeeze_append blanksBefore rfl, ← squeeze_afterBlanks rfl] at same
  obtain ⟨left, derivation, sameLeft⟩ := inner _ (afterBlanks_afterBlanks text') same
  rw [squeeze_append blanksAfter rfl, ← squeeze_afterBlanks rfl] at sameLeft
  obtain ⟨before', blanksBefore', split⟩ := exists_blanks_append_afterBlanks text'
  obtain ⟨after', blanksAfter', splitLeft⟩ := exists_blanks_append_afterBlanks left
  rw [splitLeft] at derivation
  rw [split]
  exact ⟨afterBlanks left, .blanks blanksBefore' derivation blanksAfter',
    afterBlanks_afterBlanks left, sameLeft⟩

theorem constant {sign digits : List Char} {value : V} (isSign : sign = [] ∨ sign = ['-'])
    (nonempty : digits ≠ []) (areDigits : ∀ c ∈ digits, d.isLiteralChar c)
    (longest : d.startsConstant rest = false) (denotes : d.read? (sign ++ digits) = some value) :
    Respaced d .bare (sign ++ digits ++ rest) (.const value) 1 rest := by
  intro text' starts same
  obtain ⟨rest', rfl, sameRest⟩ : ∃ rest', text' = sign ++ digits ++ rest' ∧
      squeeze false rest' = squeeze false rest := by
    have solid : ∀ c ∈ digits, isSolid c = true := fun c member =>
      isSolid_of_isLiteralChar (areDigits c member)
    rcases isSign with rfl | rfl
    · obtain ⟨first, others, rfl⟩ := List.exists_cons_of_ne_nil nonempty
      obtain ⟨notBlank, notPunctuation, -⟩ := isSolid_iff.mp (solid first (.head _))
      exact exists_run_of_squeeze others notBlank notPunctuation
        (fun c member => solid c (.tail _ member)) starts same
    · exact exists_run_of_squeeze digits (by decide) (by decide) solid starts same
  rw [← startsConstant_congr d sameRest] at longest
  exact ⟨rest', .constant isSign nonempty areDigits longest denotes, squeeze_true_congr sameRest⟩

theorem letter {v : Variable} (ends : endsWord rest = true) :
    Respaced d .bare (v.letter :: rest) (.var v) 1 rest := by
  intro text' starts same
  obtain ⟨rest', rfl, sameRest⟩ := exists_run_of_squeeze (c := v.letter) []
    (by cases v <;> decide) (by cases v <;> decide) (by simp) starts same
  rw [← endsWord_congr sameRest] at ends
  exact ⟨rest', .letter ends, squeeze_true_congr sameRest⟩

/-- What stands in front of an operand takes none of the blanks behind it. -/
theorem unary {op : UnaryOp} (symbol : UnarySymbol d op text next)
    (inner : Respaced d .operand next e n rest) :
    Respaced d .bare text (.unary op e) (n + 1) rest := by
  intro text' starts same
  obtain ⟨next', symbol', sameNext⟩ := symbol.respaced starts same
  obtain ⟨rest', derivation, -, sameRest⟩ := inner next' sameNext
  exact ⟨rest', .unary symbol' derivation, sameRest⟩

theorem brackets (inner : Respaced d .expression text e n (')' :: rest)) :
    Respaced d .bare ('(' :: text) e (n + 1) rest := by
  intro text' starts same
  obtain ⟨opened, rfl, sameOpened⟩ :=
    exists_punctuation_of_squeeze (by decide) (by decide) starts same
  obtain ⟨closing, derivation, startsClosing, sameClosing⟩ := inner opened sameOpened
  obtain ⟨rest', rfl, sameRest⟩ :=
    exists_punctuation_of_squeeze (by decide) (by decide) startsClosing sameClosing
  exact ⟨rest', .brackets derivation, sameRest⟩

end Respaced

/-- **Phrases do not depend on insignificant blanks**: they are found, with the same tree and the
same nesting, in every text that is squeezed to the same text. -/
theorem Derives.respaced {category : Category} {text rest : List Char} {e : Expr V} {n : Nat}
    (derivation : Derives d category text e n rest) : Respaced d category text e n rest := by
  induction derivation with
  | term _ ih => exact ih.expression_of_term
  | sum _ symbol isSum _ ihFirst ihLast => exact ihFirst.sum symbol isSum ihLast
  | operand _ ih => exact ih.term_of_operand
  | product _ symbol isProduct _ ihFirst ihLast => exact ihFirst.product symbol isProduct ihLast
  | blanks blanksBefore _ blanksAfter ih => exact .blanks blanksBefore blanksAfter ih
  | constant isSign nonempty areDigits longest denotes =>
      exact .constant isSign nonempty areDigits longest denotes
  | letter ends => exact .letter ends
  | unary symbol _ ih => exact .unary symbol ih
  | brackets _ ih => exact .brackets ih

/-! ### Gaps -/

/-- Whether blanks behind a text are insignificant for what stands before them.  The flag tells
whether they are at its start; other blanks between make no difference. -/
def isFreeBehind (free : Bool) (text : List Char) : Bool :=
  text.foldl (fun free c => if isBlank c then free else isPunctuation c) free

/-- A place of a text where blanks are insignificant: at its start, at its end, on either side of
punctuation, or in front of a minus. -/
def InsignificantGap (before after : List Char) : Prop :=
  before = [] ∨ after = [] ∨ (∃ c ∈ before.getLast?, isPunctuation c = true) ∨
    ∃ c ∈ after.head?, isPunctuation c = true ∨ c = '-'

section Gaps

variable {free : Bool} {before blanks after : List Char}

/-- Blanks that are put in make no difference to what comes behind the blanks around them. -/
theorem absorbsBlanks_insert (areBlanks : ∀ c ∈ blanks, isBlank c) :
    absorbsBlanks (afterBlanks (before ++ (blanks ++ after))) =
      absorbsBlanks (afterBlanks (before ++ after)) := by
  induction before with
  | nil => rw [List.nil_append, List.nil_append, afterBlanks_append areBlanks]
  | cons c before ih =>
      rw [List.cons_append, List.cons_append]
      cases blank : isBlank c with
      | true => rw [afterBlanks_cons_of_isBlank blank, afterBlanks_cons_of_isBlank blank, ih]
      | false =>
          rw [afterBlanks_cons blank, afterBlanks_cons blank]
          rfl

/-- Blanks are squeezed away where what stands before or behind them makes them insignificant. -/
theorem squeeze_insert (areBlanks : ∀ c ∈ blanks, isBlank c)
    (insignificant : (isFreeBehind free before || absorbsBlanks (afterBlanks after)) = true) :
    squeeze free (before ++ (blanks ++ after)) = squeeze free (before ++ after) := by
  induction before generalizing free with
  | nil => exact squeeze_append areBlanks insignificant
  | cons c before ih =>
      rw [isFreeBehind, List.foldl_cons, ← isFreeBehind] at insignificant
      rw [List.cons_append, List.cons_append]
      cases blank : isBlank c with
      | true =>
          rw [if_pos blank] at insignificant
          rw [squeeze, squeeze, if_pos blank, if_pos blank, absorbsBlanks_insert areBlanks,
            ih insignificant]
      | false =>
          rw [if_neg (by simp [blank])] at insignificant
          rw [squeeze_cons blank, squeeze_cons blank, ih insignificant]

/-- The places where blanks are insignificant are seen from the symbols next to them. -/
theorem InsignificantGap.insignificant (gap : InsignificantGap before after) :
    (isFreeBehind true before || absorbsBlanks (afterBlanks after)) = true := by
  rw [Bool.or_eq_true]
  rcases gap with rfl | rfl | ⟨c, last, punctuation⟩ | ⟨c, next, symbol⟩
  · exact .inl rfl
  · exact .inr rfl
  · obtain ⟨front, rfl⟩ := List.getLast?_eq_some_iff.mp last
    have notBlank := isBlank_eq_false_of_symbol (c := c) (by rw [punctuation, Bool.true_or])
    left
    simp [isFreeBehind, List.foldl_append, notBlank, punctuation]
  · obtain ⟨rest, rfl⟩ := List.head?_eq_some_iff.mp next
    have absorbs : (isPunctuation c || c == '-') = true := by simpa using symbol
    right
    rwa [afterBlanks_cons (isBlank_eq_false_of_symbol absorbs)]

end Gaps

/-! ### Whole texts -/

section Texts

variable {e : Expr V}

/-- A text of which the grammar derives a tree within the nesting that is allowed is read as this
tree. -/
theorem Derives.parse_eq_ok {text : String} {n : Nat}
    (derivation : Derives d .expression text.toList e n []) (fits : n ≤ maxNesting) :
    parse d text = .ok e := by
  have reading := derivation.parseWithin_eq maxNesting (Nat.le_refl _)
  rwa [if_pos fits] at reading

/-- Texts that are squeezed to the same text are read as the same tree. -/
theorem parse_eq_ok_of_squeeze {text text' : String}
    (same : squeeze true text'.toList = squeeze true text.toList) (read : parse d text = .ok e) :
    parse d text' = .ok e := by
  obtain ⟨n, fits, derivation⟩ := derives_of_parseWithin read
  obtain ⟨rest, derivation', starts, sameRest⟩ := derivation.respaced text'.toList same
  rw [eq_nil_of_squeeze starts sameRest] at derivation'
  exact derivation'.parse_eq_ok fits

/-- A bare operand is an expression. -/
theorem Derives.expression_of_bare {text : List Char} {n : Nat}
    (bare : Derives d .bare text e n []) : Derives d .expression text e n [] := by
  have none : ∀ c ∈ ([] : List Char), isBlank c := by simp
  exact .term (.operand (.blanks none bare none))

/-- Directly behind a minus a run of digits is the constant with this sign. -/
theorem parse_signed {text : String} {digits : List Char} {value : V}
    (split : text.toList = '-' :: digits) (nonempty : digits ≠ [])
    (areDigits : ∀ c ∈ digits, d.isLiteralChar c) (denotes : d.read? ('-' :: digits) = some value) :
    parse d text = .ok (.const value) := by
  have bare : Derives d .bare (['-'] ++ digits ++ []) (.const value) 1 [] :=
    .constant (.inr rfl) nonempty areDigits rfl denotes
  refine Derives.parse_eq_ok (n := 1) ?_ (by decide)
  rw [split]
  simpa using bare.expression_of_bare

/-- With blanks behind the minus it is the negation of the constant without a sign. -/
theorem parse_negated {text : String} {blanks digits : List Char} {value : V}
    (split : text.toList = '-' :: (blanks ++ digits)) (areBlanks : ∀ c ∈ blanks, isBlank c)
    (separated : blanks ≠ []) (nonempty : digits ≠ [])
    (areDigits : ∀ c ∈ digits, d.isLiteralChar c) (denotes : d.read? digits = some value) :
    parse d text = .ok (.unary .negate (.const value)) := by
  have constant : Derives d .bare ([] ++ digits ++ []) (.const value) 1 ([] ++ []) :=
    .constant (.inl rfl) nonempty areDigits rfl denotes
  rw [List.nil_append, List.append_nil] at constant
  have operand : Derives d .operand (blanks ++ digits) (.const value) 1 [] :=
    .blanks areBlanks constant (by simp)
  have noSign : d.startsConstant (blanks ++ digits) = false := by
    obtain ⟨first, others, rfl⟩ := List.exists_cons_of_ne_nil separated
    rw [List.cons_append, Domain.startsConstant_cons]
    refine Bool.eq_false_iff.mpr fun isLiteral => ?_
    have := Domain.isBlank_of_isLiteralChar isLiteral
    rw [areBlanks first (.head _)] at this
    cases this
  refine Derives.parse_eq_ok (n := 2) ?_ (by decide)
  rw [split]
  exact (Derives.unary (.negate noSign) operand).expression_of_bare

/-- **Blanks around punctuation are insignificant.**  Blanks that are put in at the start or the end
of a text, on either side of punctuation or in front of a minus make no difference to whether the
text is read and to the tree it is read as.  Behind a minus they do: they tell a negated constant
from a constant with a sign. -/
theorem parse_insert_blanks (d : Domain V) {blanks : String}
    (areBlanks : ∀ c ∈ blanks.toList, isBlank c) :
    (∀ before after : String, InsignificantGap before.toList after.toList → ∀ e,
      parse d (before ++ blanks ++ after) = .ok e ↔ parse d (before ++ after) = .ok e) ∧
      ∀ digits : String, digits ≠ "" → (∀ c ∈ digits.toList, d.isLiteralChar c) → blanks ≠ "" →
        ∀ signed unsigned, d.read? ("-" ++ digits).toList = some signed →
          d.read? digits.toList = some unsigned →
          parse d ("-" ++ digits) = .ok (.const signed) ∧
            parse d ("-" ++ blanks ++ digits) = .ok (.unary .negate (.const unsigned)) := by
  constructor
  · intro before after gap e
    have same : squeeze true (before ++ blanks ++ after).toList =
        squeeze true (before ++ after).toList := by
      rw [String.toList_append, String.toList_append, String.toList_append, List.append_assoc]
      exact squeeze_insert areBlanks gap.insignificant
    exact ⟨parse_eq_ok_of_squeeze same.symm, parse_eq_ok_of_squeeze same⟩
  · intro digits nonempty areDigits separated signed unsigned denotes denotesUnsigned
    have nonempty' : digits.toList ≠ [] := by simpa using nonempty
    have separated' : blanks.toList ≠ [] := by simpa using separated
    rw [String.toList_append] at denotes
    exact ⟨parse_signed (by rw [String.toList_append]; rfl) nonempty' areDigits denotes,
      parse_negated (by rw [String.toList_append, String.toList_append]; rfl) areBlanks separated'
        nonempty' areDigits denotesUnsigned⟩

/-- Blanks of every kind, in front of a minus that is the sign of a constant. -/
theorem parse_insert_blanks_before_sign :
    (∀ c ∈ " \t\r\n".toList, isBlank c) ∧ InsignificantGap "x mod(y-".toList "-5)".toList ∧
      parse checkedInt ("x mod(y-" ++ " \t\r\n" ++ "-5)") =
        .ok (.binary .modulo (.var .x) (.binary .subtract (.var .y) (.const (-5)))) := by
  have areBlanks : ∀ c ∈ " \t\r\n".toList, isBlank c := by simp [isBlank]
  have gap : InsignificantGap "x mod(y-".toList "-5)".toList :=
    .inr (.inr (.inr ⟨'-', rfl, .inr rfl⟩))
  exact ⟨areBlanks, gap, ((parse_insert_blanks checkedInt areBlanks).1 _ _ gap _).mpr rfl⟩

end Texts

end Formula
