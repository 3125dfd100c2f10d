import Formula.Proofs.Grammar.Rank

/-!
# Phrases with another continuation

Whether a text starts with a phrase depends very little on what stands behind the phrase: a word
must end there, and so must a run of digits.  With another text behind it that continues neither,
the phrase is still one, with the same tree.  A phrase is therefore a part of the text that can be
cut out and put in front of another one, and its brackets are closed inside it.

## Main definitions

* `Replaces` — texts that may stand in the place of another one behind a phrase
* `Opens` — how many brackets a text leaves open
* `Portable` — parts of a text that can be put in front of other texts

## Main statements

* `Derives.portable` — phrases can be put in front of other texts
-/

namespace Formula

variable {V : Type} {d : Domain V}

/-! ### Other texts behind a phrase -/

/-- A text may stand in the place of another one: it continues neither a word nor a constant that
the other one does not continue. -/
structure Replaces (d : Domain V) (rest rest' : List Char) : Prop where
  endsWord : endsWord rest = true → endsWord rest' = true
  endsConstant : d.startsConstant rest = false → d.startsConstant rest' = false

namespace Replaces

variable {rest rest' : List Char}

/-- What is looked at is the first character only. -/
theorem of_head (same : rest'.head? = rest.head?) : Replaces d rest rest' where
  endsWord ends := by rwa [Formula.endsWord, same]
  endsConstant ends := by rwa [Domain.startsConstant, same]

/-- Behind a common text the first characters agree, unless that text is empty. -/
theorem append (front : List Char) (replaces : Replaces d rest rest') :
    Replaces d (front ++ rest) (front ++ rest') := by
  cases front with
  | nil => exact replaces
  | cons x front => exact of_head rfl

end Replaces

/-- A text that continues nothing may stand in any place. -/
theorem Detached.replaces {rest' : List Char} (detached : Detached d rest') (rest : List Char) :
    Replaces d rest rest' :=
  ⟨fun _ => detached.endsWord, fun _ => detached.endsConstant⟩

/-! ### Brackets in a text -/

/-- A text leaves a number of brackets open. -/
def Opens (text : List Char) (brackets : Nat) : Prop :=
  text.count '(' = text.count ')' + brackets

namespace Opens

variable {text text' : List Char} {m n : Nat}

/-- What two texts leave open adds up. -/
theorem append (first : Opens text m) (last : Opens text' n) : Opens (text ++ text') (m + n) := by
  simp only [Opens, List.count_append] at first last ⊢
  omega

/-- Balanced texts in a row are balanced. -/
theorem append_zero (first : Opens text 0) (last : Opens text' n) : Opens (text ++ text') n := by
  simpa using first.append last

/-- An opening bracket leaves one more bracket open. -/
theorem opening (inner : Opens text n) : Opens ('(' :: text) (n + 1) := by
  simp only [Opens, List.count_cons] at inner ⊢
  simp
  omega

/-- A text without brackets leaves none open. -/
theorem of_not_mem (noOpening : '(' ∉ text) (noClosing : ')' ∉ text) : Opens text 0 := by
  rw [Opens, List.count_eq_zero_of_not_mem noOpening, List.count_eq_zero_of_not_mem noClosing]

/-- Blanks are no brackets. -/
theorem blanks (areBlanks : ∀ c ∈ text, isBlank c) : Opens text 0 :=
  of_not_mem (fun member => by simpa [isBlank] using areBlanks _ member)
    fun member => by simpa [isBlank] using areBlanks _ member

/-- The characters of a constant are no brackets. -/
theorem digits (areDigits : ∀ c ∈ text, d.isLiteralChar c) : Opens text 0 := by
  have other : ∀ c ∈ text, c ∉ ['(', ')'] := fun c member =>
    Domain.not_mem_of_isLiteralChar (areDigits c member) rfl
  exact of_not_mem (fun member => other _ member (by simp)) fun member => other _ member (by simp)

end Opens

/-! ### Parts of a text that can be moved -/

/-- The part of a text before a rest can be put in front of other texts.  What is said of a text
and its rest, of the text and where it goes on, then holds there as well.  All brackets of the part
are closed in it. -/
def Portable (d : Domain V) (starts : List Char → List Char → Prop) (text rest : List Char) :
    Prop :=
  ∃ part, text = part ++ rest ∧ Opens part 0 ∧
    ∀ rest', Replaces d rest rest' → starts (part ++ rest') rest'

namespace Portable

variable {starts starts' : List Char → List Char → Prop} {text mid rest : List Char}

theorem mono (portable : Portable d starts text rest)
    (follows : ∀ text rest, starts text rest → starts' text rest) :
    Portable d starts' text rest := by
  obtain ⟨part, split, balanced, moved⟩ := portable
  exact ⟨part, split, balanced, fun rest' replaces => follows _ _ (moved rest' replaces)⟩

/-- Two parts in a row can be moved together. -/
theorem andThen (first : Portable d starts text mid) (last : Portable d starts' mid rest) :
    Portable d (fun text rest => ∃ mid, starts text mid ∧ starts' mid rest) text rest := by
  obtain ⟨part, rfl, balanced, moved⟩ := first
  obtain ⟨part', rfl, balanced', moved'⟩ := last
  refine ⟨part ++ part', (List.append_assoc ..).symm, balanced.append_zero balanced',
    fun rest' replaces => ⟨part' ++ rest', ?_, moved' rest' replaces⟩⟩
  rw [List.append_assoc]
  exact moved _ (replaces.append part')

/-- A part that is known by its characters alone. -/
theorem exactly {part : List Char} (balanced : Opens part 0) (rest : List Char) :
    Portable d (fun text rest => text = part ++ rest) (part ++ rest) rest :=
  ⟨part, rfl, balanced, fun _ _ => rfl⟩

/-- A part can be moved together with brackets around it. -/
theorem bracketed (inner : Portable d starts text (')' :: rest)) :
    Portable d (fun text rest => ∃ inner, text = '(' :: inner ∧ starts inner (')' :: rest))
      ('(' :: text) rest := by
  obtain ⟨part, rfl, balanced, moved⟩ := inner
  refine ⟨'(' :: (part ++ [')']), by simp, ?_, fun rest' replaces => ?_⟩
  · simp only [Opens, List.count_cons, List.count_append] at balanced ⊢
    simp [balanced]
  · exact ⟨part ++ ')' :: rest', by simp, moved (')' :: rest') (.of_head rfl)⟩

end Portable

/-! ### Symbols -/

/-- An operator on one operand can be moved. -/
theorem UnarySymbol.portable {op : UnaryOp} {text rest : List Char}
    (symbol : UnarySymbol d op text rest) : Portable d (UnarySymbol d op) text rest := by
  cases symbol with
  | negate noSign =>
      exact ⟨['-'], rfl, rfl, fun _ replaces => .negate (replaces.endsConstant noSign)⟩
  | abs ends => exact ⟨['a', 'b', 's'], rfl, rfl, fun _ replaces => .abs (replaces.endsWord ends)⟩
  | square ends =>
      exact ⟨['s', 'q', 'u', 'a', 'r', 'e'], rfl, rfl,
        fun _ replaces => .square (replaces.endsWord ends)⟩

/-- An operator on two operands can be moved. -/
theorem BinarySymbol.portable (d : Domain V) {op : BinaryOp} {text rest : List Char}
    (symbol : BinarySymbol op text rest) : Portable d (BinarySymbol op) text rest := by
  cases symbol with
  | add => exact ⟨['+'], rfl, rfl, fun _ _ => .add⟩
  | subtract => exact ⟨['-'], rfl, rfl, fun _ _ => .subtract⟩
  | multiply => exact ⟨['*'], rfl, rfl, fun _ _ => .multiply⟩
  | divide => exact ⟨['/'], rfl, rfl, fun _ _ => .divide⟩
  | modulo ends =>
      exact ⟨['m', 'o', 'd'], rfl, rfl, fun _ replaces => .modulo (replaces.endsWord ends)⟩

/-! ### Phrases -/

/-- **A phrase can be moved**: in front of another text it is still a phrase with the same tree and
the same nesting. -/
theorem Derives.portable {category : Category} {text rest : List Char} {e : Expr V} {n : Nat}
    (derivation : Derives d category text e n rest) :
    Portable d (fun text rest => Derives d category text e n rest) text rest := by
  induction derivation with
  | term _ ih => exact ih.mono fun _ _ => .term
  | operand _ ih => exact ih.mono fun _ _ => .operand
  | sum _ symbol isSum _ ihFirst ihLast =>
      refine ((ihFirst.andThen (symbol.portable d)).andThen ihLast).mono ?_
      rintro _ _ ⟨_, ⟨_, first, symbol⟩, last⟩
      exact .sum first symbol isSum last
  | product _ symbol isProduct _ ihFirst ihLast =>
      refine ((ihFirst.andThen (symbol.portable d)).andThen ihLast).mono ?_
      rintro _ _ ⟨_, ⟨_, first, symbol⟩, last⟩
      exact .product first symbol isProduct last
  | blanks blanksBefore _ blanksAfter ih =>
      have before := Portable.exactly (d := d) (.blanks blanksBefore)
      have after := Portable.exactly (d := d) (.blanks blanksAfter)
      refine ((before _).andThen (ih.andThen (after _))).mono ?_
      rintro _ _ ⟨_, rfl, _, inner, rfl⟩
      exact .blanks blanksBefore inner blanksAfter
  | @constant sign digits _ _ isSign nonempty areDigits longest denotes =>
      have balancedSign : Opens sign 0 := by rcases isSign with rfl | rfl <;> rfl
      exact ⟨sign ++ digits, rfl, balancedSign.append_zero (.digits areDigits),
        fun rest' replaces =>
          .constant isSign nonempty areDigits (replaces.endsConstant longest) denotes⟩
  | @letter v _ ends =>
      have balanced : Opens [v.letter] 0 := by cases v <;> rfl
      exact ⟨[v.letter], rfl, balanced, fun rest' replaces => .letter (replaces.endsWord ends)⟩
  | unary symbol _ ih =>
      refine (symbol.portable.andThen ih).mono ?_
      rintro _ _ ⟨_, symbol, inner⟩
      exact .unary symbol inner
  | brackets _ ih =>
      refine ih.bracketed.mono ?_
      rintro _ _ ⟨_, rfl, inner⟩
      exact .brackets inner

end Formula
