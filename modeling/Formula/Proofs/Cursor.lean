import Formula.Cursor
import Mathlib.Data.List.TakeWhile

/-!
# Cursors over their text

A function that moves a cursor is known by what it does to the text still to come.  The lemmas
below state that for each of them, so that nothing later opens the functions themselves.

## Main definitions

* `afterBlanks` — a text without the blanks it starts with
* `Cursor.Reaches` — places of one text, the one before the other
* `Cursor.extent` — how long the whole text of a cursor is

## Main statements

* `Cursor.accept?_eq_some_iff`, `Cursor.acceptWord?_eq_some_iff` — what is accepted, and what is
  left
* `Cursor.takeWhile_eq_of_rest` — a run ends where a character of another kind follows
* `Cursor.exists_blanks_skipBlanks` — what is skipped is a run of blanks
* `Cursor.reaches_of_accept?`, `Cursor.reaches_of_acceptWord?`, `Cursor.reaches_of_takeWhile` —
  moving stays in one text
-/

namespace Formula

/-- A text without the blanks that it starts with. -/
def afterBlanks (text : List Char) : List Char := text.dropWhile isBlank

/-! ### Blanks -/

@[simp] theorem afterBlanks_nil : afterBlanks [] = [] := rfl

/-- Blanks in front of a text make no difference to what comes after the blanks. -/
theorem afterBlanks_append {blanks : List Char} (areBlanks : ∀ c ∈ blanks, isBlank c)
    (text : List Char) : afterBlanks (blanks ++ text) = afterBlanks text :=
  List.dropWhile_append_of_pos areBlanks

/-- A text that starts with another character starts with no blanks. -/
theorem afterBlanks_cons {c : Char} (notBlank : isBlank c = false) (text : List Char) :
    afterBlanks (c :: text) = c :: text := by
  rw [afterBlanks, List.dropWhile_cons_of_neg (by simp [notBlank])]

/-- A text is a run of blanks and what comes after them. -/
theorem exists_blanks_append_afterBlanks (text : List Char) :
    ∃ blanks, (∀ c ∈ blanks, isBlank c) ∧ text = blanks ++ afterBlanks text :=
  ⟨text.takeWhile isBlank, fun _ member => List.mem_takeWhile_imp member,
    List.takeWhile_append_dropWhile.symm⟩

@[simp] theorem afterBlanks_afterBlanks (text : List Char) :
    afterBlanks (afterBlanks text) = afterBlanks text := by
  obtain ⟨blanks, areBlanks, split⟩ := exists_blanks_append_afterBlanks text
  calc afterBlanks (afterBlanks text)
      = afterBlanks (blanks ++ afterBlanks text) := (afterBlanks_append areBlanks _).symm
    _ = afterBlanks text := by rw [← split]

namespace Cursor

variable {c after : Cursor} {rest : List Char}

@[simp] theorem peek?_eq (c : Cursor) : c.peek? = c.rest.head? := rfl

/-! ### Single characters -/

/-- A character is accepted exactly where it comes next, and only it is passed. -/
theorem accept?_eq_some_iff {expected : Char} :
    c.accept? expected = some after ↔
      c.rest = expected :: after.rest ∧ after.consumed = c.consumed + 1 := by
  unfold accept?
  split
  next next rest split =>
    rw [split]
    by_cases same : next = expected
    · subst same
      rw [if_pos rfl, Option.some.injEq]
      constructor
      · rintro rfl
        exact ⟨rfl, rfl⟩
      · rintro ⟨restEq, consumedEq⟩
        cases after
        simp_all
    · rw [if_neg same]
      simp [same]
  next empty => simp [empty]

/-- Accepting the character that comes next. -/
theorem accept?_of_rest {expected : Char} (comes : c.rest = expected :: rest) :
    c.accept? expected = some ⟨c.consumed + 1, rest⟩ :=
  accept?_eq_some_iff.mpr ⟨comes, rfl⟩

/-- A character is not accepted where another one or none comes next. -/
theorem accept?_eq_none {expected : Char} (other : c.rest.head? ≠ some expected) :
    c.accept? expected = none := by
  rw [Option.eq_none_iff_forall_ne_some]
  intro after accepted
  rw [(accept?_eq_some_iff.mp accepted).1] at other
  exact other rfl

/-! ### Words -/

/-- A word is accepted exactly where it comes next and ends, and only it is passed. -/
theorem acceptWord?_eq_some_iff {word : List Char} :
    c.acceptWord? word = some after ↔
      c.rest = word ++ after.rest ∧ endsWord after.rest = true ∧
        after.consumed = c.consumed + word.length := by
  unfold acceptWord?
  rw [Option.ite_none_right_eq_some, Bool.and_eq_true, List.isPrefixOf_iff_prefix,
    Option.some.injEq, advance]
  constructor
  · rintro ⟨⟨⟨rest, split⟩, ends⟩, rfl⟩
    rw [← split, List.drop_left] at ends ⊢
    exact ⟨rfl, ends, rfl⟩
  · rintro ⟨split, ends, passed⟩
    rw [split, List.drop_left]
    refine ⟨⟨List.prefix_append _ _, ends⟩, ?_⟩
    cases after
    simp_all

/-- Accepting the word that comes next and ends. -/
theorem acceptWord?_of_rest (word : List Char) (comes : c.rest = word ++ rest)
    (ends : endsWord rest = true) :
    c.acceptWord? word = some ⟨c.consumed + word.length, rest⟩ :=
  acceptWord?_eq_some_iff.mpr ⟨comes, ends, rfl⟩

/-- A word is not accepted where another character than its first or none comes next. -/
theorem acceptWord?_eq_none {first : Char} {others : List Char}
    (other : c.rest.head? ≠ some first) : c.acceptWord? (first :: others) = none := by
  rw [Option.eq_none_iff_forall_ne_some]
  intro after accepted
  rw [(acceptWord?_eq_some_iff.mp accepted).1] at other
  exact other rfl

/-! ### Runs -/

/-- The characters of a run are of its kind, and they and what is left make up the text. -/
theorem takeWhile_eq_some {p : Char → Bool} {run : List Char}
    (taken : c.takeWhile p = (run, after)) :
    c.rest = run ++ after.rest ∧ (∀ x ∈ run, p x) ∧ after.rest.head?.any p = false := by
  obtain ⟨rfl, rfl⟩ := Prod.mk.inj taken
  have left : (c.advance (c.rest.takeWhile p).length).rest = c.rest.dropWhile p :=
    calc c.rest.drop (c.rest.takeWhile p).length
        = (c.rest.takeWhile p ++ c.rest.dropWhile p).drop (c.rest.takeWhile p).length := by
          rw [List.takeWhile_append_dropWhile]
      _ = c.rest.dropWhile p := List.drop_left
  rw [left]
  refine ⟨List.takeWhile_append_dropWhile.symm, fun _ member => List.mem_takeWhile_imp member, ?_⟩
  have stop := List.head?_dropWhile_not p c.rest
  cases head : (c.rest.dropWhile p).head? with
  | none => rfl
  | some x => simpa [head] using stop

/-- A run takes all characters of its kind up to one of another kind or the end. -/
theorem takeWhile_eq_of_rest {p : Char → Bool} {run : List Char} (comes : c.rest = run ++ rest)
    (ofKind : ∀ x ∈ run, p x) (stop : rest.head?.any p = false) :
    c.takeWhile p = (run, ⟨c.consumed + run.length, rest⟩) := by
  have taken : c.rest.takeWhile p = run := by
    rw [comes, List.takeWhile_append_of_pos ofKind]
    cases rest with
    | nil => simp
    | cons x _ => rw [List.takeWhile_cons_of_neg (by simpa using stop), List.append_nil]
  rw [takeWhile, taken, advance, comes, List.drop_left]

@[simp] theorem rest_skipBlanks (c : Cursor) : c.skipBlanks.rest = afterBlanks c.rest := by
  obtain ⟨split, areBlanks, stop⟩ :=
    takeWhile_eq_some (show c.takeWhile isBlank = (_, c.skipBlanks) from rfl)
  rw [split, afterBlanks_append areBlanks]
  cases head : c.skipBlanks.rest with
  | nil => rfl
  | cons x rest =>
      rw [head] at stop
      rw [afterBlanks_cons (by simpa using stop)]

/-- What is skipped is a run of blanks. -/
theorem exists_blanks_skipBlanks (c : Cursor) :
    ∃ blanks, (∀ x ∈ blanks, isBlank x) ∧ c.rest = blanks ++ c.skipBlanks.rest := by
  rw [rest_skipBlanks]
  exact exists_blanks_append_afterBlanks c.rest

/-! ### Places of one text -/

/-- A place is reached from another one by passing the characters between them. -/
def Reaches (c after : Cursor) : Prop :=
  ∃ passed, c.rest = passed ++ after.rest ∧ after.consumed = c.consumed + passed.length

theorem Reaches.refl (c : Cursor) : c.Reaches c :=
  ⟨[], rfl, rfl⟩

theorem Reaches.trans {mid : Cursor} (first : c.Reaches mid) (last : mid.Reaches after) :
    c.Reaches after := by
  obtain ⟨passed, split, consumed⟩ := first
  obtain ⟨passed', split', consumed'⟩ := last
  refine ⟨passed ++ passed', ?_, ?_⟩
  · rw [split, split', List.append_assoc]
  · rw [consumed', consumed, List.length_append, Nat.add_assoc]

theorem reaches_of_accept? {expected : Char} (accepted : c.accept? expected = some after) :
    c.Reaches after := by
  obtain ⟨comes, passed⟩ := accept?_eq_some_iff.mp accepted
  exact ⟨[expected], comes, passed⟩

theorem reaches_of_acceptWord? {word : List Char} (accepted : c.acceptWord? word = some after) :
    c.Reaches after := by
  obtain ⟨comes, -, passed⟩ := acceptWord?_eq_some_iff.mp accepted
  exact ⟨word, comes, passed⟩

theorem reaches_of_takeWhile {p : Char → Bool} {run : List Char}
    (taken : c.takeWhile p = (run, after)) : c.Reaches after := by
  have passed : after.consumed = c.consumed + run.length := by
    cases taken
    rfl
  exact ⟨run, (takeWhile_eq_some taken).1, passed⟩

theorem reaches_skipBlanks (c : Cursor) : c.Reaches c.skipBlanks :=
  reaches_of_takeWhile (show c.takeWhile isBlank = (_, c.skipBlanks) from rfl)

/-! ### The whole text -/

/-- How long the text of a cursor is: the characters before the place and those after it. -/
def extent (c : Cursor) : Nat := c.consumed + c.rest.length

@[simp] theorem extent_start (text : List Char) : (start text).extent = text.length :=
  Nat.zero_add _

/-- The column says how much of the text is left. -/
theorem column_add_length (c : Cursor) : c.column + c.rest.length = c.extent + 1 := by
  rw [column, extent]
  omega

/-- Places that are reached from one another are places of texts of one length. -/
theorem Reaches.extent_eq (reached : c.Reaches after) : after.extent = c.extent := by
  obtain ⟨passed, split, consumed⟩ := reached
  rw [extent, extent, split, consumed, List.length_append, Nat.add_assoc]

/-- What is left of a text says how far it was passed. -/
theorem Reaches.consumed_eq {passed : List Char} (reached : c.Reaches after)
    (split : c.rest = passed ++ after.rest) : after.consumed = c.consumed + passed.length := by
  have same := reached.extent_eq
  rw [extent, extent, split, List.length_append] at same
  omega

@[simp] theorem extent_skipBlanks (c : Cursor) : c.skipBlanks.extent = c.extent :=
  c.reaches_skipBlanks.extent_eq

end Cursor

end Formula
