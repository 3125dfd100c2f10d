import Formula.Proofs.Scanner.Words

/-!
# Columns and looking ahead

The column of a scanner is meant to name the next item, and looking ahead is meant to change nothing
that is seen.  Both hold wherever the scanner knows what is at its position, and so wherever it gets
by reading and going back.

A scanner also accepts to be moved behind its buffer while its source has not ended.  It does not
know the item there, and the next reading skips that item.  The column does not count it, and
looking ahead, which takes it into the buffer, makes the column jump.  So the two laws hold exactly
where the position is known.

## Main definitions

* `Scanner.SamePlace` — no difference in position, column and current item
* `Scanner.Steady` — the column names the next item, and looking ahead keeps the place

## Main statements

* `Scanner.steady_iff` — a scanner of a list is steady exactly where its position is known
* `Scanner.steady_after_calls_iff` — the same after any calls
* `Scanner.not_steady_behind_buffer` — a position that is accepted and is not known
-/

namespace Formula.Scanner

variable {α : Type} {s after : Scanner α} {items : List α}

/-- A user sees no difference in the place. -/
structure SamePlace (s after : Scanner α) : Prop where
  position_eq : after.position = s.position
  column_eq : after.column = s.column
  current?_eq : after.current? = s.current?

/-- The column names the next item of a list, and what looks ahead or does not match keeps the
place. -/
structure Steady [BEq α] (items : List α) (s : Scanner α) : Prop where
  next_item : ∀ item, s.next.1 = some item → items[s.column - 1]? = some item
  peek : SamePlace s s.peek.2
  peekNth : ∀ count, SamePlace s (s.peekNth count).2
  accept : ∀ expected, (s.accept expected).1 = none → SamePlace s (s.accept expected).2
  acceptAny : ∀ expected, (s.acceptAny expected).1 = none → SamePlace s (s.acceptAny expected).2

/-! ### Known positions -/

/-- What reads ahead from a known position and passes nothing keeps the place. -/
theorem Fills.samePlace (fills : Fills s after) (settled : s.IsSettled)
    (same : after.passed = s.passed) : SamePlace s after where
  position_eq := by rw [Scanner.position, same, Scanner.position]
  column_eq := by
    have settledAfter := fills.isSettled settled same
    rw [settledAfter.column_eq, settled.column_eq, same, fills.committed_eq, fills.remaining_eq]
  current?_eq := by
    have settledAfter := fills.isSettled settled same
    cases passed : s.passed with
    | zero => rw [current?, current?, same, passed]
    | succ index =>
        rw [settledAfter.current?_eq (same.trans passed), settled.current?_eq passed,
          fills.remaining_eq]

/-- What does not accept the next item has only looked at it. -/
theorem IsSettled.samePlace_acceptIf (settled : s.IsSettled) {p : α → Bool}
    (refused : (s.acceptIf p).1 = none) : SamePlace s (s.acceptIf p).2 := by
  rcases acceptIf_cases p s with ⟨item, -, -, accepted⟩ | ⟨-, looked⟩
  · rw [accepted] at refused
    cases refused
  · rw [looked]
    exact (s.advances_peekNth 0).toFills.samePlace settled rfl

/-- At a known position the column names the next item. -/
theorem Reads.getElem?_column (reads : Reads items s) (settled : s.IsSettled) {item : α}
    (next : s.next.1 = some item) : items[s.column - 1]? = some item := by
  rw [next_answer] at next
  obtain ⟨exist, -⟩ := List.getElem?_eq_some_iff.mp next
  rw [settled.column_eq, Nat.min_eq_left (Nat.le_of_lt exist), Nat.add_sub_cancel,
    ← reads.getElem?_remaining, next]

/-! ### Other positions -/

/-- If looking at the next item does not change the column, the position is known.  At another
position the item behind the buffer would be taken into it, and be counted. -/
theorem isSettled_of_peek (same : s.peek.2.column = s.column) : s.IsSettled := by
  rw [isSettled_iff]
  by_cases within : s.passed ≤ s.buffer.size
  · exact .inl within
  · have bound := s.passed_le
    have total := s.length_remaining
    have size : s.peek.2.buffer.size = max s.buffer.size (min (s.passed + 1) s.remaining.length) :=
      s.size_fill _
    have counted : s.committed + min s.passed s.peek.2.buffer.size + 1 =
        s.committed + min s.passed s.buffer.size + 1 := same
    exact .inr (List.eq_nil_of_length_eq_zero (by omega))

/-- **Exactly at known positions** the column names the next item and looking ahead changes
nothing. -/
theorem steady_iff [BEq α] (reads : Reads items s) : Steady items s ↔ s.IsSettled := by
  constructor
  · intro steady
    exact isSettled_of_peek steady.peek.column_eq
  · intro settled
    exact {
      next_item := fun _ next => reads.getElem?_column settled next
      peek := (s.advances_peekNth 0).toFills.samePlace settled rfl
      peekNth := fun count => (s.advances_peekNth count).toFills.samePlace settled rfl
      accept := fun _ refused => settled.samePlace_acceptIf refused
      acceptAny := fun _ refused => settled.samePlace_acceptIf refused }

/-! ### All states -/

/-- **Columns and looking ahead after any calls.**  Whatever has been asked of a scanner, moves to
any position included, the column names the next item and looking ahead changes nothing exactly if
the position is known: it is in the buffer or before it, or at the end of a source that has ended.
With characters, a word that does not match changes nothing either. -/
theorem steady_after_calls_iff [BEq α] (items : List α) (calls : List (Call α)) (text : List Char)
    (textCalls : List TextCall) :
    (let s := scannerReader.after (ofList items) calls
     Steady items s ↔ s.IsSettled) ∧
    let s := (ofList text).afterText textCalls
    (Steady text s ∧
      ∀ word, (s.acceptWord word).1 = false → SamePlace s (s.acceptWord word).2) ↔
      s.IsSettled := by
  refine ⟨steady_iff ((reads_ofList items).after calls), ?_⟩
  intro s
  have reads : Reads text s := (reads_ofList text).afterText textCalls
  constructor
  · rintro ⟨steady, -⟩
    exact (steady_iff reads).mp steady
  · intro settled
    refine ⟨(steady_iff reads).mpr settled, fun word refused => ?_⟩
    obtain ⟨fills, passed⟩ := acceptWord_spec word s
    exact fills.samePlace settled (passed refused)

/-- A scanner that has taken nothing from its source accepts to be moved behind its empty buffer.
The column names the first item there, the next item is the second one, and looking at it changes
the column. -/
theorem not_steady_behind_buffer :
    ((ofList ['a', 'b']).moveTo 0).1 = true ∧
      let s := (ofList ['a', 'b']).afterText [.call (.moveTo 0)]
      s.column = 1 ∧ s.next.1 = some 'b' ∧ s.peek.2.column = 2 ∧ ¬ Steady ['a', 'b'] s := by
  refine ⟨rfl, rfl, rfl, rfl, fun steady => ?_⟩
  have first := steady.next_item 'b' rfl
  exact absurd first (by decide)

end Formula.Scanner
