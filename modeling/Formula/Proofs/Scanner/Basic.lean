import Formula.Scanner.Basic

/-!
# What scanners do

All that matters about a scanner is which items it has not forgotten, how many of them it holds in
its buffer and how many it has passed.  Reading moves items from the source to the buffer and passes
them; it never changes which items there are.  The lemmas below say for each operation what it
answers and where it ends, in these terms, so that nothing later opens an operation.

A position is known to a scanner if the item there is in the buffer, or if the source is known to
end there.  The position behind a buffer whose source has not ended is not known, although a scanner
can be moved to it.

## Main definitions

* `Scanner.remaining` — the items that were not forgotten
* `Scanner.Knows`, `Scanner.IsSettled` — positions of which it is known what is there
* `Scanner.Fills` — how a scanner changes by reading ahead

## Main statements

* `Scanner.peekNth_answer`, `Scanner.next_answer` — which items are found
* `Scanner.acceptIf_cases` — an item is accepted, or it is only looked at
* `Scanner.takeWhile_spec` — runs are longest runs
* `Scanner.IsSettled.column_eq`, `Scanner.IsSettled.current?_eq` — what is known of a known place
-/

namespace Formula.Scanner

variable {α : Type} {s after last : Scanner α} {position : Int}

/-- The items that were not forgotten. -/
def remaining (s : Scanner α) : List α := s.buffer.toList ++ s.source

theorem unread_eq_drop (s : Scanner α) : s.unread = s.remaining.drop s.passed := rfl

/-- The next item is the first one to come. -/
theorem unread_of_head {item : α} (head : s.remaining[s.passed]? = some item) :
    s.unread = item :: s.unread.drop 1 := by
  obtain ⟨exist, rfl⟩ := List.getElem?_eq_some_iff.mp head
  rw [unread_eq_drop, List.drop_drop]
  exact List.drop_eq_getElem_cons exist

theorem length_remaining (s : Scanner α) :
    s.remaining.length = s.buffer.size + s.source.length := by
  rw [remaining, List.length_append, Array.length_toList]

/-- The buffer holds the first of the remaining items. -/
theorem getElem?_buffer {index : Nat} (inBuffer : index < s.buffer.size) :
    s.buffer[index]? = s.remaining[index]? := by
  rw [remaining, List.getElem?_append_left (by simpa using inBuffer), Array.getElem?_toList]

/-! ### Known positions -/

/-- It is known what is at a position: an item of the buffer, or the end.  The position before the
first item is known too. -/
def Knows (s : Scanner α) (position : Int) : Prop :=
  -1 ≤ position ∧ (position < s.buffer.size ∨ position = s.buffer.size ∧ s.source = [])

/-- The scanner is at a known position. -/
def IsSettled (s : Scanner α) : Prop := s.Knows s.position

theorem isSettled_iff (s : Scanner α) :
    s.IsSettled ↔ s.passed ≤ s.buffer.size ∨ s.source = [] := by
  have bound := s.passed_le
  rw [IsSettled, Knows, position]
  constructor
  · rintro ⟨-, inBuffer | ⟨-, ended⟩⟩
    · exact .inl (by omega)
    · exact .inr ended
  · rintro (passed | ended)
    · exact ⟨by omega, .inl (by omega)⟩
    · refine ⟨by omega, ?_⟩
      by_cases inBuffer : s.passed ≤ s.buffer.size
      · exact .inl (by omega)
      · exact .inr ⟨by omega, ended⟩

/-- At a known place the items passed are those counted among the remaining ones. -/
theorem IsSettled.min_passed (settled : s.IsSettled) :
    min s.passed s.buffer.size = min s.passed s.remaining.length := by
  rw [length_remaining]
  rcases s.isSettled_iff.mp settled with passed | ended
  · omega
  · rw [ended, List.length_nil, Nat.add_zero]

/-- At a known place the column counts the items passed. -/
theorem IsSettled.column_eq (settled : s.IsSettled) :
    s.column = s.committed + min s.passed s.remaining.length + 1 := by
  rw [column, settled.min_passed]

/-- At a known place the current item is the last one passed. -/
theorem IsSettled.current?_eq (settled : s.IsSettled) {index : Nat}
    (passed : s.passed = index + 1) : s.current? = s.remaining[index]? := by
  rw [current?, passed]
  by_cases inBuffer : index < s.buffer.size
  · exact getElem?_buffer inBuffer
  · have total := s.length_remaining
    rcases s.isSettled_iff.mp settled with bound | ended
    · omega
    · rw [ended, List.length_nil] at total
      rw [List.getElem?_eq_none (by omega)]
      exact Array.getElem?_eq_none (by omega)

/-! ### Reading ahead -/

/-- The scanner has taken items from its source into its buffer, if anything.  It may be at another
place. -/
structure Fills (s after : Scanner α) : Prop where
  committed_eq : after.committed = s.committed
  remaining_eq : after.remaining = s.remaining
  size_le : s.buffer.size ≤ after.buffer.size

namespace Fills

theorem refl (s : Scanner α) : Fills s s := ⟨rfl, rfl, Nat.le_refl _⟩

theorem trans (first : Fills s after) (second : Fills after last) : Fills s last :=
  ⟨second.committed_eq.trans first.committed_eq, second.remaining_eq.trans first.remaining_eq,
    Nat.le_trans first.size_le second.size_le⟩

/-- A source that has ended stays so, and nothing is added to the buffer. -/
theorem source_eq_nil (fills : Fills s after) (ended : s.source = []) :
    after.source = [] ∧ after.buffer.size = s.buffer.size := by
  have total := congrArg List.length fills.remaining_eq
  have more := fills.size_le
  rw [length_remaining, length_remaining, ended, List.length_nil] at total
  exact ⟨List.eq_nil_of_length_eq_zero (by omega), by omega⟩

/-- Known positions stay known. -/
theorem knows (fills : Fills s after) (known : s.Knows position) : after.Knows position := by
  obtain ⟨least, inBuffer | ⟨atEnd, ended⟩⟩ := known
  · have more := fills.size_le
    exact ⟨least, .inl (by omega)⟩
  · obtain ⟨endedAfter, same⟩ := fills.source_eq_nil ended
    exact ⟨least, .inr ⟨by omega, endedAfter⟩⟩

/-- A scanner at the place where it was settled is settled. -/
theorem isSettled (fills : Fills s after) (settled : s.IsSettled)
    (same : after.passed = s.passed) : after.IsSettled := by
  rw [IsSettled, Scanner.position, same]
  exact fills.knows settled

end Fills

theorem fills_fill (count : Nat) (s : Scanner α) : Fills s (s.fill count) where
  committed_eq := rfl
  remaining_eq := by simp [remaining, fill]
  size_le := by simp [fill]

theorem fills_step (s : Scanner α) : Fills s s.step := ⟨rfl, rfl, Nat.le_refl _⟩

/-- Filling stops at the end of the source only. -/
theorem size_fill (count : Nat) (s : Scanner α) :
    (s.fill count).buffer.size = max s.buffer.size (min count s.remaining.length) := by
  rw [length_remaining]
  simp only [fill, Array.size_append, List.size_toArray, List.length_take]
  omega

/-- An item far enough in front is in the buffer after filling, if there is such an item. -/
theorem getElem?_buffer_fill {index count : Nat} (within : index < count) (s : Scanner α) :
    (s.fill count).buffer[index]? = s.remaining[index]? := by
  have size := s.size_fill count
  by_cases exist : index < s.remaining.length
  · rw [getElem?_buffer (by omega), (s.fills_fill count).remaining_eq]
  · have total := s.length_remaining
    rw [Array.getElem?_eq_none (by omega), List.getElem?_eq_none (by omega)]

/-- The scanner has passed so many items, and has taken items into its buffer for this.  If it was
settled it still is. -/
structure Advances (s : Scanner α) (count : Nat) (after : Scanner α) : Prop
    extends Fills s after where
  passed_eq : after.passed = s.passed + count
  settles : s.IsSettled → after.IsSettled

namespace Advances

variable {count more : Nat}

theorem refl (s : Scanner α) : Advances s 0 s :=
  ⟨.refl s, rfl, id⟩

theorem trans (first : Advances s count after) (second : Advances after more last) :
    Advances s (count + more) last where
  toFills := first.toFills.trans second.toFills
  passed_eq := by rw [second.passed_eq, first.passed_eq, Nat.add_assoc]
  settles := second.settles ∘ first.settles

/-- The items passed are no longer to come. -/
theorem unread_eq (advances : Advances s count after) : after.unread = s.unread.drop count := by
  rw [unread_eq_drop, unread_eq_drop, advances.remaining_eq, advances.passed_eq, List.drop_drop]

end Advances

/-! ### Looking ahead and reading -/

/-- What is looked at is the item so many places behind the next one. -/
theorem peekNth_answer (count : Nat) (s : Scanner α) :
    (s.peekNth count).1 = s.remaining[s.passed + count]? :=
  getElem?_buffer_fill (Nat.lt_succ_self _) s

/-- Looking ahead passes nothing. -/
theorem advances_peekNth (count : Nat) (s : Scanner α) : Advances s 0 (s.peekNth count).2 where
  toFills := fills_fill _ s
  passed_eq := rfl
  settles settled := (fills_fill _ s).isSettled settled rfl

/-- The next item is the first one that was not passed. -/
theorem peek_answer (s : Scanner α) : s.peek.1 = s.remaining[s.passed]? :=
  peekNth_answer 0 s

theorem next_answer (s : Scanner α) : s.next.1 = s.remaining[s.passed]? := s.peek_answer

theorem fills_next (s : Scanner α) : Fills s s.next.2 :=
  (fills_fill _ s).trans (fills_step _)

/-- Reading passes one item, or the end. -/
theorem passed_next (s : Scanner α) :
    s.next.2.passed = min (s.passed + 1) (s.remaining.length + 1) := by
  have bound := s.passed_le
  have total := s.length_remaining
  show min (s.passed + 1) ((s.fill (s.passed + 0 + 1)).buffer.size + 1) = _
  rw [size_fill]
  omega

/-- After reading, a scanner is settled wherever it was before. -/
theorem isSettled_next (s : Scanner α) : s.next.2.IsSettled := by
  have passed := s.passed_next
  have total := s.next.2.length_remaining
  have size : s.next.2.buffer.size = max s.buffer.size (min (s.passed + 1) s.remaining.length) :=
    s.size_fill _
  rw [s.fills_next.remaining_eq] at total
  rw [isSettled_iff]
  by_cases exist : s.passed < s.remaining.length
  · exact .inl (by omega)
  · have bound := s.passed_le
    have before := s.length_remaining
    exact .inr (List.eq_nil_of_length_eq_zero (by omega))

/-- Reading an item passes it. -/
theorem advances_next {item : α} (head : s.remaining[s.passed]? = some item) :
    Advances s 1 s.next.2 where
  toFills := s.fills_next
  passed_eq := by
    obtain ⟨exist, -⟩ := List.getElem?_eq_some_iff.mp head
    rw [passed_next]
    omega
  settles _ := s.isSettled_next

/-! ### Reading what is expected -/

/-- An item is read if it is of the kind.  Otherwise the scanner has only looked at it. -/
theorem acceptIf_cases (p : α → Bool) (s : Scanner α) :
    (∃ item, s.remaining[s.passed]? = some item ∧ p item = true ∧
      s.acceptIf p = (some item, s.next.2)) ∨
    (∀ item, s.remaining[s.passed]? = some item → p item = false) ∧
      s.acceptIf p = (none, s.peek.2) := by
  rw [← peek_answer, acceptIf, next]
  generalize s.peek = peeked
  obtain ⟨found, ahead⟩ := peeked
  cases found with
  | none =>
      refine .inr ⟨fun item head => ?_, rfl⟩
      cases head
  | some item =>
      by_cases isKind : p item = true
      · exact .inl ⟨item, rfl, isKind, if_pos isKind⟩
      · refine .inr ⟨fun found head => ?_, if_neg isKind⟩
        obtain rfl := Option.some.inj head
        exact Bool.eq_false_iff.mpr isKind

theorem fills_acceptIf (p : α → Bool) (s : Scanner α) : Fills s (s.acceptIf p).2 := by
  rcases acceptIf_cases p s with ⟨_, -, -, accepted⟩ | ⟨-, refused⟩
  · rw [accepted]
    exact s.fills_next
  · rw [refused]
    exact (s.advances_peekNth 0).toFills

/-- What is read is the longest run of items of the kind, and it is passed. -/
theorem takeWhile_spec (p : α → Bool) (s : Scanner α) :
    (s.takeWhile p).1 = s.unread.takeWhile p ∧
      Advances s (s.takeWhile p).1.length (s.takeWhile p).2 := by
  fun_induction takeWhile p s with
  | case1 s item after accepted shorter items last run ih =>
      rcases acceptIf_cases p s with ⟨found, head, isKind, split⟩ | ⟨-, split⟩
      · obtain ⟨same, rfl⟩ := Prod.mk.inj (accepted.symm.trans split)
        obtain rfl := Option.some.inj same
        obtain ⟨longest, advances⟩ := ih
        have first := advances_next head
        rw [run] at longest advances
        rw [first.unread_eq] at longest
        constructor
        · rw [unread_of_head head, List.takeWhile_cons_of_pos isKind, ← longest]
        · rw [List.length_cons, Nat.add_comm]
          exact first.trans advances
      · cases accepted.symm.trans split
  | case2 s after refused =>
      rcases acceptIf_cases p s with ⟨found, -, -, split⟩ | ⟨other, split⟩
      · cases refused.symm.trans split
      · obtain ⟨-, rfl⟩ := Prod.mk.inj (refused.symm.trans split)
        refine ⟨?_, s.advances_peekNth 0⟩
        cases comes : s.unread with
        | nil => rfl
        | cons item rest =>
            have head : s.remaining[s.passed]? = some item := by
              rw [← List.head?_drop, ← unread_eq_drop, comes, List.head?_cons]
            rw [List.takeWhile_cons_of_neg (Bool.eq_false_iff.mp (other item head))]

/-! ### Moving and committing -/

/-- Moving changes the place only, if anything. -/
theorem fills_moveTo (position : Int) (s : Scanner α) : Fills s (s.moveTo position).2 := by
  rw [moveTo]
  split
  next => exact ⟨rfl, rfl, Nat.le_refl _⟩
  next => exact .refl s

/-- A scanner can be moved to any position up to the end of its buffer. -/
theorem moveTo_spec (least : -1 ≤ position) (most : position ≤ s.buffer.size) :
    (s.moveTo position).1 = true ∧ (s.moveTo position).2.position = position := by
  rw [moveTo, dif_pos ⟨least, most⟩]
  refine ⟨rfl, ?_⟩
  show ((position + 1).toNat : Int) - 1 = position
  omega

/-- A scanner can be moved to a known position, and is settled there. -/
theorem Knows.moveTo (known : s.Knows position) :
    (s.moveTo position).1 = true ∧ (s.moveTo position).2.position = position ∧
      (s.moveTo position).2.IsSettled := by
  have most : position ≤ s.buffer.size := by
    obtain ⟨-, inBuffer | ⟨atEnd, -⟩⟩ := known <;> omega
  obtain ⟨moved, place⟩ := moveTo_spec known.1 most
  refine ⟨moved, place, ?_⟩
  rw [IsSettled, place]
  exact (fills_moveTo position s).knows known

/-- The items passed are forgotten, and no others. -/
theorem remaining_commit (s : Scanner α) :
    s.commit.remaining = s.remaining.drop (min s.passed s.buffer.size) := by
  have kept : s.commit.buffer.toList = s.buffer.toList.drop (min s.passed s.buffer.size) := by
    show (s.buffer.extract (min s.passed s.buffer.size) s.buffer.size).toList = _
    rw [Array.toList_extract, List.extract_eq_take_drop, List.take_of_length_le (by simp)]
  have within : min s.passed s.buffer.size ≤ s.buffer.toList.length := by
    rw [Array.length_toList]
    exact Nat.min_le_right _ _
  rw [remaining, kept, remaining, List.drop_append_of_le_length within]
  rfl

/-- Right after committing, a scanner is before the first item it has not forgotten. -/
theorem isSettled_commit (s : Scanner α) : s.commit.IsSettled :=
  (isSettled_iff _).mpr (.inl (Nat.zero_le _))

/-- Committing is not seen in the column, in whatever state. -/
theorem column_commit (s : Scanner α) : s.commit.column = s.column := by
  simp [column, commit]

/-! ### The whole source -/

/-- The scanner has forgotten a beginning of a list, and the other items remain in their order. -/
structure Reads (items : List α) (s : Scanner α) : Prop where
  committed_le : s.committed ≤ items.length
  remaining_eq : s.remaining = items.drop s.committed

theorem reads_ofList (items : List α) : Reads items (ofList items) :=
  ⟨Nat.zero_le _, rfl⟩

theorem isSettled_ofList (items : List α) : (ofList items).IsSettled :=
  (isSettled_iff _).mpr (.inl (Nat.zero_le _))

namespace Reads

variable {items : List α}

theorem length_remaining (reads : Reads items s) :
    s.remaining.length = items.length - s.committed := by
  rw [reads.remaining_eq, List.length_drop]

/-- The items left are those of the list behind the items forgotten. -/
theorem getElem?_remaining (reads : Reads items s) (index : Nat) :
    s.remaining[index]? = items[s.committed + index]? := by
  rw [reads.remaining_eq, List.getElem?_drop]

theorem of_fills (reads : Reads items s) (fills : Fills s after) : Reads items after where
  committed_le := by
    rw [fills.committed_eq]
    exact reads.committed_le
  remaining_eq := by rw [fills.remaining_eq, fills.committed_eq, reads.remaining_eq]

theorem commit (reads : Reads items s) : Reads items s.commit where
  committed_le := by
    have bound := reads.committed_le
    have total := reads.length_remaining
    rw [s.length_remaining] at total
    show s.committed + min s.passed s.buffer.size ≤ items.length
    omega
  remaining_eq := by
    rw [remaining_commit, reads.remaining_eq, List.drop_drop]
    rfl

/-- No item is lost, none comes twice and none in another order. -/
theorem items_eq (reads : Reads items s) :
    items = items.take s.committed ++ s.buffer.toList ++ s.source := by
  calc items = items.take s.committed ++ items.drop s.committed := (List.take_append_drop _ _).symm
    _ = items.take s.committed ++ s.buffer.toList ++ s.source := by
      rw [← reads.remaining_eq, remaining, List.append_assoc]

end Reads

end Formula.Scanner
