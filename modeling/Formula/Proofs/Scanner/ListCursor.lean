import Formula.Proofs.Scanner.Basic

/-!
# Scanners read lists

However much of its source a scanner has taken, buffered and forgotten, to its user it is a cursor
in a list: the list of all items, how many of them are committed, and a position among the others.
Every sequence of calls is answered as this cursor answers it, as long as the user goes back only to
positions that the scanner has been at since the last commit.

Going back to any position that is accepted is not enough for this, as the position behind the
buffer is accepted before the source has ended.

## Main definitions

* `Call`, `Answer` — what a user of a scanner can ask for, and what comes back
* `Observation` — all that a user sees of a call
* `ListCursor` — a list with a cursor
* `Scanner.Backtracks` — calls that only go back to places where the scanner has been

## Main statements

* `Scanner.observations_ofList` — a scanner answers every sequence of calls as a list cursor
* `Scanner.not_current_behind_commit` — right behind a commit there is no current item
-/

namespace Formula

variable {α S : Type}

/-! ### Calls -/

/-- What a user of a scanner can ask for. -/
inductive Call (α : Type) where
  | next
  | peek
  | peekNth (count : Nat)
  | accept (expected : α)
  | acceptAny (expected : List α)
  | skipAll (expected : List α)
  | commit
  | moveTo (position : Int)

/-- The call goes back to one of some positions, if it goes back at all. -/
def Call.ReturnsTo (positions : List Int) : Call α → Prop
  | .moveTo position => position ∈ positions
  | _ => True

instance (positions : List Int) : (call : Call α) → Decidable (call.ReturnsTo positions)
  | .moveTo position => inferInstanceAs (Decidable (position ∈ positions))
  | .next | .peek | .peekNth _ | .accept _ | .acceptAny _ | .skipAll _ | .commit => .isTrue trivial

/-- What comes back: an item if one was found, a truth value, or nothing. -/
inductive Answer (α : Type) where
  | item (found : Option α)
  | flag (holds : Bool)
  | done
  deriving DecidableEq

/-- What a user sees of a call: its answer, and the place after it. -/
structure Observation (α : Type) where
  answer : Answer α
  position : Int
  column : Nat
  current? : Option α
  deriving DecidableEq

/-- Something that answers calls. -/
structure Reader (α S : Type) where
  call : Call α → S → Answer α × S
  position : S → Int
  column : S → Nat
  current? : S → Option α

namespace Reader

/-- The state after some calls. -/
def after (reader : Reader α S) (s : S) (calls : List (Call α)) : S :=
  calls.foldl (fun s call => (reader.call call s).2) s

/-- What a user sees of a call. -/
def observe (reader : Reader α S) (s : S) (call : Call α) : Observation α where
  answer := (reader.call call s).1
  position := reader.position (reader.call call s).2
  column := reader.column (reader.call call s).2
  current? := reader.current? (reader.call call s).2

/-- What a user sees of some calls, one after the other. -/
def observations (reader : Reader α S) : S → List (Call α) → List (Observation α)
  | _, [] => []
  | s, call :: calls =>
    reader.observe s call :: reader.observations (reader.call call s).2 calls

end Reader

/-! ### Lists with a cursor -/

/-- A list of which some items are committed, with a position among the others.  The position `-1`
is before all of them. -/
structure ListCursor (α : Type) where
  items : List α
  committed : Nat
  position : Int
  deriving DecidableEq

namespace ListCursor

/-- The cursor before the first item of a list. -/
def start (items : List α) : ListCursor α := ⟨items, 0, -1⟩

/-- The number of items up to the position that are not committed. -/
def pending (c : ListCursor α) : Nat :=
  min (c.position + 1).toNat (c.items.length - c.committed)

/-- The item at a position, if the position is not before all items that are not committed. -/
def item? (c : ListCursor α) (position : Int) : Option α :=
  if 0 ≤ position then c.items[c.committed + position.toNat]? else none

/-- The item at the position of the cursor. -/
def current? (c : ListCursor α) : Option α := c.item? c.position

/-- The column of the next item. -/
def column (c : ListCursor α) : Nat := c.committed + c.pending + 1

/-- Moves to the next item, or behind the last one, and gives the item there. -/
def next (c : ListCursor α) : Option α × ListCursor α :=
  let after := { c with position := c.pending }
  (after.current?, after)

/-- Moves to the next item if it is of a kind. -/
def acceptIf (p : α → Bool) (c : ListCursor α) : Option α × ListCursor α :=
  match c.item? (c.position + 1) with
  | some item => if p item then (some item, { c with position := c.position + 1 }) else (none, c)
  | none => (none, c)

/-- Moves over the longest run of items of a kind, and tells whether there are any. -/
def skipIf (p : α → Bool) (c : ListCursor α) : Bool × ListCursor α :=
  let run := (c.items.drop (c.committed + (c.position + 1).toNat)).takeWhile p
  (!run.isEmpty, { c with position := c.position + run.length })

/-- Commits the items up to the position. -/
def commit (c : ListCursor α) : ListCursor α :=
  { c with committed := c.committed + c.pending, position := -1 }

theorem acceptIf_of_item? {p : α → Bool} {c : ListCursor α} {item : α}
    (comes : c.item? (c.position + 1) = some item) (isKind : p item = true) :
    c.acceptIf p = (some item, { c with position := c.position + 1 }) := by
  simp only [acceptIf, comes, isKind, if_true]

theorem acceptIf_eq_none {p : α → Bool} {c : ListCursor α}
    (other : ∀ item, c.item? (c.position + 1) = some item → p item = false) :
    c.acceptIf p = (none, c) := by
  rw [acceptIf]
  split
  next item comes => rw [other item comes, if_neg Bool.false_ne_true]
  next => rfl

end ListCursor

/-- How a list cursor answers.  Looking ahead leaves it as it is, and it may be moved anywhere. -/
def listReader [BEq α] : Reader α (ListCursor α) where
  call
    | .next, c => (.item c.next.1, c.next.2)
    | .peek, c => (.item (c.item? (c.position + 1)), c)
    | .peekNth count, c => (.item (c.item? (c.position + 1 + count)), c)
    | .accept expected, c =>
      let (found, after) := c.acceptIf (· == expected)
      (.item found, after)
    | .acceptAny expected, c =>
      let (found, after) := c.acceptIf fun item => expected.contains item
      (.item found, after)
    | .skipAll expected, c =>
      let (advanced, after) := c.skipIf fun item => expected.contains item
      (.flag advanced, after)
    | .commit, c => (.done, c.commit)
    | .moveTo position, c => (.flag true, { c with position := position })
  position := ListCursor.position
  column := ListCursor.column
  current? := ListCursor.current?

/-! ### Scanners -/

/-- How a scanner answers. -/
def scannerReader [BEq α] : Reader α (Scanner α) where
  call
    | .next, s => (.item s.next.1, s.next.2)
    | .peek, s => (.item s.peek.1, s.peek.2)
    | .peekNth count, s => (.item (s.peekNth count).1, (s.peekNth count).2)
    | .accept expected, s => (.item (s.accept expected).1, (s.accept expected).2)
    | .acceptAny expected, s => (.item (s.acceptAny expected).1, (s.acceptAny expected).2)
    | .skipAll expected, s => (.flag (s.skipAll expected).1, (s.skipAll expected).2)
    | .commit, s => (.done, s.commit)
    | .moveTo position, s => (.flag (s.moveTo position).1, (s.moveTo position).2)
  position := Scanner.position
  column := Scanner.column
  current? := Scanner.current?

namespace Scanner

/-- The list cursor that a scanner of a list stands for. -/
def cursor (items : List α) (s : Scanner α) : ListCursor α := ⟨items, s.committed, s.position⟩

theorem position_add_one (s : Scanner α) : s.position + 1 = s.passed := by
  rw [position]
  omega

section States

variable {items : List α} {s after : Scanner α}

/-- The cursor has the items left at its positions. -/
theorem Reads.item?_cursor (reads : Reads items s) (index : Nat) :
    (s.cursor items).item? index = s.remaining[index]? := by
  rw [reads.getElem?_remaining]
  exact if_pos (Int.natCast_nonneg index)

/-- The cursor counts the items passed, but not the end. -/
theorem Reads.pending_cursor (reads : Reads items s) :
    (s.cursor items).pending = min s.passed s.remaining.length := by
  rw [reads.length_remaining]
  show min (s.position + 1).toNat (items.length - s.committed) = _
  rw [position_add_one, Int.toNat_natCast]

theorem Reads.column_cursor (reads : Reads items s) (settled : s.IsSettled) :
    (s.cursor items).column = s.column := by
  rw [settled.column_eq, ListCursor.column, reads.pending_cursor]
  rfl

theorem Reads.current?_cursor (reads : Reads items s) (settled : s.IsSettled) :
    (s.cursor items).current? = s.current? := by
  cases passed : s.passed with
  | zero =>
      have before : s.position = -1 := by rw [position, passed]; rfl
      have missing : s.current? = none := by rw [current?, passed]
      rw [missing]
      show (s.cursor items).item? s.position = none
      rw [before]
      rfl
  | succ index =>
      have place : s.position = index := by rw [position, passed]; omega
      rw [settled.current?_eq passed, ← reads.item?_cursor, ← place]
      rfl

/-- A scanner that has passed some items stands for the cursor so many places further. -/
theorem Advances.cursor_eq {count : Nat} (advances : Advances s count after) :
    after.cursor items = { s.cursor items with position := s.position + count } := by
  have place : after.position = s.position + count := by
    rw [position, position, advances.passed_eq]
    omega
  rw [cursor, cursor, advances.committed_eq, place]

/-- An item is accepted by a scanner exactly if the cursor accepts it. -/
theorem Reads.acceptIf_cursor (reads : Reads items s) (settled : s.IsSettled) (p : α → Bool) :
    (s.acceptIf p).1 = ((s.cursor items).acceptIf p).1 ∧
      (s.acceptIf p).2.cursor items = ((s.cursor items).acceptIf p).2 ∧
      (s.acceptIf p).2.IsSettled := by
  have next : (s.cursor items).item? ((s.cursor items).position + 1) = s.remaining[s.passed]? := by
    rw [← reads.item?_cursor, ← position_add_one]
    rfl
  rcases acceptIf_cases p s with ⟨item, head, isKind, accepted⟩ | ⟨other, refused⟩
  · have advances := advances_next head
    rw [accepted, ListCursor.acceptIf_of_item? (next.trans head) isKind]
    exact ⟨rfl, advances.cursor_eq, advances.settles settled⟩
  · have advances := s.advances_peekNth 0
    rw [refused, ListCursor.acceptIf_eq_none (next ▸ other)]
    exact ⟨rfl, advances.cursor_eq.trans (by simp [cursor]), advances.settles settled⟩

end States

/-! ### One call -/

section Step

variable [BEq α] {items : List α} {s : Scanner α}

/-- Every call but committing takes items into the buffer at most. -/
theorem fills_call {call : Call α} (keeps : call ≠ .commit) (s : Scanner α) :
    Fills s (scannerReader.call call s).2 := by
  cases call with
  | next => exact s.fills_next
  | peek => exact (s.advances_peekNth 0).toFills
  | peekNth count => exact (s.advances_peekNth count).toFills
  | accept expected => exact fills_acceptIf _ s
  | acceptAny expected => exact fills_acceptIf _ s
  | skipAll expected => exact (takeWhile_spec _ s).2.toFills
  | commit => exact absurd rfl keeps
  | moveTo position => exact fills_moveTo position s

/-- No call changes which items there are. -/
theorem Reads.call (reads : Reads items s) (call : Call α) :
    Reads items (scannerReader.call call s).2 := by
  by_cases commits : call = .commit
  · subst commits
    exact reads.commit
  · exact reads.of_fills (fills_call commits s)

/-- A scanner answers a call as the cursor that it stands for, stands for the cursor after it, and
knows where it is. -/
structure Follows (items : List α) (s : Scanner α) (call : Call α) : Prop where
  answer_eq : (scannerReader.call call s).1 = (listReader.call call (s.cursor items)).1
  cursor_eq :
    (scannerReader.call call s).2.cursor items = (listReader.call call (s.cursor items)).2
  settled : (scannerReader.call call s).2.IsSettled

theorem Reads.follows_next (reads : Reads items s) : Follows items s .next where
  answer_eq := by
    have count := reads.pending_cursor
    show Answer.item s.next.1 = .item ((s.cursor items).item? (s.cursor items).pending)
    rw [next_answer, reads.item?_cursor, count]
    by_cases exist : s.passed < s.remaining.length
    · rw [Nat.min_eq_left (Nat.le_of_lt exist)]
    · rw [List.getElem?_eq_none (by omega), List.getElem?_eq_none (by omega)]
  cursor_eq := by
    have place : s.next.2.position = (s.cursor items).pending := by
      rw [reads.pending_cursor, position, passed_next]
      omega
    show s.next.2.cursor items = { s.cursor items with position := (s.cursor items).pending }
    rw [← place, cursor, cursor, s.fills_next.committed_eq]
  settled := s.isSettled_next

/-- A run is read by a scanner exactly as far as the cursor moves over it. -/
theorem Reads.follows_skipAll (reads : Reads items s) (settled : s.IsSettled)
    (expected : List α) : Follows items s (.skipAll expected) := by
  obtain ⟨longest, advances⟩ := takeWhile_spec (fun item => expected.contains item) s
  have run : s.unread = items.drop (s.committed + (s.position + 1).toNat) := by
    rw [unread_eq_drop, reads.remaining_eq, List.drop_drop, position_add_one, Int.toNat_natCast]
  rw [run] at longest
  have place : (s.takeWhile _).2.cursor items = _ := advances.cursor_eq
  rw [longest] at place
  exact ⟨congrArg (fun run : List α => Answer.flag !run.isEmpty) longest, place,
    advances.settles settled⟩

/-- Committing forgets the items that the cursor commits. -/
theorem Reads.follows_commit (reads : Reads items s) (settled : s.IsSettled) :
    Follows items s .commit where
  answer_eq := rfl
  cursor_eq := by
    have count : s.commit.committed = s.committed + (s.cursor items).pending := by
      rw [reads.pending_cursor, ← settled.min_passed]
      rfl
    show s.commit.cursor items =
      ⟨items, s.committed + (s.cursor items).pending, -1⟩
    rw [← count]
    rfl
  settled := s.isSettled_commit

/-- A scanner goes back to a position that it knows. -/
theorem Knows.follows_moveTo {position : Int} (known : s.Knows position) :
    Follows items s (.moveTo position) := by
  obtain ⟨moved, place, settled⟩ := known.moveTo
  refine ⟨congrArg Answer.flag moved, ?_, settled⟩
  show (s.moveTo position).2.cursor items = ⟨items, s.committed, position⟩
  rw [cursor, place, (fills_moveTo position s).committed_eq]

/-- **One call.**  A settled scanner of a list follows the list cursor that it stands for, if it is
only moved to positions that it knows. -/
theorem Reads.follows (reads : Reads items s) (settled : s.IsSettled) (call : Call α)
    (returns : ∀ position, call = .moveTo position → s.Knows position) :
    Follows items s call := by
  cases call with
  | next => exact reads.follows_next
  | peek =>
      have advances := s.advances_peekNth 0
      refine ⟨?_, advances.cursor_eq.trans (by simp [listReader, cursor]),
        advances.settles settled⟩
      show Answer.item s.peek.1 = .item ((s.cursor items).item? (s.position + 1))
      rw [peek_answer, position_add_one, reads.item?_cursor]
  | peekNth count =>
      have advances := s.advances_peekNth count
      refine ⟨?_, advances.cursor_eq.trans (by simp [listReader, cursor]),
        advances.settles settled⟩
      show Answer.item (s.peekNth count).1 = .item ((s.cursor items).item? (s.position + 1 + count))
      rw [peekNth_answer, position_add_one, ← Int.natCast_add, reads.item?_cursor]
  | accept expected =>
      obtain ⟨answer, place, settled⟩ := reads.acceptIf_cursor settled (· == expected)
      exact ⟨congrArg Answer.item answer, place, settled⟩
  | acceptAny expected =>
      obtain ⟨answer, place, settled⟩ :=
        reads.acceptIf_cursor settled fun item => expected.contains item
      exact ⟨congrArg Answer.item answer, place, settled⟩
  | skipAll expected => exact reads.follows_skipAll settled expected
  | commit => exact reads.follows_commit settled
  | moveTo position => exact (returns position rfl).follows_moveTo

end Step

/-! ### All calls -/

section Runs

variable [BEq α]

/-- The positions at which a user has seen a scanner since the last commit, after one more call. -/
def seenAfter (seen : List Int) : Call α → Scanner α → List Int
  | .commit, s => [s.position]
  | _, s => s.position :: seen

omit [BEq α] in
theorem seenAfter_of_ne_commit {call : Call α} (keeps : call ≠ .commit) (seen : List Int)
    (s : Scanner α) : seenAfter seen call s = s.position :: seen := by
  cases call with
  | commit => exact absurd rfl keeps
  | _ => rfl

/-- Some calls move a scanner back only to where it has been since the last commit, or to some given
positions before that. -/
def BacktracksWithin : List Int → Scanner α → List (Call α) → Prop
  | _, _, [] => True
  | seen, s, call :: calls =>
    call.ReturnsTo seen ∧
      BacktracksWithin (seenAfter seen call (scannerReader.call call s).2)
        (scannerReader.call call s).2 calls

instance decidableBacktracksWithin :
    (seen : List Int) → (s : Scanner α) → (calls : List (Call α)) →
      Decidable (BacktracksWithin seen s calls)
  | _, _, [] => .isTrue trivial
  | seen, s, call :: calls =>
    have := decidableBacktracksWithin (seenAfter seen call (scannerReader.call call s).2)
      (scannerReader.call call s).2 calls
    inferInstanceAs (Decidable (_ ∧ _))

/-- Some calls move a scanner back only to where it has been since the last commit. -/
def Backtracks (s : Scanner α) (calls : List (Call α)) : Prop :=
  BacktracksWithin [s.position] s calls

instance (s : Scanner α) (calls : List (Call α)) : Decidable (s.Backtracks calls) :=
  decidableBacktracksWithin _ s calls

/-- Where a scanner has been, it knows what is there, also after the next call. -/
theorem knows_of_mem_seenAfter {seen : List Int} {s : Scanner α} {call : Call α}
    (known : ∀ position ∈ seen, s.Knows position)
    (settled : (scannerReader.call call s).2.IsSettled) :
    ∀ position ∈ seenAfter seen call (scannerReader.call call s).2,
      (scannerReader.call call s).2.Knows position := by
  intro position member
  by_cases commits : call = .commit
  · subst commits
    obtain rfl := List.mem_singleton.mp member
    exact settled
  · rw [seenAfter_of_ne_commit commits] at member
    rcases List.mem_cons.mp member with rfl | old
    · exact settled
    · exact (fills_call commits s).knows (known position old)

/-- After a call that a scanner follows, the place of the cursor is seen. -/
theorem Reads.observe_eq {items : List α} {s : Scanner α} {call : Call α}
    (later : Reads items (scannerReader.call call s).2) (follows : Follows items s call) :
    scannerReader.observe s call = listReader.observe (s.cursor items) call := by
  have column := later.column_cursor follows.settled
  have current := later.current?_cursor follows.settled
  have place := congrArg ListCursor.position follows.cursor_eq
  rw [follows.cursor_eq] at column current
  rw [Reader.observe, Reader.observe, follows.answer_eq]
  congr 1
  · exact column.symm
  · exact current.symm

/-- **All calls.**  The induction is on the calls.  It is kept that the scanner is settled and that
it knows what is at the positions that it may be moved back to. -/
theorem Reads.observations_eq {items : List α} (calls : List (Call α)) :
    ∀ {s : Scanner α} {seen : List Int}, Reads items s → s.IsSettled →
      (∀ position ∈ seen, s.Knows position) → BacktracksWithin seen s calls →
      scannerReader.observations s calls = listReader.observations (s.cursor items) calls ∧
        (scannerReader.after s calls).cursor items = listReader.after (s.cursor items) calls := by
  induction calls with
  | nil =>
      intro s seen _ _ _ _
      exact ⟨rfl, rfl⟩
  | cons call calls ih =>
      intro s seen reads settled known backtracks
      obtain ⟨returns, backtracks⟩ := backtracks
      have follows := reads.follows settled call fun position moves => by
        subst moves
        exact known position returns
      have later := reads.call call
      obtain ⟨observed, ended⟩ :=
        ih later follows.settled (knows_of_mem_seenAfter known follows.settled) backtracks
      rw [follows.cursor_eq] at observed ended
      refine ⟨?_, ended⟩
      rw [Reader.observations, Reader.observations, observed, later.observe_eq follows]

/-- After any calls the scanner has still the items of its list. -/
theorem Reads.after {items : List α} {s : Scanner α} (reads : Reads items s)
    (calls : List (Call α)) : Reads items (scannerReader.after s calls) := by
  induction calls generalizing s with
  | nil => exact reads
  | cons call calls ih => exact ih (reads.call call)

/-- **A scanner is a list with a cursor.**  Whatever is asked of the scanner of a list, as long as
it is moved back only to places where it has been since the last commit, is answered as by a cursor
in this list, and the place is that of the cursor.  No item is lost, none comes twice and none in
another order, and committing does not change the column. -/
theorem observations_ofList (items : List α) (calls : List (Call α))
    (backtracks : (ofList items).Backtracks calls) :
    scannerReader.observations (ofList items) calls =
        listReader.observations (.start items) calls ∧
      let s := scannerReader.after (ofList items) calls
      s.cursor items = listReader.after (.start items) calls ∧
        items = items.take s.committed ++ s.buffer.toList ++ s.source ∧
        s.commit.column = s.column := by
  have reads := reads_ofList items
  have settled := isSettled_ofList items
  have known : ∀ position ∈ [(ofList items).position], (ofList items).Knows position := by
    intro position member
    obtain rfl := List.mem_singleton.mp member
    exact settled
  obtain ⟨observed, ended⟩ := reads.observations_eq calls settled known backtracks
  exact ⟨observed, ended, (reads.after calls).items_eq, column_commit _⟩

/-- A scanner looks far ahead, reads, goes back, commits, reads to the end and goes back again. -/
theorem observations_ofList_back_and_forth :
    let calls : List (Call Char) := [.peekNth 40, .next, .next, .moveTo 0, .accept 'b', .commit,
      .moveTo (-1), .acceptAny ['a', 'c'], .next, .moveTo 1, .peek, .moveTo (-1), .skipAll ['c']]
    (ofList ['a', 'b', 'c']).Backtracks calls ∧
      scannerReader.observations (ofList ['a', 'b', 'c']) calls =
          listReader.observations (.start ['a', 'b', 'c']) calls ∧
        let s := scannerReader.after (ofList ['a', 'b', 'c']) calls
        s.cursor ['a', 'b', 'c'] = listReader.after (.start ['a', 'b', 'c']) calls ∧
          ['a', 'b', 'c'] = ['a', 'b', 'c'].take s.committed ++ s.buffer.toList ++ s.source ∧
          s.commit.column = s.column := by
  intro calls
  have backtracks : (ofList ['a', 'b', 'c']).Backtracks calls := by decide
  exact ⟨backtracks, observations_ofList _ calls backtracks⟩

/-- Right behind a commit the scanner is on no item, although the list has one there: the last one
committed. -/
theorem not_current_behind_commit :
    ¬ ∀ (items : List Char) (calls : List (Call Char)), (ofList items).Backtracks calls →
      let s := scannerReader.after (ofList items) calls
      ∀ (index : Nat) (item : Char), (index : Int) = s.committed + s.position →
        items[index]? = some item → s.current? = some item := by
  intro onItem
  have current := onItem ['a', 'b'] [.next, .commit] (by decide) 0 'a' (by decide) rfl
  exact absurd current (by decide)

end Runs

end Scanner

end Formula
