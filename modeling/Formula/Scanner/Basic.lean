/-!
# Scanners

A scanner reads a source that can only be read once, from front to back.  What it has taken from the
source stays in a buffer, so that it can go back and read it again, until it is told to forget what
has been read.

## Main definitions

* `Scanner`, `Scanner.ofList` — the parts of a source, and a scanner at its start
* `Scanner.unread` — the items that are still to come
* `Scanner.position`, `Scanner.moveTo`, `Scanner.commit` — going back, and giving that up
* `Scanner.next`, `Scanner.peekNth` — reading and looking ahead
* `Scanner.accept`, `Scanner.acceptAny`, `Scanner.takeWhile`, `Scanner.skipAll` — reading only what
  is expected

## Design notes

Positions are relative to what has been forgotten.  Position `-1` is before the first item of the
buffer, position `i` is on the item with index `i`, and the position one behind the last index is
the end.  The structure counts the items passed instead, which is one more than the position.
-/

namespace Formula

variable {α : Type}

/-- A place in a source of which a part has been forgotten, a part is buffered, and a part has not
been taken yet. -/
structure Scanner (α : Type) where
  /-- The number of items forgotten. -/
  committed : Nat
  /-- The items that can be gone back to, and those that were looked at ahead. -/
  buffer : Array α
  /-- The number of items of the buffer that were passed; one more if the end was passed too. -/
  passed : Nat
  /-- The items not taken from the source yet. -/
  source : List α
  passed_le : passed ≤ buffer.size + 1 := by omega

namespace Scanner

/-- A scanner before the first item of a source. -/
def ofList (source : List α) : Scanner α where
  committed := 0
  buffer := #[]
  passed := 0
  source := source

/-- The items that are still to come. -/
def unread (s : Scanner α) : List α := (s.buffer.toList ++ s.source).drop s.passed

/-! ### Places -/

/-- The position of the scanner. -/
def position (s : Scanner α) : Int := s.passed - 1

/-- The item that the scanner is on, which is the last one read. -/
def current? (s : Scanner α) : Option α :=
  match s.passed with
  | 0 => none
  | passed + 1 => s.buffer[passed]?

/-- The column of the next item in the source, counted from one. -/
def column (s : Scanner α) : Nat := s.committed + min s.passed s.buffer.size + 1

/-- Moves to a position in the buffer, if there is such a position, and tells whether there is. -/
def moveTo (position : Int) (s : Scanner α) : Bool × Scanner α :=
  if h : -1 ≤ position ∧ position ≤ s.buffer.size then
    (true, { s with passed := (position + 1).toNat, passed_le := by omega })
  else (false, s)

/-- Forgets all that was read.  It cannot be gone back to any more. -/
def commit (s : Scanner α) : Scanner α :=
  let count := min s.passed s.buffer.size
  { s with
    committed := s.committed + count
    buffer := s.buffer.extract count s.buffer.size
    passed := 0
    passed_le := by omega }

/-! ### Reading and looking ahead -/

/-- Takes items from the source until the buffer holds `count` of them or the source ends. -/
def fill (count : Nat) (s : Scanner α) : Scanner α :=
  let missing := count - s.buffer.size
  { s with
    buffer := s.buffer ++ (s.source.take missing).toArray
    source := s.source.drop missing
    passed_le := by
      have := s.passed_le
      simp only [Array.size_append]
      omega }

/-- Passes one more item, or the end. -/
def step (s : Scanner α) : Scanner α :=
  { s with
    passed := min (s.passed + 1) (s.buffer.size + 1)
    passed_le := by omega }

/-- Looks at the item that comes after `count` others, and stays where it is. -/
def peekNth (count : Nat) (s : Scanner α) : Option α × Scanner α :=
  let ahead := s.fill (s.passed + count + 1)
  (ahead.buffer[s.passed + count]?, ahead)

/-- Looks at the next item, and stays where it is. -/
def peek (s : Scanner α) : Option α × Scanner α := s.peekNth 0

/-- Reads the next item. -/
def next (s : Scanner α) : Option α × Scanner α :=
  let (item, ahead) := s.peek
  (item, ahead.step)

/-! ### Reading what is expected -/

/-- Reads the next item if it is of a kind, and otherwise stays where it is. -/
def acceptIf (p : α → Bool) (s : Scanner α) : Option α × Scanner α :=
  match s.peek with
  | (some item, ahead) => if p item then (some item, ahead.step) else (none, ahead)
  | (none, ahead) => (none, ahead)

/-- Reads the next item if it is the given one. -/
def accept [BEq α] (expected : α) (s : Scanner α) : Option α × Scanner α :=
  s.acceptIf (· == expected)

/-- Reads the next item if it is one of the given ones. -/
def acceptAny [BEq α] (expected : List α) (s : Scanner α) : Option α × Scanner α :=
  s.acceptIf fun item => expected.contains item

/-- Taking items into the buffer does not change what is to come. -/
theorem unread_fill (count : Nat) (s : Scanner α) : (s.fill count).unread = s.unread := by
  simp [unread, fill]

/-- An accepted item is no longer to come. -/
theorem unread_length_of_acceptIf {p : α → Bool} {s after : Scanner α} {item : α}
    (accepted : s.acceptIf p = (some item, after)) :
    after.unread.length < s.unread.length := by
  unfold acceptIf at accepted
  split at accepted
  next found ahead peeked =>
    simp only [peek, peekNth, Nat.add_zero, Prod.mk.injEq] at peeked
    obtain ⟨present, rfl⟩ := peeked
    obtain ⟨inBuffer, -⟩ := Array.getElem?_eq_some_iff.mp present
    split at accepted
    · obtain ⟨-, rfl⟩ := Prod.mk.inj accepted
      rw [← unread_fill (s.passed + 1) s]
      have same : (s.fill (s.passed + 1)).passed = s.passed := rfl
      simp only [unread, step, List.length_drop, List.length_append, Array.length_toList]
      omega
    · simp at accepted
  next => simp at accepted

/-- Reads the longest run of items of a kind. -/
def takeWhile (p : α → Bool) (s : Scanner α) : List α × Scanner α :=
  match accepted : s.acceptIf p with
  | (some item, after) =>
    have := unread_length_of_acceptIf accepted
    let (items, last) := after.takeWhile p
    (item :: items, last)
  | (none, after) => ([], after)
termination_by s.unread.length

/-- Reads the longest run of the given items, and tells whether there were any. -/
def skipAll [BEq α] (expected : List α) (s : Scanner α) : Bool × Scanner α :=
  let (items, after) := s.takeWhile fun item => expected.contains item
  (!items.isEmpty, after)

end Scanner

end Formula
