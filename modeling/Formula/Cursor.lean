import Formula.Text.Alphanumeric

/-!
# Cursors

A cursor is a place in a text: how many characters lie before it, and which lie after it.  Moving
it only ever goes forward; to go back one keeps the old cursor.

## Main definitions

* `Cursor`, `Cursor.column` — a place and its column, counted from one
* `isBlank` — the characters that may stand between symbols
* `endsWord` — a word ends where no letter or digit follows
* `Cursor.accept?`, `Cursor.acceptWord?`, `Cursor.takeWhile` — moving over matching characters
-/

namespace Formula

/-- The blanks that may stand around the operands of an expression. -/
def isBlank (c : Char) : Bool :=
  c == ' ' || c == '\n' || c == '\r' || c == '\t'

/-- Whether a word may end in front of the given text: no letter or digit continues it. -/
def endsWord (rest : List Char) : Bool :=
  !(rest.head?.any isAlphanumeric)

/-- A place in a text. -/
structure Cursor where
  /-- The number of characters before the place. -/
  consumed : Nat
  /-- The characters after it. -/
  rest : List Char
  deriving DecidableEq

namespace Cursor

/-- The start of a text. -/
def start (text : List Char) : Cursor := ⟨0, text⟩

/-- The column of the next character, counted from one. -/
def column (c : Cursor) : Nat := c.consumed + 1

/-- The next character, if the text does not end here. -/
def peek? (c : Cursor) : Option Char := c.rest.head?

/-- The place after the next `n` characters. -/
def advance (c : Cursor) (n : Nat) : Cursor := ⟨c.consumed + n, c.rest.drop n⟩

/-- The place after a given character, if that is the next one. -/
def accept? (expected : Char) (c : Cursor) : Option Cursor :=
  match c.rest with
  | next :: rest => if next = expected then some ⟨c.consumed + 1, rest⟩ else none
  | [] => none

/-- The place after a given word, if the text goes on with this word and the word ends there. -/
def acceptWord? (word : List Char) (c : Cursor) : Option Cursor :=
  if word.isPrefixOf c.rest && endsWord (c.rest.drop word.length) then
    some (c.advance word.length)
  else none

/-- The longest run of characters of a kind, and the place after it. -/
def takeWhile (p : Char → Bool) (c : Cursor) : List Char × Cursor :=
  let run := c.rest.takeWhile p
  (run, c.advance run.length)

/-- The place after all blanks that come next. -/
def skipBlanks (c : Cursor) : Cursor := (c.takeWhile isBlank).2

end Cursor

end Formula
