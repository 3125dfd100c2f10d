import Formula.Cursor
import Formula.Scanner.Basic

/-!
# Scanning words

Scanners over characters recognise words and blanks.  A word that does not match leaves the scanner
where it was.

## Main definitions

* `Scanner.acceptWord` — a word that no letter or digit continues
* `Scanner.acceptLongest` — the longest of several words
* `Scanner.skipBlanks`, `Scanner.scanWhile` — runs of characters
-/

namespace Formula.Scanner

/-- Reads the given items one after the other, up to the first that does not come, and tells whether
all of them came. -/
def acceptEach {α : Type} [BEq α] : List α → Scanner α → Bool × Scanner α
  | [], s => (true, s)
  | expected :: others, s =>
    match s.accept expected with
    | (some _, after) => acceptEach others after
    | (none, after) => (false, after)

/-- Reads a word if it comes next and ends there, and tells whether it did. -/
def acceptWord (word : String) (s : Scanner Char) : Bool × Scanner Char :=
  match s.acceptEach word.toList with
  | (true, after) =>
    let (follower, ahead) := after.peek
    if follower.any isAlphanumeric then (false, (ahead.moveTo s.position).2) else (true, ahead)
  | (false, after) => (false, (after.moveTo s.position).2)

/-- Reads the first of the given words that comes next and ends there. -/
def acceptFirst : List String → Scanner Char → Option String × Scanner Char
  | [], s => (none, s)
  | word :: others, s =>
    match s.acceptWord word with
    | (true, after) => (some word, after)
    | (false, after) => acceptFirst others after

/-- The given words by falling length; words of the same length keep their order. -/
def byLength (words : List String) : List String :=
  words.mergeSort fun a b => b.length ≤ a.length

/-- Reads the longest of the given words that comes next and ends there. -/
def acceptLongest (words : List String) (s : Scanner Char) : Option String × Scanner Char :=
  s.acceptFirst (byLength words)

/-- Reads all blanks that come next, and tells whether there were any. -/
def skipBlanks (s : Scanner Char) : Bool × Scanner Char :=
  let (blanks, after) := s.takeWhile isBlank
  (!blanks.isEmpty, after)

/-- Reads the longest run of characters of a kind, as a text. -/
def scanWhile (p : Char → Bool) (s : Scanner Char) : String × Scanner Char :=
  let (run, after) := s.takeWhile p
  (String.ofList run, after)

end Formula.Scanner
