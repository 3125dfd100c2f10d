/-!
# White space and words

The white space of Unicode separates the words of a command line.  It is wider than the four
blanks that a formula may hold between its symbols.

## Main definitions

* `isWhitespace` — the twenty-five characters with the property White_Space
* `words` — the maximal runs of other characters, in order
* `isBlankLine` — lines that hold white space only
-/

namespace Formula

/-- The characters with the Unicode property White_Space. -/
def isWhitespace (c : Char) : Bool :=
  let n := c.toNat
  (0x9 ≤ n && n ≤ 0xD) || n == 0x20 || n == 0x85 || n == 0xA0 || n == 0x1680 ||
    (0x2000 ≤ n && n ≤ 0x200A) || n == 0x2028 || n == 0x2029 || n == 0x202F || n == 0x205F ||
    n == 0x3000

/-- The words of a text: its maximal nonempty runs without white space, from left to right. -/
def words (text : String) : List String :=
  ((text.toList.splitOnP isWhitespace).filter (· ≠ [])).map String.ofList

/-- Whether a line holds nothing but white space. -/
def isBlankLine (line : String) : Bool :=
  line.toList.all isWhitespace

end Formula
