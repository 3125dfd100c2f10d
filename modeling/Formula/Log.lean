import Formula.Table
import Formula.Text.Quoted

/-!
# Log records

Tabulating a written expression leaves a trail: one record about the reading of the text, and one
for every point without a value.

## Main definitions

* `LogRecord`, `LogRecord.text` — the records and their lines
* `Table.records` — the records about the cells of a table
* `tabulateLog` — the records of a whole run
-/

namespace Formula

/-- One event in the run of a table. -/
inductive LogRecord where
  /-- A text was read as an expression with so many nodes. -/
  | parsed (text : String) (size : Nat)
  /-- A text was refused. -/
  | refused (text : String) (error : ParseError)
  /-- The expression has no value at a point. -/
  | noValue (point : Point) (error : ArithmeticError)
  deriving DecidableEq

/-- A message on one line: a blank stands for each line break. -/
def onOneLine (message : String) : String :=
  String.ofList (message.toList.map fun c => if c = '\n' then ' ' else c)

/-- The line of a record: its level and its message. -/
def LogRecord.text : LogRecord → String
  | parsed text size => "DEBUG parsed " ++ quoted text ++ " into " ++ toString size ++ " nodes"
  | refused text error => "DEBUG failed to parse " ++ quoted text ++ ": " ++ onOneLine error.message
  | noValue point error =>
      "TRACE f(" ++ toString point.x ++ ", " ++ toString point.y ++ ", " ++ toString point.z ++
        ") has no value: " ++ error.message

variable {V : Type}

/-- The record about a cell, if it has no value. -/
def Cell.record? (c : Cell V) : Option LogRecord :=
  match c.outcome with
  | .ok _ => none
  | .error error => some (.noValue c.point error)

/-- The records about the cells without a value, in the order of the cells. -/
def Table.records (t : Table V) : List LogRecord := t.cells.filterMap Cell.record?

/-- The records of tabulating a written expression over a box. -/
def tabulateLog (d : Domain V) (text : String) (bounds : Bounds) : List LogRecord :=
  match parse d text with
  | .ok e => .parsed text e.size :: (Table.ofExpr d e bounds).records
  | .error error => [.refused text error]

end Formula
