import Formula.Expr.Value
import Formula.Bracketed
import Formula.Mode
import Formula.Table

/-!
# Reports

A report shows a written expression to a user who has chosen the number system by its mode: both
written forms of the expression, and its values as texts.

## Main definitions

* `Report` — the written forms and the table
* `report`, `reportMode` — the report on a text in a number system or in a mode
-/

namespace Formula

/-- What is shown about an expression. -/
structure Report where
  /-- The form with brackets around every operator on two operands. -/
  full : String
  /-- The form with only the brackets that are needed. -/
  minimal : String
  /-- The values as texts. -/
  table : Table String

/-- The report on an expression over a box. -/
def Report.ofExpr {V : Type} (d : Domain V) (e : Expr V) (bounds : Bounds) : Report where
  full := e.fullText d.text
  minimal := e.minimalText d.text
  table := (Table.ofExpr d e bounds).map d.text

/-- The report on a written expression over a box. -/
def report {V : Type} (d : Domain V) (text : String) (bounds : Bounds) :
    Except ParseError Report :=
  (parse d text).map fun e => Report.ofExpr d e bounds

/-- The report on a written expression in the number system of a mode. -/
def reportMode (mode : Mode) (text : String) (bounds : Bounds) : Except ParseError Report :=
  report mode.domain text bounds

end Formula
