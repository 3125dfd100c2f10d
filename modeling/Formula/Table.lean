import Formula.Expr.Value
import Formula.Grid
import Formula.Parse

/-!
# Tables of values

A table lists the value of an expression at every point of a grid.  Where the expression has no
value, the cell keeps the reason.

## Main definitions

* `Cell`, `Table` — the outcome at one point, and at all points of a grid
* `Table.get?` — the value at a point
* `Table.text` — the table as lines
* `tabulate` — the table of a written expression
-/

namespace Formula

/-- A point and what an expression gives there. -/
structure Cell (V : Type) where
  point : Point
  outcome : Except ArithmeticError V

/-- What an expression gives at the points of a grid. -/
structure Table (V : Type) where
  cells : List (Cell V)

namespace Cell

variable {V W : Type}

/-- The value in the cell, if there is one. -/
def value? (c : Cell V) : Option V := c.outcome.toOption

/-- The cell with its value replaced. -/
def map (f : V → W) (c : Cell V) : Cell W := ⟨c.point, f <$> c.outcome⟩

/-- The line of a cell whose values are texts. -/
def line (c : Cell String) : String :=
  "\tf(x = " ++ toString c.point.x ++ ", y = " ++ toString c.point.y ++ ", z = " ++
    toString c.point.z ++ ") = " ++ c.value?.getD "null" ++ "\n"

end Cell

namespace Table

variable {V W : Type}

/-- The outcomes of an expression at the points of a box. -/
def ofExpr (d : Domain V) (e : Expr V) (bounds : Bounds) : Table V :=
  ⟨bounds.points.map fun p => ⟨p, e.value d p⟩⟩

/-- The value at a point, if the point has a cell and the cell a value. -/
def get? (t : Table V) (p : Point) : Option V :=
  (t.cells.find? fun c => c.point = p).bind Cell.value?

/-- The table with all values replaced. -/
def map (f : V → W) (t : Table V) : Table W := ⟨t.cells.map (Cell.map f)⟩

/-- The lines of a table whose values are texts. -/
def text (t : Table String) : String := String.join (t.cells.map Cell.line)

end Table

/-- The table of a written expression over a box. -/
def tabulate {V : Type} (d : Domain V) (text : String) (bounds : Bounds) :
    Except ParseError (Table V) :=
  (parse d text).map fun e => Table.ofExpr d e bounds

end Formula
