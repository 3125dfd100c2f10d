import Formula.Expr

/-!
# Grids of points

A grid holds the points with integer coordinates in a box.

## Main definitions

* `Interval`, `Interval.values` — a closed range of one coordinate and the integers in it
* `Bounds`, `Bounds.points` — a box and the points in it, in lexicographic order
-/

namespace Formula

/-- The 32-bit integers from `first` to `last`, both included.  There are none where the ends are
the wrong way round. -/
structure Interval where
  first : Int32
  last : Int32
  deriving DecidableEq

namespace Interval

/-- The number of integers in the interval. -/
def length (i : Interval) : Nat := (i.last.toInt - i.first.toInt + 1).toNat

/-- The integers in the interval, in ascending order. -/
def values (i : Interval) : List Int32 :=
  (List.range i.length).map fun (offset : Nat) => Int32.ofInt (i.first.toInt + offset)

end Interval

/-- A box: the interval of each coordinate. -/
structure Bounds where
  x : Interval
  y : Interval
  z : Interval
  deriving DecidableEq

namespace Bounds

/-- The box with the same interval for every coordinate. -/
def cube (first last : Int32) : Bounds := ⟨⟨first, last⟩, ⟨first, last⟩, ⟨first, last⟩⟩

/-- The box that is used where none is given: all coordinates from minus two to two. -/
def standard : Bounds := cube (-2) 2

/-- The box that holds a single point. -/
def single (p : Point) : Bounds := ⟨⟨p.x, p.x⟩, ⟨p.y, p.y⟩, ⟨p.z, p.z⟩⟩

/-- The points of the box in lexicographic order: the first coordinate changes slowest. -/
def points (b : Bounds) : List Point :=
  b.x.values.flatMap fun x =>
    b.y.values.flatMap fun y =>
      b.z.values.map fun z => ⟨x, y, z⟩

end Bounds

end Formula
