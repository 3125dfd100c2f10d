import Formula.Grid
import Mathlib.Data.List.Nodup

/-!
# The points of a grid

A grid holds exactly the points of its box, each of them once and in lexicographic order.  This is
so for all ends of the intervals: for intervals that end at the greatest coordinate, for single
coordinates, and for intervals without any.

## Main definitions

* `Interval.Contains`, `Bounds.Contains` — the coordinates of an interval and the points of a box
* `Point.Before` — the lexicographic order of points

## Main statements

* `Interval.mem_values_iff`, `Interval.pairwise_values`, `Interval.length_values` — an interval is
  listed in ascending order
* `Bounds.mem_points_iff`, `Bounds.pairwise_points`, `Bounds.length_points` — a box is listed in
  lexicographic order
-/

namespace Formula

/-! ### Intervals -/

namespace Interval

/-- An integer lies between the ends of an interval, or is one of them. -/
def Contains (i : Interval) (n : Int32) : Prop := i.first ≤ n ∧ n ≤ i.last

instance (i : Interval) (n : Int32) : Decidable (i.Contains n) :=
  inferInstanceAs (Decidable (_ ∧ _))

variable {i : Interval} {n : Int32} {offset : Nat}

/-- An integer that is counted from the first one has not been wrapped around. -/
theorem toInt_offset (inside : offset < i.length) :
    (Int32.ofInt (i.first.toInt + offset)).toInt = i.first.toInt + offset := by
  have lower := i.first.le_toInt
  have upper := i.last.toInt_lt
  rw [length] at inside
  exact Int32.toInt_ofInt_of_le (by omega) (by omega)

/-- The integers of an interval are listed, and no other ones. -/
theorem mem_values_iff : n ∈ i.values ↔ i.Contains n := by
  rw [values, List.mem_map, Contains, Int32.le_iff_toInt_le, Int32.le_iff_toInt_le]
  constructor
  · rintro ⟨offset, inside, rfl⟩
    rw [List.mem_range] at inside
    rw [toInt_offset inside]
    rw [length] at inside
    omega
  · rintro ⟨lower, upper⟩
    refine ⟨(n.toInt - i.first.toInt).toNat, ?_, ?_⟩
    · rw [List.mem_range, length]
      omega
    · have reached : i.first.toInt + (n.toInt - i.first.toInt).toNat = n.toInt := by omega
      rw [reached, Int32.ofInt_toInt]

/-- The integers of an interval are listed in ascending order. -/
theorem pairwise_values (i : Interval) : i.values.Pairwise (· < ·) := by
  rw [values, List.pairwise_map]
  refine List.pairwise_lt_range.imp_of_mem ?_
  intro m n memberM memberN smaller
  rw [Int32.lt_iff_toInt_lt, toInt_offset (List.mem_range.mp memberM),
    toInt_offset (List.mem_range.mp memberN)]
  omega

@[simp] theorem length_values (i : Interval) : i.values.length = i.length := by
  rw [values, List.length_map, List.length_range]

end Interval

/-! ### Boxes -/

/-- The lexicographic order of points: `x` counts most and `z` least. -/
def Point.Before (p q : Point) : Prop :=
  p.x < q.x ∨ p.x = q.x ∧ (p.y < q.y ∨ p.y = q.y ∧ p.z < q.z)

/-- No point stands before itself. -/
theorem Point.Before.ne {p q : Point} (before : p.Before q) : p ≠ q := by
  rintro rfl
  simp [Before, Int32.lt_irrefl] at before

namespace Bounds

/-- A point lies in a box. -/
def Contains (b : Bounds) (p : Point) : Prop :=
  b.x.Contains p.x ∧ b.y.Contains p.y ∧ b.z.Contains p.z

instance (b : Bounds) (p : Point) : Decidable (b.Contains p) :=
  inferInstanceAs (Decidable (_ ∧ _))

/-- The points of a box are listed, and no other ones. -/
theorem mem_points_iff {b : Bounds} {p : Point} : p ∈ b.points ↔ b.Contains p := by
  simp only [points, List.mem_flatMap, List.mem_map, Interval.mem_values_iff]
  constructor
  · rintro ⟨x, inX, y, inY, z, inZ, rfl⟩
    exact ⟨inX, inY, inZ⟩
  · rintro ⟨inX, inY, inZ⟩
    exact ⟨p.x, inX, p.y, inY, p.z, inZ, rfl⟩

/-- The points of a box are listed in lexicographic order. -/
theorem pairwise_points (b : Bounds) : b.points.Pairwise Point.Before := by
  rw [points, List.pairwise_flatMap]
  constructor
  · intro x _
    rw [List.pairwise_flatMap]
    constructor
    · intro y _
      rw [List.pairwise_map]
      exact b.z.pairwise_values.imp fun smaller => .inr ⟨rfl, .inr ⟨rfl, smaller⟩⟩
    · refine b.y.pairwise_values.imp fun smaller p memberP q memberQ => ?_
      obtain ⟨z, -, rfl⟩ := List.mem_map.mp memberP
      obtain ⟨z', -, rfl⟩ := List.mem_map.mp memberQ
      exact .inr ⟨rfl, .inl smaller⟩
  · refine b.x.pairwise_values.imp fun smaller p memberP q memberQ => ?_
    obtain ⟨y, -, memberY⟩ := List.mem_flatMap.mp memberP
    obtain ⟨y', -, memberY'⟩ := List.mem_flatMap.mp memberQ
    obtain ⟨z, -, rfl⟩ := List.mem_map.mp memberY
    obtain ⟨z', -, rfl⟩ := List.mem_map.mp memberY'
    exact .inl smaller

/-- Every point of a box is listed once. -/
theorem nodup_points (b : Bounds) : b.points.Nodup :=
  b.pairwise_points.imp Point.Before.ne

/-- A box has as many points as the product of its intervals. -/
theorem length_points (b : Bounds) :
    b.points.length = b.x.length * b.y.length * b.z.length := by
  simp [points, List.length_flatMap, Nat.mul_assoc]

/-- The box at the greatest coordinates has eight points, and one without a coordinate has none. -/
example : (cube 2147483646 2147483647).points.length = 8 ∧ (cube 1 0).points = [] := by decide

end Bounds

end Formula
