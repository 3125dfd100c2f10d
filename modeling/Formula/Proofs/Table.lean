import Formula.Domain.CheckedInt
import Formula.Log
import Formula.Proofs.Grid

/-!
# Tables cover their grid

The table of an expression over a box has one cell for each point of the box, in lexicographic
order.  A cell holds the value of the expression at its point, and is empty where there is none.
The log of the run tells the same story: behind the record about the reading of the text stands one
record for each empty cell, in the order of the cells, with the reason why it is empty.

## Main definitions

* `Reported` — a record tells why a cell is empty

## Main statements

* `Table.get?_ofExpr` — looking up a point finds its cell, and none outside the box
* `Table.reported_records` — the records follow the empty cells
* `tabulate_covers_grid` — the table and the log of a written expression
-/

namespace Formula

variable {V : Type} {d : Domain V} {e : Expr V} {bounds : Bounds} {p : Point}

/-- A record tells why the expression has no value at the point of a cell. -/
def Reported (d : Domain V) (e : Expr V) (c : Cell V) (r : LogRecord) : Prop :=
  ∃ error, e.value d c.point = .error error ∧ r = .noValue c.point error

namespace Table

/-! ### Cells -/

/-- There is a cell for each point of the box. -/
theorem map_point_cells (d : Domain V) (e : Expr V) (bounds : Bounds) :
    (ofExpr d e bounds).cells.map Cell.point = bounds.points := by
  rw [ofExpr, List.map_map]
  exact List.map_id' bounds.points

/-- A cell holds what the expression gives at its point. -/
theorem outcome_of_mem_cells {c : Cell V} (member : c ∈ (ofExpr d e bounds).cells) :
    c.outcome = e.value d c.point := by
  obtain ⟨p, -, rfl⟩ := List.mem_map.mp member
  rfl

/-- A cell has a value exactly if the expression has this value at its point. -/
theorem value?_eq_some_iff {c : Cell V} (member : c ∈ (ofExpr d e bounds).cells) {v : V} :
    c.value? = some v ↔ e.value d c.point = .ok v := by
  rw [Cell.value?, outcome_of_mem_cells member]
  cases e.value d c.point <;> simp [Except.toOption]

/-- A cell is empty exactly if the expression has no value at its point. -/
theorem value?_eq_none_iff {c : Cell V} (member : c ∈ (ofExpr d e bounds).cells) :
    c.value? = none ↔ ∃ error, e.value d c.point = .error error := by
  rw [Cell.value?, outcome_of_mem_cells member]
  cases e.value d c.point <;> simp [Except.toOption]

/-! ### Looking up -/

/-- Where a point is looked up, the outcome at this point is found if the box holds it, and nothing
is found otherwise. -/
theorem get?_ofExpr (d : Domain V) (e : Expr V) (bounds : Bounds) (p : Point) :
    (ofExpr d e bounds).get? p =
      if bounds.Contains p then (e.value d p).toOption else none := by
  rw [get?]
  cases found : (ofExpr d e bounds).cells.find? (fun c => c.point = p) with
  | none =>
      have outside : ¬ bounds.Contains p := by
        intro inside
        have member : ⟨p, e.value d p⟩ ∈ (ofExpr d e bounds).cells :=
          List.mem_map_of_mem (Bounds.mem_points_iff.mpr inside)
        simpa using List.find?_eq_none.mp found _ member
      rw [if_neg outside]
      rfl
  | some c =>
      have member := List.mem_of_find?_eq_some found
      obtain rfl : c.point = p := by simpa using List.find?_some found
      have inside : c.point ∈ bounds.points :=
        map_point_cells d e bounds ▸ List.mem_map_of_mem member
      rw [if_pos (Bounds.mem_points_iff.mp inside), Option.bind_some, Cell.value?,
        outcome_of_mem_cells member]

/-- What is found at a point is the value of the expression there. -/
theorem get?_eq_some_iff {v : V} :
    (ofExpr d e bounds).get? p = some v ↔ bounds.Contains p ∧ e.value d p = .ok v := by
  rw [get?_ofExpr]
  cases e.value d p <;> simp [Except.toOption]

/-! ### Records -/

/-- The records follow the empty cells one by one. -/
theorem reported_records {cells : List (Cell V)}
    (outcomes : ∀ c ∈ cells, c.outcome = e.value d c.point) :
    List.Forall₂ (Reported d e) (cells.filter fun c => c.value?.isNone)
      (Table.mk cells).records := by
  induction cells with
  | nil => exact .nil
  | cons c cells ih =>
      have others := ih fun c member => outcomes c (.tail _ member)
      have outcome := outcomes c (.head _)
      cases value : e.value d c.point with
      | ok v =>
          rw [value] at outcome
          simpa [records, Cell.value?, Cell.record?, outcome, Except.toOption] using others
      | error error =>
          rw [value] at outcome
          have reported : Reported d e c (.noValue c.point error) := ⟨error, value, rfl⟩
          simpa [records, Cell.value?, Cell.record?, outcome, Except.toOption] using
            List.Forall₂.cons reported others

end Table

/-- **Tables cover their grid.**  The cells of the table of a written expression stand at exactly
the points of the box, each once and in lexicographic order.  A cell holds the value of the
expression at its point and is empty where it has none, and a point is looked up with the same
result.  The log has one record about the text and then one for each empty cell, in order, with its
point and the reason. -/
theorem tabulate_covers_grid {text : String} (read : parse d text = .ok e) (bounds : Bounds) :
    ∃ table, tabulate d text bounds = .ok table ∧
      (∀ p, p ∈ table.cells.map Cell.point ↔ bounds.Contains p) ∧
      (table.cells.map Cell.point).Nodup ∧
      (table.cells.map Cell.point).Pairwise Point.Before ∧
      table.cells.length = bounds.x.length * bounds.y.length * bounds.z.length ∧
      (∀ c ∈ table.cells, (∀ v, c.value? = some v ↔ e.value d c.point = .ok v) ∧
        (c.value? = none ↔ ∃ error, e.value d c.point = .error error)) ∧
      (∀ p v, table.get? p = some v ↔ bounds.Contains p ∧ e.value d p = .ok v) ∧
      ∃ records, tabulateLog d text bounds = .parsed text e.size :: records ∧
        List.Forall₂ (Reported d e) (table.cells.filter fun c => c.value?.isNone) records := by
  have points := Table.map_point_cells d e bounds
  refine ⟨Table.ofExpr d e bounds, by rw [tabulate, read]; rfl, ?_, ?_, ?_, ?_, ?_, ?_, ?_⟩
  · intro p
    rw [points, Bounds.mem_points_iff]
  · rw [points]
    exact bounds.nodup_points
  · rw [points]
    exact bounds.pairwise_points
  · rw [← bounds.length_points, ← points, List.length_map]
  · intro c member
    exact ⟨fun v => Table.value?_eq_some_iff member, Table.value?_eq_none_iff member⟩
  · exact fun p v => Table.get?_eq_some_iff
  · exact ⟨(Table.ofExpr d e bounds).records, by rw [tabulateLog, read],
      Table.reported_records fun c member => Table.outcome_of_mem_cells member⟩

/-- A box of four points that ends at the greatest coordinate, with an empty cell in front. -/
theorem tabulate_covers_grid_at_greatest :
    parse checkedInt "z / x" = .ok (.binary .divide (.var .z) (.var .x)) ∧
      ∃ table, tabulate checkedInt "z / x" ⟨⟨0, 1⟩, ⟨7, 7⟩, ⟨2147483646, 2147483647⟩⟩ = .ok table ∧
        table.cells.length = 4 ∧ table.get? ⟨1, 7, 2147483647⟩ = some 2147483647 := by
  have read : parse checkedInt "z / x" = .ok (.binary .divide (.var .z) (.var .x)) := rfl
  obtain ⟨table, found, -, -, -, length, -, lookup, -⟩ :=
    tabulate_covers_grid read ⟨⟨0, 1⟩, ⟨7, 7⟩, ⟨2147483646, 2147483647⟩⟩
  exact ⟨read, table, found, length, (lookup _ _).mpr ⟨by decide, by rfl⟩⟩

end Formula
