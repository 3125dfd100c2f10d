import Formula.Proofs.Number.Integer
import Formula.Proofs.Table
import Formula.Session

/-!
# Reports show what tables hold

A user chooses the number system by its mode and is shown texts.  The report on an expression is
made from the same reading of the text as its table in that number system, and shows it cell by
cell.  A session answers a line with the report over a box that holds the current point only, and
looks this point up again; what it shows is the value of the expression there.

A missing value is shown by a word.  No value is written like this word, so the answer also tells
whether there is a value.

## Main definitions

* `Report.Shows` — a report shows an expression and its table

## Main statements

* `Table.get?_map` — a value is found in the shown table as it is in the table itself
* `Mode.text_ne_null` — no value is shown as missing
* `reportMode_shows_tabulate` — reports and answers agree with tables and values
-/

namespace Formula

/-! ### Shown tables -/

section Shown

variable {V W : Type}

theorem Cell.value?_map (f : V → W) (c : Cell V) : (c.map f).value? = c.value?.map f := by
  obtain ⟨point, outcome⟩ := c
  cases outcome <;> rfl

namespace Table

/-- A shown table has the points of the table itself, in their order. -/
theorem map_point_map (f : V → W) (t : Table V) :
    (t.map f).cells.map Cell.point = t.cells.map Cell.point := by
  rw [map, List.map_map]
  rfl

/-- A shown table has the values of the table itself, cell by cell. -/
theorem forall₂_map (f : V → W) (t : Table V) :
    List.Forall₂ (fun shown c => shown.point = c.point ∧ shown.value? = c.value?.map f)
      (t.map f).cells t.cells := by
  rw [map, List.forall₂_map_left_iff]
  exact List.forall₂_same.mpr fun c _ => ⟨rfl, c.value?_map f⟩

/-- Where a point is looked up in a shown table, the value of the table itself is shown. -/
theorem get?_map (f : V → W) (t : Table V) (p : Point) :
    (t.map f).get? p = (t.get? p).map f := by
  have samePoint : (fun c : Cell W => decide (c.point = p)) ∘ Cell.map f =
      fun c : Cell V => decide (c.point = p) := rfl
  rw [get?, get?, map, List.find?_map, samePoint]
  cases t.cells.find? fun c => c.point = p with
  | none => rfl
  | some c => exact c.value?_map f

end Table

end Shown

/-! ### Texts of values -/

/-- A text with a digit in it is not the word for a missing value. -/
theorem ne_null_of_isDigit {text : String} (digit : ∃ c ∈ text.toList, c.isDigit) :
    text ≠ "null" := by
  rintro rfl
  obtain ⟨c, member, isDigit⟩ := digit
  have noDigit : "null".toList.any Char.isDigit = false := rfl
  exact List.any_eq_false.mp noDigit c member isDigit

/-- An integer is written with digits. -/
theorem exists_isDigit_toString (i : Int) : ∃ c ∈ (toString i).toList, c.isDigit := by
  obtain ⟨sign, digits, split, decimal⟩ := exists_isDecimal i
  obtain ⟨c, others, rfl, isDigit, -⟩ := decimal.exists_cons
  exact ⟨c, split ▸ List.mem_append_right sign List.mem_cons_self, isDigit⟩

/-- A decimal is written with the digits of its coefficient. -/
theorem Decimal.exists_isDigit_positional (d : Decimal) :
    ∃ c ∈ d.positional.toList, c.isDigit := by
  obtain ⟨c, member, isDigit⟩ := exists_isDigit_toString d.coefficient
  refine ⟨c, ?_, isDigit⟩
  unfold positional
  split
  next =>
    rw [String.toList_ofList]
    exact List.mem_append_left _ member
  next =>
    -- The point splits the digits in two, and the one digit is on either side of it.
    extract_lets digits places padded whole
    have padded_eq : padded.take whole ++ padded.drop whole = padded := List.take_append_drop _ _
    have inPadded : c ∈ padded.take whole ++ padded.drop whole := by
      rw [padded_eq]
      exact List.mem_append_right _ member
    rw [String.toList_ofList]
    rcases List.mem_append.mp inPadded with before | behind
    · exact List.mem_append_left _ before
    · exact List.mem_append_right _ (List.mem_cons_of_mem _ behind)

/-- No double is written like the word for a missing value. -/
theorem Floating.text_ne_null (x : Float) : Floating.text x ≠ "null" := by
  unfold Floating.text
  generalize x.toModel.unpack = unpacked
  cases unpacked with
  | notANumber => decide
  | infinity sign => cases sign <;> decide
  | zero sign => cases sign <;> decide
  | finite sign m e positive =>
      obtain ⟨c, member, isDigit⟩ := (shortestDecimal m e).exists_isDigit_positional
      refine ne_null_of_isDigit ⟨c, ?_, isDigit⟩
      rw [String.toList_append]
      exact List.mem_append_right _ member

/-- **No value is written like the word for a missing value.** -/
theorem Mode.text_ne_null (mode : Mode) (value : mode.Value) : mode.domain.text value ≠ "null" := by
  cases mode with
  | float => exact Floating.text_ne_null value
  | bigInteger => exact ne_null_of_isDigit (exists_isDigit_toString value)
  | checkedInt | uncheckedInt | modularInt =>
      exact ne_null_of_isDigit (exists_isDigit_toString (Int32.toInt value))
  | byte => exact ne_null_of_isDigit (exists_isDigit_toString (Int8.toInt value))

/-! ### Reports -/

section Reports

variable {V : Type} {d : Domain V} {e : Expr V}

/-- A report shows an expression in both written forms, and a table of its values at the same points
in the same order, each as a text or as missing. -/
structure Report.Shows (d : Domain V) (e : Expr V) (table : Table V) (r : Report) : Prop where
  full : r.full = e.fullText d.text
  minimal : r.minimal = e.minimalText d.text
  points : r.table.cells.map Cell.point = table.cells.map Cell.point
  values : List.Forall₂
    (fun shown c => shown.point = c.point ∧ shown.value? = c.value?.map d.text)
    r.table.cells table.cells
  lookup (p : Point) : r.table.get? p = (table.get? p).map d.text

theorem Report.shows_ofExpr (d : Domain V) (e : Expr V) (bounds : Bounds) :
    (Report.ofExpr d e bounds).Shows d e (Table.ofExpr d e bounds) where
  full := rfl
  minimal := rfl
  points := Table.map_point_map d.text _
  values := Table.forall₂_map d.text _
  lookup := Table.get?_map d.text _

/-- The box of a single point holds this point, whatever its coordinates are. -/
theorem Bounds.contains_single (p : Point) : (Bounds.single p).Contains p :=
  ⟨⟨Int32.le_refl _, Int32.le_refl _⟩, ⟨Int32.le_refl _, Int32.le_refl _⟩,
    Int32.le_refl _, Int32.le_refl _⟩

/-- Over the box of a single point a report shows the value there. -/
theorem Report.get?_ofExpr_single (d : Domain V) (e : Expr V) (p : Point) :
    (Report.ofExpr d e (.single p)).table.get? p = (e.value d p).toOption.map d.text := by
  rw [(Report.shows_ofExpr d e (.single p)).lookup, Table.get?_ofExpr,
    if_pos (Bounds.contains_single p)]

end Reports

/-! ### Answers -/

/-- How a value is shown in an answer. -/
def shownValue {V : Type} (d : Domain V) (outcome : Except ArithmeticError V) : String :=
  (outcome.toOption.map d.text).getD "null"

/-- A value is shown as missing exactly if there is none. -/
theorem shownValue_eq_null_iff (mode : Mode) (outcome : Except ArithmeticError mode.Value) :
    shownValue mode.domain outcome = "null" ↔ ∃ error, outcome = .error error := by
  cases outcome with
  | ok value => exact iff_of_false (mode.text_ne_null value) (by simp)
  | error error => exact iff_of_true rfl ⟨error, rfl⟩

namespace Session

/-- A line that is no command is valued. -/
theorem respond_eq_value (s : Session) {line : String} (noColon : line.toList.head? ≠ some ':') :
    s.respond line = (s.value line, s) := by
  unfold respond
  split
  next text start => exact absurd (by rw [start]; rfl) noColon
  next => rfl

/-- What is answered to an expression. -/
theorem value_eq (s : Session) (line : String) :
    s.value line =
      match parse s.mode.domain line with
      | .ok e => .ok (e.fullText s.mode.domain.text ++ "\n" ++ e.minimalText s.mode.domain.text ++
          "\n= " ++ shownValue s.mode.domain (e.value s.mode.domain s.point))
      | .error error => .error (.parse error) := by
  rw [value, reportMode, report]
  cases parse s.mode.domain line with
  | error error => rfl
  | ok e =>
      show Except.ok (_ ++ (Option.getD _ _)) = _
      rw [Report.get?_ofExpr_single]
      rfl

end Session

/-- **Reports and answers agree with tables and values.**  A report in a mode fails exactly if the
text is refused in the number system of the mode, with the same error.  Otherwise it shows the
expression that was read and its table.  A line of a session that is no command is refused exactly
if it is no expression in the current mode, with a message that tells so.  Otherwise both written
forms are answered and the value at the current point, or that there is none. -/
theorem reportMode_shows_tabulate :
    (∀ (mode : Mode) (text : String) (bounds : Bounds),
      (∀ error, reportMode mode text bounds = .error error ↔
        parse mode.domain text = .error error) ∧
      ∀ e, parse mode.domain text = .ok e →
        ∃ r table, reportMode mode text bounds = .ok r ∧
          tabulate mode.domain text bounds = .ok table ∧ r.Shows mode.domain e table) ∧
    ∀ (s : Session) (line : String), line.toList.head? ≠ some ':' →
      (∀ error, (s.respond line).1 = .error error ↔
        ∃ cause, parse s.mode.domain line = .error cause ∧ error = .parse cause ∧
          error.message = "Parse error: " ++ cause.message) ∧
      ∀ e, parse s.mode.domain line = .ok e →
        ∃ shown, (s.respond line).1 = .ok (e.fullText s.mode.domain.text ++ "\n" ++
            e.minimalText s.mode.domain.text ++ "\n= " ++ shown) ∧
          (∀ v, e.value s.mode.domain s.point = .ok v → shown = s.mode.domain.text v) ∧
          (shown = "null" ↔ ∃ error, e.value s.mode.domain s.point = .error error) := by
  refine ⟨fun mode text bounds => ?_, fun s line noColon => ?_⟩
  · rw [reportMode, report, tabulate]
    cases parse mode.domain text with
    | error error => exact ⟨fun _ => by simp [Except.map], fun e read => by cases read⟩
    | ok e =>
        refine ⟨fun _ => by simp [Except.map], fun e' read => ?_⟩
        obtain rfl := Except.ok.inj read
        exact ⟨_, _, rfl, rfl, Report.shows_ofExpr mode.domain e bounds⟩
  · rw [s.respond_eq_value noColon, Session.value_eq]
    cases parse s.mode.domain line with
    | error cause =>
        refine ⟨fun error => ⟨?_, ?_⟩, fun e read => by cases read⟩
        · rintro ⟨⟩
          exact ⟨cause, rfl, rfl, rfl⟩
        · rintro ⟨_, ⟨⟩, rfl, -⟩
          rfl
    | ok e =>
        refine ⟨fun error => iff_of_false (by simp) (by simp), fun e' read => ?_⟩
        obtain rfl := Except.ok.inj read
        refine ⟨_, rfl, fun v valued => ?_, shownValue_eq_null_iff s.mode _⟩
        rw [valued]
        rfl

/-- At the greatest coordinate a sum is shown as missing, and one below it as the greatest
integer. -/
example :
    ((Session.mk .checkedInt ⟨2147483647, 0, 0⟩).answer "x+1").1 = "(x + 1)\nx + 1\n= null" ∧
      ((Session.mk .checkedInt ⟨2147483646, 0, 0⟩).answer "x+1").1 =
        "(x + 1)\nx + 1\n= 2147483647" := by
  constructor <;> rfl

end Formula
