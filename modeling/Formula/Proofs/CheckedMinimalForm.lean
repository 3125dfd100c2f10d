import Formula.Proofs.Overflow
import Formula.Proofs.Regrouping

/-!
# The minimal form over checked integers

Regrouping keeps the values of an expression over integers that wrap around, but over checked
integers it changes which intermediate results there are, and one of those may be outside the range
where none was before: `x + (y - z)` has a value where `x + y` overflows.

That is the only way in which the results can differ.  Checked evaluation that does not overflow
agrees with evaluation that wraps around, in its value as well as in a division by zero, and the
latter has the same result for both expressions.

## Main definitions

* `Expr.Overflows` — checked evaluation overflows
* `SameKind` — the same value, or an error of the same kind

## Main statements

* `Expr.checkedInt_value_regrouped` — without an overflow the results are the same
* `Expr.sameKind_minimalText_iff` — when the minimal form keeps the result
* `Expr.not_sameKind_minimalText` — it does not always
-/

namespace Formula

/-- Two results are the same value, or errors of the same kind. -/
inductive SameKind {V : Type} : Except ArithmeticError V → Except ArithmeticError V → Prop
  | value (x : V) : SameKind (.ok x) (.ok x)
  | overflow (operation operation' : Operation) :
      SameKind (.error (.overflow operation)) (.error (.overflow operation'))
  | divisionByZero (operation operation' : Operation) :
      SameKind (.error (.divisionByZero operation)) (.error (.divisionByZero operation'))

theorem SameKind.refl {V : Type} (result : Except ArithmeticError V) : SameKind result result := by
  cases result with
  | ok x => exact .value x
  | error error =>
      cases error with
      | overflow operation => exact .overflow operation operation
      | divisionByZero operation => exact .divisionByZero operation operation

namespace Expr

variable {p : Point} {t t' : Expr Int32}

/-- Checked evaluation overflows. -/
def Overflows (p : Point) (t : Expr Int32) : Prop :=
  ∃ operation, t.value checkedInt p = .error (.overflow operation)

/-- Without an overflow, checked evaluation has the result of evaluation that wraps around. -/
theorem value_uncheckedInt_of_not_overflows (noOverflow : ¬t.Overflows p) :
    t.value uncheckedInt p = t.value checkedInt p := by
  cases verdict p t with
  | exact x checked _ unchecked _ => rw [checked, unchecked]
  | divisionByZero checked _ unchecked _ _ => rw [checked, unchecked]
  | overflow checked _ _ => exact absurd ⟨_, checked⟩ noOverflow

/-- **Without an overflow nothing changes.**  Where checked evaluation overflows neither for an
expression nor for what its minimal form is read as, both have the same value or the same error. -/
theorem checkedInt_value_regrouped (noOverflow : ¬t.Overflows p)
    (noOverflow' : ¬t.regrouped.Overflows p) :
    t.regrouped.value checkedInt p = t.value checkedInt p :=
  calc t.regrouped.value checkedInt p
      = t.regrouped.value uncheckedInt p := (value_uncheckedInt_of_not_overflows noOverflow').symm
    _ = t.value uncheckedInt p :=
        sameValues_readAfter uncheckedInt_isIntegersModulo t .whole .start trivial p
    _ = t.value checkedInt p := value_uncheckedInt_of_not_overflows noOverflow

/-- Only an overflow is of the kind of an overflow. -/
theorem overflows_iff_of_sameKind
    (sameKind : SameKind (t'.value checkedInt p) (t.value checkedInt p)) :
    t'.Overflows p ↔ t.Overflows p := by
  rw [Overflows, Overflows]
  generalize t'.value checkedInt p = result' at sameKind
  generalize t.value checkedInt p = result at sameKind
  cases sameKind with
  | value x => exact Iff.rfl
  | overflow operation operation' => exact ⟨fun _ => ⟨operation', rfl⟩, fun _ => ⟨operation, rfl⟩⟩
  | divisionByZero operation operation' => simp

/-- **When the minimal form keeps the result.**  What the minimal form of an expression is read as
has over checked integers the same value, or an error of the same kind, exactly where both
expressions overflow or neither does. -/
theorem sameKind_minimalText_iff
    (found : parse checkedInt (t.minimalText checkedInt.text) = .ok t') (p : Point) :
    SameKind (t'.value checkedInt p) (t.value checkedInt p) ↔
      (t'.Overflows p ↔ t.Overflows p) := by
  have reading := @parse_minimalText_eq .checkedInt (by decide) t fun _ _ => trivial
  obtain rfl : t.regrouped = t' := by
    split at reading
    next => exact Except.ok.inj (reading.symm.trans found)
    next =>
      obtain ⟨position, refused⟩ := reading
      cases refused.symm.trans found
  refine ⟨overflows_iff_of_sameKind, fun both => ?_⟩
  by_cases overflows : t.Overflows p
  · obtain ⟨operation, overflow⟩ := overflows
    obtain ⟨operation', overflow'⟩ := both.mpr ⟨operation, overflow⟩
    rw [overflow, overflow']
    exact .overflow operation' operation
  · rw [checkedInt_value_regrouped overflows fun overflows' => overflows (both.mp overflows')]
    exact .refl _

/-- A difference of small numbers that loses its brackets behind a sum. -/
theorem sameKind_minimalText_iff_small :
    parse checkedInt (minimalText checkedInt.text
        (.binary .add (.var .x) (.binary .subtract (.var .y) (.const 3)))) =
          .ok (.binary .subtract (.binary .add (.var .x) (.var .y)) (.const 3)) ∧
      (SameKind
          (value checkedInt ⟨1, 2, 0⟩
            (.binary .subtract (.binary .add (.var .x) (.var .y)) (.const 3)))
          (value checkedInt ⟨1, 2, 0⟩
            (.binary .add (.var .x) (.binary .subtract (.var .y) (.const 3)))) ↔
        (Overflows ⟨1, 2, 0⟩ (.binary .subtract (.binary .add (.var .x) (.var .y)) (.const 3)) ↔
          Overflows ⟨1, 2, 0⟩ (.binary .add (.var .x) (.binary .subtract (.var .y) (.const 3))))) :=
  ⟨rfl, sameKind_minimalText_iff rfl ⟨1, 2, 0⟩⟩

/-- **The minimal form can lose the value.**  The minimal form of `x + (y - z)` is read as
`x + y - z`, and with the greatest integer for `x` and one for `y` and `z` only the former has a
value. -/
theorem not_sameKind_minimalText :
    ¬∀ (t t' : Expr Int32) (p : Point),
      parse checkedInt (t.minimalText checkedInt.text) = .ok t' →
        SameKind (t'.value checkedInt p) (t.value checkedInt p) := by
  intro keeps
  have sameKind := keeps (.binary .add (.var .x) (.binary .subtract (.var .y) (.var .z)))
    (.binary .subtract (.binary .add (.var .x) (.var .y)) (.var .z)) ⟨Int32.maxValue, 1, 1⟩ rfl
  have kept : value checkedInt ⟨Int32.maxValue, 1, 1⟩
      (.binary .add (.var .x) (.binary .subtract (.var .y) (.var .z))) = .ok Int32.maxValue := rfl
  have lost : value checkedInt ⟨Int32.maxValue, 1, 1⟩
      (.binary .subtract (.binary .add (.var .x) (.var .y)) (.var .z)) =
        .error (.overflow (.binary .add 2147483647 1)) := rfl
  rw [kept, lost] at sameKind
  cases sameKind

end Expr

end Formula
