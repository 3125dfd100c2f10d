import Formula.Number.Integer

/-!
# Decimal notation is read back

An integer is written as its decimal digits, with a minus in front if it is negative.  Every way of
reading integers gives the integer back from this notation, as long as it lies in the range that is
asked for: a bound on the value is a bound on all that the digits before the last amount to.

## Main definitions

* `IsDecimal` — the decimal notation of an integer

## Main statements

* `exists_isDecimal` — integers are written in decimal notation
* `IsDecimal.readWithin_eq`, `IsDecimal.readGrouped?_eq` — which is read back
-/

namespace Formula

/-! ### Digits -/

/-- More digits only make a number greater. -/
theorem le_ofDigitChars (digits : List Char) (start : Nat) :
    start ≤ Nat.ofDigitChars 10 digits start := by
  induction digits generalizing start with
  | nil => simp
  | cons c digits ih =>
      rw [Nat.ofDigitChars_cons]
      calc start ≤ 10 * start + digitValue c := by omega
        _ ≤ Nat.ofDigitChars 10 digits (10 * start + digitValue c) := ih _

/-- Reading digits from the left leads to their number if every step that does not exceed this
number goes well.  What is kept between the steps may stand for the number so far, as `value`
says. -/
theorem foldlM_digits {step : Int → Char → Except NumberError Int} (value : Nat → Int)
    (digits : List Char) (start : Nat)
    (steps : ∀ c ∈ digits, ∀ n, 10 * n + digitValue c ≤ Nat.ofDigitChars 10 digits start →
      step (value n) c = .ok (value (10 * n + digitValue c))) :
    digits.foldlM step (value start) = .ok (value (Nat.ofDigitChars 10 digits start)) := by
  induction digits generalizing start with
  | nil => rfl
  | cons c digits ih =>
      have number : Nat.ofDigitChars 10 (c :: digits) start =
          Nat.ofDigitChars 10 digits (10 * start + digitValue c) := Nat.ofDigitChars_cons
      rw [number] at steps ⊢
      rw [List.foldlM_cons, steps c List.mem_cons_self start (le_ofDigitChars digits _)]
      exact ih _ fun x member => steps x (List.mem_cons_of_mem c member)

variable {digits : List Char} {first last : Int}

/-- Digits of a number that is not above the bound are read as this number. -/
theorem readUpTo_eq (areDigits : ∀ c ∈ digits, c.isDigit)
    (fits : (Nat.ofDigitChars 10 digits 0 : Int) ≤ last) :
    readUpTo last digits = .ok (Nat.ofDigitChars 10 digits 0 : Int) := by
  refine foldlM_digits (fun n => (n : Int)) digits 0 fun c member n below => ?_
  have inRange : 10 * (n : Int) + digitValue c ≤ last := by omega
  simp only [areDigits c member, if_true, if_pos inRange]
  rfl

/-- Digits of a number whose negation is not below the bound are read downwards as this
negation. -/
theorem readDownTo_eq (areDigits : ∀ c ∈ digits, c.isDigit)
    (fits : first ≤ -(Nat.ofDigitChars 10 digits 0 : Int)) :
    readDownTo first digits = .ok (-(Nat.ofDigitChars 10 digits 0 : Int)) := by
  -- Between the steps the negation of the number so far is kept.
  refine foldlM_digits (fun n => -(n : Int)) digits 0 fun c member n below => ?_
  have next : 10 * -(n : Int) - digitValue c = -((10 * n + digitValue c : Nat) : Int) := by omega
  have inRange : first ≤ -((10 * n + digitValue c : Nat) : Int) := by omega
  simp only [areDigits c member, if_true, next, if_pos inRange]

/-! ### Decimal notation -/

/-- The decimal notation of an integer: digits, and a minus in front of them where the integer is
the negation of their number. -/
structure IsDecimal (i : Int) (sign digits : List Char) : Prop where
  nonempty : digits ≠ []
  areDigits : ∀ c ∈ digits, c.isDigit
  denotes : sign = [] ∧ i = Nat.ofDigitChars 10 digits 0 ∨
    sign = ['-'] ∧ i = -(Nat.ofDigitChars 10 digits 0 : Int)

/-- An integer is written in decimal notation. -/
theorem exists_isDecimal (i : Int) :
    ∃ sign digits, (toString i).toList = sign ++ digits ∧ IsDecimal i sign digits := by
  have areDigits (n : Nat) : ∀ c ∈ Nat.toDigits 10 n, c.isDigit :=
    fun c member => Nat.isDigit_of_mem_toDigits (by decide) (by decide) member
  rw [Int.toString_eq_repr, Int.repr_eq_if]
  split
  next nonneg =>
    refine ⟨[], Nat.toDigits 10 i.toNat, Nat.toList_repr, Nat.toDigits_ne_nil, areDigits _, ?_⟩
    rw [Nat.ofDigitChars_ten_toDigits]
    exact .inl ⟨rfl, by omega⟩
  next negative =>
    refine ⟨['-'], Nat.toDigits 10 (-i).toNat, ?_, Nat.toDigits_ne_nil, areDigits _, ?_⟩
    · rw [String.toList_append, Nat.toList_repr]
      rfl
    · rw [Nat.ofDigitChars_ten_toDigits]
      exact .inr ⟨rfl, by omega⟩

/-- Digits with a minus or nothing in front are the decimal notation of an integer. -/
theorem exists_isDecimal_of_digits {sign : List Char} (isSign : sign = [] ∨ sign = ['-'])
    (nonempty : digits ≠ []) (areDigits : ∀ c ∈ digits, c.isDigit) :
    ∃ i, IsDecimal i sign digits := by
  rcases isSign with rfl | rfl
  · exact ⟨Nat.ofDigitChars 10 digits 0, nonempty, areDigits, .inl ⟨rfl, rfl⟩⟩
  · exact ⟨-(Nat.ofDigitChars 10 digits 0 : Int), nonempty, areDigits, .inr ⟨rfl, rfl⟩⟩

namespace IsDecimal

variable {i : Int} {sign : List Char}

/-- A sign is a minus or nothing. -/
theorem isSign (decimal : IsDecimal i sign digits) : sign = [] ∨ sign = ['-'] :=
  decimal.denotes.imp And.left And.left

/-- The first character of the digits is a digit, and so is no sign. -/
theorem exists_cons (decimal : IsDecimal i sign digits) :
    ∃ c others, digits = c :: others ∧ c.isDigit ∧ c ≠ '+' ∧ c ≠ '-' := by
  obtain ⟨c, others, rfl⟩ := List.exists_cons_of_ne_nil decimal.nonempty
  have isDigit := decimal.areDigits c List.mem_cons_self
  refine ⟨c, others, rfl, isDigit, ?_, ?_⟩
  · rintro rfl
    cases isDigit
  · rintro rfl
    cases isDigit

/-- Decimal notation of an integer within the limits is read as this integer. -/
theorem readWithin_eq (decimal : IsDecimal i sign digits) (least : first ≤ i)
    (greatest : i ≤ last) : readWithin first last (sign ++ digits) = .ok i := by
  obtain ⟨c, others, rfl, -, notPlus, notMinus⟩ := decimal.exists_cons
  rcases decimal.denotes with ⟨rfl, rfl⟩ | ⟨rfl, rfl⟩
  · rw [← readUpTo_eq decimal.areDigits greatest]
    simp [readWithin, notPlus, notMinus]
  · exact readDownTo_eq decimal.areDigits least

/-- Digits without low lines are read as their number. -/
theorem readGroupedDigits?_eq (decimal : IsDecimal i sign digits) :
    readGroupedDigits? digits = some (Nat.ofDigitChars 10 digits 0) := by
  obtain ⟨c, others, rfl, isDigit, -, -⟩ := decimal.exists_cons
  have allowed : (c :: others).all (fun c => c.isDigit || c == '_') = true :=
    List.all_eq_true.mpr fun x member => by rw [decimal.areDigits x member, Bool.true_or]
  rw [readGroupedDigits?, isDigit, allowed, List.filter_eq_self.mpr decimal.areDigits]
  rfl

/-- Decimal notation is read as its integer, of any size. -/
theorem readGrouped?_eq (decimal : IsDecimal i sign digits) :
    readGrouped? (sign ++ digits) = some i := by
  have number := decimal.readGroupedDigits?_eq
  obtain ⟨c, others, rfl, -, notPlus, notMinus⟩ := decimal.exists_cons
  rcases decimal.denotes with ⟨rfl, rfl⟩ | ⟨rfl, rfl⟩
  · rw [List.nil_append, readGrouped?, number]
    · rfl
    · simp [notPlus]
    · simp [notMinus]
  · rw [List.singleton_append, readGrouped?, number]
    rfl

end IsDecimal

end Formula
