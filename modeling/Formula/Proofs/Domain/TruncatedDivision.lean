import Formula.Proofs.Domain.Ring
import Formula.Proofs.Domain.Trapping
import Mathlib.Order.Interval.Set.UnorderedInterval

/-!
# Division with remainder

In the number systems that truncate quotients toward zero, a quotient times the divisor plus the
remainder is the dividend again.  The remainder is less than the divisor, and does not change the
sign of the dividend.

On exact integers this is what truncation means.  That nothing leaves the range on the way back has
one reason in all of these number systems: the remainder lies between zero and the dividend, and so
does the product of quotient and divisor, which is the rest of the dividend.  Only the quotient
itself can be out of range, for the least integer divided by minus one.  Checked integers refuse it
there.  Where it wraps around, the sum is still the dividend, since products and sums depend on the
classes of their operands alone.

## Main definitions

* `Truncating.IsInterval` — the values stand for the integers of an interval about zero
* `Domain.DividesWithRemainder` — quotient and remainder of two values belong together

## Main statements

* `truncating_dividesWithRemainder`, `checkedInt_dividesWithRemainder` — where integers are wrapped
  around and where they are checked
* `quotient_remainder_restore_dividend` — all number systems that truncate quotients
-/

namespace Formula

/-! ### Exact integers -/

/-- A remainder is less than the divisor, apart from signs. -/
theorem natAbs_tmod_lt (a : Int) {b : Int} (nonzero : b ≠ 0) :
    (a.tmod b).natAbs < b.natAbs := by
  rw [Int.natAbs_tmod]
  exact Nat.mod_lt _ (Int.natAbs_pos.mpr nonzero)

/-- A remainder is zero or has the sign of the dividend. -/
theorem tmod_eq_zero_or_sign_eq (a b : Int) : a.tmod b = 0 ∨ (a.tmod b).sign = a.sign := by
  by_cases divides : b ∣ a
  · exact .inl (Int.tmod_eq_zero_of_dvd divides)
  · exact .inr (by rw [Int.sign_tmod, if_neg divides])

/-- A remainder lies between zero and the dividend. -/
theorem tmod_mem_uIcc (a b : Int) : a.tmod b ∈ Set.uIcc 0 a := by
  have small : (a.tmod b).natAbs ≤ a.natAbs := by
    rw [Int.natAbs_tmod]
    exact Nat.mod_le _ _
  rw [Set.mem_uIcc]
  rcases Int.le_total 0 a with nonneg | nonpos
  · have remainder := Int.tmod_nonneg b nonneg
    omega
  · have opposite := Int.tmod_nonneg b (Int.neg_nonneg_of_nonpos nonpos)
    rw [Int.neg_tmod] at opposite
    omega

/-- The product of quotient and divisor lies between zero and the dividend: the remainder is what it
lacks. -/
theorem tdiv_mul_mem_uIcc (a b : Int) : a.tdiv b * b ∈ Set.uIcc 0 a := by
  have remainder := tmod_mem_uIcc a b
  rw [Set.mem_uIcc] at remainder ⊢
  rw [Int.tdiv_mul_self]
  omega

/-! ### Ranges of values -/

namespace Truncating

/-- The values of a number system stand for the integers of an interval about zero, and wrapping
leaves these as they are. -/
structure IsInterval {V : Type} (toInt : V → Int) (wrap : Int → V) : Prop where
  wrap_toInt (x : V) : wrap (toInt x) = x
  /-- Whatever lies between zero and a value is a value. -/
  toInt_wrap {i : Int} {x : V} (between : i ∈ Set.uIcc 0 (toInt x)) : toInt (wrap i) = i

theorem isInterval_int : IsInterval (id : Int → Int) id :=
  ⟨fun _ => rfl, fun _ => rfl⟩

theorem isInterval_int32 : IsInterval Int32.toInt Int32.ofInt := by
  refine ⟨Int32.ofInt_toInt, fun {i x} between => CheckedInt.toInt_ofInt ?_⟩
  have range := CheckedInt.inRange_iff.mp (CheckedInt.inRange_toInt x)
  rw [Set.mem_uIcc] at between
  exact CheckedInt.inRange_iff.mpr (by omega)

theorem isInterval_int8 : IsInterval Int8.toInt Int8.ofInt := by
  refine ⟨Int8.ofInt_toInt, fun {i x} between => ?_⟩
  have least : -128 ≤ x.toInt := x.minValue_le_toInt
  have greatest : x.toInt ≤ 127 := x.toInt_le
  rw [Set.mem_uIcc] at between
  exact Int8.toInt_ofInt_of_le (by omega) (by omega)

end Truncating

/-- The only quotient of 8-bit integers outside their range is that of the least one by minus
one. -/
theorem toInt_div_int8 {x y : Int8} (other : ¬(x = Int8.minValue ∧ y = -1)) :
    (x / y).toInt = x.toInt.tdiv y.toInt := by
  by_cases isLeast : x = Int8.minValue
  · exact Int8.toInt_div_of_ne_right x y fun isMinusOne => other ⟨isLeast, isMinusOne⟩
  · exact Int8.toInt_div_of_ne_left x y isLeast

/-! ### Quotient and remainder -/

/-- Quotient and remainder of two values belong together, where the values stand for integers.  The
two conditions say when there is a quotient, and when it is the exact one. -/
structure Domain.DividesWithRemainder {V : Type} (d : Domain V) (toInt : V → Int)
    (hasQuotient isExact : Prop) (a b : V) : Prop where
  /-- There is a remainder.  It is less than the divisor, apart from signs, and it is zero or has
  the sign of the dividend. -/
  remainder : ∃ r, d.binary .modulo a b = .ok r ∧ (toInt r).natAbs < (toInt b).natAbs ∧
    (toInt r = 0 ∨ (toInt r).sign = (toInt a).sign)
  quotient : (∃ q, d.binary .divide a b = .ok q) ↔ hasQuotient
  /-- The product of quotient and divisor has a value, and with the remainder added it is the
  dividend.  Where the quotient is exact the product and the sum are so as well. -/
  restores {q r : V} (divided : d.binary .divide a b = .ok q)
    (reduced : d.binary .modulo a b = .ok r) :
    ∃ m, d.binary .multiply q b = .ok m ∧ d.binary .add m r = .ok a ∧
      (isExact → toInt m = toInt q * toInt b ∧ toInt a = toInt m + toInt r)

/-! ### Wrapping around -/

section Truncating

variable {V : Type} {d : Domain V} {m : Int} {toInt : V → Int} {wrap : Int → V}
  {read? : List Char → Option V} {a b : V}

/-- What is added on the way by wrapping around is lost again at the end. -/
theorem Domain.IsIntegersModulo.wrap_mul_add (laws : d.IsIntegersModulo m toInt wrap)
    (i j k : Int) :
    wrap (toInt (wrap (toInt (wrap i) * k)) + toInt (wrap j)) = wrap (i * k + j) := by
  have product : toInt (wrap (toInt (wrap i) * k)) ≡ i * k [ZMOD m] :=
    (laws.toInt_wrap _).trans ((laws.toInt_wrap i).mul_right k)
  exact laws.wrap_congr (product.add (laws.toInt_wrap j))

/-- Where exact results are wrapped around there is always a quotient, and it is the exact one if
that is a value. -/
theorem truncating_dividesWithRemainder
    (laws : (truncating toInt wrap read?).IsIntegersModulo m toInt wrap)
    (interval : Truncating.IsInterval toInt wrap) (nonzero : toInt b ≠ 0) {isExact : Prop}
    (quotient : isExact → ∃ q, toInt q = (toInt a).tdiv (toInt b)) :
    (truncating toInt wrap read?).DividesWithRemainder toInt True isExact a b := by
  have result (op : BinaryOp) : (truncating toInt wrap read?).binary op a b =
      .ok (wrap (op.onInt (toInt a) (toInt b))) := by
    rw [truncating_binary, if_neg fun divides => nonzero divides.2]
  have remainder : toInt (wrap ((toInt a).tmod (toInt b))) = (toInt a).tmod (toInt b) :=
    interval.toInt_wrap (tmod_mem_uIcc _ _)
  refine ⟨⟨_, result .modulo, ?_⟩, iff_of_true ⟨_, result .divide⟩ trivial, ?_⟩
  · rw [BinaryOp.onInt, remainder]
    exact ⟨natAbs_tmod_lt _ nonzero, tmod_eq_zero_or_sign_eq _ _⟩
  · intro q r divided reduced
    obtain rfl := Except.ok.inj ((result .divide).symm.trans divided)
    obtain rfl := Except.ok.inj ((result .modulo).symm.trans reduced)
    refine ⟨_, laws.binary rfl _ _, ?_, fun exact => ?_⟩
    · -- The quotient may have wrapped around, so its class is all that is known of it.
      rw [laws.binary rfl]
      simp only [BinaryOp.onInt]
      rw [laws.wrap_mul_add, Int.tdiv_mul_add_tmod, interval.wrap_toInt]
    · -- The exact quotient is a value, and nothing wraps around.
      obtain ⟨q, isQuotient⟩ := quotient exact
      simp only [BinaryOp.onInt]
      rw [remainder, ← isQuotient, interval.wrap_toInt, isQuotient,
        interval.toInt_wrap (tdiv_mul_mem_uIcc _ _), Int.tdiv_mul_add_tmod]
      exact ⟨rfl, rfl⟩

end Truncating

/-! ### Checked integers -/

namespace CheckedInt

variable {a b q r : Int32}

/-- A quotient and a remainder in the range make up the dividend without overflow, since their way
back does not leave the numbers between zero and the dividend. -/
theorem exists_multiply_add_eq (quotient : q.toInt = a.toInt.tdiv b.toInt)
    (remainder : r.toInt = a.toInt.tmod b.toInt) :
    ∃ m, multiply q b = .ok m ∧ add m r = .ok a ∧
      m.toInt = q.toInt * b.toInt ∧ a.toInt = m.toInt + r.toInt := by
  have product : (Int32.ofInt (a.toInt.tdiv b.toInt * b.toInt)).toInt = q.toInt * b.toInt := by
    rw [quotient]
    exact Truncating.isInterval_int32.toInt_wrap (tdiv_mul_mem_uIcc _ _)
  have sum : a.toInt = q.toInt * b.toInt + r.toInt := by
    rw [quotient, remainder, Int.tdiv_mul_add_tmod]
  rw [← product] at sum
  exact ⟨_, (multiply_eq_narrow q b).trans (narrow_eq_ok product),
    (add_eq_narrow _ r).trans (narrow_eq_ok sum), product, sum⟩

end CheckedInt

/-- Checked integers have a quotient wherever the exact one is a value, and then no guard fires on
the way back to the dividend. -/
theorem checkedInt_dividesWithRemainder {a b : Int32} (nonzero : b ≠ 0) :
    checkedInt.DividesWithRemainder Int32.toInt (¬(a = Int32.minValue ∧ b = -1))
      (¬(a = Int32.minValue ∧ b = -1)) a b := by
  have quotient := CheckedInt.isExact_divide a b
  have remainder := CheckedInt.isExact_modulo a b
  refine ⟨?_, ⟨?_, ?_⟩, ?_⟩
  · obtain ⟨r, reduced, exact⟩ := remainder.value nonzero id
    refine ⟨r, reduced, ?_⟩
    rw [exact]
    exact ⟨natAbs_tmod_lt _ fun zero => nonzero (Int32.toInt_inj.mp zero),
      tmod_eq_zero_or_sign_eq _ _⟩
  · rintro ⟨q, divided⟩
    exact (divided ▸ quotient).of_ok.1
  · intro other
    obtain ⟨q, divided, -⟩ := quotient.value nonzero other
    exact ⟨q, divided⟩
  · intro q r divided reduced
    obtain ⟨m, product, sum, exact⟩ :=
      CheckedInt.exists_multiply_add_eq (divided ▸ quotient).of_ok.2 (reduced ▸ remainder).of_ok.2
    exact ⟨m, product, sum, fun _ => exact⟩

/-! ### Number systems -/

/-- **Quotient and remainder restore the dividend** in all number systems that truncate quotients
toward zero, for every divisor but zero.  There always is a remainder, less than the divisor and
without another sign than the dividend.  The quotient times the divisor plus the remainder is the
dividend, as values and as integers.  Only the least integer of a fixed width by minus one has no
exact quotient: checked integers have none at all there, and for the others it wraps around, with
the sum still being the dividend. -/
theorem quotient_remainder_restore_dividend :
    (∀ a b : Int32, b ≠ 0 →
      checkedInt.DividesWithRemainder Int32.toInt (¬(a = Int32.minValue ∧ b = -1))
        (¬(a = Int32.minValue ∧ b = -1)) a b) ∧
    (∀ a b : Int32, b ≠ 0 →
      uncheckedInt.DividesWithRemainder Int32.toInt True (¬(a = Int32.minValue ∧ b = -1)) a b) ∧
    (∀ a b : Int, b ≠ 0 → bigInteger.DividesWithRemainder id True True a b) ∧
    ∀ a b : Int8, b ≠ 0 →
      byte.DividesWithRemainder Int8.toInt True (¬(a = Int8.minValue ∧ b = -1)) a b := by
  refine ⟨fun a b nonzero => checkedInt_dividesWithRemainder nonzero, fun a b nonzero => ?_,
    fun a b nonzero => ?_, fun a b nonzero => ?_⟩
  · exact truncating_dividesWithRemainder uncheckedInt_isIntegersModulo
      Truncating.isInterval_int32 (fun zero => nonzero (Int32.toInt_inj.mp zero))
      fun other => ⟨a / b, CheckedInt.toInt_div other⟩
  · exact truncating_dividesWithRemainder bigInteger_isIntegersModulo
      Truncating.isInterval_int nonzero fun _ => ⟨a.tdiv b, rfl⟩
  · exact truncating_dividesWithRemainder byte_isIntegersModulo
      Truncating.isInterval_int8 (fun zero => nonzero (Int8.toInt_inj.mp zero))
      fun other => ⟨a / b, toInt_div_int8 other⟩

/-- The least integers by minus one and by a divisor that leaves a remainder, and a dividend of any
size. -/
theorem quotient_remainder_restore_dividend_of_least :
    ((-1 : Int32) ≠ 0 ∧ ¬∃ q, checkedInt.binary .divide Int32.minValue (-1) = .ok q) ∧
    ((10 : Int32) ≠ 0 ∧
      checkedInt.binary .divide Int32.minValue 10 = .ok (-214748364) ∧
      checkedInt.binary .modulo Int32.minValue 10 = .ok (-8) ∧
      ∃ m, checkedInt.binary .multiply (-214748364) 10 = .ok m ∧
        checkedInt.binary .add m (-8) = .ok Int32.minValue ∧
        m.toInt = -214748364 * 10 ∧ -2147483648 = m.toInt + -8) ∧
    (uncheckedInt.binary .divide Int32.minValue (-1) = .ok Int32.minValue ∧
      uncheckedInt.binary .modulo Int32.minValue (-1) = .ok 0 ∧
      ∃ m, uncheckedInt.binary .multiply Int32.minValue (-1) = .ok m ∧
        uncheckedInt.binary .add m 0 = .ok Int32.minValue) ∧
    ((-10 : Int) ≠ 0 ∧
      bigInteger.binary .divide (-10000000003) (-10) = .ok 1000000000 ∧
      bigInteger.binary .modulo (-10000000003) (-10) = .ok (-3) ∧
      ∃ m, bigInteger.binary .multiply 1000000000 (-10) = .ok m ∧
        bigInteger.binary .add m (-3) = .ok (-10000000003)) ∧
    (-1 : Int8) ≠ 0 ∧
      byte.binary .divide Int8.minValue (-1) = .ok Int8.minValue ∧
      byte.binary .modulo Int8.minValue (-1) = .ok 0 ∧
      ∃ m, byte.binary .multiply Int8.minValue (-1) = .ok m ∧
        byte.binary .add m 0 = .ok Int8.minValue := by
  obtain ⟨checked, unchecked, unbounded, bytes⟩ := quotient_remainder_restore_dividend
  have nonzero : (-1 : Int32) ≠ 0 := by decide
  have nonzeroByte : (-1 : Int8) ≠ 0 := by decide
  have refused := (checked Int32.minValue (-1) nonzero).quotient
  obtain ⟨m, product, sum, exact⟩ :=
    (checked Int32.minValue 10 (by decide)).restores rfl rfl
  obtain ⟨m₁, product₁, sum₁, -⟩ := (unchecked Int32.minValue (-1) nonzero).restores rfl rfl
  obtain ⟨m₂, product₂, sum₂, -⟩ :=
    (unbounded (-10000000003) (-10) (by decide)).restores rfl rfl
  obtain ⟨m₃, product₃, sum₃, -⟩ := (bytes Int8.minValue (-1) nonzeroByte).restores rfl rfl
  exact ⟨⟨nonzero, fun found => refused.mp found ⟨rfl, rfl⟩⟩,
    ⟨by decide, rfl, rfl, m, product, sum, exact (by decide)⟩,
    ⟨rfl, rfl, m₁, product₁, sum₁⟩, ⟨by decide, rfl, rfl, m₂, product₂, sum₂⟩,
    nonzeroByte, rfl, rfl, m₃, product₃, sum₃⟩

end Formula
