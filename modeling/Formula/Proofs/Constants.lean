import Formula.Mode
import Formula.Proofs.Domain.ModularInt
import Formula.Proofs.Number.Integer

/-!
# Constants are read back

In the number systems of integers the text of a value is a constant of the grammar — a minus or
nothing, and digits — and it is read as the value it was written for.  Only the integers modulo a
prime have values for which this fails: whatever is read there is reduced, so it has to be reduced
already.

## Main definitions

* `Domain.Rereads` — a value is written as a constant that is read as this value
* `Mode.IsReduced` — the values that constants of a mode have

## Main statements

* `Mode.rereads` — constants of all modes but the floating one are read back
-/

namespace Formula

/-- A value is written as a constant, with a sign in front or without, that is read as this
value. -/
def Domain.Rereads {V : Type} (d : Domain V) (value : V) : Prop :=
  ∃ sign digits, (d.text value).toList = sign ++ digits ∧ (sign = [] ∨ sign = ['-']) ∧
    digits ≠ [] ∧ (∀ c ∈ digits, d.isLiteralChar c) ∧ d.read? (sign ++ digits) = some value

/-- A value that is written as an integer in decimal notation is read back if this notation is. -/
theorem Domain.Rereads.of_decimal {V : Type} {d : Domain V} {value : V} (i : Int)
    (written : d.text value = toString i)
    (readBack : ∀ sign digits, IsDecimal i sign digits → d.read? (sign ++ digits) = some value) :
    d.Rereads value := by
  obtain ⟨sign, digits, split, decimal⟩ := exists_isDecimal i
  refine ⟨sign, digits, by rw [written, split], decimal.isSign, decimal.nonempty, ?_,
    readBack sign digits decimal⟩
  intro c member
  rw [Domain.isLiteralChar, decimal.areDigits c member, Bool.true_or]

/-! ### Number systems -/

/-- The notation of a 32-bit integer is read as this integer. -/
theorem IsDecimal.readInt32_eq {value : Int32} {sign digits : List Char}
    (decimal : IsDecimal value.toInt sign digits) : readInt32 (sign ++ digits) = .ok value := by
  rw [readInt32, decimal.readWithin_eq value.minValue_le_toInt value.toInt_le]
  exact congrArg Except.ok value.ofInt_toInt

/-- The notation of an 8-bit integer is read as this integer. -/
theorem IsDecimal.readInt8_eq {value : Int8} {sign digits : List Char}
    (decimal : IsDecimal value.toInt sign digits) : readInt8 (sign ++ digits) = .ok value := by
  rw [readInt8, decimal.readWithin_eq value.minValue_le_toInt value.toInt_le]
  exact congrArg Except.ok value.ofInt_toInt

/-- Values that are written and read as 32-bit integers are read back. -/
theorem rereads_of_readInt32 {d : Domain Int32} (writes : ∀ value, d.text value = toString value)
    (reads : ∀ text, d.read? text = (readInt32 text).toOption) (value : Int32) :
    d.Rereads value := by
  refine .of_decimal value.toInt (writes value) fun sign digits decimal => ?_
  rw [reads, decimal.readInt32_eq]
  rfl

theorem checkedInt_rereads (value : Int32) : checkedInt.Rereads value :=
  rereads_of_readInt32 (fun _ => rfl) (fun _ => rfl) value

theorem uncheckedInt_rereads (value : Int32) : uncheckedInt.Rereads value :=
  rereads_of_readInt32 (fun _ => rfl) (fun _ => rfl) value

theorem byte_rereads (value : Int8) : byte.Rereads value := by
  refine .of_decimal value.toInt rfl fun sign digits decimal => ?_
  show (readInt8 (sign ++ digits)).toOption = some value
  rw [decimal.readInt8_eq]
  rfl

theorem bigInteger_rereads (value : Int) : bigInteger.Rereads value :=
  .of_decimal value rfl fun _ _ decimal => decimal.readGrouped?_eq

/-- Values modulo a prime are read back if they are reduced. -/
theorem modularInt_rereads {value : Int32} (nonneg : 0 ≤ value.toInt)
    (small : value.toInt < ModularInt.modulus) : modularInt.Rereads value := by
  refine .of_decimal value.toInt rfl fun sign digits decimal => ?_
  show ((readInt32 (sign ++ digits)).toOption.map _) = some value
  rw [decimal.readInt32_eq]
  exact congrArg some (ModularInt.ofResidue_residue nonneg small)

/-! ### Modes -/

/-- The values that constants of a mode have.  They are all values but for the integers modulo a
prime, which lie between zero and the modulus. -/
def Mode.IsReduced : (mode : Mode) → mode.Value → Prop
  | .modularInt => fun (value : Int32) => 0 ≤ value.toInt ∧ value.toInt < ModularInt.modulus
  | .checkedInt | .float | .bigInteger | .uncheckedInt | .byte => fun _ => True

/-- **Constants are read back** in every mode but the floating one. -/
theorem Mode.rereads {mode : Mode} (integral : mode ≠ .float) {value : mode.Value}
    (reduced : mode.IsReduced value) : mode.domain.Rereads value := by
  cases mode with
  | checkedInt => exact checkedInt_rereads value
  | float => exact absurd rfl integral
  | bigInteger => exact bigInteger_rereads value
  | uncheckedInt => exact uncheckedInt_rereads value
  | modularInt => exact modularInt_rereads reduced.1 reduced.2
  | byte => exact byte_rereads value

end Formula
