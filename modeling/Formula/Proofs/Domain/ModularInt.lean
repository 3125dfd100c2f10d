import Formula.Domain.ModularInt

/-!
# Residues

A residue is a natural number below the modulus.  As a value it is an integer of 32 bits, and since
the modulus is small nothing is lost in either direction.

## Main statements

* `ModularInt.toInt_ofResidue` — residues as values
* `ModularInt.ofResidue_residue` — values that are reduced already
-/

namespace Formula

namespace ModularInt

/-- The reduction gives residues. -/
theorem residue_lt (x : Int32) : residue x < modulus := by
  have positive : 0 < modulus := by decide
  have := Int.emod_lt_of_pos x.toInt (Int.natCast_pos.mpr positive)
  rw [residue]
  omega

/-- Remainders are residues. -/
theorem mod_modulus_lt (n : Nat) : n % modulus < modulus :=
  Nat.mod_lt n (by decide)

/-- The reduction leaves the class of an integer. -/
theorem natCast_residue (x : Int32) : (residue x : Int) = x.toInt % modulus := by
  rw [residue, Int.toNat_of_nonneg (Int.emod_nonneg x.toInt (by decide))]

/-- The integer of a residue. -/
theorem toInt_ofResidue {r : Nat} (small : r < modulus) : (ofResidue r).toInt = r :=
  Int32.toInt_ofNat_of_lt (Nat.lt_trans small (by decide))

/-- An integer between zero and the modulus is its own residue. -/
theorem ofResidue_residue {x : Int32} (nonneg : 0 ≤ x.toInt) (small : x.toInt < modulus) :
    ofResidue (residue x) = x := by
  rw [← Int32.toInt_inj, toInt_ofResidue (residue_lt x), natCast_residue,
    Int.emod_eq_of_lt nonneg small]

end ModularInt

end Formula
