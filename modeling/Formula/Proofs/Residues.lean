import Formula.Proofs.Bracketed
import Formula.Proofs.Polynomial

/-!
# What unreduced constants are read as

The operations modulo a prime take any integer of 32 bits, so expressions may have constants that no
text denotes.  They are printed as the integers they are, and read as the residues of these.  So the
text of a tree is read as the reading of the tree with its constants reduced, whatever they were: no
constant makes a text illegal, or changes how its operators are grouped.

This is proved by reading the text twice.  Where every integer of 32 bits is read back the reading
is known already, and a derivation does not depend on the number system but through its constants.

## Main definitions

* `Mode.reduce` — the value that the text of a value denotes

## Main statements

* `Derives.map` — a derivation in one number system gives one in another
* `Bracketed.parse_text_reduce` — how a tree with any constants is read
-/

namespace Formula

variable {V W : Type}

/-! ### Two number systems -/

section Map

variable {d : Domain V} {d' : Domain W}

theorem Domain.isLiteralChar_congr (samePoint : d'.hasDecimalPoint = d.hasDecimalPoint) :
    d'.isLiteralChar = d.isLiteralChar := by
  funext c
  rw [Domain.isLiteralChar, Domain.isLiteralChar, samePoint]

theorem Domain.startsConstant_congr (samePoint : d'.hasDecimalPoint = d.hasDecimalPoint)
    (text : List Char) : d'.startsConstant text = d.startsConstant text := by
  rw [Domain.startsConstant, Domain.startsConstant, Domain.isLiteralChar_congr samePoint]

/-- The operators on one operand do not depend on the number system. -/
theorem UnarySymbol.congr {op : UnaryOp} {text rest : List Char}
    (samePoint : d'.hasDecimalPoint = d.hasDecimalPoint) (symbol : UnarySymbol d op text rest) :
    UnarySymbol d' op text rest := by
  cases symbol with
  | negate noSign => exact .negate ((Domain.startsConstant_congr samePoint _).trans noSign)
  | abs ends => exact .abs ends
  | square ends => exact .square ends

/-- **Derivations in two number systems.**  Where constants are made of the same characters, and
what the one system reads is read by the other as its image, a phrase of the one is a phrase of the
other, of the same nesting, and its tree is the image. -/
theorem Derives.map {f : V → W} (samePoint : d'.hasDecimalPoint = d.hasDecimalPoint)
    (reads : ∀ {literal value}, d.read? literal = some value → d'.read? literal = some (f value))
    {category : Category} {text rest : List Char} {e : Expr V} {n : Nat}
    (derivation : Derives d category text e n rest) :
    Derives d' category text (e.map f) n rest := by
  induction derivation with
  | term _ ih => exact .term ih
  | sum _ symbol isSum _ ihFirst ihLast => exact .sum ihFirst symbol isSum ihLast
  | operand _ ih => exact .operand ih
  | product _ symbol isProduct _ ihFirst ihLast => exact .product ihFirst symbol isProduct ihLast
  | blanks blanksBefore _ blanksAfter ih => exact .blanks blanksBefore ih blanksAfter
  | constant isSign nonempty areDigits longest denotes =>
      refine .constant isSign nonempty (fun c member => ?_)
        ((Domain.startsConstant_congr samePoint _).trans longest) (reads denotes)
      rw [Domain.isLiteralChar_congr samePoint]
      exact areDigits c member
  | letter ends => exact .letter ends
  | unary symbol _ ih => exact .unary (symbol.congr samePoint) ih
  | brackets _ ih => exact .brackets ih

end Map

/-! ### Reduction -/

/-- The value that the text of a value denotes.  Of the numbers modulo a prime this is the residue;
in the other number systems of integers it is the value itself. -/
def Mode.reduce : (mode : Mode) → mode.Value → mode.Value
  | .modularInt => fun (value : Int32) => ModularInt.ofResidue (ModularInt.residue value)
  | .checkedInt | .float | .bigInteger | .uncheckedInt | .byte => id

/-- What the modular integers read is the residue of what 32-bit integers read. -/
theorem modularInt_read? {literal : List Char} {value : Int32}
    (read : checkedInt.read? literal = some value) :
    modularInt.read? literal = some (Mode.modularInt.reduce value) := by
  replace read : (readInt32 literal).toOption = some value := read
  exact congrArg (Option.map fun i => ModularInt.ofResidue (ModularInt.residue i)) read

namespace Bracketed

/-- The text of a well-bracketed tree over any constants is an expression, with the constants
reduced. -/
theorem derives_text_reduce {mode : Mode} (integral : mode ≠ .float) {b : Bracketed mode.Value}
    (wellBracketed : b.WellBracketed) :
    Derives mode.domain .expression (b.text mode.domain.text).toList (b.reading.map mode.reduce)
      b.nesting [] := by
  -- Away from residues every constant is read back.
  have unreduced (others : ∀ value, mode.IsReduced value) (same : mode.reduce = id) :
      Derives mode.domain .expression (b.text mode.domain.text).toList
        (b.reading.map mode.reduce) b.nesting [] := by
    rw [same, Expr.map_id]
    exact derives_text wellBracketed fun value _ => mode.rereads integral (others value)
  cases mode with
  | float => exact absurd rfl integral
  | modularInt =>
      have checked : Derives checkedInt .expression (b.text checkedInt.text).toList b.reading
          b.nesting [] := derives_text wellBracketed fun value _ => checkedInt_rereads value
      have samePoint : modularInt.hasDecimalPoint = checkedInt.hasDecimalPoint := rfl
      exact checked.map samePoint modularInt_read?
  | checkedInt | bigInteger | uncheckedInt | byte => exact unreduced (fun _ => trivial) rfl

/-- **The reading of a tree with any constants.**  The text of a well-bracketed tree is read as its
reading, with the constants reduced, or refused for its nesting. -/
theorem parse_text_reduce {mode : Mode} (integral : mode ≠ .float) {b : Bracketed mode.Value}
    (wellBracketed : b.WellBracketed) :
    if b.nesting ≤ maxNesting then
      parse mode.domain (b.text mode.domain.text) = .ok (b.reading.map mode.reduce)
    else
      ∃ position, parse mode.domain (b.text mode.domain.text) = .error (.tooDeep position) :=
  (derives_text_reduce integral wellBracketed).parseWithin_eq maxNesting (Nat.le_refl _)

end Bracketed

end Formula
