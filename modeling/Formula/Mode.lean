import Formula.Domain.CheckedInt
import Formula.Domain.Floating
import Formula.Domain.ModularInt
import Formula.Domain.Truncating

/-!
# Modes

A mode selects one of the six number systems by a short name.

## Main definitions

* `Mode`, `Mode.shortName` — the number systems and their names
* `Mode.Value`, `Mode.domain` — the values and the operations of a mode
* `Mode.lookup` — the mode of a name
-/

namespace Formula

/-- The number systems that a user can choose. -/
inductive Mode where
  | checkedInt
  | float
  | bigInteger
  | uncheckedInt
  | modularInt
  | byte
  deriving DecidableEq

namespace Mode

/-- Every mode, in the order in which they are listed to the user. -/
def all : List Mode := [checkedInt, float, bigInteger, uncheckedInt, modularInt, byte]

/-- The name by which a mode is chosen. -/
def shortName : Mode → String
  | checkedInt => "i"
  | float => "d"
  | bigInteger => "bi"
  | uncheckedInt => "u"
  | modularInt => "p"
  | byte => "b"

/-- The type of the values of a mode. -/
def Value : Mode → Type
  | checkedInt => Int32
  | float => Float
  | bigInteger => Int
  | uncheckedInt => Int32
  | modularInt => Int32
  | byte => Int8

/-- Equality of values.  Doubles are compared as numbers: both zeros are equal, and what is no number
differs from itself. -/
instance : (mode : Mode) → BEq mode.Value
  | checkedInt => inferInstanceAs (BEq Int32)
  | float => inferInstanceAs (BEq Float)
  | bigInteger => inferInstanceAs (BEq Int)
  | uncheckedInt => inferInstanceAs (BEq Int32)
  | modularInt => inferInstanceAs (BEq Int32)
  | byte => inferInstanceAs (BEq Int8)

/-- The number system of a mode. -/
def domain : (mode : Mode) → Domain mode.Value
  | checkedInt => Formula.checkedInt
  | float => Formula.floating
  | bigInteger => Formula.bigInteger
  | uncheckedInt => Formula.uncheckedInt
  | modularInt => Formula.modularInt
  | byte => Formula.byte

/-- The names of all modes, as they are listed to the user. -/
def validNames : String := ", ".intercalate (all.map shortName)

end Mode

/-- A name that belongs to no mode. -/
structure UnknownMode where
  given : String
  deriving DecidableEq

/-- What is reported about a name that belongs to no mode. -/
def UnknownMode.message (e : UnknownMode) : String :=
  "Illegal mode: " ++ e.given ++ "\nValid modes: " ++ Mode.validNames

/-- A name without the hyphen that may stand in front of it on a command line. -/
def withoutHyphen (name : String) : String :=
  match name.toList with
  | '-' :: rest => String.ofList rest
  | _ => name

/-- The mode of a short name, which may have a hyphen in front. -/
def Mode.lookup (name : String) : Except UnknownMode Mode :=
  match all.find? (fun mode => mode.shortName == withoutHyphen name) with
  | some mode => .ok mode
  | none => .error ⟨name⟩

end Formula
