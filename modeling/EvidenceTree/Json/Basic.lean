import EvidenceTree.Assoc
import EvidenceTree.Binary64.Rounding

/-!
# JSON values

The values of a JSON document as a reader decodes them: numbers are 64-bit integers or finite
binary64 numbers, and the members of an object are sorted by name, each name once.
-/

namespace EvidenceTree.Json

/-- A decoded number: an integer of 64 bits, signed or unsigned, or a finite binary64 number. -/
inductive Number where
  | integer (value : Int) (bounded : -(2 ^ 63) ≤ value ∧ value < 2 ^ 64)
  | float (value : Finite64)
  deriving DecidableEq

namespace Number

/-- The number in the binary64 format; an integer is rounded. -/
def toFinite : Number → Finite64
  | integer value bounded => Finite64.ofInt64 value (by omega)
  | float value => value

/-- A count as a number; a count of more than 64 bits is cut down to the largest. -/
def ofNat (n : Nat) : Number :=
  integer (min n (2 ^ 64 - 1) : Nat) (by omega)

/-- The number as a natural number of 64 bits, if it is an integer and not negative. -/
def toNat? : Number → Option Nat
  | integer value _ => if 0 ≤ value then some value.toNat else none
  | float _ => none

end Number

/-- A JSON value. The members of an object are in ascending order of their names. -/
inductive Value where
  | null
  | bool (value : Bool)
  | number (value : Number)
  | string (value : String)
  | array (items : List Value)
  | object (members : List (String × Value))
  deriving Inhabited

/-- A number, as a value. -/
def Value.ofNat (n : Nat) : Value := .number (.ofNat n)

end EvidenceTree.Json
