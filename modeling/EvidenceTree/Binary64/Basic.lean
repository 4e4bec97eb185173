/-!
# Binary64 numbers

The numbers of the IEEE 754 binary64 format as exact integers: a finite magnitude is a whole number
of units of `2 ^ -1074`, the smallest positive number of the format. Comparisons are comparisons of
units, so nothing here needs floating-point arithmetic.
-/

namespace EvidenceTree

/-- A power of a number is the one that its own power operation gives, whatever other powers are
known. -/
@[default_instance 20000]
instance (priority := 2000) powOfNatPow {α : Type} [NatPow α] : Pow α Nat := instPowNat

/-- One, in units of `2 ^ -1074`. -/
def unitsPerOne : Nat := 2 ^ 1074

theorem unitsPerOne_pos : 0 < unitsPerOne := by decide +kernel

/-- A finite magnitude of the format, `mantissa * 2 ^ exponent` units of `2 ^ -1074`. Each magnitude
has one form: the mantissa uses all its 53 bits unless the exponent is the least. -/
structure Magnitude where
  mantissa : Nat
  exponent : Nat
  mantissa_lt : mantissa < 2 ^ 53
  full : exponent = 0 ∨ 2 ^ 52 ≤ mantissa
  exponent_le : exponent ≤ 2045
  deriving DecidableEq

namespace Magnitude

/-- The magnitude as a number of units of `2 ^ -1074`. -/
def units (m : Magnitude) : Nat := m.mantissa * 2 ^ m.exponent

/-- Nothing. -/
def zero : Magnitude := ⟨0, 0, by decide, by decide, by decide⟩

instance : Inhabited Magnitude := ⟨zero⟩

end Magnitude

/-- A finite number: a magnitude with a sign. Zero has both signs. -/
structure Finite64 where
  negative : Bool
  magnitude : Magnitude
  deriving DecidableEq, Inhabited

namespace Finite64

/-- The signed number of units of `2 ^ -1074`. The two zeros agree. -/
def units (x : Finite64) : Int :=
  if x.negative then -(x.magnitude.units : Int) else x.magnitude.units

/-- The numbers are equal as numbers: the two zeros are. -/
def same (x y : Finite64) : Bool := x.units == y.units

end Finite64

/-- A binary64 number. -/
inductive Binary64 where
  | finite (x : Finite64)
  | infinite (negative : Bool)
  | nan
  deriving DecidableEq, Inhabited

namespace Binary64

/-- The number lies within finite bounds, both included. No infinity does, and no NaN. -/
def between (low high : Finite64) : Binary64 → Bool
  | .finite x => low.units ≤ x.units && x.units ≤ high.units
  | .infinite _ => false
  | .nan => false

end Binary64

end EvidenceTree
