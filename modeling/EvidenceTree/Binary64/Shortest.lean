import EvidenceTree.Binary64.Rounding

/-!
# The shortest decimal of a number

A number is written with the fewest decimal digits that still read back as it. A magnitude is the
rounding of every value in an interval around it, so the search looks for the coarsest grid of
multiples of a power of ten that has a point in the interval; of two points on that grid the nearer
one is taken. All is counted in units of `10 ^ -1074`, of which every magnitude is a whole number,
so the search is exact and ends at the latest with the magnitude itself.
-/

namespace EvidenceTree

/-- The decimal `coefficient * 10 ^ (level - 1074)`. -/
structure Decimal where
  coefficient : Nat
  level : Nat
  deriving DecidableEq, Repr

/-- Which of two equally near decimals is taken: the upper one, or the one with an even
coefficient. -/
inductive Ties where
  | up
  | toEven
  deriving DecidableEq

/-- An interval of natural numbers, with or without its ends. -/
structure Interval where
  low : Nat
  high : Nat
  closed : Bool

/-- The number lies in the interval. -/
def Interval.contains (interval : Interval) (n : Nat) : Bool :=
  if interval.closed then interval.low ≤ n && n ≤ interval.high
  else interval.low < n && n < interval.high

namespace Magnitude

/-- The unit `2 ^ -1074` in units of `10 ^ -1074`. -/
def decimalScale : Nat := 5 ^ 1074

/-- The magnitude in units of `10 ^ -1074`. -/
def decimalUnits (m : Magnitude) : Nat := m.units * decimalScale

/-- The distance to the next smaller magnitude in halves of a unit. Below a power of two the
magnitudes lie twice as close. -/
def halfGapBelow (m : Magnitude) : Nat :=
  if m.mantissa = 2 ^ 52 ∧ m.exponent ≠ 0 then 2 ^ (m.exponent - 1) else 2 ^ m.exponent

/-- The values that round to the magnitude, in halves of `10 ^ -1074`. A value half way to a
neighbour rounds to the even mantissa. -/
def readsBack (m : Magnitude) : Interval where
  low := (2 * m.units - m.halfGapBelow) * decimalScale
  high := (2 * m.units + 2 ^ m.exponent) * decimalScale
  closed := m.mantissa % 2 == 0

end Magnitude

/-- Of the two grid points around `exact` the nearer one: `below` times the step, or the next. -/
def nearerPoint (ties : Ties) (exact step below : Nat) : Nat :=
  let beneath := exact - below * step
  let above := (below + 1) * step - exact
  if beneath < above then below
  else if above < beneath then below + 1
  else match ties with
    | .up => below + 1
    | .toEven => if below % 2 = 0 then below else below + 1

/-- The point nearest to `exact` on the coarsest grid of a level up to the given one that has a
point in the interval. -/
def coarsestPoint (ties : Ties) (interval : Interval) (exact : Nat) : Nat → Decimal
  | 0 => ⟨exact, 0⟩
  | level + 1 =>
    let step := 10 ^ (level + 1)
    let below := exact / step
    match interval.contains (2 * (below * step)), interval.contains (2 * ((below + 1) * step)) with
    | true, true => ⟨nearerPoint ties exact step below, level + 1⟩
    | true, false => ⟨below, level + 1⟩
    | false, true => ⟨below + 1, level + 1⟩
    | false, false => coarsestPoint ties interval exact level

/-- A level whose grid is coarser than the magnitude: more than its decimal digits. -/
def topLevel (exact : Nat) : Nat := (exact.log2 + 1) * 302 / 1000 + 1

/-- The shortest decimal that reads back as the magnitude. -/
def Magnitude.shortest (ties : Ties) (m : Magnitude) : Decimal :=
  if m.mantissa = 0 then ⟨0, 1074⟩
  else coarsestPoint ties m.readsBack m.decimalUnits (topLevel m.decimalUnits)

end EvidenceTree
