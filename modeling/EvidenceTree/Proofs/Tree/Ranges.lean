import EvidenceTree.Proofs.Binary64.Rounding
import EvidenceTree.Proofs.Document.Descriptors
import EvidenceTree.Proofs.Resolution.Policy
import Mathlib.Algebra.Order.Field.Basic
import Mathlib.Algebra.Order.Ring.Rat
import Mathlib.Data.Nat.Cast.Order.Ring

/-!
# Ranges and numbers of every kind

The bounds of a range and the numbers of the evidence are integers or floats, and all of them are
rounded before they are compared. Rounding keeps the order, so it leaves no number out of a range
that it lies in. It may bring a number in, but not where nothing is rounded.

* `Json.Number.value`: the number that was written, before it is rounded.
* `Json.Number.units_toFinite_mono`: rounding keeps the order of numbers of both kinds.
* `Json.Number.IsExact`: the numbers that rounding leaves alone.
* `Node.accepts_number_in_range`: which numbers a node with a range accepts.
-/

namespace EvidenceTree

namespace Json.Number

/-- The number in units of `2 ^ -1074`, before it is rounded. -/
def units : Number → Int
  | integer value _ => value * unitsPerOne
  | float value => value.units

/-- The number itself, before it is rounded. -/
def value : Number → ℚ
  | integer value _ => value
  | float value => value.units / unitsPerOne

/-- The numbers that rounding leaves alone: integers up to `2 ^ 53`, and floats. -/
def IsExact : Number → Prop
  | integer value _ => value.natAbs ≤ 2 ^ 53
  | float _ => True

variable {a b : Number}

theorem value_eq_units_div (a : Number) : a.value = a.units / unitsPerOne := by
  have positive : (0 : ℚ) < unitsPerOne := Nat.cast_pos.2 unitsPerOne_pos
  cases a with
  | integer v bounded =>
    unfold value units
    rw [Int.cast_mul, Int.cast_natCast, mul_div_cancel_right₀ _ positive.ne']
  | float x => rfl

theorem value_le_iff : a.value ≤ b.value ↔ a.units ≤ b.units := by
  have positive : (0 : ℚ) < unitsPerOne := Nat.cast_pos.2 unitsPerOne_pos
  rw [value_eq_units_div, value_eq_units_div, div_le_div_iff_of_pos_right positive, Int.cast_le]

/-! ## Rounding -/

theorem natAbs_units_integer {v : Int} {bounded : -(2 ^ 63) ≤ v ∧ v < 2 ^ 64} :
    (integer v bounded).units.natAbs = v.natAbs * unitsPerOne := Int.natAbs_mul _ _

/-- A number of either kind becomes the float whose magnitude is nearest to its own. -/
theorem ofRatio?_units (a : Number) :
    Magnitude.ofRatio? a.units.natAbs unitsPerOne = some a.toFinite.magnitude := by
  cases a with
  | integer v bounded =>
    have rounded : Magnitude.ofRatio? v.natAbs 1 = some (integer v bounded).toFinite.magnitude :=
      (Option.some_get _).symm
    rw [natAbs_units_integer, ← rounded]
    exact Magnitude.ofRatio?_congr unitsPerOne_pos Nat.one_pos (Nat.mul_one _)
  | float x =>
    refine Eq.trans ?_ x.magnitude.ofRatio?_units
    rw [← x.natAbs_units]
    rfl

/-- A number whose magnitude is one of the format keeps it. -/
theorem magnitude_toFinite_of_units_eq {m : Magnitude} (exact : a.units.natAbs = m.units) :
    a.toFinite.magnitude = m := by
  have rounded := a.ofRatio?_units
  rw [exact, m.ofRatio?_units] at rounded
  exact (Option.some.inj rounded).symm

theorem negative_toFinite_integer {v : Int} {bounded : -(2 ^ 63) ≤ v ∧ v < 2 ^ 64} :
    (integer v bounded).toFinite.negative = true ↔ v < 0 := decide_eq_true_iff

/-- Rounding keeps the sign of a number. -/
theorem units_toFinite_eq_sign_mul (a : Number) :
    a.toFinite.units = a.units.sign * a.toFinite.magnitude.units := by
  cases a with
  | integer v bounded =>
    have sign : (integer v bounded).units.sign = v.sign := by
      unfold units
      rw [Int.sign_mul, Int.sign_eq_one_of_pos (Int.natCast_pos.2 unitsPerOne_pos), Int.mul_one]
    rw [sign]
    unfold Finite64.units
    rcases Int.lt_trichotomy v 0 with negative | rfl | positive
    · rw [if_pos (negative_toFinite_integer.2 negative), Int.sign_eq_neg_one_of_neg negative,
        Int.neg_one_mul]
    · have nothing : (integer 0 bounded).toFinite.magnitude = .zero := by
        refine magnitude_toFinite_of_units_eq ?_
        rw [natAbs_units_integer, Int.natAbs_zero, Nat.zero_mul]
        rfl
      rw [nothing]
      rfl
    · have notNegative : ¬ v < 0 := positive.le.not_gt
      rw [if_neg (mt negative_toFinite_integer.1 notNegative), Int.sign_eq_one_of_pos positive,
        Int.one_mul]
  | float x =>
    have magnitude : (x.magnitude.units : Int) = x.units.natAbs := by rw [x.natAbs_units]
    exact (Int.sign_mul_natAbs x.units).symm.trans (by rw [← magnitude]; rfl)

theorem units_magnitude_mono (le : a.units.natAbs ≤ b.units.natAbs) :
    a.toFinite.magnitude.units ≤ b.toFinite.magnitude.units :=
  Magnitude.units_le_of_le unitsPerOne_pos unitsPerOne_pos (Nat.mul_le_mul_right _ le)
    a.ofRatio?_units b.ofRatio?_units

/-- Rounding keeps the order of numbers of both kinds. -/
theorem units_toFinite_mono (le : a.value ≤ b.value) : a.toFinite.units ≤ b.toFinite.units := by
  rw [value_le_iff] at le
  rw [units_toFinite_eq_sign_mul a, units_toFinite_eq_sign_mul b]
  rcases Int.lt_or_le b.units 0 with below | notBelow
  · have order := units_magnitude_mono (show b.units.natAbs ≤ a.units.natAbs by omega)
    rw [Int.sign_eq_neg_one_of_neg below, Int.sign_eq_neg_one_of_neg (Int.lt_of_le_of_lt le below)]
    omega
  · rcases Int.lt_or_le 0 a.units with above | notAbove
    · have order := units_magnitude_mono (show a.units.natAbs ≤ b.units.natAbs by omega)
      rw [Int.sign_eq_one_of_pos above, Int.sign_eq_one_of_pos (Int.lt_of_lt_of_le above le)]
      omega
    · -- zero lies between the two
      have lower : a.units.sign * a.toFinite.magnitude.units ≤ 0 :=
        Int.mul_nonpos_of_nonpos_of_nonneg (Int.sign_nonpos_iff.2 notAbove) (Int.natCast_nonneg _)
      have upper : 0 ≤ b.units.sign * b.toFinite.magnitude.units :=
        Int.mul_nonneg (Int.sign_nonneg_iff.2 notBelow) (Int.natCast_nonneg _)
      exact Int.le_trans lower upper

/-- Rounding leaves a number alone that the format has. -/
theorem IsExact.units_toFinite (exact : a.IsExact) : a.toFinite.units = a.units := by
  have magnitude : a.toFinite.magnitude.units = a.units.natAbs := by
    cases a with
    | integer v bounded =>
      rw [natAbs_units_integer]
      exact Magnitude.units_ofNat64_of_le exact (by omega)
    | float x => exact x.natAbs_units.symm
  rw [units_toFinite_eq_sign_mul, magnitude, Int.sign_mul_natAbs]

theorem IsExact.units_toFinite_le_iff (exact : a.IsExact) (exact' : b.IsExact) :
    a.toFinite.units ≤ b.toFinite.units ↔ a.value ≤ b.value := by
  rw [exact.units_toFinite, exact'.units_toFinite, value_le_iff]

end Json.Number

/-! ## Ranges -/

namespace Descriptor

variable {size index : Nat} {source range : Json.Value} {node : Node} {lo hi n : Json.Number}

/-- A range is the two numbers in a list, which may be wrapped in another list. -/
def Bounds (range : Json.Value) (lo hi : Json.Number) : Prop :=
  range = .array [.number lo, .number hi] ∨ range = .array [.array [.number lo, .number hi]]

/-- The node of a descriptor without a literal asks for numbers between the bounds of its range. -/
theorem Stands.criterion_eq_range (stands : Stands index source node) (above : index ≠ 0)
    (silent : content? source .literal = none) (said : content? source .range = some range)
    (bounds : Bounds range lo hi) : node.criterion = .range lo.toFinite hi.toFinite := by
  have asks := stands.asks above
  generalize node.criterion = criterion at asks
  rcases asks with ⟨said', -⟩ | ⟨-, said', spells⟩
  · cases silent.symm.trans said'
  · cases said.symm.trans said'
    rcases bounds with rfl | rfl <;> cases spells <;> rfl

end Descriptor

/-- A range accepts what stands for a finite number between its bounds. -/
theorem Criterion.accepts_range_iff {mode : CaseMode} {value : Evidence.Value}
    {low high : Finite64} :
    (Criterion.range low high).accepts mode value = true ↔
      ∃ x, value.toNumber? = some (.finite x) ∧ low.units ≤ x.units ∧ x.units ≤ high.units := by
  rw [accepts_iff_met]
  constructor
  · intro met
    rcases met with _ | _ | ⟨number, above, below⟩
    exact ⟨_, number, above, below⟩
  · intro inside
    rcases inside with ⟨x, number, above, below⟩
    exact .range number above below

theorem Criterion.accepts_range_number_iff {mode : CaseMode} {low high x : Finite64} :
    (Criterion.range low high).accepts mode (.number (.finite x)) = true ↔
      low.units ≤ x.units ∧ x.units ≤ high.units := by
  rw [accepts_range_iff]
  constructor
  · intro inside
    rcases inside with ⟨_, ⟨⟩, bounds⟩
    exact bounds
  · intro bounds
    exact ⟨x, rfl, bounds⟩

open Descriptor in
/-- A node with a range accepts each number that lies in it, whatever the kinds of the three
numbers are, and no others where none of the three is rounded. -/
theorem Node.accepts_number_in_range {size index : Nat} {source range : Json.Value} {node : Node}
    {lo hi : Json.Number} (decoded : decodeNode size index source = .ok node) (above : index ≠ 0)
    (silent : content? source .literal = none) (said : content? source .range = some range)
    (bounds : Bounds range lo hi) (n : Json.Number) :
    ∃ evidence, Evidence.Value.ofJson? (.number n) = some evidence ∧ ∀ mode,
      (lo.value ≤ n.value ∧ n.value ≤ hi.value → node.criterion.accepts mode evidence = true) ∧
      (lo.IsExact → hi.IsExact → n.IsExact →
        (node.criterion.accepts mode evidence = true ↔ lo.value ≤ n.value ∧ n.value ≤ hi.value)) ∧
      (lo.IsExact → hi.IsExact → hi.value < lo.value →
        ∀ evidence', node.criterion.accepts mode evidence' = false) := by
  obtain ⟨stands, -⟩ := decodeNode_eq_ok_iff.1 decoded
  refine ⟨.number (.finite n.toFinite), rfl, fun mode => ?_⟩
  rw [stands.criterion_eq_range above silent said bounds, Criterion.accepts_range_number_iff]
  refine ⟨fun inside => ?_, fun exactLow exactHigh exact => ?_, fun exactLow exactHigh less => ?_⟩
  · exact ⟨Json.Number.units_toFinite_mono inside.1, Json.Number.units_toFinite_mono inside.2⟩
  · rw [exactLow.units_toFinite_le_iff exact, exact.units_toFinite_le_iff exactHigh]
  · intro evidence'
    rw [← Bool.not_eq_true, Criterion.accepts_range_iff]
    rintro ⟨x, -, lower, upper⟩
    have le := (exactLow.units_toFinite_le_iff exactHigh).1 (Int.le_trans lower upper)
    exact le.not_gt less

/-- A descriptor with a range as its one member. -/
def rangeDescriptor (lo hi : Json.Number) : Json.Value :=
  .object [("r", .array [.number lo, .number hi])]

/-- Three quarters, as a float. -/
def Json.Number.threeQuarters : Number :=
  .float ⟨false, ⟨3 * 2 ^ 51, 1021, by decide, .inr (by decide), by decide⟩⟩

/-- The largest integer of 64 bits. -/
def Json.Number.largest : Number := .integer (2 ^ 64 - 1) (by decide)

open Json.Number in
theorem Node.accepts_number_in_range_largest :
    ∃ node, decodeNode 2 1 (rangeDescriptor threeQuarters largest) = .ok node ∧
      ∃ evidence, Evidence.Value.ofJson? (.number largest) = some evidence ∧
        ∀ mode, node.criterion.accepts mode evidence = true := by
  have decoded : decodeNode 2 1 (rangeDescriptor threeQuarters largest) =
      .ok ⟨1, .range threeQuarters.toFinite largest.toFinite, none, none, []⟩ := rfl
  obtain ⟨evidence, given, accepts⟩ :=
    Node.accepts_number_in_range decoded (by decide) rfl rfl (.inl rfl) largest
  refine ⟨_, decoded, evidence, given, fun mode => (accepts mode).1 ⟨?_, le_refl _⟩⟩
  rw [value_le_iff]
  decide +kernel

end EvidenceTree
