import EvidenceTree.Json.NumberText
import Mathlib.Data.Nat.Factorization.Basic
import Mathlib.Tactic.Ring

/-!
# Whole numbers in the binary64 format

Up to `2 ^ 53` a whole number is a number of the format, and its neighbours are so near that no
shorter decimal reads back as it. So it is written with its own digits. Beyond, rounding may move
it, and a number that it does not move may still be written with other digits than its own.

* `Magnitude.units_ofRatio?`: a quotient that a mantissa reaches is not rounded.
* `coarsestPoint_eq`: the search for a shortest decimal finds the number itself where no coarser
  grid comes near it.
* `Finite64.plain_ofInt64`: a whole number up to `2 ^ 53` is written with its own digits.
-/

namespace EvidenceTree

/-! ## Rounding -/

theorem roundHalfEven_mul (quotient : Nat) {den : Nat} (positive : 0 < den) :
    roundHalfEven (quotient * den) den = quotient := by
  unfold roundHalfEven
  rw [Nat.mul_mod_left, Nat.mul_div_cancel _ positive]
  exact if_pos positive

namespace Magnitude

variable {num den quotient n : Nat} {m : Magnitude}

/-- A quotient that is a whole number of units of its exponent is not rounded. -/
theorem units_ofRatio? (positive : 0 < den)
    (whole : num * unitsPerOne = quotient * (den * 2 ^ exponentOf num den))
    (rounded : ofRatio? num den = some m) : m.units * den = num * unitsPerOne := by
  have mantissa : mantissaOf num den = quotient := by
    unfold mantissaOf
    rw [whole]
    exact roundHalfEven_mul quotient (Nat.mul_pos positive (Nat.two_pow_pos _))
  unfold ofRatio? at rounded
  split at rounded
  · rename_i grown
    split at rounded
    · cases rounded
      have halved (a e : Nat) : a * 2 ^ (e + 1) * den = a * 2 * (den * 2 ^ e) := by ring
      rw [whole, ← mantissa, grown]
      exact halved (2 ^ 52) _
    · cases rounded
  · split at rounded
    · cases rounded
      rw [whole, ← mantissa]
      exact (Nat.mul_right_comm _ _ _).trans (Nat.mul_assoc _ _ _)
    · cases rounded

theorem log2_mul_two_pow (positive : 0 < n) (shift : Nat) :
    (n * 2 ^ shift).log2 = n.log2 + shift := by
  have shifted : n * 2 ^ shift ≠ 0 := (Nat.mul_pos positive (Nat.two_pow_pos shift)).ne'
  rw [Nat.log2_eq_iff shifted, Nat.pow_add, Nat.add_right_comm, Nat.pow_add]
  exact ⟨Nat.mul_le_mul_right _ (Nat.log2_self_le positive.ne'),
    Nat.mul_lt_mul_of_pos_right Nat.lt_log2_self (Nat.two_pow_pos shift)⟩

theorem exponentOf_nat (positive : 0 < n) : exponentOf n 1 = n.log2 + 1022 := by
  have log2_eq : (n * 2 ^ 1074).log2 = n.log2 + 1074 := log2_mul_two_pow positive 1074
  unfold exponentOf unitsPerOne
  rw [Nat.div_one, log2_eq]
  omega

/-- A whole number below `2 ^ 53` is a magnitude of the format. -/
theorem units_ofNat64 (small : n < 2 ^ 53) (fits : n < 2 ^ 64) :
    (ofNat64 n fits).units = n * unitsPerOne := by
  have rounded : ofRatio? n 1 = some (ofNat64 n fits) := (Option.some_get _).symm
  rcases Nat.eq_zero_or_pos n with rfl | positive
  · have whole : 0 * unitsPerOne = 0 * (1 * 2 ^ exponentOf 0 1) := by
      rw [Nat.zero_mul, Nat.zero_mul]
    rw [← Nat.mul_one (units _)]
    exact units_ofRatio? Nat.one_pos whole rounded
  · have log2_lt : n.log2 < 53 := (Nat.log2_lt positive.ne').2 small
    have whole : n * unitsPerOne = n * 2 ^ (52 - n.log2) * (1 * 2 ^ exponentOf n 1) := by
      rw [exponentOf_nat positive, Nat.one_mul, Nat.mul_assoc, ← Nat.pow_add]
      have sum : 52 - n.log2 + (n.log2 + 1022) = 1074 := by omega
      rw [sum]
      rfl
    rw [← Nat.mul_one (units _)]
    exact units_ofRatio? Nat.one_pos whole rounded

/-- A whole number up to `2 ^ 53` is a magnitude of the format. -/
theorem units_ofNat64_of_le (small : n ≤ 2 ^ 53) (fits : n < 2 ^ 64) :
    (ofNat64 n fits).units = n * unitsPerOne := by
  rcases Nat.lt_or_eq_of_le small with below | rfl
  · exact units_ofNat64 below fits
  · revert fits
    decide +kernel

theorem exponent_le_of_units_lt {shift : Nat} (small : m.units < 2 ^ (53 + shift)) :
    m.exponent ≤ shift := by
  rcases m.full with least | large
  · omega
  · have below : 2 ^ (52 + m.exponent) < 2 ^ (53 + shift) := by
      rw [Nat.pow_add]
      exact Nat.lt_of_le_of_lt (Nat.mul_le_mul_right _ large) small
    have exponents := (Nat.pow_lt_pow_iff_right Nat.one_lt_two).1 below
    omega

/-- A whole number below `2 ^ 53` has its neighbours at a distance of at most one. -/
theorem exponent_ofNat64_le (small : n < 2 ^ 53) (fits : n < 2 ^ 64) :
    (ofNat64 n fits).exponent ≤ 1074 := by
  have below (shift : Nat) : n * 2 ^ shift < 2 ^ (53 + shift) := by
    rw [Nat.pow_add]
    exact Nat.mul_lt_mul_of_pos_right small (Nat.two_pow_pos shift)
  refine exponent_le_of_units_lt ?_
  rw [units_ofNat64 small]
  exact below 1074

end Magnitude

/-! ## The search for a shortest decimal -/

section

variable {ties : Ties} {interval : Interval} {target coefficient level top : Nat}

theorem Interval.contains_eq_false_of_lt {n : Nat} (below : n < interval.low) :
    interval.contains n = false := by
  unfold contains
  split <;> simp <;> omega

theorem Interval.contains_eq_false_of_gt {n : Nat} (above : interval.high < n) :
    interval.contains n = false := by
  unfold contains
  split <;> simp <;> omega

theorem nearerPoint_self {step : Nat} (positive : 0 < step) :
    nearerPoint ties (coefficient * step) step coefficient = coefficient := by
  unfold nearerPoint
  have above : 0 < (coefficient + 1) * step - coefficient * step := by
    rw [Nat.succ_mul, Nat.add_sub_cancel_left]
    exact positive
  rw [Nat.sub_self]
  exact if_pos above

/-- A grid that has the number itself as a point is coarse enough to be taken, and no coarser one
is where none has a point in the interval. -/
theorem coarsestPoint_eq (target_eq : target = coefficient * 10 ^ level) (inLevels : level ≤ top)
    (inside : interval.contains (2 * target) = true)
    (coarser : ∀ k, level < k → k ≤ top →
      interval.contains (2 * (target / 10 ^ k * 10 ^ k)) = false ∧
        interval.contains (2 * ((target / 10 ^ k + 1) * 10 ^ k)) = false) :
    coarsestPoint ties interval target top = ⟨coefficient, level⟩ := by
  induction top with
  | zero =>
    obtain rfl := Nat.le_zero.1 inLevels
    rw [Nat.pow_zero, Nat.mul_one] at target_eq
    rw [target_eq]
    rfl
  | succ top ih =>
    unfold coarsestPoint
    rcases Nat.lt_or_eq_of_le inLevels with below | rfl
    · obtain ⟨outBelow, outAbove⟩ := coarser (top + 1) below (Nat.le_refl _)
      simp only [outBelow, outAbove]
      exact ih (Nat.le_of_lt_succ below) fun k above inTop =>
        coarser k above (Nat.le_succ_of_le inTop)
    · have positive : 0 < 10 ^ (top + 1) := Nat.pow_pos (by decide)
      have quotient : target / 10 ^ (top + 1) = coefficient := by
        rw [target_eq, Nat.mul_div_cancel _ positive]
      have point : coefficient * 10 ^ (top + 1) = target := target_eq.symm
      simp only [quotient, point, inside]
      split
      · rw [target_eq, nearerPoint_self positive]
      · rfl
      · rename_i out _
        cases out
      · rename_i out _
        cases out

/-- The search starts on a grid that is coarser than the number's own. -/
theorem le_topLevel (large : 10 ^ level ≤ target) : level ≤ topLevel target := by
  have bound : 10 ^ level < 2 ^ (target.log2 + 1) := Nat.lt_of_le_of_lt large Nat.lt_log2_self
  -- 28 / 93 is above the logarithm of two, and below the ratio that the first level is taken by
  have powers : 10 ^ (93 * level) < 10 ^ (28 * (target.log2 + 1)) := by
    calc 10 ^ (93 * level) = (10 ^ level) ^ 93 := by rw [Nat.mul_comm, Nat.pow_mul]
      _ < (2 ^ (target.log2 + 1)) ^ 93 := Nat.pow_lt_pow_left bound (by decide)
      _ = (2 ^ 93) ^ (target.log2 + 1) := Nat.pow_right_comm _ _ _
      _ ≤ (10 ^ 28) ^ (target.log2 + 1) := Nat.pow_le_pow_left (by decide) _
      _ = 10 ^ (28 * (target.log2 + 1)) := by rw [Nat.pow_mul]
  have exponents := (Nat.pow_lt_pow_iff_right (by decide)).1 powers
  unfold topLevel
  omega

end

/-! ## Digits -/

theorem toDigits_mul_ten_pow {n : Nat} (positive : 0 < n) (k : Nat) :
    Nat.toDigits 10 (n * 10 ^ k) = Nat.toDigits 10 n ++ List.replicate k '0' := by
  induction k with
  | zero => simp
  | succ k ih =>
    have shifted : n * 10 ^ (k + 1) = 10 * (n * 10 ^ k) + 0 := by
      rw [Nat.pow_succ, Nat.add_zero, ← Nat.mul_assoc, Nat.mul_comm]
    have front : 0 < n * 10 ^ k := Nat.mul_pos positive (Nat.pow_pos (by decide : 0 < 10))
    have digits := Nat.toDigits_append_toDigits (b := 10) (d := 0) (by decide) front (by decide)
    rw [shifted, ← digits, ih, List.append_assoc, List.replicate_succ']
    rfl

/-- The decimal of a whole number, without its last zeros, is written with all its digits. -/
theorem Decimal.plain_whole {c : Nat} (positive : 0 < c) (k : Nat) :
    Decimal.plain ⟨c, 1074 + k⟩ = Nat.toDigits 10 (c * 10 ^ k) := by
  unfold Decimal.plain pointed
  rw [toDigits_mul_ten_pow positive]
  simp

namespace Magnitude

variable {c k n : Nat} {m : Magnitude}

theorem decimalScale_pos : 0 < decimalScale := by decide +kernel

theorem unitsPerOne_mul_decimalScale : unitsPerOne * decimalScale = 10 ^ 1074 := by
  unfold unitsPerOne decimalScale
  generalize 1074 = places
  exact (Nat.mul_pow 2 5 places).symm

theorem mul_ten_pow_add (a i j : Nat) : a * 10 ^ (i + j) = a * 10 ^ j * 10 ^ i := by
  rw [Nat.mul_assoc, ← Nat.pow_add, Nat.add_comm]

theorem halfGapBelow_pos (m : Magnitude) : 0 < m.halfGapBelow := by
  unfold halfGapBelow
  split <;> exact Nat.two_pow_pos _

theorem halfGapBelow_le (m : Magnitude) : m.halfGapBelow ≤ 2 ^ m.exponent := by
  unfold halfGapBelow
  split
  · exact Nat.pow_le_pow_right (by decide) (Nat.sub_le _ _)
  · exact Nat.le_refl _

/-- A number that is at least one away from a whole number does not read back as it. -/
theorem not_readsBack {a : Nat} (units_eq : m.units = n * unitsPerOne)
    (near : 2 ^ m.exponent ≤ unitsPerOne) (differ : a ≠ n) :
    m.readsBack.contains (2 * (a * (unitsPerOne * decimalScale))) = false := by
  have gap := Nat.le_trans m.halfGapBelow_le near
  have one := unitsPerOne_pos
  have point : 2 * (a * (unitsPerOne * decimalScale)) = 2 * (a * unitsPerOne) * decimalScale := by
    rw [← Nat.mul_assoc a, ← Nat.mul_assoc 2]
  have scale := decimalScale_pos
  have outside : 2 * (a * unitsPerOne) < 2 * m.units - m.halfGapBelow ∨
      2 * m.units + 2 ^ m.exponent < 2 * (a * unitsPerOne) := by
    rw [units_eq]
    rcases Nat.lt_or_gt_of_ne differ with less | more
    · have := Nat.mul_le_mul_right unitsPerOne (Nat.succ_le_of_lt less)
      rw [Nat.succ_mul] at this
      omega
    · have := Nat.mul_le_mul_right unitsPerOne (Nat.succ_le_of_lt more)
      rw [Nat.succ_mul] at this
      omega
  rw [point]
  rcases outside with below | above
  · exact Interval.contains_eq_false_of_lt (Nat.mul_lt_mul_of_pos_right below scale)
  · exact Interval.contains_eq_false_of_gt (Nat.mul_lt_mul_of_pos_right above scale)

/-- A magnitude reads back as itself. -/
theorem readsBack_self (m : Magnitude) : m.readsBack.contains (2 * m.decimalUnits) = true := by
  have scale := decimalScale_pos
  have below := m.halfGapBelow_pos
  have above := Nat.two_pow_pos m.exponent
  have point : 2 * m.decimalUnits = 2 * m.units * decimalScale := by
    rw [decimalUnits, ← Nat.mul_assoc]
  have low : m.readsBack.low ≤ 2 * m.units * decimalScale :=
    Nat.mul_le_mul_right _ (Nat.sub_le _ _)
  have high : 2 * m.units * decimalScale < m.readsBack.high :=
    Nat.mul_lt_mul_of_pos_right (Nat.lt_add_of_pos_right above) scale
  rw [point]
  unfold Interval.contains
  split
  · simp [low, Nat.le_of_lt high]
  · rename_i isOpen
    -- an odd mantissa is none of zero
    have positive : 0 < m.units := by
      refine Nat.mul_pos (Nat.pos_of_ne_zero fun zero => isOpen ?_) above
      simp [readsBack, zero]
    have low : m.readsBack.low < 2 * m.units * decimalScale :=
      Nat.mul_lt_mul_of_pos_right (by omega) scale
    simp [low, high]

/-- A whole number with neighbours at a distance of at most one is its own shortest decimal. -/
theorem shortest_whole {ties : Ties} (units_eq : m.units = c * 10 ^ k * unitsPerOne)
    (near : 2 ^ m.exponent ≤ unitsPerOne) (last : ¬ 10 ∣ c) :
    m.shortest ties = ⟨c, 1074 + k⟩ := by
  have positive : 0 < c := Nat.pos_of_ne_zero fun zero => last (zero ▸ Nat.dvd_zero 10)
  have tens (i : Nat) : 0 < 10 ^ i := Nat.pow_pos (by decide)
  have whole : m.decimalUnits = c * 10 ^ k * 10 ^ 1074 := by
    rw [decimalUnits, units_eq, Nat.mul_assoc, unitsPerOne_mul_decimalScale]
  have target_eq : m.decimalUnits = c * 10 ^ (1074 + k) := by
    rw [whole, mul_ten_pow_add]
  have some : m.mantissa ≠ 0 := by
    intro zero
    have nothing : m.units = 0 := by rw [units, zero, Nat.zero_mul]
    rw [units_eq] at nothing
    exact absurd nothing (Nat.mul_pos (Nat.mul_pos positive (tens k)) unitsPerOne_pos).ne'
  unfold shortest
  rw [if_neg some]
  refine coarsestPoint_eq target_eq (le_topLevel ?_) m.readsBack_self fun j coarse _ => ?_
  · rw [target_eq]
    exact Nat.le_mul_of_pos_left _ positive
  · obtain ⟨i, rfl⟩ := Nat.exists_eq_add_of_le (Nat.le_of_lt (Nat.lt_of_le_of_lt
      (Nat.le_add_right 1074 k) coarse))
    have finer : k < i := Nat.lt_of_add_lt_add_left coarse
    -- the points of a coarser grid are whole numbers, but not this one
    have differ (a : Nat) : a * 10 ^ i ≠ c * 10 ^ k := by
      intro same
      obtain ⟨d, rfl⟩ := Nat.exists_eq_add_of_lt finer
      refine last ⟨a * 10 ^ d, Nat.eq_of_mul_eq_mul_right (tens k) ?_⟩
      rw [← same]
      ring
    have point (a : Nat) : a * 10 ^ (1074 + i) = a * 10 ^ i * (unitsPerOne * decimalScale) := by
      rw [unitsPerOne_mul_decimalScale, mul_ten_pow_add]
    rw [point, point]
    exact ⟨not_readsBack units_eq near (differ _), not_readsBack units_eq near (differ _)⟩

end Magnitude

/-! ## Whole numbers as texts -/

namespace Magnitude

variable {n : Nat}

/-- A whole number below `2 ^ 53` is written with its own digits. -/
theorem plain_shortest_ofNat64 {ties : Ties} (small : n < 2 ^ 53) (fits : n < 2 ^ 64) :
    ((ofNat64 n fits).shortest ties).plain = Nat.toDigits 10 n := by
  have units_eq := units_ofNat64 small fits
  rcases Nat.eq_zero_or_pos n with rfl | positive
  · have nothing : (ofNat64 0 fits).mantissa = 0 := by
      rw [Nat.zero_mul] at units_eq
      exact (Nat.mul_eq_zero.1 units_eq).resolve_right (Nat.two_pow_pos _).ne'
    unfold shortest
    rw [if_pos nothing]
    rfl
  · obtain ⟨k, c, last, split⟩ := Nat.exists_eq_pow_mul_and_not_dvd positive.ne' 10 (by decide)
    rw [Nat.mul_comm] at split
    have powers {shift : Nat} (inShift : (ofNat64 n fits).exponent ≤ shift) :
        2 ^ (ofNat64 n fits).exponent ≤ 2 ^ shift := Nat.pow_le_pow_right (by decide) inShift
    have near := powers (exponent_ofNat64_le small fits)
    have some : 0 < c := Nat.pos_of_ne_zero fun zero => last (zero ▸ Nat.dvd_zero 10)
    have whole : (ofNat64 n fits).units = c * 10 ^ k * unitsPerOne := by rw [← split, units_eq]
    rw [shortest_whole whole near last, Decimal.plain_whole some, ← split]

/-- The number above `2 ^ 53` reads back as it, but is no nearer to it than itself. -/
theorem plain_shortest_two_pow (fits : 2 ^ 53 < 2 ^ 64) :
    ((ofNat64 (2 ^ 53) fits).shortest .up).plain = Nat.toDigits 10 (2 ^ 53) := by
  revert fits
  decide +kernel

end Magnitude

/-- A whole number up to `2 ^ 53` is written with its own digits. -/
theorem Finite64.plain_ofInt64 {n : Int} (small : n.natAbs ≤ 2 ^ 53) (fits : n.natAbs < 2 ^ 64) :
    (Finite64.ofInt64 n fits).plain = Json.integerChars n := by
  have digits : ((Magnitude.ofNat64 n.natAbs fits).shortest .up).plain =
      Nat.toDigits 10 n.natAbs := by
    generalize n.natAbs = magnitude at small fits
    rcases Nat.lt_or_eq_of_le small with below | rfl
    · exact Magnitude.plain_shortest_ofNat64 below fits
    · exact Magnitude.plain_shortest_two_pow fits
  unfold Finite64.plain Json.integerChars
  rw [← digits]
  rfl

end EvidenceTree
