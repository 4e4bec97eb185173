import EvidenceTree.Proofs.Binary64.Integers
import Mathlib.Tactic.Linarith

/-!
# Rounding to the nearest number

Rounding a quotient is pinned by two inequalities between products of whole numbers, and by what
happens half way between two numbers.

* `roundHalfEven_eq_iff`: the whole number nearest to a quotient, without any division.
* `Magnitude.units_le_of_le`: rounding keeps the order of quotients, however they are written.
* `Magnitude.Covers.ofRatio?_eq`: all that lies in the interval around a magnitude is rounded to it.
-/

namespace EvidenceTree

/-! ## Whole numbers -/

section

variable {num den num' den' quotient quotient' : Nat}

/-- A whole number is as near to a quotient as any other is, and even where another is as near. -/
structure IsNearest (num den quotient : Nat) : Prop where
  below : 2 * (quotient * den) ≤ 2 * num + den
  above : 2 * num ≤ 2 * (quotient * den) + den
  even : 2 * (quotient * den) = 2 * num + den ∨ 2 * num = 2 * (quotient * den) + den →
    quotient % 2 = 0

theorem isNearest_roundHalfEven (positive : 0 < den) :
    IsNearest num den (roundHalfEven num den) := by
  have split : num / den * den + num % den = num := Nat.div_add_mod' num den
  have next : (num / den + 1) * den = num / den * den + den := Nat.succ_mul _ _
  have rest := Nat.mod_lt num positive
  unfold roundHalfEven
  dsimp only
  split_ifs with nearBelow nearAbove evenBelow
  · exact ⟨by omega, by omega, by omega⟩
  · exact ⟨by omega, by omega, by omega⟩
  · exact ⟨by omega, by omega, fun _ => evenBelow⟩
  · exact ⟨by omega, by omega, by omega⟩

/-- Of two quotients the smaller one has no larger nearest number. -/
theorem IsNearest.le (nearest : IsNearest num den quotient) (positive : 0 < den)
    (nearest' : IsNearest num' den' quotient') (positive' : 0 < den')
    (le : num * den' ≤ num' * den) : quotient ≤ quotient' := by
  by_contra more
  obtain ⟨apart, rfl⟩ := Nat.exists_eq_add_of_le (Nat.lt_of_not_le more)
  have area : 0 < den * den' := Nat.mul_pos positive positive'
  have below : 2 * (quotient' * (den * den')) + 2 * (den * den') + 2 * (apart * (den * den')) ≤
      2 * (num * den') + den * den' := by
    have scaled := Nat.mul_le_mul_right den' nearest.below
    linarith only [scaled]
  have above : 2 * (num' * den) ≤ 2 * (quotient' * (den * den')) + den * den' := by
    have scaled := Nat.mul_le_mul_right den nearest'.above
    linarith only [scaled]
  have together : apart * (den * den') = 0 := by omega
  obtain rfl := (Nat.mul_eq_zero.1 together).resolve_right area.ne'
  -- the quotients are one, half way between two numbers, of which one is odd
  have halfWay : 2 * ((quotient' + 1 + 0) * den) = 2 * num + den :=
    Nat.eq_of_mul_eq_mul_right positive' (by linarith only [below, above, le])
  have halfWay' : 2 * num' = 2 * (quotient' * den') + den' :=
    Nat.eq_of_mul_eq_mul_right positive (by linarith only [below, above, le])
  have upper := nearest.even (.inl halfWay)
  have lower := nearest'.even (.inr halfWay')
  omega

theorem roundHalfEven_eq_iff (positive : 0 < den) :
    roundHalfEven num den = quotient ↔ IsNearest num den quotient := by
  constructor
  · rintro rfl
    exact isNearest_roundHalfEven positive
  · intro nearest
    have rounded : IsNearest num den (roundHalfEven num den) := isNearest_roundHalfEven positive
    exact Nat.le_antisymm (rounded.le positive nearest positive (Nat.le_refl _))
      (nearest.le positive rounded positive (Nat.le_refl _))

theorem roundHalfEven_mono (positive : 0 < den) (positive' : 0 < den')
    (le : num * den' ≤ num' * den) : roundHalfEven num den ≤ roundHalfEven num' den' :=
  (isNearest_roundHalfEven positive).le positive (isNearest_roundHalfEven positive') positive' le

theorem div_mono (positive : 0 < den) (positive' : 0 < den') (le : num * den' ≤ num' * den) :
    num / den ≤ num' / den' := by
  rw [Nat.le_div_iff_mul_le positive']
  refine Nat.le_of_mul_le_mul_right ?_ positive
  calc num / den * den' * den = num / den * den * den' := Nat.mul_right_comm _ _ _
    _ ≤ num * den' := Nat.mul_le_mul_right den' (Nat.div_mul_le_self num den)
    _ ≤ num' * den := le

end

/-! ## Magnitudes -/

namespace Magnitude

variable {num den num' den' exponent : Nat} {m m' : Magnitude}

theorem log2_mono {a b : Nat} (le : a ≤ b) : a.log2 ≤ b.log2 := by
  rcases Nat.eq_zero_or_pos a with rfl | positive
  · rw [Nat.log2_zero]
    exact Nat.zero_le _
  · rw [Nat.le_log2 (by omega)]
    exact Nat.le_trans (Nat.log2_self_le positive.ne') le

theorem exponentOf_mono (positive : 0 < den) (positive' : 0 < den')
    (le : num * den' ≤ num' * den) : exponentOf num den ≤ exponentOf num' den' := by
  have scaled : num * unitsPerOne * den' ≤ num' * unitsPerOne * den := by
    rw [Nat.mul_right_comm, Nat.mul_right_comm num']
    exact Nat.mul_le_mul_right _ le
  exact Nat.sub_le_sub_right (log2_mono (div_mono positive positive' scaled)) 52

theorem mantissaOf_mono (positive : 0 < den) (positive' : 0 < den')
    (le : num * den' ≤ num' * den) (same : exponentOf num den = exponentOf num' den') :
    mantissaOf num den ≤ mantissaOf num' den' := by
  have step : 0 < 2 ^ exponentOf num' den' := Nat.two_pow_pos _
  unfold mantissaOf
  rw [same]
  refine roundHalfEven_mono (Nat.mul_pos positive step) (Nat.mul_pos positive' step) ?_
  have scaled := Nat.mul_le_mul_right (unitsPerOne * 2 ^ exponentOf num' den') le
  linarith only [scaled]

/-- What a quotient is rounded to has the mantissa and the exponent of the quotient, or is the least
with the next exponent. -/
theorem units_eq_of_ofRatio? (rounded : ofRatio? num den = some m) :
    m.units = mantissaOf num den * 2 ^ exponentOf num den := by
  unfold ofRatio? at rounded
  split at rounded
  · rename_i grown
    split at rounded
    · cases rounded
      have halved (e : Nat) : 2 ^ 52 * 2 ^ (e + 1) = 2 ^ 53 * 2 ^ e := by ring
      rw [grown]
      exact halved _
    · cases rounded
  · split at rounded
    · cases rounded
      rfl
    · cases rounded

/-- Of two quotients the smaller one is not rounded to a larger magnitude. -/
theorem units_le_of_le (positive : 0 < den) (positive' : 0 < den') (le : num * den' ≤ num' * den)
    (rounded : ofRatio? num den = some m) (rounded' : ofRatio? num' den' = some m') :
    m.units ≤ m'.units := by
  rw [units_eq_of_ofRatio? rounded, units_eq_of_ofRatio? rounded']
  rcases Nat.eq_or_lt_of_le (exponentOf_mono positive positive' le) with same | less
  · rw [← same]
    exact Nat.mul_le_mul_right _ (mantissaOf_mono positive positive' le same)
  · have full := (le_mantissaOf num' den').resolve_left (Nat.ne_zero_of_lt less)
    calc mantissaOf num den * 2 ^ exponentOf num den
        ≤ 2 ^ 53 * 2 ^ exponentOf num den := Nat.mul_le_mul_right _ (mantissaOf_le num den)
      _ = 2 ^ 52 * 2 ^ (exponentOf num den + 1) := by ring
      _ ≤ 2 ^ 52 * 2 ^ exponentOf num' den' :=
        Nat.mul_le_mul_left _ (Nat.pow_le_pow_right (by decide) less)
      _ ≤ mantissaOf num' den' * 2 ^ exponentOf num' den' := Nat.mul_le_mul_right _ full

/-- Rounding looks at the quotient alone and not at how it is written. -/
theorem ofRatio?_congr (positive : 0 < den) (positive' : 0 < den')
    (same : num * den' = num' * den) : ofRatio? num den = ofRatio? num' den' := by
  have sameExponent : exponentOf num den = exponentOf num' den' :=
    Nat.le_antisymm (exponentOf_mono positive positive' same.le)
      (exponentOf_mono positive' positive same.ge)
  have sameMantissa : mantissaOf num den = mantissaOf num' den' :=
    Nat.le_antisymm (mantissaOf_mono positive positive' same.le sameExponent)
      (mantissaOf_mono positive' positive same.ge sameExponent.symm)
  unfold ofRatio?
  simp only [sameExponent, sameMantissa]

/-! ## Intervals -/

theorem ofRatio?_of_fits (mantissa : mantissaOf num den = m.mantissa)
    (exponent : exponentOf num den = m.exponent) : ofRatio? num den = some m := by
  obtain ⟨mantissa', exponent', small, full, fits⟩ := m
  dsimp only at mantissa exponent
  subst mantissa exponent
  unfold ofRatio?
  rw [dif_neg small.ne, dif_pos fits]

theorem ofRatio?_of_grown (grown : mantissaOf num den = 2 ^ 53) (least : m.mantissa = 2 ^ 52)
    (exponent : m.exponent = exponentOf num den + 1) : ofRatio? num den = some m := by
  obtain ⟨mantissa', exponent', small, full, fits⟩ := m
  dsimp only at least exponent
  subst least exponent
  unfold ofRatio?
  rw [dif_pos grown, dif_pos fits]

theorem le_exponentOf (positive : 0 < den)
    (low : 2 ^ (52 + exponent) * den ≤ num * unitsPerOne) : exponent ≤ exponentOf num den := by
  have above : 2 ^ (52 + exponent) ≤ num * unitsPerOne / den :=
    (Nat.le_div_iff_mul_le positive).2 low
  have some : num * unitsPerOne / den ≠ 0 := (Nat.lt_of_lt_of_le (Nat.two_pow_pos _) above).ne'
  exact Nat.le_sub_of_add_le' ((Nat.le_log2 some).2 above)

theorem exponentOf_le (positive : 0 < den)
    (high : num * unitsPerOne < 2 ^ (53 + exponent) * den) : exponentOf num den ≤ exponent := by
  have below : num * unitsPerOne / den < 2 ^ (53 + exponent) :=
    (Nat.div_lt_iff_lt_mul positive).2 high
  unfold exponentOf
  rcases Nat.eq_zero_or_pos (num * unitsPerOne / den) with none | some
  · rw [none, Nat.log2_zero, Nat.zero_sub]
    exact Nat.zero_le _
  · have log2_lt := (Nat.log2_lt some.ne').2 below
    omega

theorem exponentOf_eq (positive : 0 < den)
    (low : exponent = 0 ∨ 2 ^ (52 + exponent) * den ≤ num * unitsPerOne)
    (high : num * unitsPerOne < 2 ^ (53 + exponent) * den) : exponentOf num den = exponent := by
  refine Nat.le_antisymm (exponentOf_le positive high) ?_
  rcases low with rfl | low
  · exact Nat.zero_le _
  · exact le_exponentOf positive low

theorem mantissaOf_eq {mantissa : Nat} (positive : 0 < den) (same : exponentOf num den = exponent)
    (nearest : IsNearest (num * unitsPerOne) (den * 2 ^ exponent) mantissa) :
    mantissaOf num den = mantissa := by
  unfold mantissaOf
  rw [same]
  exact (roundHalfEven_eq_iff (Nat.mul_pos positive (Nat.two_pow_pos _))).2 nearest

/-- A quotient lies in the interval of what is rounded to a magnitude, in terms of products. The
ends belong to it where the mantissa is even. -/
structure Covers (m : Magnitude) (num den : Nat) : Prop where
  below : 2 * (m.units * den) ≤ 2 * (num * unitsPerOne) + m.halfGapBelow * den
  above : 2 * (num * unitsPerOne) ≤ 2 * (m.units * den) + 2 ^ m.exponent * den
  even : 2 * (m.units * den) = 2 * (num * unitsPerOne) + m.halfGapBelow * den ∨
    2 * (num * unitsPerOne) = 2 * (m.units * den) + 2 ^ m.exponent * den → m.mantissa % 2 = 0

/-- What lies above the next smaller power of two is rounded with the exponent of the magnitude. -/
theorem Covers.ofRatio?_of_le (covers : m.Covers num den) (positive : 0 < den)
    (low : m.exponent = 0 ∨ 2 ^ (52 + m.exponent) * den ≤ num * unitsPerOne) :
    ofRatio? num den = some m := by
  have area : m.units * den = m.mantissa * (den * 2 ^ m.exponent) := by
    unfold units
    ring
  have gap : m.halfGapBelow * den ≤ den * 2 ^ m.exponent := by
    rw [Nat.mul_comm den]
    exact Nat.mul_le_mul_right _ m.halfGapBelow_le
  have step : 2 ^ m.exponent * den = den * 2 ^ m.exponent := Nat.mul_comm _ _
  obtain ⟨below, above, even⟩ := covers
  rw [area] at below above even
  rw [step] at above even
  have stepPos : 0 < den * 2 ^ m.exponent := Nat.mul_pos positive (Nat.two_pow_pos _)
  have exponent : exponentOf num den = m.exponent := by
    refine exponentOf_eq positive low ?_
    have room : (m.mantissa + 1) * (den * 2 ^ m.exponent) ≤ 2 ^ 53 * (den * 2 ^ m.exponent) :=
      Nat.mul_le_mul_right _ m.mantissa_lt
    have limit : 2 ^ (53 + m.exponent) * den = 2 ^ 53 * (den * 2 ^ m.exponent) := by ring
    rw [limit]
    rw [Nat.succ_mul] at room
    omega
  refine ofRatio?_of_fits (mantissaOf_eq positive exponent ⟨?_, above, ?_⟩) exponent
  · omega
  · rintro (tie | tie)
    · exact even (.inl (by omega))
    · exact even (.inr tie)

/-- Below a power of two a quotient is rounded up to it, from a mantissa that has grown. -/
theorem Covers.ofRatio?_of_lt (covers : m.Covers num den) (positive : 0 < den)
    (raised : m.exponent ≠ 0) (high : num * unitsPerOne < 2 ^ (52 + m.exponent) * den) :
    ofRatio? num den = some m := by
  obtain ⟨exponent, exponent_eq⟩ := Nat.exists_eq_add_one_of_ne_zero raised
  have least : m.mantissa = 2 ^ 52 := by
    by_contra more
    have full := m.full.resolve_left raised
    have gap : m.halfGapBelow = 2 ^ m.exponent := if_neg fun both => more both.1
    have area : m.units * den = m.mantissa * (2 ^ m.exponent * den) := Nat.mul_assoc _ _ _
    have limit : 2 ^ (52 + m.exponent) * den = 2 ^ 52 * (2 ^ m.exponent * den) := by ring
    have room : (2 ^ 52 + 1) * (2 ^ m.exponent * den) ≤ m.mantissa * (2 ^ m.exponent * den) :=
      Nat.mul_le_mul_right _ (Nat.lt_of_le_of_ne full (Ne.symm more))
    have below := covers.below
    rw [area, gap] at below
    rw [limit] at high
    omega
  have gap : m.halfGapBelow * den = den * 2 ^ exponent := by
    unfold halfGapBelow
    rw [if_pos ⟨least, raised⟩, exponent_eq, Nat.mul_comm]
    rfl
  have area : m.units * den = 2 ^ 53 * (den * 2 ^ exponent) := by
    unfold units
    rw [least, exponent_eq]
    ring
  have limit : 2 ^ (52 + m.exponent) * den = 2 ^ 53 * (den * 2 ^ exponent) := by
    rw [exponent_eq]
    ring
  have half : 2 ^ (52 + exponent) * den = 2 ^ 52 * (den * 2 ^ exponent) := by ring
  have whole : 2 ^ (53 + exponent) * den = 2 ^ 53 * (den * 2 ^ exponent) := by ring
  have below := covers.below
  rw [area, gap] at below
  rw [limit] at high
  have same : exponentOf num den = exponent :=
    exponentOf_eq positive (.inr (by omega)) (Nat.lt_of_lt_of_eq high whole.symm)
  have grown : mantissaOf num den = 2 ^ 53 :=
    mantissaOf_eq positive same ⟨below, by omega, fun _ => by decide⟩
  rw [← same] at exponent_eq
  exact ofRatio?_of_grown grown least exponent_eq

/-- A quotient in the interval of what is rounded to a magnitude is rounded to it. -/
theorem Covers.ofRatio?_eq (covers : m.Covers num den) (positive : 0 < den) :
    ofRatio? num den = some m := by
  by_cases low : m.exponent = 0 ∨ 2 ^ (52 + m.exponent) * den ≤ num * unitsPerOne
  · exact covers.ofRatio?_of_le positive low
  · rw [not_or, Nat.not_le] at low
    exact covers.ofRatio?_of_lt positive low.1 low.2

/-- A magnitude is rounded to itself. -/
theorem ofRatio?_units (m : Magnitude) : ofRatio? m.units unitsPerOne = some m := by
  have half := m.halfGapBelow_pos
  refine Covers.ofRatio?_eq ⟨Nat.le_add_right _ _, Nat.le_add_right _ _, ?_⟩ unitsPerOne_pos
  have below := Nat.mul_pos half unitsPerOne_pos
  have above := Nat.mul_pos (Nat.two_pow_pos m.exponent) unitsPerOne_pos
  omega

/-- Two magnitudes of as many units are the same. -/
theorem units_injective (same : m.units = m'.units) : m = m' := by
  have rounded := m.ofRatio?_units
  rw [same, m'.ofRatio?_units] at rounded
  exact (Option.some.inj rounded).symm

end Magnitude

namespace Finite64

theorem natAbs_units (x : Finite64) : x.units.natAbs = x.magnitude.units := by
  unfold units
  split <;> omega

/-- Two numbers of one sign and of as many units are the same. -/
theorem eq_of_units {x y : Finite64} (sign : x.negative = y.negative)
    (same : x.units = y.units) : x = y := by
  have magnitudes : x.magnitude.units = y.magnitude.units := by
    rw [← x.natAbs_units, same, y.natAbs_units]
  obtain ⟨negative, m⟩ := x
  obtain ⟨negative', m'⟩ := y
  dsimp only at sign magnitudes
  rw [sign, Magnitude.units_injective magnitudes]

end Finite64

end EvidenceTree
