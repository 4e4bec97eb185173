import EvidenceTree.Proofs.Binary64.Decimals

/-!
# Scaling by powers of ten

A float in a JSON text is the digits that fit into 64 bits, rounded, times or divided by powers of
ten, each rounded too. Where the digits and the one power are numbers of the format, only the last
step rounds, and what comes out is the number nearest to the decimal. Otherwise it need not be.

* `Json.absorb_eq`: digits of a number of 64 bits all fit.
* `Json.units_powerOfTen?`: the powers of ten up to `10 ^ 22` are numbers of the format.
* `Json.Numeral.scaled_of_isShort`, `Json.Numeral.nearest_of_isShort`: a short decimal is rounded
  once, so it is read as the number nearest to it.
-/

namespace EvidenceTree

namespace Magnitude

variable {a b num den : Nat} {m m' : Magnitude}

theorem mul?_eq (whole : m.units = a * unitsPerOne) (whole' : m'.units = b * unitsPerOne) :
    m.mul? m' = ofRatio? (a * b) 1 := by
  have one := unitsPerOne_pos
  unfold mul?
  rw [whole, whole']
  exact ofRatio?_congr (Nat.mul_pos one one) Nat.one_pos (by ring)

theorem div?_eq (whole : m.units = a * unitsPerOne) (whole' : m'.units = b * unitsPerOne)
    (positive : 0 < b) : m.div? m' = ofRatio? a b := by
  have one := unitsPerOne_pos
  unfold div?
  rw [whole, whole']
  exact ofRatio?_congr (Nat.mul_pos positive one) positive (by ring)

end Magnitude

namespace Json

variable {digits : List Char} {n power : Nat} {m : Magnitude} {numeral : Numeral}
  {bound : Finite64}

/-! ## Digits -/

theorem le_ofDigitChars (n : Nat) (digits : List Char) : n ≤ Nat.ofDigitChars 10 digits n := by
  induction digits generalizing n with
  | nil => exact Nat.le_refl _
  | cons digit digits ih =>
    rw [Nat.ofDigitChars_cons]
    exact Nat.le_trans (by omega) (ih _)

/-- Digits of a number of 64 bits all fit. -/
theorem absorb_eq (small : Nat.ofDigitChars 10 digits n < 2 ^ 64) :
    absorb n digits = (Nat.ofDigitChars 10 digits n, []) := by
  induction digits generalizing n with
  | nil => rfl
  | cons digit digits ih =>
    have split : Nat.ofDigitChars 10 (digit :: digits) n =
        Nat.ofDigitChars 10 digits (Nat.ofDigitChars 10 [digit] n) :=
      Nat.ofDigitChars_append (l := [digit]) n
    rw [split] at small ⊢
    have fits : Nat.ofDigitChars 10 [digit] n < 2 ^ 64 :=
      Nat.lt_of_le_of_lt (le_ofDigitChars _ digits) small
    unfold absorb
    exact (if_pos fits).trans (ih small)

/-! ## Powers of ten -/

/-- The powers of ten up to `10 ^ 22` are numbers of the format. -/
theorem units_powerOfTen? (small : power ≤ 22) :
    (powerOfTen? power).map Magnitude.units = some (10 ^ power * unitsPerOne) := by
  have each : ∀ k < 23, (powerOfTen? k).map Magnitude.units = some (10 ^ k * unitsPerOne) := by
    decide +kernel
  exact each power (Nat.lt_succ_of_le small)

theorem scaleUp_eq (whole : m.units = n * unitsPerOne) (small : power ≤ 22) :
    scaleUp m power = Magnitude.ofRatio? (n * 10 ^ power) 1 := by
  obtain ⟨ten, isPower, units⟩ := Option.map_eq_some_iff.1 (units_powerOfTen? small)
  unfold scaleUp
  rw [if_pos (Nat.le_trans small (by decide)), isPower, Option.bind_some]
  exact Magnitude.mul?_eq whole units

theorem scaleDown_eq (whole : m.units = n * unitsPerOne) (small : power ≤ 22) :
    scaleDown m power = Magnitude.ofRatio? n (10 ^ power) := by
  obtain ⟨ten, isPower, units⟩ := Option.map_eq_some_iff.1 (units_powerOfTen? small)
  rw [scaleDown, if_pos (Nat.le_trans small (by decide)), divided, isPower,
    Option.bind_some]
  exact Magnitude.div?_eq whole units (ten_pow_pos power)

/-! ## Decimals -/

namespace Numeral

/-- A decimal that is written with a fraction or an exponent is a float. -/
def IsFloat (numeral : Numeral) : Prop := numeral.fraction ≠ [] ∨ numeral.exponent ≠ none

theorem number?_of_isFloat (isFloat : numeral.IsFloat) : numeral.number? = numeral.float? := by
  have notIntegral : numeral.isIntegral = false := by
    unfold isIntegral
    rcases isFloat with some | some
    · rw [List.isEmpty_eq_false_iff.2 some]
      rfl
    · rw [Option.isNone_eq_false_iff.2 (Option.isSome_iff_ne_none.2 some)]
      simp
  unfold number?
  rw [notIntegral]
  rfl

theorem float?_eq_some_iff {n : Number} :
    numeral.float? = some n ↔
      ∃ m, scaled (.ofNat64 numeral.significand numeral.significand_lt) numeral.scale = some m ∧
        n = .float ⟨numeral.negative, m⟩ := by
  unfold float?
  rw [Option.map_eq_some_iff]
  exact ⟨fun ⟨m, isScaled, made⟩ => ⟨m, isScaled, made.symm⟩,
    fun ⟨m, isScaled, made⟩ => ⟨m, isScaled, made.symm⟩⟩

/-- What is read as a float is the numeral's float, with its sign. -/
theorem float?_of_number? (isNumber : numeral.number? = some (.float bound)) :
    numeral.float? = some (.float bound) ∧ bound.negative = numeral.negative := by
  have isFloat : numeral.float? = some (.float bound) := by
    unfold number? at isNumber
    split at isNumber
    · split at isNumber
      · cases isNumber
      · split at isNumber
        · cases isNumber
        · exact isNumber
    · exact isNumber
  obtain ⟨m, -, ⟨⟩⟩ := float?_eq_some_iff.1 isFloat
  exact ⟨isFloat, rfl⟩

/-- The digits of a decimal and its power of ten are numbers of the format. -/
def IsShort (numeral : Numeral) : Prop := numeral.coefficient ≤ 2 ^ 53 ∧ numeral.power.natAbs ≤ 22

theorem significand_eq (small : numeral.coefficient < 2 ^ 64) :
    numeral.significand = numeral.coefficient ∧ numeral.scale = numeral.power := by
  have split : numeral.coefficient =
      Nat.ofDigitChars 10 numeral.fraction (Nat.ofDigitChars 10 numeral.whole 0) :=
    Nat.ofDigitChars_append 0
  rw [split] at small
  have whole : absorb 0 numeral.whole = (Nat.ofDigitChars 10 numeral.whole 0, []) :=
    absorb_eq (Nat.lt_of_le_of_lt (le_ofDigitChars _ _) small)
  unfold significand scale power
  rw [whole, absorb_eq small, split]
  refine ⟨rfl, ?_⟩
  dsimp only [List.length_nil]
  omega

/-- A short decimal is rounded once. -/
theorem scaled_of_isShort (short : numeral.IsShort) :
    scaled (.ofNat64 numeral.significand numeral.significand_lt) numeral.scale =
      Magnitude.ofRatio? (numeral.coefficient * 10 ^ numeral.power.toNat)
        (10 ^ (-numeral.power).toNat) := by
  obtain ⟨small, near⟩ := short
  obtain ⟨significand, scale⟩ := significand_eq (Nat.lt_of_le_of_lt small (by decide))
  have whole : (Magnitude.ofNat64 numeral.significand numeral.significand_lt).units =
      numeral.coefficient * unitsPerOne := by
    rw [Magnitude.units_ofNat64_of_le (significand ▸ small), significand]
  unfold scaled
  rw [scale]
  split
  · rename_i up
    have noDown : (-numeral.power).toNat = 0 := by omega
    rw [noDown, scaleUp_eq whole (by omega), Nat.pow_zero]
  · rename_i down
    have noUp : numeral.power.toNat = 0 := by omega
    have abs : (-numeral.power).toNat = numeral.power.natAbs := by omega
    rw [noUp, abs, scaleDown_eq whole near, Nat.pow_zero, Nat.mul_one]

/-- A short decimal in a document is the number nearest to it. -/
theorem nearest_of_isShort (short : numeral.IsShort)
    (read : numeral.float? = some (.float bound)) : numeral.nearest = .finite bound := by
  obtain ⟨m, isScaled, ⟨⟩⟩ := float?_eq_some_iff.1 read
  rw [scaled_of_isShort short] at isScaled
  exact Binary64.ofRatio_of_eq isScaled

end Numeral

end Json

end EvidenceTree
