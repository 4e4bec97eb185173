import EvidenceTree.Binary64.Basic

/-!
# Rounding to binary64

Every number of the format is reached by rounding a quotient of natural numbers to the nearest
magnitude, a half to the even mantissa. Products, quotients, decimal texts and integers all go
through this one function, and what is too large for the format has no magnitude.
-/

namespace EvidenceTree

/-- The whole number nearest to a quotient; of two equally near, the even one. -/
def roundHalfEven (num den : Nat) : Nat :=
  let quotient := num / den
  let twice := 2 * (num % den)
  if twice < den then quotient
  else if den < twice then quotient + 1
  else if quotient % 2 = 0 then quotient
  else quotient + 1

theorem le_roundHalfEven (num den : Nat) : num / den ≤ roundHalfEven num den := by
  unfold roundHalfEven
  simp only
  split
  · omega
  · split
    · omega
    · split <;> omega

theorem roundHalfEven_le (num den : Nat) : roundHalfEven num den ≤ num / den + 1 := by
  unfold roundHalfEven
  simp only
  split
  · omega
  · split
    · omega
    · split <;> omega

namespace Magnitude

/-- The exponent of a quotient's magnitude before its mantissa is rounded. -/
def exponentOf (num den : Nat) : Nat := (num * unitsPerOne / den).log2 - 52

/-- The mantissa of a quotient, rounded; it may have grown to `2 ^ 53`. -/
def mantissaOf (num den : Nat) : Nat :=
  roundHalfEven (num * unitsPerOne) (den * 2 ^ exponentOf num den)

theorem mantissaOf_le (num den : Nat) : mantissaOf num den ≤ 2 ^ 53 := by
  refine Nat.le_trans (roundHalfEven_le _ _) ?_
  rw [← Nat.div_div_eq_div_mul]
  have bound : num * unitsPerOne / den < 2 ^ 53 * 2 ^ exponentOf num den := by
    refine Nat.lt_of_lt_of_le Nat.lt_log2_self ?_
    rw [← Nat.pow_add]
    refine Nat.pow_le_pow_right (by decide) ?_
    unfold exponentOf
    omega
  have := (Nat.div_lt_iff_lt_mul (Nat.two_pow_pos (exponentOf num den))).2 bound
  omega

theorem le_mantissaOf (num den : Nat) : exponentOf num den = 0 ∨ 2 ^ 52 ≤ mantissaOf num den := by
  by_cases least : exponentOf num den = 0
  · exact .inl least
  · refine .inr (Nat.le_trans ?_ (le_roundHalfEven _ _))
    rw [← Nat.div_div_eq_div_mul, Nat.le_div_iff_mul_le (Nat.two_pow_pos _), ← Nat.pow_add]
    have large : num * unitsPerOne / den ≠ 0 := by
      intro none
      exact least (by simp [exponentOf, none])
    refine Nat.le_trans (Nat.pow_le_pow_right (by decide) ?_) (Nat.log2_self_le large)
    unfold exponentOf at least ⊢
    omega

/-- The magnitude nearest to a quotient, unless that is too large. -/
def ofRatio? (num den : Nat) : Option Magnitude :=
  if grown : mantissaOf num den = 2 ^ 53 then
    if fits : exponentOf num den + 1 ≤ 2045 then
      some ⟨2 ^ 52, exponentOf num den + 1, by decide, .inr (Nat.le_refl _), fits⟩
    else none
  else if fits : exponentOf num den ≤ 2045 then
    some
      { mantissa := mantissaOf num den
        exponent := exponentOf num den
        mantissa_lt := Nat.lt_of_le_of_ne (mantissaOf_le num den) grown
        full := le_mantissaOf num den
        exponent_le := fits }
  else none

theorem isSome_ofRatio? {num den : Nat} (fits : exponentOf num den + 1 ≤ 2045) :
    (ofRatio? num den).isSome := by
  unfold ofRatio?
  split
  · rfl
  · rw [dif_pos (by omega)]
    rfl

theorem log2_mul_two_pow_lt {n bits : Nat} (shift : Nat) (positive : 0 < bits)
    (small : n < 2 ^ bits) :
    (n * 2 ^ shift).log2 < bits + shift := by
  by_cases nothing : n * 2 ^ shift = 0
  · rw [nothing, Nat.log2_zero]
    omega
  · refine (Nat.log2_lt nothing).2 ?_
    rw [Nat.pow_add]
    exact Nat.mul_lt_mul_of_pos_right small (Nat.two_pow_pos _)

/-- A 64-bit whole number is far below the largest magnitude. -/
theorem isSome_ofRatio?_of_lt {n : Nat} (small : n < 2 ^ 64) : (ofRatio? n 1).isSome := by
  refine isSome_ofRatio? ?_
  unfold exponentOf unitsPerOne
  rw [Nat.div_one]
  have := log2_mul_two_pow_lt 1074 (by decide) small
  omega

/-- The magnitude nearest to a 64-bit whole number. -/
def ofNat64 (n : Nat) (small : n < 2 ^ 64) : Magnitude :=
  (ofRatio? n 1).get (isSome_ofRatio?_of_lt small)

/-- The product, rounded, unless it is too large. -/
def mul? (a b : Magnitude) : Option Magnitude :=
  ofRatio? (a.units * b.units) (unitsPerOne * unitsPerOne)

/-- The quotient, rounded, unless it is too large. -/
def div? (a b : Magnitude) : Option Magnitude := ofRatio? a.units b.units

end Magnitude

/-- The number nearest to a signed quotient: an infinity when that is too large. -/
def Binary64.ofRatio (negative : Bool) (num den : Nat) : Binary64 :=
  match Magnitude.ofRatio? num den with
  | some m => .finite ⟨negative, m⟩
  | none => .infinite negative

/-- The number nearest to a whole number of at most 64 bits. Zero is positive. -/
def Finite64.ofInt64 (n : Int) (small : n.natAbs < 2 ^ 64) : Finite64 :=
  ⟨n < 0, Magnitude.ofNat64 n.natAbs small⟩

end EvidenceTree
