import EvidenceTree.Proofs.Binary64.Decimals

/-!
# Shortest decimals read back

The text of a number has as few digits as the search for them leaves, and no more is lost by it than
rounding takes back: what the search finds lies in the interval of what is rounded to the number,
and the plain form spells just that decimal.

* `contains_coarsestPoint`: the search stays in the interval that it is given.
* `Decimal.exists_spells_plain`: the plain form keeps the exact value of a decimal.
* `Binary64.ofText?_text`: every number reads back from its text.
-/

namespace EvidenceTree

/-! ## Shortest decimals -/

section

variable {ties : Ties} {interval : Interval} {exact step below top point : Nat} {m : Magnitude}

theorem nearerPoint_cases (ties : Ties) (exact step below : Nat) :
    nearerPoint ties exact step below = below ∨ nearerPoint ties exact step below = below + 1 := by
  unfold nearerPoint
  dsimp only
  split_ifs
  · exact .inl rfl
  · exact .inr rfl
  · cases ties with
    | up => exact .inr rfl
    | toEven => exact .inl rfl
  · cases ties with
    | up => exact .inr rfl
    | toEven => exact .inr rfl

/-- What the search for a shortest decimal finds lies in the interval. -/
theorem contains_coarsestPoint (inside : interval.contains (2 * exact) = true) :
    interval.contains (2 * ((coarsestPoint ties interval exact top).coefficient *
      10 ^ (coarsestPoint ties interval exact top).level)) = true := by
  induction top with
  | zero =>
    unfold coarsestPoint
    rw [Nat.pow_zero, Nat.mul_one]
    exact inside
  | succ top ih =>
    unfold coarsestPoint
    dsimp only
    split
    · rename_i lower upper
      dsimp only
      rcases nearerPoint_cases ties exact (10 ^ (top + 1)) (exact / 10 ^ (top + 1)) with same | same
      · rw [same]
        exact lower
      · rw [same]
        exact upper
    · rename_i lower _
      exact lower
    · rename_i _ upper
      exact upper
    · exact ih

namespace Magnitude

theorem contains_shortest (ties : Ties) (m : Magnitude) :
    m.readsBack.contains (2 * ((m.shortest ties).coefficient * 10 ^ (m.shortest ties).level)) =
      true := by
  unfold shortest
  split
  · rename_i none
    have nothing : m.decimalUnits = 0 := by
      unfold decimalUnits units
      rw [none, Nat.zero_mul, Nat.zero_mul]
    have inside := m.readsBack_self
    rw [nothing] at inside
    rw [Nat.zero_mul]
    exact inside
  · exact contains_coarsestPoint m.readsBack_self

/-- The interval that the search looks at is that of what is rounded to the magnitude. -/
theorem covers_of_contains (inside : m.readsBack.contains (2 * point) = true) :
    m.Covers point (unitsPerOne * decimalScale) := by
  have low : 2 * (m.units * decimalScale) ≤ m.readsBack.low + m.halfGapBelow * decimalScale := by
    have le := Nat.mul_le_mul_right decimalScale
      (Nat.sub_le_iff_le_add.1 (Nat.le_refl (2 * m.units - m.halfGapBelow)))
    rwa [Nat.add_mul, Nat.mul_assoc] at le
  have high : m.readsBack.high = 2 * (m.units * decimalScale) + 2 ^ m.exponent * decimalScale := by
    rw [← Nat.mul_assoc]
    exact Nat.add_mul ..
  have within : m.readsBack.low ≤ 2 * point ∧ 2 * point ≤ m.readsBack.high ∧
      (m.readsBack.low = 2 * point ∨ 2 * point = m.readsBack.high → m.mantissa % 2 = 0) := by
    unfold Interval.contains at inside
    split at inside
    · rename_i closed
      have even : m.mantissa % 2 = 0 := by simpa [readsBack] using closed
      simp only [Bool.and_eq_true, decide_eq_true_eq] at inside
      exact ⟨inside.1, inside.2, fun _ => even⟩
    · simp only [Bool.and_eq_true, decide_eq_true_eq] at inside
      exact ⟨inside.1.le, inside.2.le, by omega⟩
  obtain ⟨aboveLow, belowHigh, even⟩ := within
  have below : 2 * (m.units * decimalScale) ≤ 2 * point + m.halfGapBelow * decimalScale := by omega
  rw [high] at belowHigh even
  refine ⟨?_, ?_, fun touch => even ?_⟩
  · have scaled := Nat.mul_le_mul_left unitsPerOne below
    linarith only [scaled]
  · have scaled := Nat.mul_le_mul_left unitsPerOne belowHigh
    linarith only [scaled]
  · rcases touch with touch | touch
    · have same : 2 * (m.units * decimalScale) = 2 * point + m.halfGapBelow * decimalScale :=
        Nat.eq_of_mul_eq_mul_left unitsPerOne_pos (by linarith only [touch])
      exact .inl (by omega)
    · exact .inr (Nat.eq_of_mul_eq_mul_left unitsPerOne_pos (by linarith only [touch]))

theorem ofRatio?_shortest (ties : Ties) (m : Magnitude) :
    ofRatio? ((m.shortest ties).coefficient * 10 ^ (m.shortest ties).level)
      (unitsPerOne * decimalScale) = some m :=
  (covers_of_contains (m.contains_shortest ties)).ofRatio?_eq
    (Nat.mul_pos unitsPerOne_pos decimalScale_pos)

end Magnitude

end

/-! ## Plain numbers -/

section

variable {digits : List Char} {places : Nat}

/-- Digits with a point spell the same number with as many places behind it. -/
theorem exists_parts_pointed (isDigits : IsDigits digits) (places : Nat) :
    ∃ whole fraction, pointed digits places = whole ++ Json.fractionChars fraction ∧
      IsDigits whole ∧ (∀ c ∈ fraction, c.isDigit = true) ∧ fraction.length = places ∧
      Nat.ofDigitChars 10 (whole ++ fraction) 0 = Nat.ofDigitChars 10 digits 0 := by
  unfold pointed
  split
  · rename_i none
    subst none
    exact ⟨digits, [], by simp [Json.fractionChars], isDigits, nofun, rfl, by rw [List.append_nil]⟩
  · rename_i some
    split
    · rename_i short
      have split := List.take_append_drop (digits.length - places) digits
      have length_eq : (digits.drop (digits.length - places)).length = places := by
        rw [List.length_drop]
        omega
      refine ⟨digits.take (digits.length - places), digits.drop (digits.length - places), ?_,
        ⟨?_, fun c isChar => isDigits.2 c (List.mem_of_mem_take isChar)⟩,
        fun c isChar => isDigits.2 c (List.mem_of_mem_drop isChar), length_eq, by rw [split]⟩
      · cases behind : digits.drop (digits.length - places) with
        | nil =>
          rw [behind] at length_eq
          exact absurd length_eq.symm some
        | cons c rest => rfl
      · intro none
        rcases List.take_eq_nil_iff.1 none with nothing | nothing
        · omega
        · exact isDigits.1 nothing
    · rename_i long
      have some : List.replicate (places - digits.length) '0' ++ digits ≠ [] := fun none =>
        isDigits.1 (List.append_eq_nil_iff.1 none).2
      refine ⟨['0'], List.replicate (places - digits.length) '0' ++ digits, ?_,
        ⟨nofun, List.forall_mem_singleton.2 rfl⟩, fun c isChar => ?_, ?_, ?_⟩
      · rw [Json.fractionChars_of_ne_nil some]
        rfl
      · exact (List.mem_append.1 isChar).elim (isDigit_replicate c) (isDigits.2 c)
      · rw [List.length_append, List.length_replicate]
        omega
      · exact (ofDigitChars_zeros_append 1 _).trans (ofDigitChars_zeros_append _ _)

/-- A decimal in plain form is spelt without an exponent, and its exact value is kept. -/
theorem Decimal.exists_spells_plain (negative : Bool) (d : Decimal) :
    ∃ numeral, Json.SpellsNumeral (signChars negative ++ d.plain) numeral ∧
      numeral.negative = negative ∧
        numeral.nearest = .ofRatio negative (d.coefficient * 10 ^ d.level)
          (unitsPerOne * Magnitude.decimalScale) := by
  have isDigits : IsDigits (Nat.toDigits 10 d.coefficient ++
      List.replicate (d.level - 1074) '0') := by
    obtain ⟨some, all⟩ := isDigits_toDigits d.coefficient
    exact ⟨fun none => some (List.append_eq_nil_iff.1 none).1, fun c isChar =>
      (List.mem_append.1 isChar).elim (all c) (isDigit_replicate c)⟩
  obtain ⟨whole, fraction, plain_eq, isWhole, isFraction, length_eq, value_eq⟩ :=
    exists_parts_pointed isDigits (1074 - d.level)
  have coefficient_eq : Nat.ofDigitChars 10 (whole ++ fraction) 0 =
      10 ^ (d.level - 1074) * d.coefficient := by
    rw [value_eq, Nat.ofDigitChars_append, Nat.ofDigitChars_replicate_zero,
      Nat.ofDigitChars_ten_toDigits]
  refine ⟨⟨negative, whole, fraction, none⟩,
    ⟨isWhole, isFraction, [], .none, by rw [List.append_nil]; exact congrArg _ plain_eq⟩, rfl, ?_⟩
  have power_eq : Json.Numeral.power ⟨negative, whole, fraction, none⟩ =
      -((1074 - d.level : Nat) : Int) := by
    unfold Json.Numeral.power
    rw [length_eq]
    exact Int.zero_sub _
  unfold Json.Numeral.nearest Json.Numeral.coefficient
  rw [power_eq]
  dsimp only
  rw [coefficient_eq, Int.toNat_neg_natCast, Int.neg_neg, Int.toNat_natCast]
  refine Binary64.ofRatio_congr (ten_pow_pos _)
    (Nat.mul_pos unitsPerOne_pos Magnitude.decimalScale_pos) ?_
  rw [Magnitude.unitsPerOne_mul_decimalScale]
  generalize 1074 = places
  have exponents : d.level - places + places = d.level + (places - d.level) := by omega
  calc 10 ^ (d.level - places) * d.coefficient * 10 ^ 0 * 10 ^ places
      = d.coefficient * (10 ^ (d.level - places) * 10 ^ places) := by ring
    _ = d.coefficient * (10 ^ d.level * 10 ^ (places - d.level)) := by
      rw [ten_pow_mul, ten_pow_mul, exponents]
    _ = d.coefficient * 10 ^ d.level * 10 ^ (places - d.level) := (Nat.mul_assoc ..).symm

end

namespace Binary64

/-- Every number reads back from its text, an infinity, a negative zero and NaN too. -/
theorem ofText?_text (x : Binary64) : ofText? x.text = some x := by
  cases x with
  | finite x =>
    obtain ⟨numeral, spells, sign, nearest_eq⟩ :=
      Decimal.exists_spells_plain x.negative (x.magnitude.shortest .up)
    refine (ofText?_of_spells spells).trans ?_
    rw [nearest_eq, ofRatio_of_eq (Magnitude.ofRatio?_shortest .up x.magnitude)]
    rfl
  | infinite negative => cases negative <;> decide
  | nan => decide

end Binary64

end EvidenceTree
