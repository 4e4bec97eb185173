import EvidenceTree.Proofs.Binary64.Numerals
import EvidenceTree.Proofs.Binary64.Rounding
import EvidenceTree.Proofs.Text.Trimming

/-!
# Decimals as texts

A decimal is spelt by its digits, with a point and an exponent or without. What is read of such a
text is the number nearest to the decimal's exact value, however long the digits and however large
the exponent.

* `Json.SpellsNumeral`: the texts that spell a decimal.
* `Binary64.ofDecimal_eq_ofRatio`: the number of digits settles an exponent beyond the format as
  rounding would.
* `Binary64.ofText?_of_spells`: a text that spells a decimal is read as the number nearest to it.
-/

namespace EvidenceTree

/-! ## Spelling -/

namespace Json

/-- An exponent is spelt by a mark, a sign or none, and digits; no exponent by nothing. -/
inductive SpellsExponent : List Char → Option Int → Prop
  | none : SpellsExponent [] none
  | unsigned {mark : Char} {digits : List Char} : mark = 'e' ∨ mark = 'E' → IsDigits digits →
      SpellsExponent (mark :: digits) (some (Nat.ofDigitChars 10 digits 0))
  | signed {mark : Char} {negative : Bool} {digits : List Char} : mark = 'e' ∨ mark = 'E' →
      IsDigits digits → SpellsExponent (mark :: (if negative then '-' else '+') :: digits)
        (some (if negative then -(Nat.ofDigitChars 10 digits 0) else Nat.ofDigitChars 10 digits 0))

/-- The digits of a fraction behind a point, and no point where there is no fraction. -/
def fractionChars : List Char → List Char
  | [] => []
  | digits => '.' :: digits

theorem fractionChars_of_ne_nil {digits : List Char} (some : digits ≠ []) :
    fractionChars digits = '.' :: digits := by
  cases digits with
  | nil => exact absurd rfl some
  | cons c rest => rfl

/-- A numeral is spelt by its sign, the digits of its parts and its exponent. -/
structure SpellsNumeral (cs : List Char) (numeral : Numeral) : Prop where
  whole : IsDigits numeral.whole
  fraction : ∀ c ∈ numeral.fraction, c.isDigit = true
  parts : ∃ tail, SpellsExponent tail numeral.exponent ∧
    cs = signChars numeral.negative ++ (numeral.whole ++ (fractionChars numeral.fraction ++ tail))

theorem SpellsExponent.visible {tail : List Char} {exponent : Option Int}
    (spells : SpellsExponent tail exponent) : ∀ c ∈ tail, Text.isBlank c = false := by
  have marked {mark : Char} (isMark : mark = 'e' ∨ mark = 'E') : Text.isBlank mark = false := by
    rcases isMark with rfl | rfl <;> decide
  cases spells with
  | none => nofun
  | unsigned isMark isDigits =>
    exact List.forall_mem_cons.2 ⟨marked isMark, isDigits.visible⟩
  | @signed mark negative digits isMark isDigits =>
    refine List.forall_mem_cons.2 ⟨marked isMark, List.forall_mem_cons.2 ⟨?_, isDigits.visible⟩⟩
    cases negative <;> decide

theorem SpellsNumeral.visible {cs : List Char} {numeral : Numeral}
    (spells : SpellsNumeral cs numeral) : ∀ c ∈ cs, Text.isBlank c = false := by
  obtain ⟨tail, spellsTail, rfl⟩ := spells.parts
  simp only [List.forall_mem_append]
  refine ⟨?_, spells.whole.visible, ?_, spellsTail.visible⟩
  · cases numeral.negative with
    | false => nofun
    | true => exact List.forall_mem_singleton.2 (by decide)
  · cases written : numeral.fraction with
    | nil => nofun
    | cons first others =>
      have isDigits := spells.fraction
      rw [written] at isDigits
      exact List.forall_mem_cons.2 ⟨by decide, IsDigits.visible ⟨List.cons_ne_nil _ _, isDigits⟩⟩

namespace Numeral

/-- All digits of a numeral, as a whole number. -/
def coefficient (numeral : Numeral) : Nat :=
  Nat.ofDigitChars 10 (numeral.whole ++ numeral.fraction) 0

/-- The power of ten that the digits are multiplied by. -/
def power (numeral : Numeral) : Int := numeral.exponent.getD 0 - numeral.fraction.length

/-- The number nearest to the exact value of a numeral. -/
def nearest (numeral : Numeral) : Binary64 :=
  .ofRatio numeral.negative (numeral.coefficient * 10 ^ numeral.power.toNat)
    (10 ^ (-numeral.power).toNat)

end Numeral

end Json

/-! ## Reading -/

section

variable {digits cs rest tail fraction : List Char} {negative : Bool} {exponent : Option Int}
  {numeral : Json.Numeral}

theorem splitDigits_append (isDigits : ∀ c ∈ digits, c.isDigit = true)
    (stop : ∀ c ∈ rest.head?, c.isDigit = false) :
    splitDigits (digits ++ rest) = (digits, rest) := by
  unfold splitDigits
  rw [List.span_eq_takeWhile_dropWhile, List.takeWhile_append_of_pos isDigits,
    List.dropWhile_append_of_pos isDigits]
  cases rest with
  | nil => simp
  | cons c rest =>
    have noDigit : c.isDigit = false := stop c rfl
    simp [noDigit]

/-- What stands in front of an exponent is no digit and no point. -/
theorem Json.SpellsExponent.head (spells : SpellsExponent tail exponent) :
    ∀ c ∈ tail.head?, c.isDigit = false ∧ c ≠ '.' := by
  have marked {mark : Char} (isMark : mark = 'e' ∨ mark = 'E') :
      mark.isDigit = false ∧ mark ≠ '.' := by
    rcases isMark with rfl | rfl <;> decide
  cases spells with
  | none => nofun
  | unsigned isMark =>
    rintro c ⟨⟩
    exact marked isMark
  | signed isMark =>
    rintro c ⟨⟩
    exact marked isMark

theorem splitSign_of_isDigits (isDigits : IsDigits digits) :
    splitSign (digits ++ rest) = (false, digits ++ rest) := by
  obtain ⟨some, all⟩ := isDigits
  cases digits with
  | nil => exact absurd rfl some
  | cons c digits =>
    have digit := all c List.mem_cons_self
    unfold splitSign
    split
    · rename_i same
      cases same
      cases digit
    · rename_i same
      cases same
      cases digit
    · rfl

theorem exponent?_of_spells (spells : Json.SpellsExponent tail exponent) :
    exponent? tail = some (exponent.getD 0) := by
  cases spells with
  | none => rfl
  | @unsigned mark digits isMark isDigits =>
    have noSign : splitSign (digits ++ []) = (false, digits ++ []) := splitSign_of_isDigits isDigits
    rw [List.append_nil] at noSign
    unfold exponent?
    dsimp only
    rw [if_pos isMark, noSign]
    exact if_pos ⟨isDigits.1, List.all_eq_true.2 isDigits.2⟩
  | @signed mark negative digits isMark isDigits =>
    unfold exponent?
    dsimp only
    rw [if_pos isMark]
    cases negative with
    | false => exact if_pos ⟨isDigits.1, List.all_eq_true.2 isDigits.2⟩
    | true => exact if_pos ⟨isDigits.1, List.all_eq_true.2 isDigits.2⟩

theorem splitFraction_append (isDigits : ∀ c ∈ fraction, c.isDigit = true)
    (stop : ∀ c ∈ tail.head?, c.isDigit = false ∧ c ≠ '.') :
    splitFraction (Json.fractionChars fraction ++ tail) = (fraction, tail) := by
  cases fraction with
  | nil =>
    cases tail with
    | nil => rfl
    | cons c rest =>
      unfold Json.fractionChars splitFraction
      rw [List.nil_append]
      split
      · rename_i same
        cases same
        exact absurd rfl (stop '.' rfl).2
      · rfl
  | cons c fraction => exact splitDigits_append isDigits fun c isHead => (stop c isHead).1

theorem decimal?_of_spells (whole : IsDigits digits) (isDigits : ∀ c ∈ fraction, c.isDigit = true)
    (spells : Json.SpellsExponent tail exponent) :
    decimal? negative (digits ++ (Json.fractionChars fraction ++ tail)) =
      some (.ofDecimal negative (Nat.ofDigitChars 10 (digits ++ fraction) 0)
        (exponent.getD 0 - fraction.length)) := by
  have stop : ∀ c ∈ (Json.fractionChars fraction ++ tail).head?, c.isDigit = false := by
    cases fraction with
    | nil => exact fun c isHead => (spells.head c isHead).1
    | cons first others =>
      rintro c ⟨⟩
      rfl
  unfold decimal?
  rw [splitDigits_append whole.2 stop]
  dsimp only
  rw [splitFraction_append isDigits spells.head]
  dsimp only
  rw [if_neg fun none => whole.1 none.1, exponent?_of_spells spells]
  rfl

/-- No name of an infinity or of NaN starts with a digit. -/
theorem unsigned?_of_isDigits (whole : IsDigits digits) :
    unsigned? negative (digits ++ rest) = decimal? negative (digits ++ rest) := by
  obtain ⟨some, all⟩ := whole
  cases digits with
  | nil => exact absurd rfl some
  | cons c digits =>
    have digit := all c List.mem_cons_self
    unfold unsigned?
    rw [List.cons_append, List.map_cons, toLower_of_isDigit digit]
    split
    · rename_i same
      cases (List.cons.inj same).1
      cases digit
    · rename_i same
      cases (List.cons.inj same).1
      cases digit
    · rename_i same
      cases (List.cons.inj same).1
      cases digit
    · rfl

theorem ofChars?_of_spells (spells : Json.SpellsNumeral cs numeral) :
    Binary64.ofChars? cs =
      some (.ofDecimal numeral.negative numeral.coefficient numeral.power) := by
  obtain ⟨tail, spellsTail, rfl⟩ := spells.parts
  have unsigned : unsigned? numeral.negative
      (numeral.whole ++ (Json.fractionChars numeral.fraction ++ tail)) =
        some (.ofDecimal numeral.negative numeral.coefficient numeral.power) := by
    rw [unsigned?_of_isDigits spells.whole]
    exact decimal?_of_spells spells.whole spells.fraction spellsTail
  unfold Binary64.ofChars?
  cases sign : numeral.negative with
  | false =>
    rw [sign] at unsigned
    rw [signChars, if_neg Bool.false_ne_true, List.nil_append, splitSign_of_isDigits spells.whole]
    exact unsigned
  | true =>
    rw [sign] at unsigned
    exact unsigned

end

/-! ## Powers of ten -/

theorem ten_pow_pos (k : Nat) : 0 < 10 ^ k := Nat.pow_pos (by decide)

theorem ten_pow_mul (j k : Nat) : 10 ^ j * 10 ^ k = 10 ^ (j + k) := (Nat.pow_add ..).symm

theorem lt_ten_pow_length (n : Nat) : n < 10 ^ (Nat.toDigits 10 n).length :=
  (Nat.length_toDigits_le_iff (by decide) Nat.length_toDigits_pos).1 (Nat.le_refl _)

theorem ten_pow_le_of_length {n k : Nat} (positive : 0 < n)
    (long : k < (Nat.toDigits 10 n).length) : 10 ^ k ≤ n := by
  rcases Nat.eq_zero_or_pos k with rfl | some
  · exact positive
  · exact Nat.le_of_not_lt fun less =>
      Nat.not_le.2 long ((Nat.length_toDigits_le_iff (by decide) some).2 less)

/-! ## Rounding decimals -/

namespace Magnitude

variable {num den : Nat}

/-- A quotient of at most half a unit is rounded to nothing. -/
theorem ofRatio?_of_small (positive : 0 < den) (small : 2 * (num * unitsPerOne) ≤ den) :
    ofRatio? num den = some zero := by
  have covers : zero.Covers num den := by
    have nothing : zero.units * den = 0 := Nat.zero_mul den
    have step : 2 ^ zero.exponent * den = den := Nat.one_mul den
    refine ⟨?_, ?_, fun _ => rfl⟩
    · rw [nothing]
      exact Nat.zero_le _
    · rw [nothing, step, Nat.mul_zero, Nat.zero_add]
      exact small
  exact covers.ofRatio?_eq positive

/-- A quotient of at least `10 ^ 310` is too large for the format. -/
theorem ofRatio?_of_large (positive : 0 < den) (large : 10 ^ 310 * den ≤ num) :
    ofRatio? num den = none := by
  have beyond : 2046 ≤ exponentOf num den := by
    refine le_exponentOf positive ?_
    have limit : 2 ^ (52 + 2046) ≤ 10 ^ 310 * unitsPerOne := by decide +kernel
    calc 2 ^ (52 + 2046) * den ≤ 10 ^ 310 * unitsPerOne * den := Nat.mul_le_mul_right den limit
      _ = 10 ^ 310 * den * unitsPerOne := Nat.mul_right_comm _ _ _
      _ ≤ num * unitsPerOne := Nat.mul_le_mul_right _ large
  unfold ofRatio?
  split
  · exact dif_neg (by omega)
  · exact dif_neg (by omega)

end Magnitude

namespace Binary64

variable {num den num' den' : Nat} {negative : Bool} {rounded : Option Magnitude}

theorem ofRatio_def : @ofRatio = fun negative num den =>
    match Magnitude.ofRatio? num den with
    | some m => .finite ⟨negative, m⟩
    | none => .infinite negative := by
  delta ofRatio
  exact Eq.refl _

theorem ofRatio_of_eq (same : Magnitude.ofRatio? num den = rounded) :
    ofRatio negative num den =
      (rounded.map fun m => finite ⟨negative, m⟩).getD (.infinite negative) := by
  rw [ofRatio_def]
  dsimp only
  rw [same]
  cases rounded <;> rfl

theorem negative_of_ofRatio {x : Finite64} (finite : ofRatio negative num den = .finite x) :
    x.negative = negative := by
  cases rounded : Magnitude.ofRatio? num den with
  | none =>
    rw [ofRatio_of_eq rounded] at finite
    cases finite
  | some m =>
    rw [ofRatio_of_eq rounded] at finite
    cases finite
    rfl

theorem ofRatio_congr (positive : 0 < den) (positive' : 0 < den')
    (same : num * den' = num' * den) : ofRatio negative num den = ofRatio negative num' den' :=
  (ofRatio_of_eq (Magnitude.ofRatio?_congr positive positive' same)).trans (ofRatio_of_eq rfl).symm

/-- The number of digits settles an exponent beyond the format as rounding would. -/
theorem ofDecimal_eq_ofRatio (negative : Bool) (coefficient : Nat) (exponent : Int) :
    ofDecimal negative coefficient exponent =
      ofRatio negative (coefficient * 10 ^ exponent.toNat) (10 ^ (-exponent).toNat) := by
  unfold ofDecimal
  dsimp only
  split_ifs with none large small whole
  · have small : 2 * (coefficient * 10 ^ exponent.toNat * unitsPerOne) ≤
        10 ^ (-exponent).toNat := by
      rw [none, Nat.zero_mul, Nat.zero_mul]
      exact Nat.zero_le _
    exact (ofRatio_of_eq (Magnitude.ofRatio?_of_small (ten_pow_pos _) small)).symm
  · have long : 10 ^ ((Nat.toDigits 10 coefficient).length - 1) ≤ coefficient :=
      ten_pow_le_of_length (Nat.pos_of_ne_zero none)
        (Nat.sub_lt Nat.length_toDigits_pos Nat.one_pos)
    have beyond : 10 ^ 310 * 10 ^ (-exponent).toNat ≤ coefficient * 10 ^ exponent.toNat := by
      calc 10 ^ 310 * 10 ^ (-exponent).toNat = 10 ^ (310 + (-exponent).toNat) := ten_pow_mul ..
        _ ≤ 10 ^ ((Nat.toDigits 10 coefficient).length - 1 + exponent.toNat) :=
            Nat.pow_le_pow_right (by decide) (by omega)
        _ = 10 ^ ((Nat.toDigits 10 coefficient).length - 1) * 10 ^ exponent.toNat :=
            (ten_pow_mul ..).symm
        _ ≤ coefficient * 10 ^ exponent.toNat := Nat.mul_le_mul_right _ long
    exact (ofRatio_of_eq (Magnitude.ofRatio?_of_large (ten_pow_pos _) beyond)).symm
  · have noPower : exponent.toNat = 0 := by omega
    have half : 2 * unitsPerOne ≤ 10 ^ 330 := by decide +kernel
    have beneath : 2 * (coefficient * 10 ^ exponent.toNat * unitsPerOne) ≤
        10 ^ (-exponent).toNat := by
      rw [noPower, Nat.pow_zero, Nat.mul_one, Nat.mul_left_comm]
      calc coefficient * (2 * unitsPerOne)
          ≤ 10 ^ (Nat.toDigits 10 coefficient).length * 10 ^ 330 :=
            Nat.mul_le_mul (lt_ten_pow_length coefficient).le half
        _ = 10 ^ ((Nat.toDigits 10 coefficient).length + 330) := ten_pow_mul ..
        _ ≤ 10 ^ (-exponent).toNat := Nat.pow_le_pow_right (by decide) (by omega)
    exact (ofRatio_of_eq (Magnitude.ofRatio?_of_small (ten_pow_pos _) beneath)).symm
  · have noPower : (-exponent).toNat = 0 := by omega
    rw [noPower, Nat.pow_zero]
  · have noPower : exponent.toNat = 0 := by omega
    rw [noPower, Nat.pow_zero, Nat.mul_one]

/-- A text that spells a decimal is read as the number nearest to its exact value. -/
theorem ofText?_of_spells {cs : List Char} {numeral : Json.Numeral}
    (spells : Json.SpellsNumeral cs numeral) :
    ofText? (String.ofList cs) = some numeral.nearest := by
  unfold ofText?
  rw [String.toList_ofList, Text.trimChars_eq_self spells.visible, ofChars?_of_spells spells,
    ofDecimal_eq_ofRatio]
  rfl

end Binary64

end EvidenceTree
