import EvidenceTree.Json.NumberText
import Mathlib.Data.Nat.Digits.Defs

/-!
# Characters of numerals

The plain form of a number has only digits, a sign and a point, and an integer has no point.

* `Finite64.isNumeral_plain`, `Json.isNumeral_integerChars`: what the two kinds are written with.
-/

namespace EvidenceTree

/-- A character of a number without an exponent. -/
def IsNumeral (c : Char) : Prop := c.isDigit = true ∨ c = '-' ∨ c = '.'

variable {c : Char} {digits : List Char} {n places : Nat}

theorem isNumeral_toDigits (isDigit : c ∈ Nat.toDigits 10 n) : IsNumeral c :=
  .inl (Nat.isDigit_of_mem_toDigits (by decide) (by decide) isDigit)

theorem isNumeral_signChars {negative : Bool} (isSign : c ∈ signChars negative) : IsNumeral c := by
  cases negative with
  | false => cases isSign
  | true => exact .inr (.inl (List.mem_singleton.1 isSign))

theorem isNumeral_replicate (isZero : c ∈ List.replicate n '0') : IsNumeral c := by
  rw [List.eq_of_mem_replicate isZero]
  exact .inl rfl

theorem isNumeral_pointed (numerals : ∀ c ∈ digits, IsNumeral c)
    (isChar : c ∈ pointed digits places) : IsNumeral c := by
  unfold pointed at isChar
  split at isChar
  · exact numerals c isChar
  · split at isChar
    · rcases List.mem_append.1 isChar with front | back
      · exact numerals c (List.mem_of_mem_take front)
      · rcases List.mem_cons.1 back with rfl | back
        · exact .inr (.inr rfl)
        · exact numerals c (List.mem_of_mem_drop back)
    · rcases List.mem_cons.1 isChar with rfl | behind
      · exact .inl rfl
      · rcases List.mem_cons.1 behind with rfl | behind
        · exact .inr (.inr rfl)
        · rcases List.mem_append.1 behind with zeros | behind
          · exact isNumeral_replicate zeros
          · exact numerals c behind

theorem Finite64.isNumeral_plain {x : Finite64} (isChar : c ∈ x.plain) : IsNumeral c := by
  rcases List.mem_append.1 isChar with sign | digits
  · exact isNumeral_signChars sign
  · refine isNumeral_pointed (fun c isChar => ?_) digits
    rcases List.mem_append.1 isChar with digit | zeros
    · exact isNumeral_toDigits digit
    · exact isNumeral_replicate zeros

theorem Json.isNumeral_integerChars {n : Int} (isChar : c ∈ integerChars n) : IsNumeral c := by
  rcases List.mem_append.1 isChar with sign | digit
  · exact isNumeral_signChars sign
  · exact isNumeral_toDigits digit

end EvidenceTree
