import EvidenceTree.Binary64.Text
import EvidenceTree.Json.Basic

/-!
# Numbers of a JSON text

How a decoded number is written, and how the digits of a number are turned into one. A float is
written so that it stays one, with a fraction or an exponent. A number that is read keeps as many
digits as fit into 64 bits and is then scaled by powers of ten, each step rounded, so its last digit
is not always that of the nearest float.
-/

namespace EvidenceTree.Json

/-! ## Writing -/

/-- Digits with the decimal point after the first, if more follow. -/
def scientific : List Char → List Char
  | first :: second :: rest => first :: '.' :: second :: rest
  | digits => digits

/-- A decimal with a fraction or an exponent: positional from `10 ^ -5` to below `10 ^ 16`. -/
def decimalChars (d : Decimal) : List Char :=
  let digits := Nat.toDigits 10 d.coefficient
  let point : Int := digits.length + (d.level : Int) - 1074
  if -5 < point ∧ point ≤ 16 then
    if 1074 ≤ d.level then d.plain ++ ['.', '0'] else d.plain
  else
    scientific digits ++ 'e' :: (if 1 ≤ point then ['+'] else ['-']) ++
      Nat.toDigits 10 (point - 1).natAbs

/-- A float; of two equally near decimals the one with the even last digit is taken. -/
def floatChars (x : Finite64) : List Char :=
  signChars x.negative ++ decimalChars (x.magnitude.shortest .toEven)

/-- An integer in decimal digits. -/
def integerChars (value : Int) : List Char :=
  signChars (value < 0) ++ Nat.toDigits 10 value.natAbs

/-- A number as it is written. -/
def Number.chars : Number → List Char
  | .integer value _ => integerChars value
  | .float value => floatChars value

/-- A number as a text. -/
def Number.text (n : Number) : String := String.ofList n.chars

/-! ## Reading -/

/-- The parts of a number in a text. A number without a fraction and an exponent is an integer. -/
structure Numeral where
  negative : Bool
  whole : List Char
  fraction : List Char
  exponent : Option Int

/-- Appends digits to a number while it fits into 64 bits; also the digits that are left. -/
def absorb (significand : Nat) : List Char → Nat × List Char
  | [] => (significand, [])
  | digit :: rest =>
    let next := Nat.ofDigitChars 10 [digit] significand
    if next < 2 ^ 64 then absorb next rest else (significand, digit :: rest)

theorem absorb_lt {significand : Nat} (small : significand < 2 ^ 64) (digits : List Char) :
    (absorb significand digits).1 < 2 ^ 64 := by
  induction digits generalizing significand with
  | nil => exact small
  | cons digit rest ih =>
    unfold absorb
    simp only
    split
    · exact ih ‹_›
    · exact small

/-- A power of ten as a magnitude, rounded. -/
def powerOfTen? (power : Nat) : Option Magnitude := Magnitude.ofRatio? (10 ^ power) 1

/-- The exponent of the largest power of ten in the format. -/
def largestPower : Nat := 308

/-- The magnitude divided by a power of ten of the format, rounded. -/
def divided (m : Magnitude) (power : Nat) : Option Magnitude := (powerOfTen? power).bind m.div?

/-- The magnitude divided by a power of ten in steps of at most `10 ^ 308`, each rounded. -/
def scaleDown (m : Magnitude) (power : Nat) : Option Magnitude :=
  if power ≤ largestPower then divided m power
  else if m.mantissa = 0 then some m
  else (divided m largestPower).bind fun next => scaleDown next (power - largestPower)
termination_by power
decreasing_by
  have : 0 < largestPower := by decide
  omega

/-- The magnitude times a power of ten, unless it is too large. -/
def scaleUp (m : Magnitude) (power : Nat) : Option Magnitude :=
  if power ≤ largestPower then (powerOfTen? power).bind m.mul?
  else if m.mantissa = 0 then some m
  else none

/-- The magnitude scaled by a power of ten, unless it is too large. -/
def scaled (m : Magnitude) (power : Int) : Option Magnitude :=
  if 0 ≤ power then scaleUp m power.toNat else scaleDown m power.natAbs

namespace Numeral

/-- The digits of the numeral that fit into 64 bits, those before the decimal point first. -/
def significand (numeral : Numeral) : Nat :=
  (absorb (absorb 0 numeral.whole).1 numeral.fraction).1

theorem significand_lt (numeral : Numeral) : numeral.significand < 2 ^ 64 :=
  absorb_lt (absorb_lt (by decide) _) _

/-- The power of ten that the significand is scaled by: a digit before the point that did not fit
raises it, one after the point that did fit lowers it. -/
def scale (numeral : Numeral) : Int :=
  let wholeLeft := (absorb 0 numeral.whole).2.length
  let fractionLeft := (absorb (absorb 0 numeral.whole).1 numeral.fraction).2.length
  (wholeLeft : Int) - (numeral.fraction.length - fractionLeft) + numeral.exponent.getD 0

/-- The numeral's float, unless it is too large. -/
def float? (numeral : Numeral) : Option Number :=
  (scaled (.ofNat64 numeral.significand numeral.significand_lt) numeral.scale).map
    fun m => .float ⟨numeral.negative, m⟩

/-- The numeral spells an integer that fits into 64 bits, by its form. -/
def isIntegral (numeral : Numeral) : Bool :=
  numeral.fraction.isEmpty && numeral.exponent.isNone && (absorb 0 numeral.whole).2.isEmpty

/-- The number that a numeral stands for, unless it is too large. Zero with a sign and what no
64-bit integer holds is a float. -/
def number? (numeral : Numeral) : Option Number :=
  if numeral.isIntegral then
    if !numeral.negative then
      some (.integer numeral.significand (by have := numeral.significand_lt; omega))
    else if small : numeral.significand ≠ 0 ∧ numeral.significand ≤ 2 ^ 63 then
      some (.integer (-numeral.significand) (by omega))
    else numeral.float?
  else numeral.float?

end Numeral

end EvidenceTree.Json
