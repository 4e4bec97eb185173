import EvidenceTree.Binary64.Shortest
import EvidenceTree.Text.Blank

/-!
# Numbers as text

The plain form of a number has the fewest digits that read back and never an exponent. The reader
takes signs, a fraction, an exponent and the names of the infinities and of NaN, and rounds the
exact decimal once.
-/

namespace EvidenceTree

/-! ## Writing -/

/-- Digits with the decimal point `places` from their end, no point when there are no places. -/
def pointed (digits : List Char) (places : Nat) : List Char :=
  if places = 0 then digits
  else if places < digits.length then
    digits.take (digits.length - places) ++ '.' :: digits.drop (digits.length - places)
  else '0' :: '.' :: List.replicate (places - digits.length) '0' ++ digits

/-- A decimal without an exponent. -/
def Decimal.plain (d : Decimal) : List Char :=
  pointed (Nat.toDigits 10 d.coefficient ++ List.replicate (d.level - 1074) '0') (1074 - d.level)

/-- The sign in front of a number. -/
def signChars (negative : Bool) : List Char := if negative then ['-'] else []

/-- A finite number without an exponent; the upper of two equally near decimals is taken. -/
def Finite64.plain (x : Finite64) : List Char :=
  signChars x.negative ++ (x.magnitude.shortest .up).plain

/-- The plain form of a number. -/
def Binary64.plain : Binary64 → List Char
  | .finite x => x.plain
  | .infinite negative => signChars negative ++ ['i', 'n', 'f']
  | .nan => ['N', 'a', 'N']

/-- The plain form of a number as a text. -/
def Binary64.text (x : Binary64) : String := String.ofList x.plain

/-! ## Reading -/

/-- The number `coefficient * 10 ^ exponent`. Exponents beyond the format's range are settled by
the number of digits alone. -/
def Binary64.ofDecimal (negative : Bool) (coefficient : Nat) (exponent : Int) : Binary64 :=
  let leading := (Nat.toDigits 10 coefficient).length + exponent
  if coefficient = 0 then .finite ⟨negative, .zero⟩
  else if 310 < leading then .infinite negative
  else if leading < -330 then .finite ⟨negative, .zero⟩
  else if 0 ≤ exponent then .ofRatio negative (coefficient * 10 ^ exponent.toNat) 1
  else .ofRatio negative coefficient (10 ^ (-exponent).toNat)

/-- The digits in front and what follows them. -/
def splitDigits (cs : List Char) : List Char × List Char := cs.span Char.isDigit

/-- The sign in front, if any, and what follows it. -/
def splitSign : List Char → Bool × List Char
  | '-' :: rest => (true, rest)
  | '+' :: rest => (false, rest)
  | cs => (false, cs)

/-- What a decimal's exponent says: nothing, or a mark, an optional sign and digits to the end. -/
def exponent? : List Char → Option Int
  | [] => some 0
  | mark :: rest =>
    if mark = 'e' ∨ mark = 'E' then
      let (negative, rest) := splitSign rest
      if rest ≠ [] ∧ rest.all Char.isDigit then
        let power : Int := Nat.ofDigitChars 10 rest 0
        some (if negative then -power else power)
      else none
    else none

/-- The digits after the decimal point, if there is one, and what follows them. -/
def splitFraction : List Char → List Char × List Char
  | '.' :: rest => splitDigits rest
  | cs => ([], cs)

/-- A decimal without its sign: at least one digit, before or after the point. -/
def decimal? (negative : Bool) (cs : List Char) : Option Binary64 :=
  let (whole, rest) := splitDigits cs
  let (fraction, rest) := splitFraction rest
  if whole = [] ∧ fraction = [] then none
  else (exponent? rest).map fun exponent =>
    .ofDecimal negative (Nat.ofDigitChars 10 (whole ++ fraction) 0) (exponent - fraction.length)

/-- A number without its sign: a name or a decimal. -/
def unsigned? (negative : Bool) (cs : List Char) : Option Binary64 :=
  match cs.map Char.toLower with
  | ['i', 'n', 'f'] => some (.infinite negative)
  | ['i', 'n', 'f', 'i', 'n', 'i', 't', 'y'] => some (.infinite negative)
  | ['n', 'a', 'n'] => some .nan
  | _ => decimal? negative cs

/-- The number that the characters spell. -/
def Binary64.ofChars? (cs : List Char) : Option Binary64 :=
  let (negative, rest) := splitSign cs
  unsigned? negative rest

/-- The number that a text spells, blank characters around it aside. -/
def Binary64.ofText? (s : String) : Option Binary64 := ofChars? (Text.trimChars s.toList)

end EvidenceTree
