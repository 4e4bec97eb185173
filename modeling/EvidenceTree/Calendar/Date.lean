/-!
# Dates

Dates of the Gregorian calendar, extended to years before its introduction and to negative years.
-/

namespace EvidenceTree.Calendar

/-- A year with a 29th of February. -/
def isLeap (year : Int) : Bool := year % 4 == 0 && (year % 100 != 0 || year % 400 == 0)

/-- The number of days of a month; none for a number that is no month. -/
def daysInMonth (year : Int) (month : Nat) : Nat :=
  match month with
  | 1 | 3 | 5 | 7 | 8 | 10 | 12 => 31
  | 4 | 6 | 9 | 11 => 30
  | 2 => if isLeap year then 29 else 28
  | _ => 0

/-- The numbers name a day of the calendar, in a year that can be represented. -/
def IsDay (year : Int) (month day : Nat) : Prop :=
  -262143 ≤ year ∧ year ≤ 262142 ∧ 1 ≤ day ∧ day ≤ daysInMonth year month

instance (year : Int) (month day : Nat) : Decidable (IsDay year month day) :=
  inferInstanceAs (Decidable (_ ∧ _ ∧ _ ∧ _))

/-- A day of the calendar. -/
structure Date where
  year : Int
  month : Nat
  day : Nat
  isDay : IsDay year month day
  deriving DecidableEq

namespace Date

/-- The day with these numbers, if there is one. -/
def of? (year : Int) (month day : Nat) : Option Date :=
  if isDay : IsDay year month day then some ⟨year, month, day, isDay⟩ else none

/-- A number with zeros in front, up to a width. -/
def padded (width n : Nat) : List Char :=
  let digits := Nat.toDigits 10 n
  List.replicate (width - digits.length) '0' ++ digits

/-- A year: four digits, or a sign and at least four digits for years that four digits do not
show. -/
def yearChars (year : Int) : List Char :=
  if 0 ≤ year ∧ year ≤ 9999 then padded 4 year.natAbs
  else (if year < 0 then '-' else '+') :: padded 4 year.natAbs

/-- Year, month and day with hyphens between them. -/
def chars (date : Date) : List Char :=
  yearChars date.year ++ '-' :: padded 2 date.month ++ '-' :: padded 2 date.day

/-- The date as a text. -/
def text (date : Date) : String := String.ofList date.chars

end Date

end EvidenceTree.Calendar
