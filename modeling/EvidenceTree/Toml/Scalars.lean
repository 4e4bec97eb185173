import EvidenceTree.Toml.Basic
import EvidenceTree.Text.Hex

/-!
# TOML numbers, dates and times

What starts with a digit or a sign is a date or a time, a float, or an integer, and is read as the
first of these that it can be. Underscores may stand between digits.
-/

namespace EvidenceTree.Toml

open Text (Read Rest first? word?)

/-! ## Digits -/

/-- The digits in front, underscores between two digits left out, and what follows them. -/
def digits (isDigit : Char → Bool) : List Char → List Char × List Char
  | [] => ([], [])
  | [c] => if isDigit c then ([c], []) else ([], [c])
  | c :: d :: rest =>
    if isDigit c then
      if d = '_' ∧ (rest.head?.any isDigit) then
        (c :: (digits isDigit rest).1, (digits isDigit rest).2)
      else (c :: (digits isDigit (d :: rest)).1, (digits isDigit (d :: rest)).2)
    else ([], c :: d :: rest)

theorem length_digits_le (isDigit : Char → Bool) (s : List Char) :
    (digits isDigit s).1.length + (digits isDigit s).2.length ≤ s.length := by
  fun_induction digits isDigit s <;> simp_all only [List.length_cons, List.length_nil] <;> omega

/-- Digits of which there is at least one. -/
def someDigits? (isDigit : Char → Bool) (s : List Char) : Option (Read (List Char) s) :=
  if found : (digits isDigit s).1 = [] then none
  else some ⟨(digits isDigit s).1, (digits isDigit s).2, by
    have := length_digits_le isDigit s
    have := List.length_pos_iff.2 found
    omega⟩

/-- A sign that may be there, as it is written, and what follows it. -/
def sign (s : List Char) : List Char × Rest s :=
  match s with
  | '-' :: rest => (['-'], (Rest.all rest).behind)
  | '+' :: rest => (['+'], (Rest.all rest).behind)
  | s => ([], .all s)

/-- Decimal digits without a zero in front of others. -/
def decimalDigits? (s : List Char) : Option (Read (List Char) s) :=
  match s with
  | '0' :: _ => some (.single ['0'])
  | s => someDigits? Char.isDigit s

/-! ## Integers -/

/-- The value of digits to a base. -/
def valueOf (base : Nat) (ds : List Char) : Nat :=
  ds.foldl (fun n c => n * base + (Text.hexDigit? c).getD 0) 0

/-- The integer, if it has at most 64 bits. -/
def integer64? (n : Int) : Option Value :=
  if -(2 ^ 63) ≤ n ∧ n < 2 ^ 63 then some (.integer n) else none

/-- A digit to the base eight. -/
def isOctal (c : Char) : Bool := '0' ≤ c && c ≤ '7'

/-- A digit to the base two. -/
def isBinary (c : Char) : Bool := c = '0' || c = '1'

/-- The digits of an integer to a base, behind the mark of the base. -/
def basedInteger? (base : Nat) (isDigit : Char → Bool) (s : List Char) :
    Option (Read Value s) := do
  let ds ← someDigits? isDigit s
  let n ← integer64? (valueOf base ds.item)
  some (ds.map fun _ => n)

/-- An integer in decimal digits with a sign that may be there. -/
def decimalInteger? (s : List Char) : Option (Read Value s) := do
  let (mark, rest) := sign s
  let ds ← decimalDigits? rest.1
  let magnitude : Int := valueOf 10 ds.item
  let n ← integer64? (if mark = ['-'] then -magnitude else magnitude)
  some ((rest.resume ds).map fun _ => n)

/-- An integer in decimal digits, or behind the mark of another base. -/
def integer? (s : List Char) : Option (Read Value s) :=
  match s with
  | '0' :: 'x' :: rest =>
    (basedInteger? 16 (fun c => (Text.hexDigit? c).isSome) rest).map (·.behind.behind)
  | '0' :: 'o' :: rest => (basedInteger? 8 isOctal rest).map (·.behind.behind)
  | '0' :: 'b' :: rest => (basedInteger? 2 isBinary rest).map (·.behind.behind)
  | s => decimalInteger? s

/-! ## Floats -/

/-- The exponent of a float, as it is written. -/
def exponent? (s : List Char) : Option (Read (List Char) s) :=
  match s with
  | [] => none
  | mark :: rest =>
    if mark = 'e' ∨ mark = 'E' then
      let (written, magnitude) := sign rest
      (someDigits? Char.isDigit magnitude.1).map fun ds =>
        (magnitude.resume ds).behind.map fun digits => 'e' :: written ++ digits
    else none

/-- The fraction of a float, as it is written, with the exponent that may follow it. -/
def fraction? (s : List Char) : Option (Read (List Char) s) :=
  match s with
  | '.' :: rest =>
    (someDigits? Char.isDigit rest).map fun ds =>
      match exponent? ds.rest with
      | some power => (ds.join power fun digits power => '.' :: digits ++ power).behind
      | none => ds.behind.map ('.' :: ·)
  | _ => none

/-- The float that is written, unless it is too large. -/
def floatOf? (written : List Char) : Option Value :=
  match Binary64.ofChars? written with
  | some (.infinite false) => none
  | some x => some (.float x)
  | none => none

/-- A float in decimal digits: with a fraction, an exponent, or both. -/
def decimalFloat? (s : List Char) : Option (Read Value s) := do
  let (mark, rest) := sign s
  let ds ← decimalDigits? rest.1
  let tail ← (exponent? ds.rest).or (fraction? ds.rest)
  let x ← floatOf? (mark ++ ds.item ++ tail.item)
  some (rest.resume (ds.join tail fun _ _ => x))

/-- Infinity or not a number, with a sign that may be there. -/
def namedFloat? (s : List Char) : Option (Read Value s) :=
  let (mark, rest) := sign s
  match first? rest.1 with
  | some ⟨'i', tail, shorter⟩ =>
    (word? ['n', 'f'] tail).map fun found =>
      rest.resume (found.read shorter (.float (.infinite (mark = ['-']))))
  | some ⟨'n', tail, shorter⟩ =>
    (word? ['a', 'n'] tail).map fun found => rest.resume (found.read shorter (.float .nan))
  | _ => none

/-- A float of any form. -/
def float? (s : List Char) : Option (Read Value s) := (decimalFloat? s).or (namedFloat? s)

/-! ## Dates and times -/

/-- A number of exactly `count` digits, and what follows it. -/
def fixed? : (count : Nat) → List Char → Option (Nat × List Char)
  | count, s =>
    let ds := s.take count
    if ds.length = count ∧ ds.all Char.isDigit then some (valueOf 10 ds, s.drop count) else none

/-- What follows a character that has to stand here. -/
def mark? (c : Char) : List Char → Option (List Char)
  | [] => none
  | first :: rest => if first = c then some rest else none

/-- The number of days of a month, and none for a number that is no month. -/
def daysOf (year month : Nat) : Nat :=
  match month with
  | 1 | 3 | 5 | 7 | 8 | 10 | 12 => 31
  | 4 | 6 | 9 | 11 => 30
  | 2 => if year % 4 = 0 ∧ (year % 100 ≠ 0 ∨ year % 400 = 0) then 29 else 28
  | _ => 0

/-- What follows a date. -/
def dropDate? (s : List Char) : Option (List Char) := do
  let (year, s) ← fixed? 4 s
  let s ← mark? '-' s
  let (month, s) ← fixed? 2 s
  let s ← mark? '-' s
  let (day, s) ← fixed? 2 s
  if 1 ≤ day ∧ day ≤ daysOf year month then some s else none

/-- What follows a fraction of a second that may be there. -/
def dropFraction (s : List Char) : List Char :=
  match s with
  | '.' :: c :: rest => if c.isDigit then rest.dropWhile Char.isDigit else s
  | s => s

/-- What follows an hour and a minute. -/
def dropMinutes? (s : List Char) : Option (List Char) := do
  let (hour, s) ← fixed? 2 s
  let s ← mark? ':' s
  let (minute, s) ← fixed? 2 s
  if hour ≤ 23 ∧ minute ≤ 59 then some s else none

/-- What follows a time of day. -/
def dropTime? (s : List Char) : Option (List Char) := do
  let s ← dropMinutes? s
  let s ← mark? ':' s
  let (second, s) ← fixed? 2 s
  if second ≤ 60 then some (dropFraction s) else none

/-- What follows an offset that may be there. -/
def dropOffset (s : List Char) : List Char :=
  match s with
  | [] => []
  | c :: rest =>
    if c = 'Z' ∨ c = 'z' then rest
    else if c = '+' ∨ c = '-' then (dropMinutes? rest).getD s
    else s

/-- What follows a time of day with an offset, behind the mark that separates it from a date. -/
def dropClock (s : List Char) : List Char :=
  match s with
  | [] => []
  | c :: rest =>
    if c = 'T' ∨ c = 't' ∨ c = ' ' then ((dropTime? rest).map dropOffset).getD s else s

/-- What follows a date, a time, or both. -/
def dropDateTime? (s : List Char) : Option (List Char) :=
  ((dropDate? s).map dropClock).or (dropTime? s)

/-- A date, a time, or both. -/
def dateTime? (s : List Char) : Option (Read Value s) := do
  let rest ← dropDateTime? s
  if shorter : rest.length < s.length then
    some ⟨.dateTime (String.ofList (s.take (s.length - rest.length))), rest, shorter⟩
  else none

/-- A date, a time or a number. -/
def numeric? (s : List Char) : Option (Read Value s) :=
  (dateTime? s).or ((float? s).or (integer? s))

end EvidenceTree.Toml
