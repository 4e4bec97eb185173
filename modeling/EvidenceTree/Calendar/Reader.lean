import EvidenceTree.Calendar.Date
import EvidenceTree.Text.Blank

/-!
# Reading dates

A date is read from a text in three ways, and the first that succeeds counts: the whole text is a
date; the whole text is a timestamp, of which the date is taken as it is written, whatever its
offset; or the first ten bytes of the text are a date.
-/

namespace EvidenceTree.Calendar

/-- A part read from the front of a text, and what follows it. -/
abbrev Taken (α : Type) := Option (α × List Char)

/-! ## Parts -/

/-- A number of `least` to `most` digits, as many as there are. -/
def takeNumber (least most : Nat) (cs : List Char) : Taken Nat :=
  let digits := (cs.take most).takeWhile Char.isDigit
  if least ≤ digits.length then
    some (Nat.ofDigitChars 10 digits 0, cs.drop digits.length)
  else none

/-- What follows a character that has to stand here. -/
def takeChar (c : Char) : List Char → Option (List Char)
  | [] => none
  | first :: rest => if first = c then some rest else none

/-- A year, which may have blank characters in front: up to four digits, or any number of them
behind a sign. -/
def takeYear (cs : List Char) : Taken Int :=
  match Text.trimFront cs with
  | '-' :: rest => (takeNumber 1 rest.length rest).map fun found => (-(found.1 : Int), found.2)
  | '+' :: rest => (takeNumber 1 rest.length rest).map fun found => ((found.1 : Int), found.2)
  | rest => (takeNumber 1 4 rest).map fun found => ((found.1 : Int), found.2)

/-- A month or a day of one or two digits, which may have blank characters in front. -/
def takeShort (cs : List Char) : Taken Nat := takeNumber 1 2 (Text.trimFront cs)

/-! ## A date alone -/

/-- The date that a whole text is. -/
def date? (cs : List Char) : Option Date := do
  let (year, rest) ← takeYear cs
  let rest ← takeChar '-' rest
  let (month, rest) ← takeShort rest
  let rest ← takeChar '-' rest
  let (day, rest) ← takeShort rest
  if rest = [] then Date.of? year month day else none

/-! ## A timestamp -/

/-- What follows a fraction of a second, if there is one. -/
def skipFraction : List Char → Option (List Char)
  | '.' :: rest => (takeNumber 1 rest.length rest).map (·.2)
  | rest => some rest

/-- What follows an offset from universal time of less than a day. -/
def skipOffset : List Char → Option (List Char)
  | [] => none
  | sign :: rest =>
    if sign = 'Z' ∨ sign = 'z' then some rest
    else if sign = '+' ∨ sign = '-' ∨ sign = '\u2212' then do
      let (hours, rest) ← takeNumber 2 2 rest
      let rest ← takeChar ':' rest
      let (minutes, rest) ← takeNumber 2 2 rest
      if hours ≤ 23 ∧ minutes ≤ 59 then some rest else none
    else none

/-- What follows a time of day; a minute may have a leap second. -/
def skipTime (cs : List Char) : Option (List Char) := do
  let (hour, rest) ← takeNumber 2 2 cs
  let rest ← takeChar ':' rest
  let (minute, rest) ← takeNumber 2 2 rest
  let rest ← takeChar ':' rest
  let (second, rest) ← takeNumber 2 2 rest
  if hour ≤ 23 ∧ minute ≤ 59 ∧ second ≤ 60 then skipFraction rest else none

/-- The date of a timestamp that is the whole text, as it is written there. -/
def timestampDate? (cs : List Char) : Option Date := do
  let (year, rest) ← takeNumber 4 4 cs
  let rest ← takeChar '-' rest
  let (month, rest) ← takeNumber 2 2 rest
  let rest ← takeChar '-' rest
  let (day, rest) ← takeNumber 2 2 rest
  match rest with
  | [] => none
  | separator :: rest =>
    if separator = 'T' ∨ separator = 't' ∨ separator = ' ' then
      let rest ← skipTime rest
      let rest ← skipOffset rest
      if rest = [] then Date.of? year month day else none
    else none

/-! ## A date in front -/

/-- The characters of the first `count` bytes, if a character ends there. -/
def firstBytes? (count : Nat) : List Char → Option (List Char)
  | [] => if count = 0 then some [] else none
  | c :: rest =>
    if count = 0 then some []
    else if c.utf8Size ≤ count then (firstBytes? (count - c.utf8Size) rest).map (c :: ·)
    else none

/-- The date that the first ten bytes of a text are. -/
def leadingDate? (cs : List Char) : Option Date := (firstBytes? 10 cs).bind date?

/-- The date that a text gives, blank characters around it aside. -/
def publishedOn? (s : String) : Option Date :=
  let cs := Text.trimChars s.toList
  (date? cs).or ((timestampDate? cs).or (leadingDate? cs))

end EvidenceTree.Calendar
