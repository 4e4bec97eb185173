import EvidenceTree.Toml.Strings

/-!
# Writing TOML strings

A string is written in the plainest of five forms that can hold its text: between double quotes
without escapes of quotes or backslashes, between single quotes, the same two over several lines,
and otherwise between double quotes with escapes.
-/

namespace EvidenceTree.Toml

/-! ## What a text needs -/

/-- A control character that can only be written as an escape. -/
def isControl (c : Char) : Bool := !isGraphic c && c ≠ '\n'

/-- Three times the same character in a row. -/
def hasThree (quote : Char) : List Char → Bool
  | a :: b :: c :: rest =>
    (a == quote && b == quote && c == quote) || hasThree quote (b :: c :: rest)
  | _ => false

/-! ## Escapes -/

/-- A hexadecimal digit, in upper case. -/
def upperDigit (n : Nat) : Char := (Nat.digitChar n).toUpper

/-- A character between double quotes; quotes themselves are left to the forms. -/
def escapedChar (c : Char) : List Char :=
  if c = '\x08' then ['\\', 'b']
  else if c = '\t' then ['\\', 't']
  else if c = '\x0c' then ['\\', 'f']
  else if c = '\r' then ['\\', 'r']
  else if c = '\\' then ['\\', '\\']
  else if isControl c then
    ['\\', 'u', '0', '0', upperDigit (c.toNat / 16), upperDigit (c.toNat % 16)]
  else [c]

/-- A text between double quotes on one line. -/
def escapedLine : List Char → List Char
  | [] => []
  | c :: rest =>
    (if c = '"' then ['\\', '"'] else if c = '\n' then ['\\', 'n'] else escapedChar c) ++
      escapedLine rest

/-- A text between double quotes over several lines, behind as many quotes as `quotes` says. The
third of three quotes in a row is escaped. -/
def escapedLines (quotes : Nat) : List Char → List Char
  | [] => []
  | c :: rest =>
    if c = '"' then
      if quotes < 2 then '"' :: escapedLines (quotes + 1) rest
      else '\\' :: '"' :: escapedLines 0 rest
    else escapedChar c ++ escapedLines 0 rest

/-! ## Forms -/

/-- The forms of a string. -/
inductive StringForm where
  | basic
  | literal
  | basicLines
  | literalLines

/-- The first form that can hold a text. -/
def StringForm.of (text : List Char) : StringForm :=
  let controls := text.any isControl
  let backslash := text.contains '\\'
  let lines := text.contains '\n'
  if !controls && !backslash && !text.contains '"' && !lines then basic
  else if !controls && !text.contains '\'' && !lines then literal
  else if !controls && !backslash && !hasThree '"' text then basicLines
  else if !controls && !hasThree '\'' text then literalLines
  else if lines then basicLines
  else basic

/-- A new line in front of a text of several lines. -/
def openingLine (text : List Char) : List Char := if text.contains '\n' then ['\n'] else []

/-- A text in a form, between its quotes. -/
def StringForm.write (text : List Char) : StringForm → List Char
  | basic => '"' :: escapedLine text ++ ['"']
  | literal => '\'' :: text ++ ['\'']
  | basicLines =>
    ['"', '"', '"'] ++ openingLine text ++ escapedLines 0 text ++ ['"', '"', '"']
  | literalLines => ['\'', '\'', '\''] ++ openingLine text ++ text ++ ['\'', '\'', '\'']

/-- A text as a TOML string. -/
def stringText (text : String) : String :=
  String.ofList ((StringForm.of text.toList).write text.toList)

end EvidenceTree.Toml
