import EvidenceTree.Json.NumberText

/-!
# Writing JSON values

A value on one line without spaces, or spread over lines with an indentation of two spaces. Within a
string only quotes, backslashes and controls are escaped.
-/

namespace EvidenceTree.Json

/-- A hexadecimal digit. -/
def hexDigit (n : Nat) : Char := Nat.digitChar n

/-- One character inside a string. -/
def stringChar (c : Char) : List Char :=
  if c = '"' then ['\\', '"']
  else if c = '\\' then ['\\', '\\']
  else if c = '\x08' then ['\\', 'b']
  else if c = '\x0c' then ['\\', 'f']
  else if c = '\n' then ['\\', 'n']
  else if c = '\r' then ['\\', 'r']
  else if c = '\t' then ['\\', 't']
  else if c.toNat < 0x20 then
    ['\\', 'u', '0', '0', hexDigit (c.toNat / 16), hexDigit (c.toNat % 16)]
  else [c]

/-- A string between its quotes. -/
def stringChars (s : String) : List Char := '"' :: s.toList.flatMap stringChar ++ ['"']

/-- Parts with a separator between them. -/
def separated (separator : List Char) : List (List Char) → List Char
  | [] => []
  | [part] => part
  | part :: rest => part ++ separator ++ separated separator rest

/-! ## On one line -/

mutual

/-- A value on one line. -/
def Value.chars : Value → List Char
  | .null => ['n', 'u', 'l', 'l']
  | .bool true => ['t', 'r', 'u', 'e']
  | .bool false => ['f', 'a', 'l', 's', 'e']
  | .number n => n.chars
  | .string s => stringChars s
  | .array items => '[' :: separated [','] (Value.itemChars items) ++ [']']
  | .object members => '\x7b' :: separated [','] (Value.memberChars members) ++ ['\x7d']

/-- The items of a list, each on one line. -/
def Value.itemChars : List Value → List (List Char)
  | [] => []
  | item :: rest => item.chars :: Value.itemChars rest

/-- The members of an object, each on one line. -/
def Value.memberChars : List (String × Value) → List (List Char)
  | [] => []
  | (name, value) :: rest => (stringChars name ++ ':' :: value.chars) :: Value.memberChars rest

end

/-- A value as a text on one line. -/
def Value.text (value : Value) : String := String.ofList value.chars

/-! ## Over several lines -/

/-- A new line at a level of indentation. -/
def newLine (level : Nat) : List Char := '\n' :: List.replicate (2 * level) ' '

/-- Parts between brackets, each on a line of its own; brackets around nothing stay together. -/
def spread (opening closing : Char) (level : Nat) (parts : List (List Char)) : List Char :=
  if parts.isEmpty then [opening, closing]
  else
    opening :: newLine (level + 1) ++ separated (',' :: newLine (level + 1)) parts ++
      newLine level ++ [closing]

mutual

/-- A value over several lines at a level of indentation. -/
def Value.spreadChars (level : Nat) : Value → List Char
  | .array items => spread '[' ']' level (Value.spreadItems (level + 1) items)
  | .object members => spread '\x7b' '\x7d' level (Value.spreadMembers (level + 1) members)
  | .null => ['n', 'u', 'l', 'l']
  | .bool true => ['t', 'r', 'u', 'e']
  | .bool false => ['f', 'a', 'l', 's', 'e']
  | .number n => n.chars
  | .string s => stringChars s

/-- The items of a list over several lines. -/
def Value.spreadItems (level : Nat) : List Value → List (List Char)
  | [] => []
  | item :: rest => item.spreadChars level :: Value.spreadItems level rest

/-- The members of an object over several lines. -/
def Value.spreadMembers (level : Nat) : List (String × Value) → List (List Char)
  | [] => []
  | (name, value) :: rest =>
    (stringChars name ++ ':' :: ' ' :: value.spreadChars level) :: Value.spreadMembers level rest

end

/-- A value as a text over several lines. -/
def Value.spreadText (value : Value) : String := String.ofList (value.spreadChars 0)

end EvidenceTree.Json
