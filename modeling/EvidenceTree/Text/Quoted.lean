import EvidenceTree.Text.Hex
import EvidenceTree.Text.Printable

/-!
# Quoted text

A text between double quotes in which every character can be told apart: quotes, backslashes and
the common controls by a short escape, other characters that do not show on their own by their
code point.
-/

namespace EvidenceTree.Text

/-- One character inside a quoted text. -/
def quotedChar (c : Char) : List Char :=
  if c = '\x00' then ['\\', '0']
  else if c = '\t' then ['\\', 't']
  else if c = '\r' then ['\\', 'r']
  else if c = '\n' then ['\\', 'n']
  else if c = '\\' then ['\\', '\\']
  else if c = '"' then ['\\', '"']
  else if isPrintable c then [c]
  else ['\\', 'u', '\x7b'] ++ hexDigits c.toNat ++ ['\x7d']

/-- The text between double quotes. -/
def quoted (s : String) : String :=
  String.ofList ('"' :: s.toList.flatMap quotedChar ++ ['"'])

end EvidenceTree.Text
