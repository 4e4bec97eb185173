import EvidenceTree.Text.CharSet

/-!
# Blank characters

White space in the sense of Unicode's `White_Space` property, and the removal of blank characters
at both ends of a text.
-/

namespace EvidenceTree.Text

/-- The characters with Unicode's `White_Space` property. -/
def blanks : CharSet :=
  ⟨[0x9, 0xE, 0x20, 0x21, 0x85, 0x86, 0xA0, 0xA1, 0x1680, 0x1681, 0x2000, 0x200B, 0x2028, 0x202A,
    0x202F, 0x2030, 0x205F, 0x2060, 0x3000, 0x3001]⟩

/-- White space, non-ASCII spaces and separators included. -/
def isBlank (c : Char) : Bool := blanks.contains c

/-- The characters without the blank ones in front. -/
def trimFront (cs : List Char) : List Char := cs.dropWhile isBlank

/-- The characters without the blank ones at either end. -/
def trimChars (cs : List Char) : List Char := (trimFront (trimFront cs).reverse).reverse

/-- The text without the blank characters at either end. -/
def trim (s : String) : String := String.ofList (trimChars s.toList)

@[simp]
theorem toList_trim (s : String) : (trim s).toList = trimChars s.toList := by
  simp [trim]

end EvidenceTree.Text
