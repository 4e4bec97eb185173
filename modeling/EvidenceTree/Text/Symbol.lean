/-!
# Symbols of a byte sequence

A document is read as symbols: the characters of its UTF-8 form, and a placeholder for each byte
that belongs to no character. ASCII characters are found in either case, so a reader can follow the
structure of a document whose texts are damaged and report the damage where it matters.
-/

namespace EvidenceTree.Text

/-- A character, or `none` for a byte that belongs to no character. -/
abbrev Symbol := Option Char

namespace Symbol

/-- The number of bytes a symbol stands for. -/
def width : Symbol → Nat
  | some c => c.utf8Size
  | none => 1

/-- The symbols of the bytes from position `i` on. -/
def decodeFrom (bytes : ByteArray) (i : Nat) : List Symbol :=
  if i < bytes.size then
    match bytes.utf8DecodeChar? i with
    | some c => some c :: decodeFrom bytes (i + c.utf8Size)
    | none => none :: decodeFrom bytes (i + 1)
  else []
termination_by bytes.size - i
decreasing_by
  · have := c.utf8Size_pos
    omega
  · omega

/-- The symbols of a byte sequence. -/
def ofBytes (bytes : ByteArray) : List Symbol := decodeFrom bytes 0

/-- The symbols of a text: its characters. -/
def ofString (s : String) : List Symbol := s.toList.map some

/-- At least `n` bytes are left. -/
def hasBytes : Nat → List Symbol → Bool
  | 0, _ => true
  | _ + 1, [] => false
  | n + 1, symbol :: rest => hasBytes (n + 1 - symbol.width) rest

/-- The characters, when no byte stands alone. -/
def characters? : List Symbol → Option (List Char)
  | [] => some []
  | some c :: rest => (characters? rest).map (c :: ·)
  | none :: _ => none

/-- The text that the bytes spell, if they are UTF-8 throughout. -/
def text? (bytes : ByteArray) : Option String :=
  (characters? (ofBytes bytes)).map String.ofList

theorem ofString_ofList (cs : List Char) : ofString (String.ofList cs) = cs.map some := by
  unfold ofString
  rw [String.toList_ofList]

theorem ofString_append (s t : String) : ofString (s ++ t) = ofString s ++ ofString t := by
  unfold ofString
  rw [String.toList_append, List.map_append]

@[simp]
theorem characters?_ofString (s : String) : characters? (ofString s) = some s.toList := by
  unfold ofString
  induction s.toList with
  | nil => rfl
  | cons c rest ih => simp [characters?, ih]

end Symbol

end EvidenceTree.Text
