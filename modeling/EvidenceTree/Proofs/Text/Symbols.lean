import EvidenceTree.Text.Symbol
import Mathlib.Data.String.Basic

/-!
# Symbols of encoded texts

Decoding takes one character at a time from the front, so behind any bytes that have been read it
gives back the characters that were encoded. The symbols of a text's UTF-8 form are its characters.

* `Text.Symbol.ofBytes_toByteArray`: a text and its UTF-8 form have the same symbols.
* `Text.Symbol.text?_toByteArray`: the UTF-8 form of a text is read back as the text.
-/

namespace EvidenceTree.Text.Symbol

/-- The character in front of what is left of the bytes is the next symbol. -/
theorem decodeFrom_append_cons (before : ByteArray) (c : Char) (rest : List Char) :
    decodeFrom (before ++ (c :: rest).utf8Encode) before.size =
      some c :: decodeFrom (before ++ [c].utf8Encode ++ rest.utf8Encode)
        (before ++ [c].utf8Encode).size := by
  have width : [c].utf8Encode.size = c.utf8Size := by
    rw [List.utf8Encode_singleton, List.size_toByteArray, String.length_utf8EncodeChar]
  have inside : before.size < (before ++ (c :: rest).utf8Encode).size := by
    have positive := c.utf8Size_pos
    rw [List.utf8Encode_cons, ByteArray.size_append, ByteArray.size_append, width]
    omega
  have next : (before ++ (c :: rest).utf8Encode).utf8DecodeChar? before.size = some c := by
    rw [ByteArray.utf8DecodeChar?_eq_utf8DecodeChar?_extract, ByteArray.size_append,
      ByteArray.extract_append_eq_right rfl rfl, List.utf8DecodeChar?_utf8Encode_cons]
  rw [decodeFrom, if_pos inside]
  simp only [next]
  rw [List.utf8Encode_cons, ByteArray.append_assoc, ByteArray.size_append, width]

theorem decodeFrom_append (before : ByteArray) (cs : List Char) :
    decodeFrom (before ++ cs.utf8Encode) before.size = cs.map some := by
  induction cs generalizing before with
  | nil =>
    rw [List.utf8Encode_nil, ByteArray.append_empty, decodeFrom, if_neg (Nat.lt_irrefl _)]
    rfl
  | cons c rest ih => rw [decodeFrom_append_cons, ih, List.map_cons]

/-- A text and its UTF-8 form have the same symbols. -/
theorem ofBytes_toByteArray (s : String) : ofBytes s.toByteArray = ofString s := by
  have all := decodeFrom_append .empty s.toList
  rw [ByteArray.empty_append, String.utf8Encode_toList] at all
  exact all

/-- The UTF-8 form of a text is read back as the text. -/
theorem text?_toByteArray (s : String) : text? s.toByteArray = some s := by
  unfold text?
  rw [ofBytes_toByteArray, characters?_ofString, Option.map_some, String.ofList_toList]

end EvidenceTree.Text.Symbol
