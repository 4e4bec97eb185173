import EvidenceTree.Proofs.Binary64.Numerals
import EvidenceTree.Proofs.Text.Lines
import EvidenceTree.Tree.Label

/-!
# What a label says

A label stands on one line where the key of its node does, since a literal is quoted. It starts with
the index of the node, and its question cannot be mistaken for a remark on the node.

* `Node.breaks_label`: the line breaks of a label are those of the key.
* `Node.exists_question`: the parts of a label.
-/

namespace EvidenceTree

open Text (OneLine allBreaks breaks breaks_append)

/-! ## Labels on one line -/

namespace Text

theorem newline_notMem_hexDigits (n : Nat) : '\n' ∉ hexDigits n := by
  unfold hexDigits
  have shown : ∀ d < 16, '\n' ≠ Nat.digitChar d := by decide
  induction n using Nat.strongRecOn with
  | ind n ih =>
    rcases Nat.lt_or_ge n 16 with small | large
    · rw [Nat.toDigits_of_lt_base small, List.mem_singleton]
      exact shown n small
    · rw [Nat.toDigits_of_base_le (by decide) large, List.mem_append, List.mem_singleton]
      exact not_or.2 ⟨ih (n / 16) (Nat.div_lt_self (by omega) (by decide)),
        shown (n % 16) (Nat.mod_lt n (by decide))⟩

theorem newline_notMem_quotedChar (c : Char) : '\n' ∉ quotedChar c := by
  by_cases isBreak : c = '\n'
  · subst isBreak
    decide
  · unfold quotedChar
    repeat' split
    all_goals simp [newline_notMem_hexDigits, Ne.symm isBreak]

namespace OneLine

theorem quoted (s : String) : OneLine (Text.quoted s) := by
  unfold OneLine Text.quoted
  rw [String.toList_ofList]
  simp [newline_notMem_quotedChar]

theorem plain (x : Finite64) : OneLine (String.ofList x.plain) := by
  unfold OneLine
  rw [String.toList_ofList]
  intro isChar
  rcases Finite64.isNumeral_plain isChar with digit | sign | point
  · exact absurd digit (by decide)
  · exact absurd sign (by decide)
  · exact absurd point (by decide)

end OneLine

end Text

/-- The line breaks of a question are those of the key. -/
theorem Criterion.breaks_label {criterion : Criterion} (asks : criterion ≠ .root) (key : String) :
    breaks (criterion.label key) = breaks key := by
  have equals : breaks " == " = 0 := rfl
  have opening : breaks " in [" = 0 := rfl
  have comma : breaks ", " = 0 := rfl
  have closing : breaks "]" = 0 := rfl
  cases criterion with
  | root => exact absurd rfl asks
  | literal text => simp [label, equals, (OneLine.quoted text).breaks_eq_zero]
  | range low high =>
    simp [label, opening, comma, closing, (OneLine.plain low).breaks_eq_zero,
      (OneLine.plain high).breaks_eq_zero]

/-- The texts that a label shows as they are: the key of a node that asks something. -/
def Node.bareTexts (node : Node) : List String :=
  if node.criterion = .root then [] else node.key.toList

theorem Node.key_eq_of_mem_bareTexts {node : Node} {text : String}
    (isBare : text ∈ node.bareTexts) : node.key = some text := by
  unfold bareTexts at isBare
  split at isBare
  · cases isBare
  · exact Option.mem_toList.1 isBare

/-- The line breaks of a label are those of the texts that it shows as they are. -/
theorem Node.breaks_label (node : Node) : breaks node.label = allBreaks node.bareTexts := by
  have question : breaks (node.criterion.label (node.key.getD "?")) = allBreaks node.bareTexts := by
    unfold bareTexts
    split
    · rename_i isRoot
      have root : breaks "root" = 0 := rfl
      rw [isRoot]
      exact root
    · rename_i asks
      rw [Criterion.breaks_label asks]
      cases node.key with
      | none => rfl
      | some key => exact (Nat.add_zero _).symm
  have mark : breaks "#" = 0 := rfl
  have blank : breaks " " = 0 := rfl
  have arrow : breaks " => " = 0 := rfl
  have number (n : Nat) : breaks (toString n) = 0 := (OneLine.number n).breaks_eq_zero
  unfold label
  dsimp only
  split
  · simp only [breaks_append, mark, number, blank, question, arrow, Nat.zero_add, Nat.add_zero]
  · simp only [breaks_append, mark, number, blank, question, Nat.zero_add]

/-! ## Parts of a label -/

/-- A question has a character of its own. -/
theorem Criterion.exists_mem_label (criterion : Criterion) (key : String) :
    ∃ c ∈ ['t', '=', '['], c ∈ (criterion.label key).toList := by
  cases criterion with
  | root => exact ⟨'t', by decide, by simp [label]⟩
  | literal text => exact ⟨'=', by decide, by simp [label]⟩
  | range low high => exact ⟨'[', by decide, by simp [label]⟩

/-- A label is the index and a question with a character of its own. -/
theorem Node.exists_question (node : Node) : ∃ question : List Char,
    node.label.toList = '#' :: Nat.toDigits 10 node.index ++ ' ' :: question ∧
      ∃ c ∈ ['t', '=', '['], c ∈ question := by
  obtain ⟨c, isMark, inLabel⟩ := node.criterion.exists_mem_label (node.key.getD "?")
  unfold label
  dsimp only
  split
  · rename_i id _
    have inQuestion := List.mem_append_left (" => " ++ toString id.toNat).toList inLabel
    exact ⟨_, by simp, c, isMark, inQuestion⟩
  · exact ⟨_, by simp, c, isMark, inLabel⟩

end EvidenceTree
