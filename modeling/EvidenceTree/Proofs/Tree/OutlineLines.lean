import EvidenceTree.Proofs.Tree.OutlineForm

/-!
# The lines of an outline

Each entry of an outline is printed on a line. But a label shows the key of its node as it is, and
that of the root the version and the publication date, so a line break in one of them makes for one
more line. Nothing else does: a literal is quoted, and all the rest is written in plain characters.

* `Tree.lineCount_outlineText`: how many lines an outline has.
* `Tree.lineCount_outlineText_eq_iff`: when it has one for each entry.
-/

namespace EvidenceTree

open Text (OneLine allBreaks allBreaks_cons allBreaks_eq_zero_iff allBreaks_map_eq breaks
  breaks_append lineCount lineCount_join)

/-! ## Entries -/

namespace Entry

variable {n : Nat} {label : Fin n → String}

/-- Of the texts of entries the labels alone may have line breaks. -/
theorem allBreaks_heads (label : Fin n → String) (entries : List (Entry n)) :
    allBreaks (entries.map (head label)) = allBreaks ((entries.filterMap own?).map label) := by
  -- what is not a label does not depend on the labels, which may then have no line breaks
  have plain (entry : Entry n) : breaks (head (fun _ => "") entry) = 0 :=
    (oneLine_head (fun _ => by decide) entry).breaks_eq_zero
  induction entries with
  | nil => rfl
  | cons entry rest ih =>
    rw [List.map_cons, allBreaks_cons, ih]
    cases entry with
    | own i below => rfl
    | shared i =>
      have none : breaks (head label (shared i)) = 0 := plain (shared i)
      rw [none, Nat.zero_add]
      rfl
    | omitted children =>
      have none : breaks (head label (omitted children)) = 0 := plain (omitted children)
      rw [none, Nat.zero_add]
      rfl

/-- What leads to an entry has no line breaks. -/
theorem allBreaks_lines {lines : List String} {entries : List (Entry n)}
    (printed : List.Forall₂ (IsLineOf label) lines entries) :
    allBreaks lines = allBreaks (entries.map (head label)) := by
  induction printed with
  | nil => rfl
  | cons isLine _ ih =>
    obtain ⟨guide, isGuide, rfl⟩ := isLine
    rw [List.map_cons, allBreaks_cons, allBreaks_cons, breaks_append,
      isGuide.oneLine.breaks_eq_zero, Nat.zero_add, ih]

end Entry

/-! ## Outlines -/

namespace Tree

/-- An outline has a line for each entry, and one more for each line break in the texts that it
shows as they are. -/
theorem lineCount_outlineText (t : Tree) :
    lineCount t.outlineText =
      t.outline.inOrder.length + allBreaks (t.outline.owned.flatMap t.bareTexts) := by
  have printed := t.wellOutlined.printed
  unfold outlineText
  rw [lineCount_join, printed.length_eq, Entry.allBreaks_lines printed, Entry.allBreaks_heads,
    ← Entry.owned_eq_filterMap, allBreaks_map_eq t.breaks_outlineLabel]

/-- An outline has a line for each entry exactly where none of these texts has a line break. -/
theorem lineCount_outlineText_eq_iff (t : Tree) :
    lineCount t.outlineText = t.outline.inOrder.length ↔
      ∀ i ∈ t.outline.owned, ∀ text ∈ t.bareTexts i, OneLine text := by
  rw [t.lineCount_outlineText, Nat.add_eq_left, allBreaks_eq_zero_iff, List.forall_mem_flatMap]

end Tree

end EvidenceTree
