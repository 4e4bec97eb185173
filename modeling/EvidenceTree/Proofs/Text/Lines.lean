import Mathlib.Data.List.Basic
import Mathlib.Data.Nat.Digits.Defs
import Mathlib.Data.String.Basic

/-!
# Lines

A text that is printed line by line can be told apart into its lines again, as long as none of them
holds a line break itself.

* `Text.OneLine`: what is printed on one line.
* `Text.splitLines`: the lines of a text; `Text.lineCount_join`: how many there are when texts are
  printed that may hold line breaks.
* `Text.append_cons_inj`: a separator ends what it does not stand in.
* `Text.mem_of_join_eq`: what stands between two line breaks of a printed text is one of its lines.
-/

namespace EvidenceTree.Text

/-- A text without line breaks. -/
def OneLine (s : String) : Prop := '\n' ∉ s.toList

instance : DecidablePred OneLine := fun s => inferInstanceAs (Decidable ('\n' ∉ s.toList))

namespace OneLine

variable {s s' : String}

theorem append (left : OneLine s) (right : OneLine s') : OneLine (s ++ s') := by
  unfold OneLine
  rw [String.toList_append, List.mem_append]
  exact not_or.2 ⟨left, right⟩

theorem number (n : Nat) : OneLine (toString n) := by
  intro isChar
  have digit : '\n'.isDigit = true :=
    Nat.isDigit_of_mem_toDigits (by decide) (by decide) (Nat.toList_repr ▸ isChar)
  exact absurd digit (by decide)

theorem intercalate {texts : List String} (separator : OneLine s)
    (each : ∀ text ∈ texts, OneLine text) : OneLine (s.intercalate texts) := by
  induction texts with
  | nil =>
    rw [String.intercalate_nil]
    decide
  | cons first rest ih =>
    obtain ⟨here, others⟩ := List.forall_mem_cons.1 each
    cases rest with
    | nil => exact String.intercalate_singleton ▸ here
    | cons second rest =>
      rw [String.intercalate_cons_cons]
      exact (here.append separator).append (ih others)

end OneLine

/-! ## Separators -/

variable {front front' back back' : List Char} {separator : Char}

/-- A separator ends what it does not stand in. -/
theorem append_cons_inj (free : separator ∉ front) (free' : separator ∉ front')
    (same : front ++ separator :: back = front' ++ separator :: back') :
    front = front' ∧ back = back' := by
  have span {front : List Char} (free : separator ∉ front) (back : List Char) :
      (front ++ separator :: back).takeWhile (· ≠ separator) = front := by
    rw [List.takeWhile_append_of_pos, List.takeWhile_cons_of_neg (by simp), List.append_nil]
    intro c isChar
    exact decide_eq_true fun isSeparator => free (isSeparator ▸ isChar)
  have fronts : front = front' := by
    rw [← span free back, same, span free']
  subst fronts
  exact ⟨rfl, (List.cons.inj (List.append_cancel_left same)).2⟩

/-- What stands between two line breaks of lines that are put together is one of them. -/
theorem mem_of_flatMap_eq {lines : List (List Char)} {before line after : List Char}
    (each : ∀ l ∈ lines, '\n' ∉ l) (free : '\n' ∉ line)
    (start : before = [] ∨ ∃ earlier, before = earlier ++ ['\n'])
    (same : lines.flatMap (· ++ ['\n']) = before ++ (line ++ '\n' :: after)) : line ∈ lines := by
  induction lines generalizing before with
  | nil => simp at same
  | cons first rest ih =>
    obtain ⟨freeFirst, others⟩ := List.forall_mem_cons.1 each
    rw [List.flatMap_cons, List.append_assoc, List.singleton_append] at same
    rcases start with rfl | ⟨earlier, rfl⟩
    · obtain ⟨rfl, -⟩ := append_cons_inj freeFirst free same
      exact List.mem_cons_self
    · rw [List.append_assoc, List.singleton_append] at same
      by_cases broken : '\n' ∈ earlier
      · -- the first line ends within what stands before
        obtain ⟨earlier, later, rfl, freeEarlier⟩ := List.eq_append_cons_of_mem broken
        rw [List.append_assoc, List.cons_append] at same
        obtain ⟨-, same⟩ := append_cons_inj freeFirst freeEarlier same
        rw [List.append_cons] at same
        exact List.mem_cons_of_mem _ (ih others (.inr ⟨later, rfl⟩) same)
      · obtain ⟨-, same⟩ := append_cons_inj freeFirst broken same
        exact List.mem_cons_of_mem _ (ih others (.inl rfl) same)

/-- What stands between two line breaks of a printed text is one of its lines. -/
theorem mem_of_join_eq {lines : List String} {before line after : String}
    (each : ∀ l ∈ lines, OneLine l) (free : OneLine line)
    (start : before = "" ∨ ∃ earlier, before = earlier ++ "\n")
    (same : String.join (lines.map (· ++ "\n")) = before ++ line ++ "\n" ++ after) :
    line ∈ lines := by
  have chars : (lines.map String.toList).flatMap (· ++ ['\n']) =
      before.toList ++ (line.toList ++ '\n' :: after.toList) := by
    simpa [String.toList_join, List.flatMap_map] using congrArg String.toList same
  have started : before.toList = [] ∨ ∃ earlier, before.toList = earlier ++ ['\n'] := by
    rcases start with rfl | ⟨earlier, rfl⟩
    · exact .inl rfl
    · exact .inr ⟨earlier.toList, String.toList_append⟩
  have freeEach : ∀ l ∈ lines.map String.toList, '\n' ∉ l := List.forall_mem_map.2 each
  obtain ⟨found, isLine, isText⟩ := List.mem_map.1 (mem_of_flatMap_eq freeEach free started chars)
  exact String.toList_inj.1 isText ▸ isLine

/-! ## Counting lines -/

/-- The lines of a text. A line break ends a line, and there is no line behind the last one. -/
def splitLines : List Char → List (List Char)
  | [] => []
  | c :: rest =>
    if c = '\n' then [] :: splitLines rest
    else match splitLines rest with
      | [] => [[c]]
      | line :: lines => (c :: line) :: lines

/-- The number of lines of a text. -/
def lineCount (s : String) : Nat := (splitLines s.toList).length

/-- The number of line breaks in a text. -/
def breaks (s : String) : Nat := s.toList.count '\n'

/-- The number of line breaks in texts. -/
def allBreaks (texts : List String) : Nat := (texts.map breaks).sum

variable {s : String} {texts : List String}

@[simp]
theorem breaks_append (s s' : String) : breaks (s ++ s') = breaks s + breaks s' := by
  unfold breaks
  rw [String.toList_append, List.count_append]

theorem breaks_eq_zero_iff : breaks s = 0 ↔ OneLine s := List.count_eq_zero

theorem OneLine.breaks_eq_zero (oneLine : OneLine s) : breaks s = 0 := breaks_eq_zero_iff.2 oneLine

@[simp]
theorem allBreaks_cons (s : String) (texts : List String) :
    allBreaks (s :: texts) = breaks s + allBreaks texts := rfl

@[simp]
theorem allBreaks_append (texts texts' : List String) :
    allBreaks (texts ++ texts') = allBreaks texts + allBreaks texts' := by
  unfold allBreaks
  rw [List.map_append, List.sum_append]

/-- Texts whose line breaks are those of other texts have as many as all of these. -/
theorem allBreaks_map_eq {α : Type} {text : α → String} {parts : α → List String}
    (each : ∀ item, breaks (text item) = allBreaks (parts item)) (items : List α) :
    allBreaks (items.map text) = allBreaks (items.flatMap parts) := by
  induction items with
  | nil => rfl
  | cons item rest ih =>
    rw [List.map_cons, allBreaks_cons, List.flatMap_cons, allBreaks_append, each, ih]

theorem allBreaks_eq_zero_iff : allBreaks texts = 0 ↔ ∀ text ∈ texts, OneLine text := by
  unfold allBreaks
  rw [List.sum_eq_zero_iff_forall_eq_nat, List.forall_mem_map]
  simp only [breaks_eq_zero_iff]

/-- A line break ends a line for each line break in front of it, and one more. -/
theorem length_splitLines_append (front back : List Char) :
    (splitLines (front ++ '\n' :: back)).length =
      front.count '\n' + 1 + (splitLines back).length := by
  induction front with
  | nil => simp [splitLines, Nat.add_comm]
  | cons c front ih =>
    rw [List.cons_append, splitLines]
    split
    · rename_i isBreak
      rw [List.length_cons, ih, isBreak, List.count_cons_self]
      omega
    · rename_i noBreak
      rw [List.count_cons_of_ne noBreak, ← ih]
      -- some line follows, which the character is the first one of
      split
      · rename_i none
        rw [none] at ih
        simp at ih
        omega
      · rename_i line lines more
        rw [more]
        rfl

/-- Texts that are printed line by line take a line each, and one more for each line break. -/
theorem lineCount_join (texts : List String) :
    lineCount (String.join (texts.map (· ++ "\n"))) = texts.length + allBreaks texts := by
  induction texts with
  | nil => rfl
  | cons first rest ih =>
    unfold lineCount at ih ⊢
    have chars : (String.join ((first :: rest).map (· ++ "\n"))).toList =
        first.toList ++ '\n' :: (String.join (rest.map (· ++ "\n"))).toList := by
      simp [String.append_assoc]
    rw [chars, length_splitLines_append, ih, allBreaks_cons, List.length_cons]
    unfold breaks
    omega

end EvidenceTree.Text
