import EvidenceTree.Text.Blank
import Mathlib.Data.List.DropRight

/-!
# Trimmed texts

A text is trimmed to what stands between its first and its last visible character. Digits are
visible, so a numeral may stand between blank characters and is found again.

* `Text.trimChars_eq_nil_iff`: nothing is left exactly of what is blank all over.
* `Text.trimChars_append_of_visible`: nothing is cut off beyond visible characters.
* `Text.trimChars_append`: visible characters between blank ones are what is left of them.
* `Text.exists_append_trimChars`: what is cut off is blank.
-/

namespace EvidenceTree

/-! ## Digits -/

theorem isDigit_iff {c : Char} : c.isDigit = true ↔ 48 ≤ c.toNat ∧ c.toNat ≤ 57 := by
  simp [Char.isDigit, UInt32.le_iff_toNat_le]

theorem toLower_of_isDigit {c : Char} (digit : c.isDigit = true) : c.toLower = c := by
  have range := isDigit_iff.1 digit
  unfold Char.toLower
  rw [dif_neg]
  simp only [UInt32.le_iff_toNat_le, not_and_or]
  exact .inl (Nat.not_le.2 (Nat.lt_of_le_of_lt range.2 (by decide)))

/-- Digits, at least one. -/
def IsDigits (cs : List Char) : Prop := cs ≠ [] ∧ ∀ c ∈ cs, c.isDigit = true

instance : DecidablePred IsDigits := fun cs =>
  decidable_of_iff (cs ≠ [] ∧ cs.all Char.isDigit = true) (and_congr_right' List.all_eq_true)

theorem isDigits_toDigits (n : Nat) : IsDigits (Nat.toDigits 10 n) :=
  ⟨Nat.toDigits_ne_nil, fun _ isChar => Nat.isDigit_of_mem_toDigits (by decide) (by decide) isChar⟩

theorem isDigit_replicate {zeros : Nat} : ∀ c ∈ List.replicate zeros '0', c.isDigit = true :=
  fun _ isZero => List.eq_of_mem_replicate isZero ▸ rfl

theorem ofDigitChars_zeros_append (zeros : Nat) (digits : List Char) :
    Nat.ofDigitChars 10 (List.replicate zeros '0' ++ digits) 0 = Nat.ofDigitChars 10 digits 0 := by
  rw [Nat.ofDigitChars_append, Nat.ofDigitChars_replicate_zero, Nat.mul_zero]

namespace Text

variable {cs before after : List Char}

/-- No visible character of the first 128 is blank. -/
theorem isBlank_eq_false {c : Char} (low : 0x21 ≤ c.toNat) (high : c.toNat < 0x85) :
    isBlank c = false := by
  have inside : (blanks.flips.takeWhile (· ≤ c.toNat)) = [0x9, 0xE, 0x20, 0x21] := by
    simp [blanks, List.takeWhile, low, Nat.not_le.2 high, show 9 ≤ c.toNat by omega,
      show 14 ≤ c.toNat by omega, show 32 ≤ c.toNat by omega]
  unfold isBlank CharSet.contains
  rw [inside]
  rfl

theorem isBlank_of_isDigit {c : Char} (digit : c.isDigit = true) : isBlank c = false := by
  have range := isDigit_iff.1 digit
  exact isBlank_eq_false (by omega) (by omega)

/-! ## Trimming -/

theorem trimFront_eq_nil_iff : trimFront cs = [] ↔ ∀ c ∈ cs, isBlank c = true :=
  List.dropWhile_eq_nil_iff

theorem trimFront_trimFront (cs : List Char) : trimFront (trimFront cs) = trimFront cs :=
  List.dropWhile_idempotent isBlank cs

/-- Nothing is left exactly of what is blank all over. -/
theorem trimChars_eq_nil_iff : trimChars cs = [] ↔ ∀ c ∈ cs, isBlank c = true := by
  calc trimChars cs = []
      ↔ ∀ c ∈ (trimFront cs).reverse, isBlank c = true := by
        rw [trimChars, List.reverse_eq_nil_iff, trimFront_eq_nil_iff]
    _ ↔ trimFront (trimFront cs) = [] := by
        simp only [List.mem_reverse, trimFront_eq_nil_iff]
    _ ↔ ∀ c ∈ cs, isBlank c = true := by
        rw [trimFront_trimFront, trimFront_eq_nil_iff]

theorem trimFront_append (blank : ∀ c ∈ before, isBlank c = true) :
    trimFront (before ++ cs) = trimFront cs := List.dropWhile_append_of_pos blank

theorem trimFront_of_visible (visible : ∀ c ∈ cs.head?, isBlank c = false) : trimFront cs = cs := by
  cases cs with
  | nil => rfl
  | cons c rest =>
    have notBlank : ¬ isBlank c = true := Bool.eq_false_iff.1 (visible c rfl)
    exact List.dropWhile_cons_of_neg notBlank

/-- Nothing is cut off in front of visible characters that stand behind blank ones, and nothing of
them. -/
theorem trimChars_append_of_visible (blank : ∀ c ∈ before, isBlank c = true)
    (visible : ∀ c ∈ cs, isBlank c = false) (some : cs ≠ []) :
    trimChars (before ++ (cs ++ after)) = cs ++ (trimFront after.reverse).reverse := by
  have front : trimFront (before ++ (cs ++ after)) = cs ++ after := by
    rw [trimFront_append blank]
    refine trimFront_of_visible fun c isHead => visible c ?_
    rw [List.head?_append_of_ne_nil _ some] at isHead
    exact List.mem_of_mem_head? isHead
  have back : trimFront cs.reverse = cs.reverse :=
    trimFront_of_visible fun c isHead =>
      visible c (List.mem_reverse.1 (List.mem_of_mem_head? isHead))
  rw [trimChars, front, List.reverse_append]
  by_cases blankAfter : ∀ c ∈ after.reverse, isBlank c = true
  · rw [trimFront_append blankAfter, back, trimFront_eq_nil_iff.2 blankAfter, List.reverse_reverse,
      List.reverse_nil, List.append_nil]
  · have cut : trimFront (after.reverse ++ cs.reverse) = trimFront after.reverse ++ cs.reverse := by
      have notEmpty : trimFront after.reverse ≠ [] := mt trimFront_eq_nil_iff.1 blankAfter
      unfold trimFront at notEmpty ⊢
      rw [List.dropWhile_append, if_neg (by simpa using notEmpty)]
    rw [cut, List.reverse_append, List.reverse_reverse]

/-- Visible characters between blank ones are what is left of them. -/
theorem trimChars_append (blank : ∀ c ∈ before, isBlank c = true)
    (blank' : ∀ c ∈ after, isBlank c = true) (visible : ∀ c ∈ cs, isBlank c = false) :
    trimChars (before ++ (cs ++ after)) = cs := by
  by_cases none : cs = []
  · subst none
    exact trimChars_eq_nil_iff.2 (List.forall_mem_append.2 ⟨blank, blank'⟩)
  · have back : trimFront after.reverse = [] :=
      trimFront_eq_nil_iff.2 fun c isChar => blank' c (List.mem_reverse.1 isChar)
    rw [trimChars_append_of_visible blank visible none, back, List.reverse_nil, List.append_nil]

/-- Where nothing is blank nothing is trimmed. -/
theorem trimChars_eq_self (visible : ∀ c ∈ cs, isBlank c = false) : trimChars cs = cs := by
  have whole := @trimChars_append cs [] [] nofun nofun visible
  rwa [List.nil_append, List.append_nil] at whole

/-- What is cut off a text at either end is blank. -/
theorem exists_append_trimChars (cs : List Char) :
    ∃ before after, cs = before ++ (trimChars cs ++ after) ∧ (∀ c ∈ before, isBlank c = true) ∧
      ∀ c ∈ after, isBlank c = true := by
  have cut (cs : List Char) : cs = cs.takeWhile isBlank ++ trimFront cs :=
    List.takeWhile_append_dropWhile.symm
  have blank (cs : List Char) : ∀ c ∈ cs.takeWhile isBlank, isBlank c = true :=
    fun c isChar => List.mem_takeWhile_imp isChar
  refine ⟨cs.takeWhile isBlank, ((trimFront cs).reverse.takeWhile isBlank).reverse, ?_, blank cs,
    fun c isChar => blank _ c (List.mem_reverse.1 isChar)⟩
  have back := congrArg List.reverse (cut (trimFront cs).reverse)
  rw [List.reverse_reverse, List.reverse_append] at back
  have whole := cut cs
  rw [back] at whole
  exact whole

end Text

theorem IsDigits.visible {cs : List Char} (isDigits : IsDigits cs) :
    ∀ c ∈ cs, Text.isBlank c = false :=
  fun c isChar => Text.isBlank_of_isDigit (isDigits.2 c isChar)

end EvidenceTree
