import EvidenceTree.Calendar.Reader
import EvidenceTree.Proofs.Graph.Cycles
import EvidenceTree.Proofs.Text.Trimming

/-!
# Days in front of a text

A day of the years 0000 to 9999 is written with as many digits as the readers of its parts take, so
no reader takes a digit more from what follows it. Each of the three ways to read a date therefore
comes to this day or to nothing: what follows has a say in whether a way succeeds and none in the
day, and the third way always succeeds.

* `takeNumber_padded`: a number of a fixed width is taken as a whole, whatever follows.
* `date?_append`, `timestampDate?_append`, `leadingDate?_append`: the three ways.
* `publishedOn?_of_leading`: the day that a tree was published on.
-/

namespace EvidenceTree.Calendar

open Date (padded)

variable {digits rest : List Char} {least most n width : Nat} {date : Date}

/-! ## Numbers of a fixed width -/

theorem length_padded (fits : n < 10 ^ width) (positive : 0 < width) :
    (padded width n).length = width := by
  have short : (Nat.toDigits 10 n).length ≤ width :=
    (Nat.length_toDigits_le_iff (by decide) positive).2 fits
  unfold padded
  rw [List.length_append, List.length_replicate, Nat.sub_add_cancel short]

theorem isDigits_padded (width n : Nat) : IsDigits (padded width n) := by
  obtain ⟨some, all⟩ := isDigits_toDigits n
  unfold padded
  exact ⟨fun none => some (List.append_eq_nil_iff.1 none).2, fun c isChar =>
    (List.mem_append.1 isChar).elim (isDigit_replicate c) (all c)⟩

theorem ofDigitChars_padded (width n : Nat) : Nat.ofDigitChars 10 (padded width n) 0 = n := by
  unfold padded
  rw [ofDigitChars_zeros_append, Nat.ofDigitChars_ten_toDigits]

/-! ## Parts -/

/-- As many digits as may be taken are taken, whatever follows. -/
theorem takeNumber_append (isDigits : IsDigits digits) (length : digits.length = most)
    (enough : least ≤ most) :
    takeNumber least most (digits ++ rest) = some (Nat.ofDigitChars 10 digits 0, rest) := by
  unfold takeNumber
  rw [List.take_left' length, List.takeWhile_eq_self_iff.2 isDigits.2]
  dsimp only
  rw [List.drop_left, if_pos (length ▸ enough)]

/-- A number of a fixed width is taken as a whole, whatever follows. -/
theorem takeNumber_padded (fits : n < 10 ^ width) (positive : 0 < width) (enough : least ≤ width) :
    takeNumber least width (padded width n ++ rest) = some (n, rest) := by
  rw [takeNumber_append (isDigits_padded width n) (length_padded fits positive) enough,
    ofDigitChars_padded]

theorem takeChar_cons (c : Char) : takeChar c (c :: rest) = some rest := if_pos rfl

/-- Nothing blank is skipped in front of digits. -/
theorem trimFront_digits (isDigits : IsDigits digits) :
    Text.trimFront (digits ++ rest) = digits ++ rest := by
  refine Text.trimFront_of_visible fun c isHead => isDigits.visible c ?_
  rw [List.head?_append_of_ne_nil _ isDigits.1] at isHead
  exact List.mem_of_mem_head? isHead

theorem takeShort_padded (fits : n < 10 ^ 2) : takeShort (padded 2 n ++ rest) = some (n, rest) := by
  unfold takeShort
  rw [trimFront_digits (isDigits_padded 2 n)]
  exact takeNumber_padded fits (by decide) (by decide)

theorem takeYear_padded (fits : n < 10 ^ 4) :
    takeYear (padded 4 n ++ rest) = some ((n : Int), rest) := by
  have isDigits := isDigits_padded 4 n
  have unsigned {sign : Char} {others : List Char} (written : padded 4 n ++ rest = sign :: others) :
      sign.isDigit = true := by
    have isHead : (padded 4 n ++ rest).head? = some sign := written ▸ rfl
    rw [List.head?_append_of_ne_nil _ isDigits.1] at isHead
    exact isDigits.2 sign (List.mem_of_mem_head? isHead)
  unfold takeYear
  rw [trimFront_digits isDigits]
  split
  · rename_i written
    exact absurd (unsigned written) (by decide)
  · rename_i written
    exact absurd (unsigned written) (by decide)
  · rw [takeNumber_padded fits (by decide) (by decide)]
    rfl

/-! ## Days with a year of four digits -/

/-- A day of the years 0000 to 9999. -/
def Date.IsPlain (date : Date) : Prop := 0 ≤ date.year ∧ date.year ≤ 9999

instance : DecidablePred Date.IsPlain := fun date =>
  inferInstanceAs (Decidable (0 ≤ date.year ∧ date.year ≤ 9999))

namespace Date

theorem month_lt (date : Date) : date.month < 10 ^ 2 := by
  obtain ⟨-, -, first, last⟩ := date.isDay
  have some : 0 < daysInMonth date.year date.month := Nat.lt_of_lt_of_le first last
  by_contra large
  unfold daysInMonth at some
  split at some <;> omega

theorem day_lt (date : Date) : date.day < 10 ^ 2 := by
  have least : daysInMonth date.year date.month ≤ 31 := by
    unfold daysInMonth
    split
    case h_12 => split <;> decide
    all_goals decide
  exact Nat.lt_of_le_of_lt (Nat.le_trans date.isDay.2.2.2 least) (by decide)

theorem of?_eq (date : Date) : of? date.year date.month date.day = some date := dif_pos date.isDay

/-- A plain day is written as four, two and two digits with hyphens between them. -/
theorem IsPlain.chars_eq (plain : date.IsPlain) :
    date.chars = padded 4 date.year.natAbs ++ '-' :: (padded 2 date.month ++
      '-' :: padded 2 date.day) := by
  have year : yearChars date.year = padded 4 date.year.natAbs := if_pos plain
  unfold chars
  rw [year, List.append_assoc, List.cons_append]

theorem IsPlain.natAbs_lt (plain : date.IsPlain) : date.year.natAbs < 10 ^ 4 := by
  obtain ⟨low, high⟩ := plain
  omega

theorem IsPlain.natAbs_eq (plain : date.IsPlain) : (date.year.natAbs : Int) = date.year :=
  Int.natAbs_of_nonneg plain.1

/-- A day is written in characters of one byte that are not blank. -/
theorem IsPlain.isVisible (plain : date.IsPlain) :
    ∀ c ∈ date.chars, Text.isBlank c = false ∧ c.utf8Size = 1 := by
  have digit (width n : Nat) : ∀ c ∈ padded width n, Text.isBlank c = false ∧ c.utf8Size = 1 := by
    intro c isChar
    have isDigit := (isDigits_padded width n).2 c isChar
    refine ⟨Text.isBlank_of_isDigit isDigit, ?_⟩
    have low : c.toNat ≤ 127 := Nat.le_trans (isDigit_iff.1 isDigit).2 (by decide)
    exact Char.utf8Size_eq_one_iff.2 (UInt32.le_iff_toNat_le.2 low)
  have hyphen : Text.isBlank '-' = false ∧ '-'.utf8Size = 1 := by decide
  simp only [plain.chars_eq, List.mem_append, List.mem_cons]
  rintro c (inYear | rfl | inMonth | rfl | inDay)
  · exact digit _ _ c inYear
  · exact hyphen
  · exact digit _ _ c inMonth
  · exact hyphen
  · exact digit _ _ c inDay

theorem IsPlain.length_chars (plain : date.IsPlain) : date.chars.length = 10 := by
  rw [plain.chars_eq, List.length_append, List.length_cons, List.length_append, List.length_cons,
    length_padded plain.natAbs_lt (by decide), length_padded date.month_lt (by decide),
    length_padded date.day_lt (by decide)]

end Date

/-! ## The three ways -/

/-- A text that begins with a day is a date where nothing follows. -/
theorem date?_append (plain : date.IsPlain) (rest : List Char) :
    date? (date.chars ++ rest) = if rest = [] then some date else none := by
  unfold date?
  rw [plain.chars_eq]
  simp only [List.append_assoc, List.cons_append]
  rw [takeYear_padded plain.natAbs_lt, plain.natAbs_eq]
  simp only [Option.bind_eq_bind, Option.bind_some, takeChar_cons, takeShort_padded date.month_lt,
    takeShort_padded date.day_lt, date.of?_eq]

/-- A timestamp that begins with a day is of that day, whatever its time and its offset. -/
theorem timestampDate?_append (plain : date.IsPlain) (rest : List Char) :
    timestampDate? (date.chars ++ rest) = none ∨
      timestampDate? (date.chars ++ rest) = some date := by
  unfold timestampDate?
  rw [plain.chars_eq]
  simp only [List.append_assoc, List.cons_append]
  rw [takeNumber_padded plain.natAbs_lt (by decide) (by decide)]
  simp only [Option.bind_eq_bind, Option.bind_some, takeChar_cons,
    takeNumber_padded date.month_lt Nat.two_pos (Nat.le_refl 2),
    takeNumber_padded date.day_lt Nat.two_pos (Nat.le_refl 2), plain.natAbs_eq, date.of?_eq]
  cases rest with
  | nil => exact .inl rfl
  | cons separator rest =>
    dsimp only
    split
    · cases skipTime rest with
      | none => exact .inl rfl
      | some rest =>
        rw [Option.bind_some]
        cases skipOffset rest with
        | none => exact .inl rfl
        | some rest =>
          rw [Option.bind_some]
          split
          · exact .inr rfl
          · exact .inl rfl
    · exact .inl rfl

/-- Characters of one byte each are as many bytes. -/
theorem firstBytes?_append {cs : List Char} (narrow : ∀ c ∈ cs, c.utf8Size = 1) :
    firstBytes? cs.length (cs ++ rest) = some cs := by
  induction cs with
  | nil => cases rest <;> rfl
  | cons c cs ih =>
    obtain ⟨one, others⟩ := List.forall_mem_cons.1 narrow
    rw [List.cons_append, List.length_cons, firstBytes?, if_neg (Nat.succ_ne_zero _), one,
      if_pos (Nat.le_add_left 1 _), Nat.add_sub_cancel, ih others]
    rfl

/-- The first ten bytes of a text that begins with a day are that day. -/
theorem leadingDate?_append (plain : date.IsPlain) (rest : List Char) :
    leadingDate? (date.chars ++ rest) = some date := by
  have bytes : firstBytes? 10 (date.chars ++ rest) = some date.chars := by
    rw [← plain.length_chars]
    exact firstBytes?_append fun c isChar => (plain.isVisible c isChar).2
  have alone := date?_append plain []
  rw [List.append_nil] at alone
  unfold leadingDate?
  rw [bytes, Option.bind_some, alone]
  rfl

/-! ## The day of publication -/

/-- A tree was published on the day that its publication date begins with, blank characters in front
aside, whatever follows. None of the three ways to read the date comes to another day. -/
theorem publishedOn?_of_leading (t : Tree) {date : Date} {before suffix : List Char}
    (plain : date.IsPlain) (blank : ∀ c ∈ before, Text.isBlank c = true)
    (published : t.publishDate.toList = before ++ (date.chars ++ suffix)) :
    publishedOn? t.publishDate = some date ∧
      ∀ way ∈ [date?, timestampDate?, leadingDate?],
        way (Text.trimChars t.publishDate.toList) = none ∨
          way (Text.trimChars t.publishDate.toList) = some date := by
  have some : date.chars ≠ [] := List.ne_nil_of_length_pos (plain.length_chars ▸ by decide)
  have trimmed : Text.trimChars (before ++ (date.chars ++ suffix)) =
      date.chars ++ (Text.trimFront suffix.reverse).reverse :=
    Text.trimChars_append_of_visible blank (fun c isChar => (plain.isVisible c isChar).1) some
  generalize (Text.trimFront suffix.reverse).reverse = rest at trimmed
  have alone : date? (date.chars ++ rest) = none ∨ date? (date.chars ++ rest) = .some date := by
    rw [date?_append plain]
    split
    · exact .inr rfl
    · exact .inl rfl
  have stamped := timestampDate?_append plain rest
  have leading := leadingDate?_append plain rest
  rw [published, trimmed]
  constructor
  · unfold publishedOn?
    rw [published, trimmed]
    dsimp only
    rcases alone with alone | alone
    · rcases stamped with stamped | stamped <;> rw [alone, stamped]
      · exact leading
      · rfl
    · rw [alone]
      rfl
  · intro way isWay
    rcases List.mem_cons.1 isWay with rfl | isWay
    · exact alone
    · rcases List.mem_cons.1 isWay with rfl | isWay
      · exact stamped
      · rw [List.mem_singleton.1 isWay]
        exact .inr leading

/-! ### Late in the evening -/

/-- A tree that was published when the next day had begun in universal time. -/
def lateTree : Tree where
  version := "1"
  publishDate := "\u2003 2024-03-05T23:30:00.5-05:00\n"
  nodes := #[⟨0, .root, none, some 7, []⟩]
  wellFormed :=
    { rooted := by decide
      index_eq := by decide
      root_iff := by decide
      bounded := by decide
      acyclic := Graph.acyclic_of_ascending (by decide) }

/-- The day that the date of the tree begins with. -/
def lateDay : Date := ⟨2024, 3, 5, by decide⟩

/-- An offset does not move the day. -/
theorem publishedOn?_of_leading_late :
    lateDay.IsPlain ∧ (∀ c ∈ ['\u2003', ' '], Text.isBlank c = true) ∧
      lateTree.publishDate.toList =
        ['\u2003', ' '] ++ (lateDay.chars ++ "T23:30:00.5-05:00\n".toList) ∧
      publishedOn? lateTree.publishDate = some lateDay := by
  have plain : lateDay.IsPlain := by decide
  have blank : ∀ c ∈ ['\u2003', ' '], Text.isBlank c = true :=
    List.forall_mem_cons.2 ⟨rfl, List.forall_mem_singleton.2 rfl⟩
  have published : lateTree.publishDate.toList =
      ['\u2003', ' '] ++ (lateDay.chars ++ "T23:30:00.5-05:00\n".toList) := by decide
  exact ⟨plain, blank, published, (publishedOn?_of_leading lateTree plain blank published).1⟩

end EvidenceTree.Calendar
