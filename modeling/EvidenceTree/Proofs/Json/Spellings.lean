import EvidenceTree.Proofs.Json.Numerals

/-!
# What a reader takes of a JSON text

A reader takes an item from the front of the symbols. It looks at nothing behind the item but to see
where a number ends, so what it took is a text of its own: it spells the item alone, and in front of
anything that a number cannot go on with.

* `Json.IsLocal`: a reader of this kind.
* `Json.isLocal_number`, `Json.isLocal_string`: numbers and strings are read so.
* `Json.IsLocal.reads`: the text that spells an item is read as it in front of something else.
-/

namespace EvidenceTree.Json

open Text (Read Rest Symbol)

variable {α β : Type} {s t text rest blank : List Symbol} {symbol : Symbol} {c : Char} {x : α}
  {item : (s : List Symbol) → Except Fault (Read α s)} {fits : List Symbol → Prop}

/-! ## Texts of an item -/

/-- A text is an item to its end. -/
def Spells (item : (s : List Symbol) → Except Fault (Read α s)) (text : List Symbol) (x : α) :
    Prop := Takes (item text) x []

/-- A text is read as an item in front of what fits behind it. -/
def Reads (fits : List Symbol → Prop) (item : (s : List Symbol) → Except Fault (Read α s))
    (text : List Symbol) (x : α) : Prop := ∀ rest, fits rest → Takes (item (text ++ rest)) x rest

/-- What a reader takes is a text that is read as the same item in front of what fits. -/
def IsLocal (fits : List Symbol → Prop) (item : (s : List Symbol) → Except Fault (Read α s)) :
    Prop := ∀ ⦃s x rest⦄, Takes (item s) x rest → ∃ text, s = text ++ rest ∧ Reads fits item text x

/-- Whatever follows. -/
def Anything (_ : List Symbol) : Prop := True

theorem endsNumeral_nil : EndsNumeral [] := nofun

theorem Reads.spells (reads : Reads fits item text x) (nothing : fits []) :
    Spells item text x := by
  have takes := reads [] nothing
  rw [List.append_nil] at takes
  exact takes

theorem IsLocal.reads (isLocal : IsLocal fits item) (spells : Spells item text x) :
    Reads fits item text x := by
  obtain ⟨text', split, reads⟩ := isLocal spells
  rw [List.append_nil] at split
  rw [split]
  exact reads

theorem takes_map_iff {run : Except Fault (Read α s)} {f : Read α s → Read β t} {g : α → β} {y : β}
    (same : ∀ read, (f read).item = g read.item ∧ (f read).rest = read.rest) :
    Takes (run.map f) y rest ↔ ∃ x, Takes run x rest ∧ g x = y := by
  constructor
  · rintro ⟨shorter, mapped⟩
    obtain ⟨read, ran, made⟩ := map_eq_ok_iff.1 mapped
    obtain ⟨sameItem, sameRest⟩ := same read
    rw [made] at sameItem sameRest
    dsimp only at sameItem sameRest
    subst sameRest
    exact ⟨read.item, ⟨read.shorter, ran⟩, sameItem.symm⟩
  · rintro ⟨x, ⟨shorter, ran⟩, rfl⟩
    obtain ⟨sameItem, sameRest⟩ := same ⟨x, rest, shorter⟩
    generalize made : f ⟨x, rest, shorter⟩ = read at sameItem sameRest
    obtain ⟨item, left, shorter'⟩ := read
    dsimp only at sameItem sameRest
    subst sameItem sameRest
    exact ⟨shorter', map_eq_ok_iff.2 ⟨_, ran, made⟩⟩

section

variable {run : Except Fault (Read α s)} {y : β}

theorem takes_item_map_iff {g : α → β} :
    Takes (run.map (·.map g)) y rest ↔ ∃ x, Takes run x rest ∧ g x = y :=
  takes_map_iff fun _ => ⟨rfl, rfl⟩

theorem takes_after_iff {shorter : s.length < t.length} :
    Takes (run.map (·.after shorter)) x rest ↔ Takes run x rest := by
  have same : Takes (run.map (·.after shorter)) x rest ↔ ∃ y, Takes run y rest ∧ id y = x :=
    takes_map_iff fun _ => ⟨rfl, rfl⟩
  rw [same]
  simp only [id, exists_eq_right]

theorem takes_after_map_iff {g : α → β} {shorter : s.length < t.length} :
    Takes (run.map fun read => (read.after shorter).map g) y rest ↔
      ∃ x, Takes run x rest ∧ g x = y :=
  takes_map_iff fun _ => ⟨rfl, rfl⟩

theorem takes_fromFirst_map_iff {run : Except Fault (Read α (symbol :: s))} {g : α → β}
    {shorter : s.length < t.length} :
    Takes (run.map fun read => (read.fromFirst shorter).map g) y rest ↔
      ∃ x, Takes run x rest ∧ g x = y :=
  takes_map_iff fun _ => ⟨rfl, rfl⟩

end

/-- A reader takes more than nothing, so its first symbol is part of what it takes. -/
theorem IsLocal.behind (isLocal : IsLocal fits item) (takes : Takes (item (symbol :: s)) x rest) :
    ∃ text, s = text ++ rest ∧
      ∀ rest, fits rest → Takes (item (symbol :: (text ++ rest))) x rest := by
  have shorter := takes.choose
  obtain ⟨text, split, reads⟩ := isLocal takes
  cases text with
  | nil =>
    rw [split, List.nil_append] at shorter
    exact absurd shorter (Nat.lt_irrefl _)
  | cons first text =>
    cases split
    exact ⟨text, rfl, reads⟩

/-- A reader that makes more of the items of a local one is local. -/
theorem IsLocal.map {item' : (s : List Symbol) → Except Fault (Read β s)} {g : α → β}
    (isLocal : IsLocal fits item)
    (mapped : ∀ s y rest, Takes (item' s) y rest ↔ ∃ x, Takes (item s) x rest ∧ g x = y) :
    IsLocal fits item' := by
  intro s y rest made
  obtain ⟨x, takes, rfl⟩ := (mapped s y rest).1 made
  obtain ⟨text, split, reads⟩ := isLocal takes
  exact ⟨text, split, fun rest isFit => (mapped _ _ _).2 ⟨x, reads rest isFit, rfl⟩⟩

/-! ## Spaces -/

/-- Nothing but spaces. -/
def IsBlank (blank : List Symbol) : Prop := ∀ symbol ∈ blank, isSpace symbol = true

/-- The first symbol that is no space, and what follows it. -/
def Finds (s : List Symbol) (symbol : Symbol) (rest : List Symbol) : Prop :=
  ∃ shorter, next s = some ⟨symbol, rest, shorter⟩

theorem finds_iff : Finds s symbol rest ↔
    isSpace symbol = false ∧ ∃ blank, IsBlank blank ∧ s = blank ++ symbol :: rest := by
  have shown : Finds s symbol rest ↔ s.dropWhile isSpace = symbol :: rest := by
    unfold Finds next
    split
    · rename_i none
      rw [none]
      exact ⟨nofun, nofun⟩
    · rename_i other others left
      constructor
      · rintro ⟨_, ⟨⟩⟩
        exact left
      · intro left'
        have isSuffix := (List.dropWhile_suffix isSpace (l := s)).length_le
        rw [left'] at isSuffix
        cases left.symm.trans left'
        exact ⟨isSuffix, rfl⟩
  rw [shown]
  constructor
  · intro left
    refine ⟨?_, s.takeWhile isSpace, fun space inFront => List.mem_takeWhile_imp inFront, ?_⟩
    · have first := List.head?_dropWhile_not isSpace s
      rw [left] at first
      exact first
    · rw [← left, List.takeWhile_append_dropWhile]
  · rintro ⟨shows, blank, isBlank, rfl⟩
    rw [List.dropWhile_append_of_pos isBlank, List.dropWhile_cons_of_neg]
    rw [shows]
    exact Bool.false_ne_true

theorem Finds.unique {symbol' : Symbol} {rest' : List Symbol} (finds : Finds s symbol rest)
    (finds' : Finds s symbol' rest') : symbol = symbol' ∧ rest = rest' := by
  obtain ⟨_, found⟩ := finds
  obtain ⟨_, found'⟩ := finds'
  cases found.symm.trans found'
  exact ⟨rfl, rfl⟩

theorem finds_append (isBlank : IsBlank blank) (shows : isSpace symbol = false)
    (rest : List Symbol) : Finds (blank ++ symbol :: rest) symbol rest :=
  finds_iff.2 ⟨shows, blank, isBlank, rfl⟩

/-- What stands in front of the rest is a text of its own. -/
theorem Finds.split (finds : Finds s symbol rest) :
    ∃ front, s = front ++ rest ∧ ∀ rest, Finds (front ++ rest) symbol rest := by
  obtain ⟨shows, blank, isBlank, rfl⟩ := finds_iff.1 finds
  refine ⟨blank ++ [symbol], by simp, fun rest => ?_⟩
  rw [List.append_assoc]
  exact finds_append isBlank shows rest

theorem finds_cons (shows : isSpace symbol = false) (rest : List Symbol) :
    Finds (symbol :: rest) symbol rest := finds_iff.2 ⟨shows, [], nofun, rfl⟩

theorem endsNumeral_append (isBlank : IsBlank blank) (ends : EndsNumeral rest) :
    EndsNumeral (blank ++ rest) := by
  cases blank with
  | nil => exact ends
  | cons space blank =>
    have isSpace := isBlank space List.mem_cons_self
    rintro c ⟨⟩
    unfold Json.isSpace at isSpace
    split at isSpace
    case h_5 => cases isSpace
    all_goals
      rename_i same
      cases same
      decide

/-! ## Words -/

theorem word_eq_ok_iff {letters : List Char} :
    (∃ within, word letters s = .ok ⟨rest, within⟩) ↔ s = letters.map some ++ rest := by
  induction letters generalizing s with
  | nil =>
    constructor
    · rintro ⟨_, ⟨⟩⟩
      rfl
    · rintro rfl
      exact ⟨_, rfl⟩
  | cons letter letters ih =>
    cases s with
    | nil => exact ⟨nofun, nofun⟩
    | cons symbol s =>
      rw [word, List.map_cons, List.cons_append, List.cons.injEq, ← ih]
      split
      · rename_i same
        constructor
        · rintro ⟨_, mapped⟩
          obtain ⟨⟨_, within⟩, ran, ⟨⟩⟩ := map_eq_ok_iff.1 mapped
          exact ⟨same, within, ran⟩
        · rintro ⟨-, within, ran⟩
          exact ⟨Nat.le_succ_of_le within, map_eq_ok_iff.2 ⟨_, ran, rfl⟩⟩
      · rename_i differ
        exact ⟨nofun, fun same => absurd same.1 differ⟩

theorem takes_word_iff {letters : List Char} {shorter : s.length < t.length} {y : α} :
    Takes ((word letters s).map fun left => left.read shorter x) y rest ↔
      s = letters.map some ++ rest ∧ x = y := by
  rw [← word_eq_ok_iff]
  constructor
  · rintro ⟨_, mapped⟩
    obtain ⟨⟨_, within⟩, ran, ⟨⟩⟩ := map_eq_ok_iff.1 mapped
    exact ⟨⟨within, ran⟩, rfl⟩
  · rintro ⟨⟨within, ran⟩, rfl⟩
    exact ⟨_, map_eq_ok_iff.2 ⟨_, ran, rfl⟩⟩

/-! ## Numbers -/

section

variable {cs : List Char} {negative : Bool} {power : Option Int} {numeral' : Numeral}

theorem digits_split (s : List Symbol) :
    s = (digits s).1.map some ++ (digits s).2 ∧ ∀ c ∈ (digits s).1, c.isDigit = true := by
  fun_induction digits s with
  | case1 c rest digit ih =>
    rw [List.map_cons, List.cons_append, ← ih.1]
    exact ⟨rfl, List.forall_mem_cons.2 ⟨digit, ih.2⟩⟩
  | case2 => exact ⟨rfl, List.forall_mem_nil _⟩
  | case3 => exact ⟨rfl, List.forall_mem_nil _⟩

theorem someDigits_split (takes : Takes (someDigits s) cs rest) :
    s = cs.map some ++ rest ∧ IsDigits cs := by
  obtain ⟨_, ran⟩ := takes
  obtain ⟨split, isDigits⟩ := digits_split s
  unfold someDigits at ran
  split at ran
  · cases ran
  · rename_i found
    cases ran
    exact ⟨split, found, isDigits⟩

theorem fraction_split (passes : Passes (fraction s) cs rest) :
    s = (fractionChars cs).map some ++ rest ∧ ∀ c ∈ cs, c.isDigit = true := by
  obtain ⟨_, ran⟩ := passes
  unfold fraction at ran
  split at ran
  · obtain ⟨read, digitsRead, ⟨⟩⟩ := map_eq_ok_iff.1 ran
    obtain ⟨split, nonempty, isDigits⟩ := someDigits_split ⟨read.shorter, digitsRead⟩
    obtain ⟨first, others, isCons⟩ := List.exists_cons_of_ne_nil nonempty
    refine ⟨?_, isDigits⟩
    rw [isCons] at split ⊢
    exact congrArg (some '.' :: ·) split
  · cases ran
    exact ⟨rfl, nofun⟩

theorem exists_of_isExponentMark (isMark : isExponentMark symbol = true) :
    ∃ c, symbol = some c ∧ (c = 'e' ∨ c = 'E') := by
  rcases Bool.or_eq_true_iff.1 isMark with isMark | isMark
  · exact ⟨'e', eq_of_beq isMark, .inl rfl⟩
  · exact ⟨'E', eq_of_beq isMark, .inr rfl⟩

theorem exponentSign_split (s : List Symbol) :
    s = some (if (exponentSign s).1 then '-' else '+') :: (exponentSign s).2.1 ∨
      s = (exponentSign s).2.1 ∧ (exponentSign s).1 = false := by
  unfold exponentSign
  split
  · exact .inl rfl
  · exact .inl rfl
  · exact .inr ⟨rfl, rfl⟩

theorem exponent_split (passes : Passes (exponent s) power rest) :
    ∃ tail, s = tail.map some ++ rest ∧ SpellsExponent tail power := by
  obtain ⟨_, ran⟩ := passes
  unfold exponent at ran
  split at ran
  · cases ran
    exact ⟨[], rfl, .none⟩
  · rename_i mark behind _
    split at ran
    · rename_i isMark
      obtain ⟨c, rfl, isMark'⟩ := exists_of_isExponentMark isMark
      obtain ⟨read, digitsRead, ⟨⟩⟩ := map_eq_ok_iff.1 ran
      obtain ⟨split, isDigits⟩ := someDigits_split ⟨read.shorter, digitsRead⟩
      rcases exponentSign_split behind with signed | ⟨unsigned, positive⟩
      · rw [split] at signed
        exact ⟨c :: _ :: read.item, congrArg (some c :: ·) signed, .signed isMark' isDigits⟩
      · rw [split] at unsigned
        rw [positive]
        exact ⟨c :: read.item, congrArg (some c :: ·) unsigned, .unsigned isMark' isDigits⟩
    · cases ran
      exact ⟨[], rfl, .none⟩

/-- A number is read up to where it cannot go on, wherever that is. -/
theorem isLocal_numeral (negative : Bool) : IsLocal EndsNumeral (numeral negative) := by
  rintro s x rest ⟨_, ran⟩
  obtain ⟨whole, wholeRead, ran⟩ := bind_eq_ok_iff.1 ran
  split at ran
  · cases ran
  · rename_i unpadded
    obtain ⟨⟨digits, afterFraction⟩, fractionRead, ran⟩ := bind_eq_ok_iff.1 ran
    obtain ⟨⟨power, left⟩, exponentRead, ⟨⟩⟩ := bind_eq_ok_iff.1 ran
    obtain ⟨wholeSplit, isWhole⟩ := someDigits_split ⟨whole.shorter, wholeRead⟩
    obtain ⟨fractionSplit, isDigits⟩ := fraction_split ⟨afterFraction.2, fractionRead⟩
    obtain ⟨tail, exponentSplit, spells⟩ := exponent_split ⟨left.2, exponentRead⟩
    rw [exponentSplit] at fractionSplit
    rw [fractionSplit] at wholeSplit
    refine ⟨whole.item.map some ++ ((fractionChars digits).map some ++ tail.map some), ?_,
      fun rest ends => ?_⟩
    · rw [List.append_assoc, List.append_assoc]
      exact wholeSplit
    · rw [List.append_assoc, List.append_assoc]
      refine numeral_append isWhole (fun zero => ?_) isDigits spells ends
      by_contra longer
      exact unpadded ⟨zero, longer⟩

theorem takes_number_iff {negative : Bool} {n : Number} :
    Takes (number negative s) n rest ↔
      ∃ numeral', Takes (numeral negative s) numeral' rest ∧ numeral'.number? = some n := by
  constructor
  · rintro ⟨_, ran⟩
    obtain ⟨read, numeralRead, ran⟩ := bind_eq_ok_iff.1 ran
    split at ran
    · rename_i decoded
      cases ran
      exact ⟨read.item, ⟨read.shorter, numeralRead⟩, decoded⟩
    · cases ran
  · rintro ⟨numeral', ⟨shorter, numeralRead⟩, decoded⟩
    refine ⟨shorter, bind_eq_ok_iff.2 ⟨_, numeralRead, ?_⟩⟩
    dsimp only
    rw [decoded]

theorem isLocal_number (negative : Bool) : IsLocal EndsNumeral (number negative) := by
  intro s n rest takes
  obtain ⟨numeral', takes, decoded⟩ := takes_number_iff.1 takes
  obtain ⟨text, split, reads⟩ := isLocal_numeral negative takes
  exact ⟨text, split, fun rest ends => takes_number_iff.2 ⟨numeral', reads rest ends, decoded⟩⟩

end

/-! ## Strings -/

section

variable {n : Nat}

theorem isLocal_hexUnit : IsLocal Anything hexUnit := by
  rintro s n rest ⟨_, ran⟩
  unfold hexUnit at ran
  split at ran
  · rename_i a b c d behind _
    split at ran
    · rename_i decoded
      cases ran
      refine ⟨[some a, some b, some c, some d], rfl, fun rest _ => ?_⟩
      unfold hexUnit
      simp only [List.cons_append, List.nil_append, decoded]
      exact ⟨_, rfl⟩
    · cases ran
  · cases ran

theorem takes_lowSurrogate_iff : Takes (lowSurrogate s) n rest ↔
    ∃ behind, s = some '\\' :: some 'u' :: behind ∧ Takes (hexUnit behind) n rest ∧
      isLowSurrogate n = true := by
  constructor
  · rintro ⟨_, ran⟩
    unfold lowSurrogate at ran
    split at ran
    · cases ran
    · cases ran
    · rename_i behind _
      obtain ⟨unit, unitRead, ran⟩ := bind_eq_ok_iff.1 ran
      split at ran
      · rename_i isLow
        cases ran
        exact ⟨behind, rfl, ⟨unit.shorter, unitRead⟩, isLow⟩
      · cases ran
    · cases ran
  · rintro ⟨behind, rfl, ⟨_, unitRead⟩, isLow⟩
    exact ⟨_, bind_eq_ok_iff.2 ⟨_, unitRead, if_pos isLow⟩⟩

/-- A numeric escape is one unit, or the two of a surrogate pair. -/
theorem takes_numericEscape_iff : Takes (numericEscape s) c rest ↔
    ∃ unit left, Takes (hexUnit s) unit left ∧ ¬ isLowSurrogate unit = true ∧
      ((isHighSurrogate unit = true ∧
          ∃ low, Takes (lowSurrogate left) low rest ∧ pairedChar unit low = c) ∨
        (¬ isHighSurrogate unit = true ∧ left = rest ∧ Char.ofNat unit = c)) := by
  constructor
  · rintro ⟨_, ran⟩
    obtain ⟨unit, unitRead, ran⟩ := bind_eq_ok_iff.1 ran
    refine ⟨unit.item, unit.rest, ⟨unit.shorter, unitRead⟩, ?_⟩
    split at ran
    · cases ran
    · rename_i noLow
      refine ⟨noLow, ?_⟩
      split at ran
      · rename_i isHigh
        obtain ⟨low, lowRead, joined⟩ := bind_eq_ok_iff.1 ran
        rw [Except.ok.injEq, Read.join, Read.mk.injEq] at joined
        obtain ⟨rfl, rfl⟩ := joined
        exact .inl ⟨isHigh, low.item, ⟨low.shorter, lowRead⟩, rfl⟩
      · rename_i noHigh
        cases ran
        exact .inr ⟨noHigh, rfl, rfl⟩
  · rintro ⟨unit, left, ⟨_, unitRead⟩, noLow, ⟨isHigh, low, ⟨_, lowRead⟩, rfl⟩ |
      ⟨noHigh, rfl, rfl⟩⟩
    · exact ⟨_, bind_eq_ok_iff.2 ⟨_, unitRead, (if_neg noLow).trans
        ((if_pos isHigh).trans (bind_eq_ok_iff.2 ⟨_, lowRead, rfl⟩))⟩⟩
    · exact ⟨_, bind_eq_ok_iff.2 ⟨_, unitRead, (if_neg noLow).trans (if_neg noHigh)⟩⟩

theorem takes_escape_iff : Takes (escape s) c rest ↔
    (∃ behind, s = some 'u' :: behind ∧ Takes (numericEscape behind) c rest) ∨
      ∃ letter, s = some letter :: rest ∧ shortEscape? letter = some c := by
  constructor
  · rintro ⟨_, ran⟩
    unfold escape at ran
    split at ran
    · cases ran
    · rename_i behind _
      obtain ⟨read, numericRead, ⟨⟩⟩ := map_eq_ok_iff.1 ran
      exact .inl ⟨behind, rfl, read.shorter, numericRead⟩
    · rename_i letter behind other _
      split at ran
      · rename_i meant short
        cases ran
        exact .inr ⟨letter, rfl, short⟩
      · cases ran
    · cases ran
  · rintro (⟨behind, rfl, ⟨_, numericRead⟩⟩ | ⟨letter, rfl, short⟩)
    · exact ⟨_, map_eq_ok_iff.2 ⟨_, numericRead, rfl⟩⟩
    · refine ⟨Nat.lt_succ_self _, ?_⟩
      rw [escape]
      · rw [short]
        rfl
      · rintro ⟨⟩
        cases short

theorem isLocal_lowSurrogate : IsLocal Anything lowSurrogate := by
  intro s n rest takes
  obtain ⟨behind, rfl, unit, isLow⟩ := takes_lowSurrogate_iff.1 takes
  obtain ⟨text, rfl, reads⟩ := isLocal_hexUnit unit
  exact ⟨some '\\' :: some 'u' :: text, rfl, fun rest _ =>
    takes_lowSurrogate_iff.2 ⟨_, rfl, reads rest trivial, isLow⟩⟩

theorem isLocal_numericEscape : IsLocal Anything numericEscape := by
  intro s c rest takes
  obtain ⟨unit, left, unitTaken, noLow, ⟨isHigh, low, lowTaken, rfl⟩ | ⟨noHigh, rfl, rfl⟩⟩ :=
    takes_numericEscape_iff.1 takes
  · obtain ⟨text, rfl, reads⟩ := isLocal_hexUnit unitTaken
    obtain ⟨text', rfl, reads'⟩ := isLocal_lowSurrogate lowTaken
    refine ⟨text ++ text', (List.append_assoc _ _ _).symm, fun rest _ => ?_⟩
    rw [List.append_assoc]
    exact takes_numericEscape_iff.2 ⟨unit, _, reads _ trivial, noLow,
      .inl ⟨isHigh, low, reads' rest trivial, rfl⟩⟩
  · obtain ⟨text, rfl, reads⟩ := isLocal_hexUnit unitTaken
    exact ⟨text, rfl, fun rest _ => takes_numericEscape_iff.2
      ⟨unit, rest, reads rest trivial, noLow, .inr ⟨noHigh, rfl, rfl⟩⟩⟩

theorem isLocal_escape : IsLocal Anything escape := by
  intro s c rest takes
  rcases takes_escape_iff.1 takes with ⟨behind, rfl, numeric⟩ | ⟨letter, rfl, short⟩
  · obtain ⟨text, rfl, reads⟩ := isLocal_numericEscape numeric
    exact ⟨some 'u' :: text, rfl, fun rest _ =>
      takes_escape_iff.2 (.inl ⟨_, rfl, reads rest trivial⟩)⟩
  · exact ⟨[some letter], rfl, fun rest _ => takes_escape_iff.2 (.inr ⟨letter, rfl, short⟩)⟩

/-- One symbol of a string, or an escape, and what it stands for. -/
theorem takes_stringSymbols_iff {symbols : List Symbol} : Takes (stringSymbols s) symbols rest ↔
    (s = some '"' :: rest ∧ symbols = []) ∨
    (∃ behind c left others, s = some '\\' :: behind ∧ Takes (escape behind) c left ∧
      Takes (stringSymbols left) others rest ∧ symbols = some c :: others) ∨
    ∃ symbol behind others, s = symbol :: behind ∧ symbol ≠ some '"' ∧ symbol ≠ some '\\' ∧
      isRawControl symbol = false ∧ Takes (stringSymbols behind) others rest ∧
      symbols = symbol :: others := by
  constructor
  · rintro ⟨_, ran⟩
    rw [stringSymbols.eq_def] at ran
    split at ran
    · cases ran
    · cases ran
      exact .inl ⟨rfl, rfl⟩
    · rename_i behind _
      obtain ⟨escaped, escapeRead, ran⟩ := bind_eq_ok_iff.1 ran
      obtain ⟨tail, tailRead, ⟨⟩⟩ := bind_eq_ok_iff.1 ran
      exact .inr (.inl ⟨behind, escaped.item, escaped.rest, tail.item, rfl,
        ⟨escaped.shorter, escapeRead⟩, ⟨tail.shorter, tailRead⟩, rfl⟩)
    · rename_i symbol behind noQuote noEscape _
      split at ran
      · cases ran
      · rename_i noControl
        obtain ⟨tail, tailRead, ⟨⟩⟩ := map_eq_ok_iff.1 ran
        exact .inr (.inr ⟨symbol, behind, tail.item, rfl, noQuote, noEscape,
          Bool.eq_false_iff.2 noControl, ⟨tail.shorter, tailRead⟩, rfl⟩)
  · rintro (⟨rfl, rfl⟩ | ⟨behind, c, left, others, rfl, ⟨_, escapeRead⟩, ⟨_, tailRead⟩, rfl⟩ |
      ⟨symbol, behind, others, rfl, noQuote, noEscape, noControl, ⟨_, tailRead⟩, rfl⟩)
    · rw [stringSymbols]
      exact ⟨_, rfl⟩
    · rw [stringSymbols]
      exact ⟨_, bind_eq_ok_iff.2 ⟨_, escapeRead, bind_eq_ok_iff.2 ⟨_, tailRead, rfl⟩⟩⟩
    · rw [stringSymbols]
      · rw [if_neg (Bool.eq_false_iff.1 noControl)]
        exact ⟨_, map_eq_ok_iff.2 ⟨_, tailRead, rfl⟩⟩
      · exact fun same => noQuote same
      · exact fun same => noEscape same

theorem isLocal_stringSymbols : IsLocal Anything stringSymbols := by
  intro s symbols rest takes
  induction size : s.length using Nat.strong_induction_on generalizing s symbols with
  | h size ih =>
    subst size
    rcases takes_stringSymbols_iff.1 takes with ⟨rfl, rfl⟩ |
      ⟨behind, c, left, others, rfl, escaped, tail, rfl⟩ |
      ⟨symbol, behind, others, rfl, noQuote, noEscape, noControl, tail, rfl⟩
    · exact ⟨[some '"'], rfl, fun rest _ => takes_stringSymbols_iff.2 (.inl ⟨rfl, rfl⟩)⟩
    · have shorter : left.length < (some '\\' :: behind).length :=
        Nat.lt_succ_of_lt escaped.choose
      obtain ⟨text, rfl, escapes⟩ := isLocal_escape escaped
      obtain ⟨text', rfl, reads⟩ := ih _ shorter tail rfl
      refine ⟨some '\\' :: (text ++ text'), ?_, fun rest _ => ?_⟩
      · rw [List.cons_append, List.append_assoc]
      · rw [List.cons_append, List.append_assoc]
        exact takes_stringSymbols_iff.2 (.inr (.inl ⟨_, c, _, others, rfl,
          escapes (text' ++ rest) trivial, reads rest trivial, rfl⟩))
    · obtain ⟨text, rfl, reads⟩ := ih _ (Nat.lt_succ_self _) tail rfl
      exact ⟨symbol :: text, rfl, fun rest _ => takes_stringSymbols_iff.2 (.inr (.inr ⟨symbol, _,
        others, rfl, noQuote, noEscape, noControl, reads rest trivial, rfl⟩))⟩

theorem takes_string_iff {name : String} : Takes (string s) name rest ↔
    ∃ symbols chars, Takes (stringSymbols s) symbols rest ∧
      Symbol.characters? symbols = some chars ∧ String.ofList chars = name := by
  constructor
  · rintro ⟨_, ran⟩
    obtain ⟨read, symbolsRead, ran⟩ := bind_eq_ok_iff.1 ran
    split at ran
    · rename_i chars decoded
      cases ran
      exact ⟨read.item, chars, ⟨read.shorter, symbolsRead⟩, decoded, rfl⟩
    · cases ran
  · rintro ⟨symbols, chars, ⟨shorter, symbolsRead⟩, decoded, rfl⟩
    refine ⟨shorter, bind_eq_ok_iff.2 ⟨_, symbolsRead, ?_⟩⟩
    dsimp only
    rw [decoded]

/-- A string is read up to its closing quote, whatever follows. -/
theorem isLocal_string : IsLocal Anything string := by
  intro s name rest takes
  obtain ⟨symbols, chars, symbolsTaken, decoded, rfl⟩ := takes_string_iff.1 takes
  obtain ⟨text, split, reads⟩ := isLocal_stringSymbols symbolsTaken
  exact ⟨text, split, fun rest _ =>
    takes_string_iff.2 ⟨symbols, chars, reads rest trivial, decoded, rfl⟩⟩

end

end EvidenceTree.Json
