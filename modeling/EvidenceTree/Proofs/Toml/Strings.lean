import EvidenceTree.Toml.Printer
import Mathlib.Tactic.ByContra

/-!
# TOML strings that are read back

A string is written in one of five forms, chosen by what its text holds. In each form the quotes
that close it are the first that a reader can take for closing ones: a quote of the text is escaped,
or is of the other kind, or stands beside too few of its kind. So a reader finds the text again,
whatever its characters.

* `Toml.Written`: how one character stands between double quotes.
* `Toml.basicLines?_escapedLines`: between three double quotes, up to two quotes of the text may
  stand right in front of the closing ones.
* `Toml.string?_write_of`: a text is read back from the form that it is written in.
-/

namespace EvidenceTree.Toml

open Text (Read Rest hexDigit?)

variable {α β : Type} {c mark quote : Char} {cs s t text rest : List Char}

/-- What a reader takes from the front, and what it leaves. -/
def Takes (run : Option (Read α s)) (item : α) (rest : List Char) : Prop :=
  ∃ shorter, run = some ⟨item, rest, shorter⟩

theorem Takes.of_eq {run : Option (Read α s)} {item : α} {read : Read α s} (is : run = some read)
    (same : read.item = item) (kept : read.rest = rest) : Takes run item rest := by
  subst is same kept
  exact ⟨read.shorter, rfl⟩

theorem Takes.map {run : Option (Read α s)} {item : α} {f : Read α s → Read β t} {g : α → β}
    (takes : Takes run item rest) (made : ∀ read, (f read).item = g read.item)
    (left : ∀ read, (f read).rest = read.rest) : Takes (run.map f) (g item) rest := by
  obtain ⟨shorter, rfl⟩ := takes
  exact .of_eq rfl (made _) (left _)

/-! ## Escapes -/

/-- The digits of a control character's escape. -/
def controlDigits (c : Char) : List Char :=
  ['0', '0', upperDigit (c.toNat / 16), upperDigit (c.toNat % 16)]

theorem hexDigit?_upperDigit : ∀ n < 16, hexDigit? (upperDigit n) = some n := by decide

theorem toNat_lt_of_isControl (control : isControl c = true) : c.toNat < 256 := by
  simp only [isControl, isGraphic, Bool.and_eq_true, Bool.not_eq_true', Bool.or_eq_false_iff,
    Bool.and_eq_false_iff, decide_eq_false_iff_not] at control
  omega

theorem escape?_controlDigits (control : isControl c = true) (rest : List Char) :
    Takes (escape? ('u' :: controlDigits c ++ rest)) c rest := by
  have small := toNat_lt_of_isControl control
  have high := hexDigit?_upperDigit (c.toNat / 16) (by omega)
  have low := hexDigit?_upperDigit (c.toNat % 16) (by omega)
  have code : c.toNat / 16 * 16 + c.toNat % 16 = c.toNat := Nat.div_add_mod' _ _
  have zero : hexDigit? '0' = some 0 := rfl
  have number : hexNumber? 4 0 (controlDigits c ++ rest) =
      some (c.toNat, ⟨rest, by simp [controlDigits]; omega⟩) := by
    simp [controlDigits, hexNumber?, zero, high, low, code, Rest.behind, Rest.all]
  have valid : charOf? c.toNat = some c := by
    have isValid : c.toNat.isValidChar := c.valid
    unfold charOf?
    rw [if_pos isValid, Char.ofNat_toNat]
  refine ⟨by simp [controlDigits]; omega, ?_⟩
  change (hexNumber? 4 0 (controlDigits c ++ rest)).bind _ = _
  rw [number, Option.bind_some]
  change (charOf? c.toNat).bind _ = _
  rw [valid]
  rfl

/-- How a character may stand between double quotes: as it is, or as a backslash with what stands
for the character. -/
inductive Written (c : Char) : List Char → Prop
  | plain : isBasicChar c = true → Written c [c]
  | escaped {mark : Char} {cs : List Char} : isBlank mark = false → mark ≠ '\n' → mark ≠ '\r' →
      (∀ rest, Takes (escape? (mark :: cs ++ rest)) c rest) → Written c ('\\' :: mark :: cs)

theorem Written.short (meant : shortEscape? mark = some c) (noCount : escapeDigits? mark = none)
    (visible : isBlank mark = false ∧ mark ≠ '\n' ∧ mark ≠ '\r') : Written c ['\\', mark] := by
  refine .escaped visible.1 visible.2.1 visible.2.2 fun rest => ⟨by simp, ?_⟩
  change escape? (mark :: rest) = _
  unfold escape?
  simp only [noCount, meant]
  rfl

theorem written_quote : Written '"' ['\\', '"'] := .short rfl rfl (by decide)

theorem written_newline : Written '\n' ['\\', 'n'] := .short rfl rfl (by decide)

theorem written_escapedChar (noQuote : c ≠ '"') (noLine : c ≠ '\n') :
    Written c (escapedChar c) := by
  unfold escapedChar
  by_cases backspace : c = '\x08'
  · subst backspace
    exact .short rfl rfl (by decide)
  by_cases tab : c = '\t'
  · subst tab
    exact .short rfl rfl (by decide)
  by_cases feed : c = '\x0c'
  · subst feed
    exact .short rfl rfl (by decide)
  by_cases carriage : c = '\r'
  · subst carriage
    exact .short rfl rfl (by decide)
  by_cases backslash : c = '\\'
  · subst backslash
    exact .short rfl rfl (by decide)
  rw [if_neg backspace, if_neg tab, if_neg feed, if_neg carriage, if_neg backslash]
  by_cases control : isControl c = true
  · rw [if_pos control]
    exact .escaped (by decide) (by decide) (by decide) (escape?_controlDigits control)
  · rw [if_neg control]
    have graphic : isGraphic c = true := by simpa [isControl, noLine] using control
    exact .plain (by simp [isBasicChar, graphic, noQuote, backslash])

theorem ne_of_isBasicChar (basic : isBasicChar c = true) :
    c ≠ '"' ∧ c ≠ '\\' ∧ c ≠ '\n' ∧ c ≠ '\r' := by
  refine ⟨?_, ?_, ?_, ?_⟩ <;>
  · rintro rfl
    cases basic

/-- What stands for a character starts with no quote and no new line. -/
theorem Written.head (written : Written c cs) :
    ∃ first behind, cs = first :: behind ∧ first ≠ '"' ∧ first ≠ '\n' ∧ first ≠ '\r' := by
  cases written with
  | plain basic =>
    obtain ⟨noQuote, -, noLine, noReturn⟩ := ne_of_isBasicChar basic
    exact ⟨c, [], rfl, noQuote, noLine, noReturn⟩
  | escaped => exact ⟨'\\', _, rfl, by decide⟩

/-! ## On one line -/

theorem basicTail?_quote (rest : List Char) : Takes (basicTail? ('"' :: rest)) [] rest := by
  refine ⟨Nat.lt_succ_self _, ?_⟩
  rw [basicTail?]
  rfl

theorem basicTail?_of_written (written : Written c cs) (takes : Takes (basicTail? s) text rest) :
    Takes (basicTail? (cs ++ s)) (c :: text) rest := by
  cases written with
  | plain basic =>
    obtain ⟨noQuote, noBackslash, -⟩ := ne_of_isBasicChar basic
    change Takes (basicTail? (c :: s)) (c :: text) rest
    rw [basicTail?, if_pos basic]
    · exact takes.map (fun _ => rfl) fun _ => rfl
    · exact noQuote
    · exact noBackslash
  | @escaped mark cs _ _ _ reads =>
    obtain ⟨_, escaped⟩ := reads s
    obtain ⟨shorter, tail⟩ := takes
    change Takes (basicTail? ('\\' :: (mark :: cs ++ s))) (c :: text) rest
    rw [basicTail?, escaped]
    dsimp only [Option.bind_eq_bind, Option.bind_some]
    rw [tail]
    exact ⟨_, rfl⟩

theorem basicTail?_escapedLine (text rest : List Char) :
    Takes (basicTail? (escapedLine text ++ '"' :: rest)) text rest := by
  induction text with
  | nil => exact basicTail?_quote rest
  | cons c text ih =>
    rw [escapedLine, List.append_assoc]
    refine basicTail?_of_written ?_ ih
    split
    · rename_i same
      exact same ▸ written_quote
    · split
      · rename_i same
        exact same ▸ written_newline
      · exact written_escapedChar ‹_› ‹_›

theorem literalTail?_append (plain : ∀ c ∈ text, isLiteralChar c = true) (rest : List Char) :
    Takes (literalTail? (text ++ '\'' :: rest)) text rest := by
  induction text with
  | nil => exact ⟨Nat.lt_succ_self _, rfl⟩
  | cons c text ih =>
    obtain ⟨isPlain, plain⟩ := List.forall_mem_cons.1 plain
    have apart : c ≠ '\'' := by
      rintro rfl
      cases isPlain
    change Takes (literalTail? (c :: (text ++ '\'' :: rest))) (c :: text) rest
    rw [literalTail?, if_neg apart, if_pos isPlain]
    exact (ih plain).map (fun _ => rfl) fun _ => rfl

/-! ## Closing quotes -/

/-- Three quotes in front are all that a reader goes by. -/
theorem closing?_eq_none {a b : Char} (apart : ¬ (a = quote ∧ b = quote ∧ c = quote)) :
    closing? quote (a :: b :: c :: s) = none := if_neg apart

theorem closing?_of_ne (apart : c ≠ quote) (s : List Char) : closing? quote (c :: s) = none := by
  rcases s with _ | ⟨a, _ | ⟨b, s⟩⟩
  · rfl
  · rfl
  · exact closing?_eq_none fun same => apart same.1

/-- Up to two quotes in front of the closing ones belong to the text. -/
theorem closing?_replicate {count : Nat} (few : count ≤ 2) (stop : rest.head? ≠ some quote) :
    Takes (closing? quote (List.replicate count quote ++ quote :: quote :: quote :: rest))
      (List.replicate count quote) rest := by
  have three : quote = quote ∧ quote = quote ∧ quote = quote := ⟨rfl, rfl, rfl⟩
  have head (d : Char) (behind : List Char) (isRest : rest = d :: behind) : d ≠ quote := by
    rintro rfl
    exact stop (isRest ▸ rfl)
  refine ⟨by simp; omega, ?_⟩
  match count with
  | 0 =>
    refine (if_pos three).trans ?_
    rcases rest with _ | ⟨d, _ | ⟨e, behind⟩⟩
    · rfl
    · exact if_neg (head d _ rfl)
    · have apart := head d _ rfl
      exact (if_neg fun same => apart same.1).trans (if_neg apart)
  | 1 =>
    refine (if_pos three).trans ?_
    rcases rest with _ | ⟨e, behind⟩
    · exact if_pos rfl
    · exact (if_neg fun same => head e _ rfl same.2).trans (if_pos rfl)
  | 2 =>
    refine (if_pos three).trans ?_
    exact if_pos ⟨rfl, rfl⟩

/-! ## Over several lines -/

theorem basicLines?_of_closing? (closed : Takes (closing? '"' s) text rest) :
    Takes (basicLines? s) text rest := by
  obtain ⟨shorter, closed⟩ := closed
  rw [basicLines?.eq_def, closed]
  exact ⟨shorter, rfl⟩

theorem basicLines?_newline (takes : Takes (basicLines? s) text rest) :
    Takes (basicLines? ('\n' :: s)) ('\n' :: text) rest := by
  have read : basicLines? ('\n' :: s) = (basicLines? s).map fun tail =>
      (Read.single ()).join tail fun _ chars => '\n' :: chars := by
    rw [basicLines?.eq_def, closing?_of_ne (by decide)]
    rfl
  rw [read]
  exact takes.map (fun _ => rfl) fun _ => rfl

theorem newline?_of_ne (noLine : c ≠ '\n') (noReturn : c ≠ '\r') (s : List Char) :
    newline? (c :: s) = none := by
  rw [newline?]
  · rintro rest ⟨⟩
    exact noLine rfl
  · rintro rest ⟨⟩
    exact noReturn rfl

/-- A character that is none of the four with a meaning stands for itself, and so does a quote in
front of which nothing closes. -/
theorem basicLines?_char (notClosing : closing? '"' (c :: s) = none)
    (isPlain : (isBasicChar c || c = '"') = true) (takes : Takes (basicLines? s) text rest) :
    Takes (basicLines? (c :: s)) (c :: text) rest := by
  have apart : c ≠ '\\' ∧ c ≠ '\n' ∧ c ≠ '\r' := by
    refine ⟨?_, ?_, ?_⟩ <;>
    · rintro rfl
      cases isPlain
  generalize written : c :: s = s' at notClosing ⊢
  rw [basicLines?.eq_def, notClosing]
  dsimp only
  split
  · cases written
  · cases written
    exact absurd rfl apart.1
  · cases written
    rw [newline?_of_ne apart.2.1 apart.2.2]
    dsimp only
    rw [if_pos isPlain]
    exact takes.map (fun _ => rfl) fun _ => rfl

theorem basicLines?_of_written (written : Written c cs) (takes : Takes (basicLines? s) text rest) :
    Takes (basicLines? (cs ++ s)) (c :: text) rest := by
  cases written with
  | plain basic =>
    have noQuote := (ne_of_isBasicChar basic).1
    exact basicLines?_char (closing?_of_ne noQuote s) (by rw [basic]; rfl) takes
  | @escaped mark cs visible noLine noReturn reads =>
    obtain ⟨_, escaped⟩ := reads s
    obtain ⟨shorter, tail⟩ := takes
    -- what follows the backslash is on its line, so no line is joined to the next
    have notJoined : lineEscape? (mark :: cs ++ s) = none := by
      have kept : (mark :: cs ++ s).dropWhile isBlank = mark :: cs ++ s :=
        List.dropWhile_cons_of_neg (by rw [visible]; exact Bool.false_ne_true)
      have noNewline : newline? ((mark :: cs ++ s).dropWhile isBlank) = none := by
        rw [kept]
        exact newline?_of_ne noLine noReturn _
      unfold lineEscape?
      rw [noNewline]
      rfl
    change Takes (basicLines? ('\\' :: (mark :: cs ++ s))) (c :: text) rest
    have notClosing := closing?_of_ne (by decide : '\\' ≠ '"') (mark :: cs ++ s)
    generalize written : '\\' :: (mark :: cs ++ s) = s' at notClosing ⊢
    rw [basicLines?.eq_def, notClosing]
    dsimp only
    split
    · cases written
    · cases written
      rw [notJoined]
      dsimp only
      rw [escaped]
      dsimp only [Option.bind_eq_bind, Option.bind_some]
      rw [tail]
      exact ⟨_, rfl⟩
    · rename_i other
      cases written
      exact absurd rfl other

/-- What a character is written as starts with no quote, but for a quote behind less than two. -/
theorem escapedLines_cons_ne {quotes : Nat} (noBareQuote : c = '"' → 2 ≤ quotes)
    (text : List Char) :
    ∃ first behind, escapedLines quotes (c :: text) = first :: behind ∧ first ≠ '"' := by
  rw [escapedLines]
  by_cases isQuote : c = '"'
  · rw [if_pos isQuote, if_neg (Nat.not_lt.2 (noBareQuote isQuote))]
    exact ⟨_, _, rfl, by decide⟩
  · rw [if_neg isQuote]
    have starts : ∃ first behind, escapedChar c = first :: behind ∧ first ≠ '"' := by
      by_cases isLine : c = '\n'
      · exact ⟨'\n', [], by rw [isLine]; rfl, by decide⟩
      · obtain ⟨first, behind, starts, apart, -⟩ := (written_escapedChar isQuote isLine).head
        exact ⟨first, behind, starts, apart⟩
    obtain ⟨first, behind, starts, apart⟩ := starts
    exact ⟨first, behind ++ escapedLines 0 text, by rw [starts]; rfl, apart⟩

/-- The first quotes that a reader can take for closing ones are those that close. -/
theorem closing?_escapedLines {quotes : Nat} (few : quotes ≤ 2) (text : List Char)
    (stop : rest.head? ≠ some '"') :
    closing? '"' (escapedLines quotes text ++ '"' :: '"' :: '"' :: rest) = none ∨
      Takes (closing? '"' (escapedLines quotes text ++ '"' :: '"' :: '"' :: rest)) text rest := by
  have bare (quotes : Nat) (text : List Char) (below : quotes < 2) :
      escapedLines quotes ('"' :: text) = '"' :: escapedLines (quotes + 1) text := by
    rw [escapedLines, if_pos rfl, if_pos below]
  have other (quotes : Nat) (c : Char) (text : List Char) (noBareQuote : c = '"' → 2 ≤ quotes) :
      ∃ first behind, escapedLines quotes (c :: text) ++ '"' :: '"' :: '"' :: rest =
        first :: behind ∧ first ≠ '"' := by
    obtain ⟨first, behind, starts, apart⟩ := escapedLines_cons_ne noBareQuote text
    exact ⟨first, _, by rw [starts, List.cons_append], apart⟩
  -- up to two bare quotes stand in a row, so two characters of the text settle what the third is
  match text with
  | [] => exact .inr (closing?_replicate (Nat.zero_le 2) stop)
  | c :: text =>
    by_cases isBare : c = '"' ∧ quotes < 2
    · obtain ⟨rfl, below⟩ := isBare
      rw [bare quotes text below, List.cons_append]
      match text with
      | [] => exact .inr (closing?_replicate (by decide : 1 ≤ 2) stop)
      | d :: text =>
        by_cases isBare : d = '"' ∧ quotes + 1 < 2
        · obtain ⟨rfl, below⟩ := isBare
          rw [bare (quotes + 1) text below, List.cons_append]
          match text with
          | [] => exact .inr (closing?_replicate (Nat.le_refl 2) stop)
          | e :: text =>
            obtain ⟨first, behind, starts, apart⟩ :=
              other (quotes + 1 + 1) e text fun _ => by omega
            rw [starts]
            exact .inl (closing?_eq_none fun same => apart same.2.2)
        · obtain ⟨first, behind, starts, apart⟩ :=
            other (quotes + 1) d text fun isQuote => by
              by_contra below
              exact isBare ⟨isQuote, by omega⟩
          rw [starts]
          refine .inl ?_
          cases behind with
          | nil => rfl
          | cons second behind => exact closing?_eq_none fun same => apart same.2.1
    · obtain ⟨first, behind, starts, apart⟩ := other quotes c text fun isQuote => by
        by_contra below
        exact isBare ⟨isQuote, by omega⟩
      rw [starts]
      exact .inl (closing?_of_ne apart behind)

theorem basicLines?_escapedLines {quotes : Nat} (few : quotes ≤ 2) (text : List Char)
    (stop : rest.head? ≠ some '"') :
    Takes (basicLines? (escapedLines quotes text ++ '"' :: '"' :: '"' :: rest)) text rest := by
  induction text generalizing quotes with
  | nil => exact basicLines?_of_closing? (closing?_replicate (Nat.zero_le 2) stop)
  | cons c text ih =>
    rcases closing?_escapedLines few (c :: text) stop with notClosing | closed
    · rw [escapedLines] at notClosing ⊢
      by_cases isQuote : c = '"'
      · subst isQuote
        rw [if_pos rfl] at notClosing ⊢
        by_cases below : quotes < 2
        · rw [if_pos below] at notClosing ⊢
          exact basicLines?_char notClosing rfl (ih below)
        · have escaped := basicLines?_of_written written_quote (ih (Nat.zero_le 2))
          rw [if_neg below]
          exact escaped
      · rw [if_neg isQuote, List.append_assoc]
        by_cases isLine : c = '\n'
        · subst isLine
          exact basicLines?_newline (ih (Nat.zero_le 2))
        · exact basicLines?_of_written (written_escapedChar isQuote isLine) (ih (Nat.zero_le 2))
    · exact basicLines?_of_closing? closed

/-! ## Several lines as they stand -/

theorem closing?_append (few : hasThree '\'' text = false) (stop : rest.head? ≠ some '\'') :
    closing? '\'' (text ++ '\'' :: '\'' :: '\'' :: rest) = none ∨
      Takes (closing? '\'' (text ++ '\'' :: '\'' :: '\'' :: rest)) text rest := by
  match text with
  | [] => exact .inr (closing?_replicate (Nat.zero_le 2) stop)
  | [c] =>
    by_cases isQuote : c = '\''
    · subst isQuote
      exact .inr (closing?_replicate (by decide : 1 ≤ 2) stop)
    · exact .inl (closing?_of_ne isQuote _)
  | [c, d] =>
    by_cases areQuotes : c = '\'' ∧ d = '\''
    · obtain ⟨rfl, rfl⟩ := areQuotes
      exact .inr (closing?_replicate (Nat.le_refl 2) stop)
    · exact .inl (closing?_eq_none fun same => areQuotes ⟨same.1, same.2.1⟩)
  | c :: d :: e :: text =>
    refine .inl (closing?_eq_none fun same => ?_)
    obtain ⟨rfl, rfl, rfl⟩ := same
    cases few

theorem hasThree_tail (few : hasThree quote (c :: text) = false) : hasThree quote text = false := by
  rcases text with _ | ⟨d, _ | ⟨e, text⟩⟩
  · rfl
  · rfl
  · exact (Bool.or_eq_false_iff.1 few).2

theorem literalLines?_append (plain : ∀ c ∈ text, isControl c = false)
    (few : hasThree '\'' text = false) (stop : rest.head? ≠ some '\'') :
    Takes (literalLines? (text ++ '\'' :: '\'' :: '\'' :: rest)) text rest := by
  have closes {text : List Char}
      (closed : Takes (closing? '\'' (text ++ '\'' :: '\'' :: '\'' :: rest)) text rest) :
      Takes (literalLines? (text ++ '\'' :: '\'' :: '\'' :: rest)) text rest := by
    obtain ⟨shorter, closed⟩ := closed
    rw [literalLines?.eq_def, closed]
    exact ⟨shorter, rfl⟩
  induction text with
  | nil => exact closes (closing?_replicate (Nat.zero_le 2) stop)
  | cons c text ih =>
    rcases closing?_append few stop with notClosing | closed
    · obtain ⟨noControl, plain⟩ := List.forall_mem_cons.1 plain
      have tail := ih plain (hasThree_tail few)
      rw [List.cons_append] at notClosing ⊢
      rw [literalLines?.eq_def, notClosing]
      dsimp only
      by_cases isLine : c = '\n'
      · subst isLine
        exact tail.map (fun _ => rfl) fun _ => rfl
      · have graphic : isGraphic c = true := by simpa [isControl, isLine] using noControl
        have noReturn : c ≠ '\r' := by
          rintro rfl
          cases graphic
        rw [newline?_of_ne isLine noReturn]
        dsimp only
        rw [if_pos graphic]
        exact tail.map (fun _ => rfl) fun _ => rfl
    · exact closes closed

/-! ## All forms -/

/-- What opens a string on one line does not open one over several lines. -/
theorem string?_of_line (isQuote : quote = '"' ∨ quote = '\'')
    (single : ∀ behind, s ≠ quote :: quote :: behind) :
    string? (quote :: s) = lineString? (quote :: s) := by
  rcases isQuote with rfl | rfl
  · rw [string?]
    · rintro behind ⟨⟩
      exact single _ rfl
    · nofun
  · rw [string?]
    · nofun
    · rintro behind ⟨⟩
      exact single _ rfl

/-- A text and what closes it do not start with two quotes, where the text starts with none. -/
theorem append_ne_of_head_ne (noQuote : text.head? ≠ some quote) (stop : rest.head? ≠ some quote)
    (behind : List Char) : text ++ quote :: rest ≠ quote :: quote :: behind := by
  intro same
  cases text with
  | nil =>
    cases same
    exact stop rfl
  | cons c text =>
    rw [List.cons_append] at same
    exact noQuote (congrArg some (List.cons.inj same).1)

/-- What a text has to be for a form to hold it. -/
def StringForm.Holds (text : List Char) : StringForm → Prop
  | basic | basicLines => True
  | literal => ∀ c ∈ text, isLiteralChar c = true
  | literalLines => (∀ c ∈ text, isControl c = false) ∧ hasThree '\'' text = false

theorem StringForm.holds_of (text : List Char) : (StringForm.of text).Holds text := by
  unfold StringForm.of
  dsimp only
  split
  · trivial
  split
  · rename_i plain
    simp only [Bool.and_eq_true, Bool.not_eq_true', List.any_eq_false, List.contains_eq_mem,
      decide_eq_false_iff_not] at plain
    intro c isChar
    have noControl := plain.1.1 c isChar
    have noQuote : c ≠ '\'' := fun same => plain.1.2 (same ▸ isChar)
    have noLine : c ≠ '\n' := fun same => plain.2 (same ▸ isChar)
    simp only [isControl, noLine, ne_eq, not_false_eq_true, decide_true, Bool.and_true,
      Bool.not_eq_true', Bool.not_eq_false] at noControl
    simp [isLiteralChar, noControl, noQuote]
  split
  · trivial
  split
  · rename_i plain
    simp only [Bool.and_eq_true, Bool.not_eq_true', List.any_eq_false, Bool.not_eq_true] at plain
    exact plain
  split <;> trivial

/-- A new line in front is taken away where one is put in front, and none elsewhere. -/
theorem dropNewline_openingLine {body : List Char}
    (starts : '\n' ∉ text → newline? body = none) :
    (dropNewline (openingLine text ++ body)).1 = body := by
  unfold openingLine
  by_cases isLine : text.contains '\n' = true
  · rw [if_pos isLine]
    rfl
  · rw [if_neg isLine, List.nil_append]
    unfold dropNewline
    rw [starts (by simpa using isLine)]
    rfl

theorem newline?_escapedLines (noLine : '\n' ∉ text) (rest : List Char) :
    newline? (escapedLines 0 text ++ '"' :: rest) = none := by
  cases text with
  | nil => exact newline?_of_ne (by decide) (by decide) rest
  | cons c text =>
    have isNoLine : c ≠ '\n' := fun same => noLine (same ▸ List.mem_cons_self)
    rw [escapedLines]
    by_cases isQuote : c = '"'
    · rw [if_pos isQuote]
      exact newline?_of_ne (by decide) (by decide) _
    · obtain ⟨first, behind, starts, -, isNoLine', noReturn⟩ :=
        (written_escapedChar isQuote isNoLine).head
      rw [if_neg isQuote, starts]
      exact newline?_of_ne isNoLine' noReturn _

/-- Between two quotes a text starts with no quote, unless it is empty. -/
theorem head?_escapedLine_ne (text : List Char) : (escapedLine text).head? ≠ some '"' := by
  cases text with
  | nil => nofun
  | cons c text =>
    rw [escapedLine]
    by_cases isQuote : c = '"'
    · rw [if_pos isQuote]
      nofun
    · by_cases isLine : c = '\n'
      · rw [if_neg isQuote, if_pos isLine]
        nofun
      · obtain ⟨first, behind, starts, apart, -⟩ := (written_escapedChar isQuote isLine).head
        rw [if_neg isQuote, if_neg isLine, starts]
        exact fun isHead => apart (Option.some.inj isHead)

theorem newline?_literalLines (plain : ∀ c ∈ text, isControl c = false) (noLine : '\n' ∉ text)
    (rest : List Char) : newline? (text ++ '\'' :: rest) = none := by
  cases text with
  | nil => exact newline?_of_ne (by decide) (by decide) rest
  | cons c text =>
    refine newline?_of_ne (fun same => noLine (same ▸ List.mem_cons_self)) ?_ _
    rintro rfl
    cases plain '\r' List.mem_cons_self

theorem StringForm.exists_write_eq_cons (text : List Char) (form : StringForm) :
    ∃ quote written, form.write text = quote :: written ∧ (quote = '"' ∨ quote = '\'') := by
  cases form with
  | basic => exact ⟨_, _, rfl, .inl rfl⟩
  | literal => exact ⟨_, _, rfl, .inr rfl⟩
  | basicLines => exact ⟨_, _, rfl, .inl rfl⟩
  | literalLines => exact ⟨_, _, rfl, .inr rfl⟩

/-- A text is read back from a form that holds it, where no further quote follows. -/
theorem string?_write {form : StringForm} (holds : form.Holds text)
    (stop : rest.head? ≠ some '"' ∧ rest.head? ≠ some '\'') :
    Takes (string? (form.write text ++ rest)) (String.ofList text) rest := by
  cases form with
  | basic =>
    have flat : StringForm.basic.write text ++ rest =
        '"' :: (escapedLine text ++ '"' :: rest) := by simp [StringForm.write]
    rw [flat, string?_of_line (.inl rfl) (append_ne_of_head_ne (head?_escapedLine_ne text) stop.1)]
    exact (basicTail?_escapedLine text rest).map (fun _ => rfl) fun _ => rfl
  | literal =>
    have noQuote : text.head? ≠ some '\'' := by
      intro isHead
      cases holds '\'' (List.mem_of_mem_head? isHead)
    have flat : StringForm.literal.write text ++ rest = '\'' :: (text ++ '\'' :: rest) := by
      simp [StringForm.write]
    rw [flat, string?_of_line (.inr rfl) (append_ne_of_head_ne noQuote stop.2)]
    exact (literalTail?_append holds rest).map (fun _ => rfl) fun _ => rfl
  | basicLines =>
    have flat : StringForm.basicLines.write text ++ rest = '"' :: '"' :: '"' ::
        (openingLine text ++ (escapedLines 0 text ++ '"' :: '"' :: '"' :: rest)) := by
      simp [StringForm.write]
    have dropped := @dropNewline_openingLine text _ fun noLine =>
      newline?_escapedLines noLine ('"' :: '"' :: rest)
    have reads := basicLines?_escapedLines (Nat.zero_le 2) text stop.1
    rw [flat, string?]
    rw [← dropped] at reads
    exact reads.map (fun _ => rfl) fun _ => rfl
  | literalLines =>
    have flat : StringForm.literalLines.write text ++ rest = '\'' :: '\'' :: '\'' ::
        (openingLine text ++ (text ++ '\'' :: '\'' :: '\'' :: rest)) := by
      simp [StringForm.write]
    have dropped := @dropNewline_openingLine text _ fun noLine =>
      newline?_literalLines holds.1 noLine ('\'' :: '\'' :: rest)
    have reads := literalLines?_append holds.1 holds.2 stop.2
    rw [flat, string?]
    rw [← dropped] at reads
    exact reads.map (fun _ => rfl) fun _ => rfl

/-- A text is read back from the form that it is written in. -/
theorem string?_write_of (text : List Char)
    (stop : rest.head? ≠ some '"' ∧ rest.head? ≠ some '\'') :
    Takes (string? ((StringForm.of text).write text ++ rest)) (String.ofList text) rest :=
  string?_write (StringForm.holds_of text) stop

end EvidenceTree.Toml
