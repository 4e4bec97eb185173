import EvidenceTree.Json.Skip
import EvidenceTree.Proofs.Json.Parts

/-!
# What is passed over

The light check keeps a stack of the open brackets and nothing else. It looks at no more than a
value and the end of its last number, so what it passes over is a text of its own. And it passes
over every value that can be read, at any depth: a reader that is inside of as many brackets has
only to be followed.

* `Json.isLocal_skipValue`: what is passed over is a text of its own.
* `Json.skipValue_of_value`: every value that is read is passed over, to the same end.
-/

namespace EvidenceTree.Json

open Text (Read Rest Symbol)

variable {s rest left blank : List Symbol} {symbol : Symbol} {brackets brackets' : List Bracket}
  {fresh : Bool} {opened : Option Bracket}

/-! ## Strings and numbers -/

theorem takes_skipEscape_iff : Takes (skipEscape s) () rest ↔
    (∃ behind n, s = some 'u' :: behind ∧ Takes (hexUnit behind) n rest) ∨
      ∃ letter c, s = some letter :: rest ∧ shortEscape? letter = some c := by
  constructor
  · rintro ⟨_, ran⟩
    unfold skipEscape at ran
    split at ran
    · cases ran
    · rename_i behind _
      obtain ⟨unit, unitRead, ⟨⟩⟩ := map_eq_ok_iff.1 ran
      exact .inl ⟨behind, unit.item, rfl, unit.shorter, unitRead⟩
    · rename_i letter behind other _
      split at ran
      · rename_i isShort
        cases ran
        obtain ⟨c, short⟩ := Option.isSome_iff_exists.1 isShort
        exact .inr ⟨letter, c, rfl, short⟩
      · cases ran
    · cases ran
  · rintro (⟨behind, n, rfl, ⟨_, unitRead⟩⟩ | ⟨letter, c, rfl, short⟩)
    · exact ⟨_, map_eq_ok_iff.2 ⟨_, unitRead, rfl⟩⟩
    · refine ⟨Nat.lt_succ_self _, ?_⟩
      rw [skipEscape]
      · rw [short]
        rfl
      · rintro ⟨⟩
        cases short

theorem isLocal_skipEscape : IsLocal Anything skipEscape := by
  intro s _ rest takes
  rcases takes_skipEscape_iff.1 takes with ⟨behind, n, rfl, unit⟩ | ⟨letter, c, rfl, short⟩
  · obtain ⟨text, rfl, reads⟩ := isLocal_hexUnit unit
    exact ⟨some 'u' :: text, rfl, fun rest _ =>
      takes_skipEscape_iff.2 (.inl ⟨_, n, rfl, reads rest trivial⟩)⟩
  · exact ⟨[some letter], rfl, fun rest _ => takes_skipEscape_iff.2 (.inr ⟨letter, c, rfl, short⟩)⟩

/-- One symbol of a string, or an escape. -/
theorem takes_skipString_iff : Takes (skipString s) () rest ↔
    s = some '"' :: rest ∨
    (∃ behind left, s = some '\\' :: behind ∧ Takes (skipEscape behind) () left ∧
      Takes (skipString left) () rest) ∨
    ∃ symbol behind, s = symbol :: behind ∧ symbol ≠ some '"' ∧ symbol ≠ some '\\' ∧
      isRawControl symbol = false ∧ Takes (skipString behind) () rest := by
  constructor
  · rintro ⟨_, ran⟩
    rw [skipString.eq_def] at ran
    split at ran
    · cases ran
    · cases ran
      exact .inl rfl
    · rename_i behind _
      obtain ⟨escaped, escapeRead, mapped⟩ := bind_eq_ok_iff.1 ran
      obtain ⟨tail, tailRead, ⟨⟩⟩ := map_eq_ok_iff.1 mapped
      exact .inr (.inl ⟨behind, escaped.rest, rfl, ⟨escaped.shorter, escapeRead⟩, tail.shorter,
        tailRead⟩)
    · rename_i symbol behind noQuote noEscape _
      split at ran
      · cases ran
      · rename_i noControl
        obtain ⟨tail, tailRead, ⟨⟩⟩ := map_eq_ok_iff.1 ran
        exact .inr (.inr ⟨symbol, behind, rfl, noQuote, noEscape, Bool.eq_false_iff.2 noControl,
          tail.shorter, tailRead⟩)
  · rintro (rfl | ⟨behind, left, rfl, ⟨_, escapeRead⟩, ⟨_, tailRead⟩⟩ |
      ⟨symbol, behind, rfl, noQuote, noEscape, noControl, ⟨_, tailRead⟩⟩)
    · rw [skipString]
      exact ⟨_, rfl⟩
    · rw [skipString]
      exact ⟨_, bind_eq_ok_iff.2 ⟨_, escapeRead, map_eq_ok_iff.2 ⟨_, tailRead, rfl⟩⟩⟩
    · rw [skipString]
      · rw [if_neg (Bool.eq_false_iff.1 noControl)]
        exact ⟨_, map_eq_ok_iff.2 ⟨_, tailRead, rfl⟩⟩
      · exact fun same => noQuote same
      · exact fun same => noEscape same

theorem isLocal_skipString : IsLocal Anything skipString := by
  intro s _ rest takes
  induction size : s.length using Nat.strong_induction_on generalizing s with
  | h size ih =>
    subst size
    rcases takes_skipString_iff.1 takes with rfl | ⟨behind, left, rfl, escaped, tail⟩ |
      ⟨symbol, behind, rfl, noQuote, noEscape, noControl, tail⟩
    · exact ⟨[some '"'], rfl, fun rest _ => takes_skipString_iff.2 (.inl rfl)⟩
    · have shorter : left.length < (some '\\' :: behind).length :=
        Nat.lt_succ_of_lt escaped.choose
      obtain ⟨text, rfl, escapes⟩ := isLocal_skipEscape escaped
      obtain ⟨text', rfl, reads⟩ := ih _ shorter tail rfl
      refine ⟨some '\\' :: (text ++ text'), ?_, fun rest _ => ?_⟩
      · rw [List.cons_append, List.append_assoc]
      · rw [List.cons_append, List.append_assoc]
        exact takes_skipString_iff.2 (.inr (.inl ⟨_, _, rfl, escapes (text' ++ rest) trivial,
          reads rest trivial⟩))
    · obtain ⟨text, rfl, reads⟩ := ih _ (Nat.lt_succ_self _) tail rfl
      exact ⟨symbol :: text, rfl, fun rest _ => takes_skipString_iff.2 (.inr (.inr ⟨symbol, _,
        rfl, noQuote, noEscape, noControl, reads rest trivial⟩))⟩

theorem takes_skipNumber_iff :
    Takes (skipNumber s) () rest ↔ ∃ numeral', Takes (numeral false s) numeral' rest := by
  unfold skipNumber
  constructor
  · rintro ⟨_, ran⟩
    split at ran
    · rename_i read numeralRead
      cases ran
      exact ⟨read.item, read.shorter, numeralRead⟩
    · cases ran
  · rintro ⟨numeral', shorter, numeralRead⟩
    rw [numeralRead]
    exact ⟨shorter, rfl⟩

theorem isLocal_skipNumber : IsLocal EndsNumeral skipNumber := by
  intro s _ rest takes
  obtain ⟨numeral', takes⟩ := takes_skipNumber_iff.1 takes
  obtain ⟨text, split, reads⟩ := isLocal_numeral false takes
  exact ⟨text, split, fun rest ends => takes_skipNumber_iff.2 ⟨numeral', reads rest ends⟩⟩

/-! ## Names -/

theorem takes_skipName_iff : Takes (skipName s) () rest ↔
    ∃ behind left, Finds s (some '"') behind ∧ Takes (skipString behind) () left ∧
      Finds left (some ':') rest := by
  unfold skipName Finds
  constructor
  · rintro ⟨_, ran⟩
    split at ran
    · cases ran
    · rename_i behind shorter found
      obtain ⟨name, nameRead, ran⟩ := bind_eq_ok_iff.1 ran
      split at ran
      · cases ran
      · rename_i colon
        cases ran
        exact ⟨behind, name.rest, ⟨shorter, found⟩, ⟨name.shorter, nameRead⟩, _, colon⟩
      · cases ran
    · cases ran
  · rintro ⟨behind, left, ⟨shorter, found⟩, ⟨shorter', nameRead⟩, shorter'', colon⟩
    rw [found]
    refine ⟨by omega, bind_eq_ok_iff.2 ⟨_, nameRead, ?_⟩⟩
    simp only [colon]
    rfl

theorem isLocal_skipName : IsLocal Anything skipName := by
  intro s _ rest takes
  obtain ⟨behind, left, quote, name, colon⟩ := takes_skipName_iff.1 takes
  obtain ⟨front, rfl, quoteFound⟩ := quote.split
  obtain ⟨text, rfl, reads⟩ := isLocal_skipString name
  obtain ⟨between, rfl, colonFound⟩ := colon.split
  refine ⟨front ++ (text ++ between), by simp, fun rest _ => ?_⟩
  rw [List.append_assoc, List.append_assoc]
  exact takes_skipName_iff.2 ⟨_, _, quoteFound _, reads _ trivial, colonFound rest⟩

/-- What stands in front of a value within a bracket, and the value. -/
def Leads (bracket : Bracket) (s rest : List Symbol) : Prop :=
  match bracket with
  | .list => s = rest
  | .object => Takes (skipName s) () rest

theorem leads_iff {bracket : Bracket} :
    Leads bracket s rest ↔ ∃ within, skipLead bracket s = .ok ⟨rest, within⟩ := by
  cases bracket with
  | list =>
    constructor
    · rintro rfl
      exact ⟨Nat.le_refl _, rfl⟩
    · rintro ⟨_, ⟨⟩⟩
      rfl
  | object =>
    constructor
    · rintro ⟨shorter, ran⟩
      exact ⟨Nat.le_of_lt shorter, map_eq_ok_iff.2 ⟨_, ran, rfl⟩⟩
    · rintro ⟨_, ran⟩
      obtain ⟨read, nameRead, ⟨⟩⟩ := map_eq_ok_iff.1 ran
      exact ⟨read.shorter, nameRead⟩

/-! ## What a value starts with -/

/-- What is passed over of a value that starts with a symbol: all of a scalar, or the bracket. -/
inductive Starts (rest : List Symbol) : Symbol → List Symbol → Option Bracket → Prop
  | null : Starts rest (some 'n') (['u', 'l', 'l'].map some ++ rest) none
  | true : Starts rest (some 't') (['r', 'u', 'e'].map some ++ rest) none
  | false : Starts rest (some 'f') (['a', 'l', 's', 'e'].map some ++ rest) none
  | string {behind : List Symbol} : Takes (skipString behind) () rest →
      Starts rest (some '"') behind none
  | list : Starts rest (some '[') rest (some .list)
  | object : Starts rest (some '\x7b') rest (some .object)
  | negative {behind : List Symbol} : Takes (skipNumber behind) () rest →
      Starts rest (some '-') behind none
  | digit {c : Char} {behind : List Symbol} : c.isDigit = true →
      Takes (skipNumber (some c :: behind)) () rest → Starts rest (some c) behind none

theorem takes_skipStart_iff : Takes (skipStart s) opened rest ↔
    ∃ symbol behind, Finds s symbol behind ∧ Starts rest symbol behind opened := by
  unfold skipStart Finds
  constructor
  · intro takes
    split at takes
    · obtain ⟨_, ⟨⟩⟩ := takes
    · rename_i symbol behind shorter found
      refine ⟨symbol, behind, ⟨shorter, found⟩, ?_⟩
      split at takes
      · obtain ⟨rfl, rfl⟩ := takes_word_iff.1 takes
        exact .null
      · obtain ⟨rfl, rfl⟩ := takes_word_iff.1 takes
        exact .true
      · obtain ⟨rfl, rfl⟩ := takes_word_iff.1 takes
        exact .false
      · obtain ⟨⟨⟩, taken, rfl⟩ := takes_after_map_iff.1 takes
        exact .string taken
      · obtain ⟨_, ⟨⟩⟩ := takes
        exact .list
      · obtain ⟨_, ⟨⟩⟩ := takes
        exact .object
      · obtain ⟨⟨⟩, taken, rfl⟩ := takes_after_map_iff.1 takes
        exact .negative taken
      · split at takes
        · rename_i digit
          obtain ⟨⟨⟩, taken, rfl⟩ := takes_fromFirst_map_iff.1 takes
          exact .digit digit taken
        · obtain ⟨_, ⟨⟩⟩ := takes
      · obtain ⟨_, ⟨⟩⟩ := takes
  · rintro ⟨symbol, behind, ⟨shorter, found⟩, starts⟩
    rw [found]
    cases starts with
    | null => exact takes_word_iff.2 ⟨rfl, rfl⟩
    | true => exact takes_word_iff.2 ⟨rfl, rfl⟩
    | false => exact takes_word_iff.2 ⟨rfl, rfl⟩
    | string taken => exact takes_after_map_iff.2 ⟨_, taken, rfl⟩
    | list => exact ⟨shorter, rfl⟩
    | object => exact ⟨shorter, rfl⟩
    | negative taken => exact takes_after_map_iff.2 ⟨_, taken, rfl⟩
    | digit digit taken =>
      dsimp only
      split
      case h_8 =>
        rename_i same
        cases same
        rw [if_pos digit]
        exact takes_fromFirst_map_iff.2 ⟨_, taken, rfl⟩
      case h_9 =>
        rename_i same
        cases same
      all_goals
        rename_i same
        cases same
        cases digit

/-- A value opens with no closing bracket. -/
theorem Starts.opens {behind : List Symbol} (starts : Starts rest symbol behind opened) :
    symbol ≠ some ']' ∧ symbol ≠ some '\x7d' := by
  cases starts with
  | digit digit =>
    constructor
    · rintro ⟨⟩
      cases digit
    · rintro ⟨⟩
      cases digit
  | _ => decide

/-- What a value starts with is a text of its own, and a scalar may be a number that has to end. -/
theorem Starts.split {behind : List Symbol} (starts : Starts rest symbol behind opened) :
    ∃ text, behind = text ++ rest ∧
      ∀ rest, (opened = none → EndsNumeral rest) → Starts rest symbol (text ++ rest) opened := by
  cases starts with
  | null => exact ⟨_, rfl, fun rest _ => .null⟩
  | true => exact ⟨_, rfl, fun rest _ => .true⟩
  | false => exact ⟨_, rfl, fun rest _ => .false⟩
  | string takes =>
    obtain ⟨text, split, reads⟩ := isLocal_skipString takes
    exact ⟨text, split, fun rest _ => .string (reads rest trivial)⟩
  | list => exact ⟨[], rfl, fun rest _ => .list⟩
  | object => exact ⟨[], rfl, fun rest _ => .object⟩
  | negative takes =>
    obtain ⟨text, split, reads⟩ := isLocal_skipNumber takes
    exact ⟨text, split, fun rest ends => .negative (reads rest (ends rfl))⟩
  | digit digit takes =>
    obtain ⟨text, split, reads⟩ := isLocal_skipNumber.behind takes
    exact ⟨text, split, fun rest ends => .digit digit (reads rest (ends rfl))⟩

/-- What is passed over there is a text of its own, with what is in front of it. -/
theorem skipStart_split (takes : Takes (skipStart s) opened rest) :
    ∃ text, s = text ++ rest ∧
      ∀ rest, (opened = none → EndsNumeral rest) →
        Takes (skipStart (text ++ rest)) opened rest := by
  obtain ⟨symbol, behind, finds, starts⟩ := takes_skipStart_iff.1 takes
  obtain ⟨text, rfl, reads⟩ := starts.split
  obtain ⟨front, rfl, found⟩ := finds.split
  refine ⟨front ++ text, (List.append_assoc _ _ _).symm, fun rest ends => ?_⟩
  rw [List.append_assoc]
  exact takes_skipStart_iff.2 ⟨symbol, _, found _, reads rest ends⟩

/-! ## Between values -/

theorem passes_skipBetween_nil_iff :
    Passes (skipBetween fresh [] s) brackets' rest ↔ brackets' = [] ∧ s = rest := by
  constructor
  · rintro ⟨_, ⟨⟩⟩
    exact ⟨rfl, rfl⟩
  · rintro ⟨rfl, rfl⟩
    exact ⟨Nat.le_refl _, rfl⟩

/-- Within a bracket, either this closes and what is around it goes on, or another value follows: at
once where the bracket was just opened, or else behind a comma. -/
theorem passes_skipBetween_cons_iff {bracket : Bracket} {outer : List Bracket} :
    Passes (skipBetween fresh (bracket :: outer) s) brackets' rest ↔
      (∃ behind, Finds s (some bracket.closing) behind ∧
        Passes (skipBetween false outer behind) brackets' rest) ∨
      brackets' = bracket :: outer ∧
        ((fresh = true ∧ (∃ symbol behind, Finds s symbol behind ∧ symbol ≠ some bracket.closing) ∧
          Leads bracket s rest) ∨
        fresh = false ∧ ∃ behind, Finds s (some ',') behind ∧ Leads bracket behind rest) := by
  rw [skipBetween]
  constructor
  · rintro ⟨_, ran⟩
    split at ran
    · cases ran
    · rename_i symbol behind shorter found
      split at ran
      · rename_i closes
        obtain ⟨found', foundRead, ⟨⟩⟩ := map_eq_ok_iff.1 ran
        exact .inl ⟨behind, ⟨shorter, closes ▸ found⟩, found'.2.2, foundRead⟩
      · rename_i noEnd
        split at ran
        · rename_i isFresh
          obtain ⟨lead, leadRead, ⟨⟩⟩ := map_eq_ok_iff.1 ran
          exact .inr ⟨rfl, .inl ⟨isFresh, ⟨symbol, behind, ⟨shorter, found⟩, noEnd⟩,
            leads_iff.2 ⟨_, leadRead⟩⟩⟩
        · rename_i notFresh
          split at ran
          · rename_i comma
            obtain ⟨lead, leadRead, ⟨⟩⟩ := map_eq_ok_iff.1 ran
            exact .inr ⟨rfl, .inr ⟨Bool.eq_false_iff.2 notFresh, behind, ⟨shorter, comma ▸ found⟩,
              leads_iff.2 ⟨_, leadRead⟩⟩⟩
          · cases ran
  · rintro (⟨behind, ⟨shorter, found⟩, within, foundRead⟩ |
      ⟨rfl, ⟨rfl, ⟨symbol, behind, ⟨shorter, found⟩, noEnd⟩, leads⟩ |
        ⟨rfl, behind, ⟨shorter, found⟩, leads⟩⟩)
    · rw [found]
      dsimp only
      rw [if_pos rfl]
      exact ⟨_, map_eq_ok_iff.2 ⟨_, foundRead, rfl⟩⟩
    · obtain ⟨within, leadRead⟩ := leads_iff.1 leads
      rw [found]
      dsimp only
      rw [if_neg noEnd, if_pos rfl]
      exact ⟨_, map_eq_ok_iff.2 ⟨_, leadRead, rfl⟩⟩
    · obtain ⟨within, leadRead⟩ := leads_iff.1 leads
      have noEnd : some ',' ≠ some bracket.closing := by cases bracket <;> decide
      rw [found]
      dsimp only
      rw [if_neg noEnd, if_neg Bool.false_ne_true, if_pos rfl]
      exact ⟨_, map_eq_ok_iff.2 ⟨_, leadRead, rfl⟩⟩

/-- What is left of a value's brackets: nothing, or more values. -/
def Goes (fresh : Bool) (brackets : List Bracket) (s rest : List Symbol) : Prop :=
  ∃ brackets' left, Passes (skipBetween fresh brackets s) brackets' left ∧
    ((brackets' = [] ∧ left = rest) ∨
      (brackets' ≠ [] ∧ Takes (skipWithin brackets' left) () rest))

theorem takes_skipWithin_iff : Takes (skipWithin brackets s) () rest ↔
    ∃ opened left, Takes (skipStart s) opened left ∧
      Goes opened.isSome (opened.toList ++ brackets) left rest := by
  constructor
  · rintro ⟨_, ran⟩
    rw [skipWithin] at ran
    obtain ⟨start, startRead, ran⟩ := bind_eq_ok_iff.1 ran
    obtain ⟨⟨brackets', left, within⟩, betweenRead, ran⟩ := bind_eq_ok_iff.1 ran
    refine ⟨start.item, start.rest, ⟨start.shorter, startRead⟩, brackets', left,
      ⟨within, betweenRead⟩, ?_⟩
    cases brackets' with
    | nil =>
      cases ran
      exact .inl ⟨rfl, rfl⟩
    | cons bracket outer =>
      obtain ⟨read, others, ⟨⟩⟩ := map_eq_ok_iff.1 ran
      exact .inr ⟨List.cons_ne_nil _ _, read.shorter, others⟩
  · rintro ⟨opened, left, ⟨shorter, startRead⟩, brackets', left', ⟨within, betweenRead⟩,
      ⟨rfl, rfl⟩ | ⟨some, shorter', others⟩⟩
    · rw [skipWithin]
      exact ⟨_, bind_eq_ok_iff.2 ⟨_, startRead, bind_eq_ok_iff.2 ⟨_, betweenRead, rfl⟩⟩⟩
    · obtain ⟨bracket, outer, rfl⟩ := List.exists_cons_of_ne_nil some
      rw [skipWithin]
      exact ⟨_, bind_eq_ok_iff.2 ⟨_, startRead, bind_eq_ok_iff.2 ⟨_, betweenRead,
        map_eq_ok_iff.2 ⟨_, others, rfl⟩⟩⟩⟩

/-! ## A text of its own -/

theorem Leads.split {bracket : Bracket} (leads : Leads bracket s rest) :
    ∃ text, s = text ++ rest ∧ (∀ rest, Leads bracket (text ++ rest) rest) ∧
      (bracket = .list → text = []) := by
  cases bracket with
  | list =>
    cases leads
    exact ⟨[], rfl, fun _ => rfl, fun _ => rfl⟩
  | object =>
    obtain ⟨text, split, reads⟩ := isLocal_skipName leads
    exact ⟨text, split, fun rest => reads rest trivial, nofun⟩

/-- A value that is passed over opens with no closing bracket. -/
theorem opens_of_skipStart (takes : Takes (skipStart s) opened rest) (bracket : Bracket) :
    ∃ symbol behind, Finds s symbol behind ∧ symbol ≠ some bracket.closing := by
  obtain ⟨symbol, behind, finds, starts⟩ := takes_skipStart_iff.1 takes
  refine ⟨symbol, behind, finds, ?_⟩
  cases bracket with
  | list => exact starts.opens.1
  | object => exact starts.opens.2

/-- What is passed over between values is a text of its own, in front of a value where one has to
follow. It is no part of a number, unless it is empty. -/
theorem skipBetween_split (passes : Passes (skipBetween fresh brackets s) brackets' rest) :
    ∃ text, s = text ++ rest ∧
      (∀ rest, (brackets' ≠ [] → ∃ opened left, Takes (skipStart rest) opened left) →
        Passes (skipBetween fresh brackets (text ++ rest)) brackets' rest) ∧
      (fresh = false → (brackets = [] ∧ brackets' = [] ∧ text = []) ∨
        ∀ rest, EndsNumeral (text ++ rest)) := by
  induction brackets generalizing fresh s with
  | nil =>
    obtain ⟨rfl, rfl⟩ := passes_skipBetween_nil_iff.1 passes
    exact ⟨[], rfl, fun rest _ => passes_skipBetween_nil_iff.2 ⟨rfl, rfl⟩,
      fun _ => .inl ⟨rfl, rfl, rfl⟩⟩
  | cons bracket outer ih =>
    rcases passes_skipBetween_cons_iff.1 passes with ⟨behind, closes, further⟩ |
      ⟨rfl, ⟨rfl, ⟨symbol, behind, finds, noEnd⟩, leads⟩ | ⟨rfl, behind, comma, leads⟩⟩
    · obtain ⟨front, rfl, found⟩ := closes.split
      obtain ⟨text, rfl, reads, -⟩ := ih further
      refine ⟨front ++ text, (List.append_assoc _ _ _).symm, fun rest follows => ?_,
        fun _ => .inr fun rest => ?_⟩
      · rw [List.append_assoc]
        exact passes_skipBetween_cons_iff.2 (.inl ⟨_, found _, reads rest follows⟩)
      · rw [List.append_assoc]
        refine (found _).endsNumeral ?_
        cases bracket with
        | list => exact .inr (.inl rfl)
        | object => exact .inr (.inr rfl)
    · obtain ⟨text, rfl, reads, atOnce⟩ := leads.split
      refine ⟨text, rfl, fun rest follows => ?_, nofun⟩
      refine passes_skipBetween_cons_iff.2 (.inr ⟨rfl, .inl ⟨rfl, ?_, reads rest⟩⟩)
      cases bracket with
      | list =>
        obtain ⟨opened, left, start⟩ := follows (List.cons_ne_nil _ _)
        rw [atOnce rfl]
        exact opens_of_skipStart start .list
      | object =>
        obtain ⟨behind', _, quote, -⟩ := takes_skipName_iff.1 (reads rest)
        exact ⟨_, behind', quote, by decide⟩
    · obtain ⟨front, rfl, found⟩ := comma.split
      obtain ⟨text, rfl, reads, -⟩ := leads.split
      refine ⟨front ++ text, (List.append_assoc _ _ _).symm, fun rest _ => ?_,
        fun _ => .inr fun rest => ?_⟩
      · rw [List.append_assoc]
        exact passes_skipBetween_cons_iff.2 (.inr ⟨rfl, .inr ⟨rfl, _, found _, reads rest⟩⟩)
      · rw [List.append_assoc]
        exact (found _).endsNumeral (.inl rfl)

/-- What is passed over of a value and the brackets around it is a text of its own. -/
theorem isLocal_skipWithin (brackets : List Bracket) :
    IsLocal EndsNumeral (skipWithin brackets) := by
  intro s _ rest takes
  induction size : s.length using Nat.strong_induction_on generalizing s brackets with
  | h size ih =>
    subst size
    obtain ⟨opened, left, start, brackets', left', between, goesOn⟩ := takes_skipWithin_iff.1 takes
    have shorter : left.length < s.length := start.choose
    have within : left'.length ≤ left.length := between.choose
    obtain ⟨text, rfl, startReads⟩ := skipStart_split start
    obtain ⟨text', rfl, reads, separates⟩ := skipBetween_split between
    rcases goesOn with ⟨rfl, rfl⟩ | ⟨some, others⟩
    · refine ⟨text ++ text', (List.append_assoc _ _ _).symm, fun rest ends => ?_⟩
      rw [List.append_assoc]
      refine takes_skipWithin_iff.2 ⟨opened, _, startReads _ fun scalar => ?_, [], rest,
        reads rest fun some => absurd rfl some, .inl ⟨rfl, rfl⟩⟩
      rcases separates (by rw [scalar]; rfl) with ⟨-, -, rfl⟩ | separates
      · exact ends
      · exact separates rest
    · obtain ⟨text'', rfl, readsOthers⟩ := ih _ (Nat.lt_of_le_of_lt within shorter) _ others rfl
      refine ⟨text ++ (text' ++ text''), by simp, fun rest ends => ?_⟩
      have follows := readsOthers rest ends
      obtain ⟨opened', left, start', -⟩ := takes_skipWithin_iff.1 follows
      rw [List.append_assoc, List.append_assoc]
      refine takes_skipWithin_iff.2 ⟨opened, _, startReads _ fun scalar => ?_, brackets', _,
        reads _ fun _ => ⟨opened', left, start'⟩, .inr ⟨some, follows⟩⟩
      rcases separates (by rw [scalar]; rfl) with ⟨-, rfl, -⟩ | separates
      · exact absurd rfl some
      · exact separates _

theorem isLocal_skipValue : IsLocal EndsNumeral skipValue := isLocal_skipWithin []

/-! ## Values that are read -/

/-- An escape that is read is one that is passed over, or the two of a surrogate pair. -/
theorem skipString_of_escape {c : Char} (takes : Takes (escape s) c left)
    (others : Takes (skipString left) () rest) : Takes (skipString (some '\\' :: s)) () rest := by
  have passes {s left : List Symbol} (escaped : Takes (skipEscape s) () left)
      (others : Takes (skipString left) () rest) : Takes (skipString (some '\\' :: s)) () rest :=
    takes_skipString_iff.2 (.inr (.inl ⟨s, left, rfl, escaped, others⟩))
  have unit {s left : List Symbol} {n : Nat} (takes : Takes (hexUnit s) n left) :
      Takes (skipEscape (some 'u' :: s)) () left :=
    takes_skipEscape_iff.2 (.inl ⟨s, n, rfl, takes⟩)
  rcases takes_escape_iff.1 takes with ⟨behind, rfl, numeric⟩ | ⟨letter, rfl, short⟩
  · obtain ⟨high, between, first, -, ⟨-, low, second, -⟩ | ⟨-, rfl, -⟩⟩ :=
      takes_numericEscape_iff.1 numeric
    · obtain ⟨_, rfl, second, -⟩ := takes_lowSurrogate_iff.1 second
      exact passes (unit first) (passes (unit second) others)
    · exact passes (unit first) others
  · exact passes (takes_skipEscape_iff.2 (.inr ⟨letter, c, rfl, short⟩)) others

theorem skipString_of_string {name : String} (takes : Takes (string s) name rest) :
    Takes (skipString s) () rest := by
  obtain ⟨symbols, _, symbolsTaken, -, -⟩ := takes_string_iff.1 takes
  clear takes
  induction size : s.length using Nat.strong_induction_on generalizing s symbols with
  | h size ih =>
    subst size
    rcases takes_stringSymbols_iff.1 symbolsTaken with ⟨rfl, rfl⟩ |
      ⟨behind, c, left, others, rfl, escaped, tail, rfl⟩ |
      ⟨symbol, behind, others, rfl, noQuote, noEscape, noControl, tail, rfl⟩
    · exact takes_skipString_iff.2 (.inl rfl)
    · exact skipString_of_escape escaped (ih _ (Nat.lt_succ_of_lt escaped.choose) _ tail rfl)
    · exact takes_skipString_iff.2 (.inr (.inr ⟨symbol, behind, rfl, noQuote, noEscape, noControl,
        ih _ (Nat.lt_succ_self _) _ tail rfl⟩))

/-- The parts of a number are read alike behind either sign. -/
theorem numeral_sign {negative : Bool} {numeral' : Numeral} (sign : Bool)
    (takes : Takes (numeral negative s) numeral' rest) :
    Takes (numeral sign s) { numeral' with negative := sign } rest := by
  obtain ⟨_, ran⟩ := takes
  obtain ⟨whole, wholeRead, ran⟩ := bind_eq_ok_iff.1 ran
  split at ran
  · cases ran
  · rename_i unpadded
    obtain ⟨_, fractionRead, ran⟩ := bind_eq_ok_iff.1 ran
    obtain ⟨_, exponentRead, ⟨⟩⟩ := bind_eq_ok_iff.1 ran
    exact ⟨_, bind_eq_ok_iff.2 ⟨_, wholeRead, (if_neg unpadded).trans
      (bind_eq_ok_iff.2 ⟨_, fractionRead, bind_eq_ok_iff.2 ⟨_, exponentRead, rfl⟩⟩)⟩⟩

/-- A number that is read behind its sign is passed over. -/
theorem skipNumber_of_number {negative : Bool} {n : Number}
    (takes : Takes (number negative s) n rest) : Takes (skipNumber s) () rest := by
  obtain ⟨numeral', takes, -⟩ := takes_number_iff.1 takes
  exact takes_skipNumber_iff.2 ⟨_, numeral_sign false takes⟩

/-- The light check follows a reader of values within any brackets, and goes on behind the value. -/
def Follows (item : (s : List Symbol) → Except Fault (Read Value s)) : Prop :=
  ∀ ⦃s v left brackets rest⦄, Takes (item s) v left → Goes false brackets left rest →
    Takes (skipWithin brackets s) () rest

variable {item : (s : List Symbol) → Except Fault (Read Value s)}

/-- A bracket closes, and what is around it goes on. -/
theorem Goes.closing {bracket : Bracket} (closes : Finds s (some bracket.closing) left)
    (goes : Goes false brackets left rest) : Goes fresh (bracket :: brackets) s rest := by
  obtain ⟨brackets', left', passes, goesOn⟩ := goes
  exact ⟨brackets', left', passes_skipBetween_cons_iff.2 (.inl ⟨left, closes, passes⟩), goesOn⟩

/-- Another value follows behind a comma. -/
theorem Goes.comma {bracket : Bracket} {behind : List Symbol} (comma : Finds s (some ',') behind)
    (leads : Leads bracket behind left)
    (takes : Takes (skipWithin (bracket :: brackets) left) () rest) :
    Goes false (bracket :: brackets) s rest :=
  ⟨_, left, passes_skipBetween_cons_iff.2 (.inr ⟨rfl, .inr ⟨rfl, behind, comma, leads⟩⟩),
    .inr ⟨List.cons_ne_nil _ _, takes⟩⟩

/-- A value follows at once in a bracket that does not close. -/
theorem Goes.atOnce {bracket : Bracket} {behind : List Symbol} (finds : Finds s symbol behind)
    (noEnd : symbol ≠ some bracket.closing) (leads : Leads bracket s left)
    (takes : Takes (skipWithin (bracket :: brackets) left) () rest) :
    Goes true (bracket :: brackets) s rest :=
  ⟨_, left, passes_skipBetween_cons_iff.2 (.inr ⟨rfl, .inl ⟨rfl, ⟨symbol, behind, finds, noEnd⟩,
    leads⟩⟩), .inr ⟨List.cons_ne_nil _ _, takes⟩⟩

theorem Follows.itemsFrom (follows : Follows item) {items : List Value}
    (takes : Takes (itemsFrom item s) items left) (goes : Goes false brackets left rest) :
    Takes (skipWithin (.list :: brackets) s) () rest := by
  induction items generalizing s with
  | nil => obtain ⟨_, _, -, ⟨-, ⟨⟩⟩ | ⟨_, _, -, -, ⟨⟩⟩⟩ := takes_itemsFrom_iff.1 takes
  | cons v items ih =>
    obtain ⟨_, mid, first, ⟨ended, ⟨⟩⟩ | ⟨behind, others, more, takesOthers, ⟨⟩⟩⟩ :=
      takes_itemsFrom_iff.1 takes
    · exact follows first (goes.closing ended)
    · obtain ⟨comma, -⟩ := takes_afterItem_more_iff.1 more
      exact follows first (.comma comma rfl (ih takesOthers))

theorem Follows.list (follows : Follows item) {items : List Value}
    (takes : Takes (list item s) items left) (goes : Goes false brackets left rest) :
    Goes true (.list :: brackets) s rest := by
  rcases takes_list_iff_itemsFrom.1 takes with ⟨ended, -⟩ | ⟨⟨symbol, behind, finds, noEnd⟩, takes⟩
  · exact goes.closing ended
  · exact .atOnce finds noEnd rfl (follows.itemsFrom takes goes)

theorem Follows.membersFrom (follows : Follows item) {known kept : Assoc Value}
    (takes : Takes (membersFrom (keepMember item) known s) kept left)
    (goes : Goes false brackets left rest) :
    ∃ behind mid, Takes (skipString s) () behind ∧ Finds behind (some ':') mid ∧
      Takes (skipWithin (.object :: brackets) mid) () rest := by
  induction size : s.length using Nat.strong_induction_on generalizing s known with
  | h size ih =>
    subst size
    obtain ⟨next, left', first, continued⟩ := takes_membersFrom_iff.1 takes
    have shorter : left'.length < s.length := first.choose
    obtain ⟨name, behind, mid, nameTaken, -, colon, kept⟩ := takes_member_iff.1 first
    obtain ⟨v, content, -⟩ := takes_keepMember_iff.1 kept
    refine ⟨behind, mid, skipString_of_string nameTaken, colon, ?_⟩
    rcases continued with ⟨ended, -⟩ | ⟨behind', more, others⟩
    · exact follows content (goes.closing ended)
    · have further : behind'.length < left'.length := more.choose
      obtain ⟨_, comma, quote⟩ := takes_afterMember_more_iff.1 more
      obtain ⟨_, mid', nameSkipped, colon', takes⟩ :=
        ih _ (Nat.lt_trans further shorter) others rfl
      exact follows content
        (.comma comma (takes_skipName_iff.2 ⟨_, _, quote, nameSkipped, colon'⟩) takes)

theorem Follows.members (follows : Follows item) {kept : Assoc Value}
    (takes : Takes (members (keepMember item) [] s) kept left)
    (goes : Goes false brackets left rest) : Goes true (.object :: brackets) s rest := by
  rcases takes_members_iff_membersFrom.1 takes with ⟨ended, -⟩ | ⟨behind, quote, takes⟩
  · exact goes.closing ended
  · obtain ⟨_, mid, nameSkipped, colon, takes⟩ := follows.membersFrom takes goes
    exact .atOnce quote (by decide) (takes_skipName_iff.2 ⟨_, _, quote, nameSkipped, colon⟩) takes

theorem follows_valueWith {nested : NestedReader}
    (follows : ∀ inner, nested = some inner → Follows inner) : Follows (valueWith nested) := by
  intro s v left brackets rest takes goes
  obtain ⟨symbol, behind, finds, begins⟩ := takes_valueWith_iff.1 takes
  have scalar (starts : Starts left symbol behind none) : Takes (skipWithin brackets s) () rest :=
    takes_skipWithin_iff.2 ⟨none, left, takes_skipStart_iff.2 ⟨symbol, behind, finds, starts⟩, goes⟩
  cases begins with
  | null => exact scalar .null
  | true => exact scalar .true
  | false => exact scalar .false
  | string taken => exact scalar (.string (skipString_of_string taken))
  | negative taken => exact scalar (.negative (skipNumber_of_number taken))
  | digit digit taken => exact scalar (.digit digit (skipNumber_of_number taken))
  | list given taken =>
    exact takes_skipWithin_iff.2 ⟨some .list, behind, takes_skipStart_iff.2 ⟨_, _, finds, .list⟩,
      (follows _ given).list taken goes⟩
  | object given taken =>
    exact takes_skipWithin_iff.2 ⟨some .object, behind,
      takes_skipStart_iff.2 ⟨_, _, finds, .object⟩, (follows _ given).members taken goes⟩

theorem follows_value (levels : Nat) : Follows (value levels) := by
  induction levels with
  | zero => exact follows_valueWith nofun
  | succ levels ih =>
    refine follows_valueWith ?_
    rintro _ ⟨⟩
    exact ih

/-- A value that is read is passed over, to the same end. -/
theorem skipValue_of_value {levels : Nat} {v : Value} (takes : Takes (value levels s) v rest) :
    Takes (skipValue s) () rest :=
  follows_value levels takes ⟨[], rest, passes_skipBetween_nil_iff.2 ⟨rfl, rfl⟩, .inl ⟨rfl, rfl⟩⟩

end EvidenceTree.Json
