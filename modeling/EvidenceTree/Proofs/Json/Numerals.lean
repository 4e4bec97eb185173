import EvidenceTree.Json.Reader
import EvidenceTree.Proofs.Binary64.Decimals
import EvidenceTree.Proofs.Document.Descriptors

/-!
# Numbers in a JSON text

A number in a JSON text is read up to where it cannot go on. So what its characters spell is what is
read of it, whatever follows, and a list of numbers is read one after the other.

* `Json.numeral_append`: the parts of a number, read from its characters.
* `Json.valueWith_append`: the value of a number, at any depth.
* `Json.value_pair`: a list that holds a number twice, at any depth; `Json.Value.ofText_pair`: as a
  text.
-/

namespace EvidenceTree.Json

open Text (Read Rest Symbol)

variable {α : Type} {s rest : List Symbol} {cs whole tail : List Char} {negative : Bool}
  {power : Option Int} {n : Number}

/-- What a reader takes from the front, and what it leaves. -/
def Takes (run : Except Fault (Read α s)) (item : α) (rest : List Symbol) : Prop :=
  ∃ shorter, run = .ok ⟨item, rest, shorter⟩

/-- What a reader takes from the front that may take nothing, and what it leaves. -/
def Passes (run : Except Fault (α × Rest s)) (item : α) (rest : List Symbol) : Prop :=
  ∃ within, run = .ok (item, ⟨rest, within⟩)

/-- What follows is nothing that a number could go on with. -/
def EndsNumeral (rest : List Symbol) : Prop :=
  ∀ c, rest.head? = some (some c) → c.isDigit = false ∧ c ≠ '.' ∧ c ≠ 'e' ∧ c ≠ 'E'

/-! ## Digits -/

theorem digits_append (isDigits : ∀ c ∈ cs, c.isDigit = true)
    (stop : ∀ c, rest.head? = some (some c) → c.isDigit = false) :
    digits (cs.map some ++ rest) = (cs, rest) := by
  induction cs with
  | nil =>
    rcases rest with _ | ⟨_ | c, rest⟩
    · rfl
    · rfl
    · have noDigit := stop c rfl
      rw [List.map_nil, List.nil_append, digits, noDigit]
      rfl
  | cons c cs ih =>
    obtain ⟨digit, others⟩ := List.forall_mem_cons.1 isDigits
    rw [List.map_cons, List.cons_append, digits, if_pos digit, ih others]

theorem someDigits_append (isDigits : IsDigits cs)
    (stop : ∀ c, rest.head? = some (some c) → c.isDigit = false) :
    Takes (someDigits (cs.map some ++ rest)) cs rest := by
  have split := digits_append isDigits.2 stop
  have shorter : rest.length < (cs.map some ++ rest).length := by
    have positive := List.length_pos_iff.2 isDigits.1
    rw [List.length_append, List.length_map]
    omega
  refine ⟨shorter, ?_⟩
  unfold someDigits
  simp only [split]
  exact dif_neg isDigits.1

/-! ## Parts of a number -/

theorem fraction_append (isDigits : ∀ c ∈ cs, c.isDigit = true)
    (stop : ∀ c, rest.head? = some (some c) → c.isDigit = false ∧ c ≠ '.') :
    Passes (fraction ((fractionChars cs).map some ++ rest)) cs rest := by
  cases cs with
  | nil =>
    refine ⟨Nat.le_refl _, ?_⟩
    change fraction rest = .ok ([], .all rest)
    unfold fraction
    split
    · exact absurd rfl (stop '.' rfl).2
    · rfl
  | cons c cs =>
    obtain ⟨shorter, run⟩ := someDigits_append ⟨List.cons_ne_nil c cs, isDigits⟩
      fun c isHead => (stop c isHead).1
    exact ⟨_, map_eq_ok_iff.2 ⟨_, run, rfl⟩⟩

theorem isExponentMark_of_eq {c : Char} (isMark : c = 'e' ∨ c = 'E') :
    isExponentMark (some c) = true := by
  rcases isMark with rfl | rfl <;> rfl

theorem EndsNumeral.isExponentMark_eq_false {symbol : Symbol}
    (ends : EndsNumeral (symbol :: rest)) : isExponentMark symbol = false := by
  cases symbol with
  | none => rfl
  | some c =>
    obtain ⟨-, -, noMark, noMark'⟩ := ends c rfl
    simp [isExponentMark, noMark, noMark']

theorem exponentSign_of_isDigits (isDigits : IsDigits cs) :
    exponentSign (cs.map some ++ rest) = (false, .all (cs.map some ++ rest)) := by
  obtain ⟨some, all⟩ := isDigits
  cases cs with
  | nil => exact absurd rfl some
  | cons c cs =>
    have digit := all c List.mem_cons_self
    rw [List.map_cons, List.cons_append]
    generalize written : Option.some c :: (cs.map Option.some ++ rest) = s
    unfold exponentSign
    split
    · cases written
      cases digit
    · cases written
      cases digit
    · rfl

theorem length_le_append (cs : List Char) : rest.length ≤ (cs.map some ++ rest).length := by
  rw [List.length_append]
  exact Nat.le_add_left _ _

theorem exponent_append (spells : SpellsExponent tail power) (ends : EndsNumeral rest) :
    Passes (exponent (tail.map some ++ rest)) power rest := by
  have stop : ∀ c, rest.head? = some (some c) → c.isDigit = false :=
    fun c isHead => (ends c isHead).1
  refine ⟨length_le_append tail, ?_⟩
  cases spells with
  | none =>
    cases rest with
    | nil => rfl
    | cons mark rest =>
      have noMark : ¬ isExponentMark mark = true := by
        rw [ends.isExponentMark_eq_false]
        exact Bool.false_ne_true
      exact if_neg noMark
  | @unsigned mark digits isMark isDigits =>
    obtain ⟨shorter, run⟩ := someDigits_append isDigits stop
    change exponent (some mark :: (digits.map some ++ rest)) = _
    unfold exponent
    dsimp only
    rw [if_pos (isExponentMark_of_eq isMark), exponentSign_of_isDigits isDigits]
    exact map_eq_ok_iff.2 ⟨_, run, rfl⟩
  | @signed mark negative digits isMark isDigits =>
    obtain ⟨shorter, run⟩ := someDigits_append isDigits stop
    change exponent (some mark :: some _ :: (digits.map some ++ rest)) = _
    unfold exponent
    dsimp only
    rw [if_pos (isExponentMark_of_eq isMark)]
    cases negative with
    | false => exact map_eq_ok_iff.2 ⟨_, run, rfl⟩
    | true => exact map_eq_ok_iff.2 ⟨_, run, rfl⟩

/-- What stands behind a fraction is no part of it. -/
theorem SpellsExponent.stop (spells : SpellsExponent tail power) (ends : EndsNumeral rest) :
    ∀ c, (tail.map some ++ rest).head? = some (some c) → c.isDigit = false ∧ c ≠ '.' := by
  cases tail with
  | nil => exact fun c isHead => ⟨(ends c isHead).1, (ends c isHead).2.1⟩
  | cons mark tail =>
    rintro _ ⟨⟩
    exact spells.head mark rfl

/-- A number is read in its parts; a zero in front stands alone. -/
theorem numeral_append (isWhole : IsDigits whole)
    (unpadded : whole.head? = some '0' → whole.length = 1) (isDigits : ∀ c ∈ cs, c.isDigit = true)
    (spells : SpellsExponent tail power) (ends : EndsNumeral rest) :
    Takes (numeral negative
        (whole.map some ++ ((fractionChars cs).map some ++ (tail.map some ++ rest))))
      ⟨negative, whole, cs, power⟩ rest := by
  have stopTail := spells.stop ends
  have stopWhole : ∀ c, ((fractionChars cs).map some ++ (tail.map some ++ rest)).head? =
      some (some c) → c.isDigit = false := by
    cases cs with
    | nil => exact fun c isHead => (stopTail c isHead).1
    | cons first cs =>
      rintro c ⟨⟩
      rfl
  obtain ⟨shorter, wholeRead⟩ := someDigits_append isWhole stopWhole
  obtain ⟨within, fractionRead⟩ := fraction_append isDigits stopTail
  obtain ⟨within', exponentRead⟩ := exponent_append spells ends
  have notPadded : ¬ (whole.head? = some '0' ∧ whole.length ≠ 1) :=
    fun padded => padded.2 (unpadded padded.1)
  exact ⟨_, bind_eq_ok_iff.2 ⟨_, wholeRead, (if_neg notPadded).trans
    (bind_eq_ok_iff.2 ⟨_, fractionRead, bind_eq_ok_iff.2 ⟨_, exponentRead, rfl⟩⟩)⟩⟩

/-! ## Numbers -/

/-- A numeral as JSON has it, without a zero in front of other digits. -/
def Numeral.IsUnpadded (numeral : Numeral) : Prop :=
  numeral.whole.head? = some '0' → numeral.whole.length = 1

/-- What a reader takes from the front, or that it refuses a number as too large. -/
def Gives (run : Except Fault (Read α s)) (item? : Option α) (rest : List Symbol) : Prop :=
  match item? with
  | some item => Takes run item rest
  | none => run = .error .hugeNumber

theorem Gives.map {β : Type} {t : List Symbol} {run : Except Fault (Read α s)} {item? : Option α}
    {f : Read α s → Read β t} {g : α → β} (gives : Gives run item? rest)
    (item : ∀ read, (f read).item = g read.item) (left : ∀ read, (f read).rest = read.rest) :
    Gives (run.map f) (item?.map g) rest := by
  cases item? with
  | none => exact map_eq_error_iff.2 gives
  | some first =>
    obtain ⟨shorter, rfl⟩ := gives
    have taken := item ⟨first, rest, shorter⟩
    have kept := left ⟨first, rest, shorter⟩
    generalize made : f ⟨first, rest, shorter⟩ = read at taken kept
    obtain ⟨item', rest', shorter'⟩ := read
    dsimp only at taken kept
    subst taken kept
    exact ⟨shorter', congrArg Except.ok made⟩

theorem number_append {numeral : Numeral} (isWhole : IsDigits numeral.whole)
    (unpadded : numeral.IsUnpadded) (isDigits : ∀ c ∈ numeral.fraction, c.isDigit = true)
    (spells : SpellsExponent tail numeral.exponent) (ends : EndsNumeral rest) :
    Gives (number numeral.negative (numeral.whole.map some ++
        ((fractionChars numeral.fraction).map some ++ (tail.map some ++ rest))))
      numeral.number? rest := by
  have parts : Takes (Json.numeral numeral.negative (numeral.whole.map some ++
      ((fractionChars numeral.fraction).map some ++ (tail.map some ++ rest)))) numeral rest :=
    numeral_append isWhole unpadded isDigits spells ends
  obtain ⟨shorter, read⟩ := parts
  cases decoded : numeral.number? with
  | none =>
    refine bind_eq_error_iff.2 (.inr ⟨_, read, ?_⟩)
    dsimp only
    rw [decoded]
  | some n =>
    refine ⟨shorter, bind_eq_ok_iff.2 ⟨_, read, ?_⟩⟩
    dsimp only
    rw [decoded]

/-! ## Values -/

theorem next_cons {symbol : Symbol} (noSpace : isSpace symbol = false) (s : List Symbol) :
    next (symbol :: s) = some ⟨symbol, s, Nat.lt_succ_self _⟩ := by
  have kept : (symbol :: s).dropWhile isSpace = symbol :: s :=
    List.dropWhile_cons_of_neg (by rw [noSpace]; exact Bool.false_ne_true)
  unfold next
  split
  · rename_i none
    cases kept.symm.trans none
  · rename_i some
    cases kept.symm.trans some
    rfl

theorem isSpace_of_isDigit {c : Char} (digit : c.isDigit = true) : isSpace (some c) = false := by
  unfold isSpace
  split
  case h_5 => rfl
  all_goals
    rename_i same
    cases same
    cases digit

variable {nested : NestedReader}

theorem valueWith_minus (s : List Symbol) :
    valueWith nested (some '-' :: s) =
      (number true s).map fun read => (read.after (Nat.lt_succ_self _)).map .number := rfl

theorem valueWith_digit {c : Char} (digit : c.isDigit = true) (s : List Symbol) :
    valueWith nested (some c :: s) =
      (number false (some c :: s)).map fun read =>
        (read.fromFirst (Nat.lt_succ_self _)).map .number := by
  unfold valueWith
  rw [next_cons (isSpace_of_isDigit digit)]
  dsimp only
  split
  case h_8 =>
    rename_i same
    cases same
    exact if_pos digit
  case h_9 =>
    rename_i same
    cases same
  all_goals
    rename_i same
    cases same
    cases digit

/-- A numeral starts with a sign or a digit. -/
theorem SpellsNumeral.head {numeral : Numeral} (spells : SpellsNumeral cs numeral) :
    ∃ c behind, cs = c :: behind ∧ (c = '-' ∨ c.isDigit = true) := by
  obtain ⟨tail, -, rfl⟩ := spells.parts
  cases numeral.negative with
  | true => exact ⟨_, _, rfl, .inl rfl⟩
  | false =>
    obtain ⟨some, all⟩ := spells.whole
    cases written : numeral.whole with
    | nil => exact absurd written some
    | cons c behind => exact ⟨c, _, rfl, .inr (all c (written ▸ List.mem_cons_self))⟩

/-- A number is the value that it is decoded as, unless it is too large, at any depth. -/
theorem valueWith_append {numeral : Numeral} (spells : SpellsNumeral cs numeral)
    (unpadded : numeral.IsUnpadded) (ends : EndsNumeral rest) :
    Gives (valueWith nested (cs.map some ++ rest)) (numeral.number?.map .number) rest := by
  obtain ⟨tail, spellsTail, rfl⟩ := spells.parts
  have gives := number_append spells.whole unpadded spells.fraction spellsTail ends
  cases sign : numeral.negative with
  | true =>
    rw [sign] at gives
    have flat : (signChars true ++ (numeral.whole ++ (fractionChars numeral.fraction ++ tail))).map
        some ++ rest = some '-' :: (numeral.whole.map some ++
          ((fractionChars numeral.fraction).map some ++ (tail.map some ++ rest))) := by
      simp [signChars]
    rw [flat, valueWith_minus]
    exact gives.map (fun _ => rfl) (fun _ => rfl)
  | false =>
    rw [sign] at gives
    have flat : (signChars false ++ (numeral.whole ++ (fractionChars numeral.fraction ++ tail))).map
        some ++ rest = numeral.whole.map some ++
          ((fractionChars numeral.fraction).map some ++ (tail.map some ++ rest)) := by
      simp [signChars]
    rw [flat]
    obtain ⟨some, all⟩ := spells.whole
    cases written : numeral.whole with
    | nil => exact absurd written some
    | cons c behind =>
      rw [written] at gives
      rw [List.map_cons, List.cons_append, valueWith_digit (all c (written ▸ List.mem_cons_self))]
      exact gives.map (fun _ => rfl) (fun _ => rfl)

/-! ## Pairs -/

/-- A list that holds a number twice. -/
def pairChars (cs : List Char) : List Char := '[' :: (cs ++ ',' :: (cs ++ [']']))

section

variable {numeral : Numeral} {item : (s : List Symbol) → Except Fault (Read α s)}
  {item? : Option α}

theorem endsNumeral_cons {c : Char} (noDigit : c.isDigit = false)
    (noPart : c ≠ '.' ∧ c ≠ 'e' ∧ c ≠ 'E') (rest : List Symbol) : EndsNumeral (some c :: rest) := by
  rintro _ ⟨⟩
  exact ⟨noDigit, noPart⟩

/-- A numeral starts with no space, and a list does not end in front of it. -/
theorem SpellsNumeral.next (spells : SpellsNumeral cs numeral) (rest : List Symbol) :
    ∃ symbol behind shorter,
      Json.next (cs.map some ++ rest) = some ⟨symbol, behind, shorter⟩ ∧ symbol ≠ some ']' := by
  obtain ⟨c, behind, rfl, first⟩ := spells.head
  rcases first with rfl | digit
  · exact ⟨_, _, _, rfl, by decide⟩
  · refine ⟨_, _, _, next_cons (isSpace_of_isDigit digit) _, ?_⟩
    rintro ⟨⟩
    cases digit

theorem afterItem_comma (spells : SpellsNumeral cs numeral) (rest : List Symbol) :
    afterItem (some ',' :: (cs.map some ++ rest)) =
      .ok ⟨.more, cs.map some ++ rest, Nat.lt_succ_self _⟩ := by
  obtain ⟨symbol, behind, shorter, found, noEnd⟩ := spells.next rest
  unfold afterItem
  rw [next_cons rfl]
  simp only
  rw [found]
  split
  · rename_i none
    cases none
  · rename_i ended
    cases ended
    exact absurd rfl noEnd
  · rfl

theorem afterItem_end (rest : List Symbol) :
    afterItem (some ']' :: rest) = .ok ⟨.done, rest, Nat.lt_succ_self _⟩ := rfl

theorem list_append (spells : SpellsNumeral cs numeral) (rest : List Symbol) :
    list item (cs.map some ++ rest) = itemsFrom item (cs.map some ++ rest) := by
  obtain ⟨symbol, behind, shorter, found, noEnd⟩ := spells.next rest
  unfold list
  rw [found]
  split
  · rename_i none
    cases none
  · rename_i ended
    cases ended
    exact absurd rfl noEnd
  · rfl

theorem itemsFrom_last
    (reads : ∀ rest, EndsNumeral rest → Gives (item (cs.map some ++ rest)) item? rest)
    (rest : List Symbol) :
    Gives (itemsFrom item (cs.map some ++ some ']' :: rest)) (item?.map fun value => [value])
      rest := by
  have first := reads (some ']' :: rest) (endsNumeral_cons rfl (by decide) rest)
  rw [itemsFrom]
  cases item? with
  | none => exact bind_eq_error_iff.2 (.inl first)
  | some value =>
    obtain ⟨_, first⟩ := first
    exact ⟨_, bind_eq_ok_iff.2 ⟨_, first, bind_eq_ok_iff.2 ⟨_, afterItem_end rest, rfl⟩⟩⟩

/-- Where an item is read of a numeral, whatever follows, two are read of a list that holds it
twice. -/
theorem list_pair (spells : SpellsNumeral cs numeral)
    (reads : ∀ rest, EndsNumeral rest → Gives (item (cs.map some ++ rest)) item? rest)
    (rest : List Symbol) :
    Gives (list item (cs.map some ++ some ',' :: (cs.map some ++ some ']' :: rest)))
      (item?.map fun value => [value, value]) rest := by
  have first := reads (some ',' :: (cs.map some ++ some ']' :: rest))
    (endsNumeral_cons rfl (by decide) _)
  have others := itemsFrom_last reads rest
  rw [list_append spells, itemsFrom]
  cases item? with
  | none => exact bind_eq_error_iff.2 (.inl first)
  | some value =>
    obtain ⟨_, first⟩ := first
    obtain ⟨_, others⟩ := others
    exact ⟨_, bind_eq_ok_iff.2 ⟨_, first, bind_eq_ok_iff.2 ⟨_, afterItem_comma spells _,
      bind_eq_ok_iff.2 ⟨_, others, rfl⟩⟩⟩⟩

end

theorem valueWith_list (inner : (s : List Symbol) → Except Fault (Read Value s))
    (s : List Symbol) :
    valueWith (some inner) (some '[' :: s) =
      (list inner s).map fun read => (read.map .array).after (Nat.lt_succ_self _) := by
  have container : valueWith (some inner) (some '[' :: s) =
      ((list inner s).map (·.map .array)).map (·.after (Nat.lt_succ_self _)) := rfl
  rw [container]
  cases list inner s <;> rfl

/-- A list that holds a number twice is read as such at any depth but the last, unless the number is
too large. -/
theorem value_pair {numeral : Numeral} (spells : SpellsNumeral cs numeral)
    (unpadded : numeral.IsUnpadded) (levels : Nat) (rest : List Symbol) :
    Gives (value (levels + 1) ((pairChars cs).map some ++ rest))
      (numeral.number?.map fun n => .array [.number n, .number n]) rest := by
  have symbols : (pairChars cs).map some ++ rest =
      some '[' :: (cs.map some ++ some ',' :: (cs.map some ++ some ']' :: rest)) := by
    unfold pairChars
    simp
  have reads (rest : List Symbol) (ends : EndsNumeral rest) :
      Gives (value levels (cs.map some ++ rest)) (numeral.number?.map .number) rest := by
    cases levels <;> exact valueWith_append spells unpadded ends
  have twice : (numeral.number?.map fun n => Value.array [.number n, .number n]) =
      ((numeral.number?.map Value.number).map fun item => [item, item]).map .array := by
    rw [Option.map_map, Option.map_map]
    rfl
  rw [symbols, twice, value, valueWith_list]
  exact (list_pair spells reads rest).map (fun _ => rfl) fun _ => rfl

/-- The value of a list that holds a number twice. -/
theorem Value.ofText_pair {numeral : Numeral} (spells : SpellsNumeral cs numeral)
    (unpadded : numeral.IsUnpadded) :
    ofText (String.ofList (pairChars cs)) =
      match numeral.number? with
      | some n => .ok (.array [.number n, .number n])
      | none => .error .hugeNumber := by
  have pair := value_pair spells unpadded 126 []
  rw [List.append_nil] at pair
  unfold ofText ofSymbols
  rw [Symbol.ofString_ofList]
  cases decoded : numeral.number? with
  | none =>
    rw [decoded] at pair
    exact bind_eq_error_iff.2 (.inl pair)
  | some n =>
    rw [decoded] at pair
    obtain ⟨_, read⟩ := pair
    exact bind_eq_ok_iff.2 ⟨_, read, bind_eq_ok_iff.2 ⟨(), rfl, rfl⟩⟩

end EvidenceTree.Json
