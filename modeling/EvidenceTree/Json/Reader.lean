import EvidenceTree.Json.Scan

/-!
# Reading JSON values

A reader for values within a limited number of levels of nesting. Lists and objects are read by
loops that know nothing of values: an object is a fold over its members, so that a document can be
decoded by the same loop as a value.
-/

namespace EvidenceTree.Json

open Text (Read Symbol)

variable {α σ : Type}

/-! ## Lists -/

/-- Where an item of a list may be followed: by the end, or by another item. -/
inductive Continuation where
  | done
  | more
  deriving DecidableEq

/-- What follows an item of a list. -/
def afterItem (s : List Symbol) : Except Fault (Read Continuation s) :=
  match next s with
  | none => .error (.ended .list)
  | some ⟨some ']', rest, shorter⟩ => .ok ⟨.done, rest, shorter⟩
  | some ⟨some ',', rest, shorter⟩ =>
    match next rest with
    | none => .error (.ended .value)
    | some ⟨some ']', _, _⟩ => .error .trailingComma
    | some _ => .ok ⟨.more, rest, shorter⟩
  | some _ => .error .noListSeparator

/-- The items of a list from the first on. -/
def itemsFrom (item : (s : List Symbol) → Except Fault (Read α s)) (s : List Symbol) :
    Except Fault (Read (List α) s) := do
  let first ← item s
  let after ← afterItem first.rest
  match after.item with
  | .done => .ok (first.join after fun item _ => [item])
  | .more =>
    let others ← itemsFrom item after.rest
    .ok (first.join (others.after after.shorter) List.cons)
termination_by s.length
decreasing_by
  have := first.shorter
  have := after.shorter
  omega

/-- A list behind its opening bracket. -/
def list (item : (s : List Symbol) → Except Fault (Read α s)) (s : List Symbol) :
    Except Fault (Read (List α) s) :=
  match next s with
  | none => .error (.ended .list)
  | some ⟨some ']', rest, shorter⟩ => .ok ⟨[], rest, shorter⟩
  | some _ => itemsFrom item s

/-! ## Objects -/

/-- How members are read into what is known of an object: whether a name is allowed, which is
asked in front of the colon, and what the member behind the colon adds. -/
structure MemberReader (σ : Type) where
  allow : σ → String → Except Fault Unit
  take : σ → String → (s : List Symbol) → Except Fault (Read σ s)

/-- A member behind the opening quote of its name. -/
def member (reader : MemberReader σ) (known : σ) (s : List Symbol) : Except Fault (Read σ s) := do
  let name ← string s
  reader.allow known name.item
  match next name.rest with
  | none => .error (.ended .object)
  | some ⟨some ':', rest, shorter⟩ =>
    (reader.take known name.item rest).map fun taken => (taken.after shorter).after name.shorter
  | some _ => .error .noColon

/-- What follows a member: the end, or the opening quote of another name. -/
def afterMember (s : List Symbol) : Except Fault (Read Continuation s) :=
  match next s with
  | none => .error (.ended .object)
  | some ⟨some '\x7d', rest, shorter⟩ => .ok ⟨.done, rest, shorter⟩
  | some ⟨some ',', rest, shorter⟩ =>
    match next rest with
    | none => .error (.ended .value)
    | some ⟨some '"', rest, further⟩ => .ok ⟨.more, rest, Nat.lt_trans further shorter⟩
    | some ⟨some '\x7d', _, _⟩ => .error .trailingComma
    | some _ => .error .keyNotText
  | some _ => .error .noObjectSeparator

/-- The members of an object from one whose name's opening quote is behind. -/
def membersFrom (reader : MemberReader σ) (known : σ) (s : List Symbol) :
    Except Fault (Read σ s) := do
  let first ← member reader known s
  let after ← afterMember first.rest
  match after.item with
  | .done => .ok (first.join after fun known _ => known)
  | .more =>
    (membersFrom reader first.item after.rest).map fun all =>
      (all.after after.shorter).after first.shorter
termination_by s.length
decreasing_by
  have := first.shorter
  have := after.shorter
  omega

/-- An object behind its opening brace. -/
def members (reader : MemberReader σ) (known : σ) (s : List Symbol) : Except Fault (Read σ s) :=
  match next s with
  | none => .error (.ended .object)
  | some ⟨some '\x7d', rest, shorter⟩ => .ok ⟨known, rest, shorter⟩
  | some ⟨some '"', rest, shorter⟩ => (membersFrom reader known rest).map (·.after shorter)
  | some _ => .error .keyNotText

/-! ## Values -/

/-- A reader for the values one level further in; none when there is no such level. -/
abbrev NestedReader := Option ((s : List Symbol) → Except Fault (Read Value s))

/-- A member of an object: its value is kept under its name, in place of an earlier one. -/
def keepMember (nested : (s : List Symbol) → Except Fault (Read Value s)) :
    MemberReader (Assoc Value) where
  allow _ _ := .ok ()
  take known name s := (nested s).map (·.map fun value => Assoc.insert name value known)

/-- A list or an object, unless it is nested too deep. -/
def container (nested : NestedReader) (isList : Bool) (s : List Symbol) :
    Except Fault (Read Value s) :=
  match nested with
  | none => .error .tooDeep
  | some nested =>
    if isList then (list nested s).map (·.map .array)
    else (members (keepMember nested) [] s).map (·.map .object)

/-- A value, given a reader for those inside it. -/
def valueWith (nested : NestedReader) (s : List Symbol) : Except Fault (Read Value s) :=
  match next s with
  | none => .error (.ended .value)
  | some ⟨symbol, rest, shorter⟩ =>
    match symbol with
    | some 'n' => (word ['u', 'l', 'l'] rest).map fun r => r.read shorter .null
    | some 't' => (word ['r', 'u', 'e'] rest).map fun r => r.read shorter (.bool true)
    | some 'f' => (word ['a', 'l', 's', 'e'] rest).map fun r => r.read shorter (.bool false)
    | some '"' => (string rest).map fun read => (read.after shorter).map .string
    | some '[' => (container nested true rest).map (·.after shorter)
    | some '\x7b' => (container nested false rest).map (·.after shorter)
    | some '-' => (number true rest).map fun read => (read.after shorter).map .number
    | some c =>
      if c.isDigit then
        (number false (some c :: rest)).map fun read => (read.fromFirst shorter).map .number
      else .error .noValue
    | none => .error .noValue

/-- A value with at most the given number of levels of lists and objects. -/
def value : (levels : Nat) → (s : List Symbol) → Except Fault (Read Value s)
  | 0, s => valueWith none s
  | levels + 1, s => valueWith (some (value levels)) s

/-- The number of levels of lists and objects that a text may have. -/
def maxLevels : Nat := 127

/-- Nothing but spaces is left. -/
def endOfText (s : List Symbol) : Except Fault Unit :=
  match next s with
  | none => .ok ()
  | some _ => .error .trailingText

/-- The value that the symbols spell. -/
def Value.ofSymbols (s : List Symbol) : Except Fault Value := do
  let read ← value maxLevels s
  endOfText read.rest
  .ok read.item

/-- The value that a text spells. -/
def Value.ofText (s : String) : Except Fault Value := ofSymbols (Symbol.ofString s)

end EvidenceTree.Json
