/-!
# Items read from the front

What a reader returns: an item and what follows it, which is shorter than what the reader was given.
That is what ends every loop over a text.
-/

namespace EvidenceTree.Text

/-- What is left of `s`: a text that is no longer. -/
abbrev Rest {τ : Type} (s : List τ) := { r : List τ // r.length ≤ s.length }

/-- An item taken from the front of `s`, and what follows it. -/
structure Read {τ : Type} (α : Type) (s : List τ) where
  item : α
  rest : List τ
  shorter : rest.length < s.length

variable {τ α β γ : Type} {c : τ} {s t : List τ}

namespace Rest

/-- All of a text. -/
def all (s : List τ) : Rest s := ⟨s, Nat.le_refl _⟩

/-- The same rest, of a text with one more symbol in front. -/
def behind (rest : Rest s) : Rest (c :: s) := ⟨rest.1, Nat.le_succ_of_le rest.2⟩

/-- The same rest, of a text that is longer. -/
def after (rest : Rest t) (shorter : t.length < s.length) : Rest s :=
  ⟨rest.1, Nat.le_trans rest.2 (Nat.le_of_lt shorter)⟩

/-- What is left of a rest. -/
def further (outer : Rest s) (rest : Rest outer.1) : Rest s :=
  ⟨rest.1, Nat.le_trans rest.2 outer.2⟩

/-- An item in front of a rest of what is shorter than the text. -/
def read (rest : Rest t) (shorter : t.length < s.length) (item : α) : Read α s :=
  ⟨item, rest.1, Nat.lt_of_le_of_lt rest.2 shorter⟩

/-- An item that starts with the first symbol and goes on up to a rest. -/
def readBehind (rest : Rest s) (item : α) : Read α (c :: s) := rest.read (Nat.lt_succ_self _) item

/-- An item taken from a rest. -/
def resume (rest : Rest s) (read : Read α rest.1) : Read α s :=
  ⟨read.item, read.rest, Nat.lt_of_lt_of_le read.shorter rest.2⟩

end Rest

namespace Read

/-- An item that is the first symbol alone. -/
def single (item : α) : Read α (c :: s) := ⟨item, s, Nat.lt_succ_self _⟩

/-- The same item, taken from the front of a text that is at least as long. -/
def widen (read : Read α t) (wider : t.length ≤ s.length) : Read α s :=
  ⟨read.item, read.rest, Nat.lt_of_lt_of_le read.shorter wider⟩

/-- The same item, of a text with one more symbol in front. -/
def behind (read : Read α s) : Read α (c :: s) := read.widen (Nat.le_succ _)

/-- The same item, of a text that is longer. -/
def after (read : Read α t) (shorter : t.length < s.length) : Read α s :=
  read.widen (Nat.le_of_lt shorter)

/-- The same item, of a text that is longer than what follows the first symbol. -/
def fromFirst (read : Read α (c :: t)) (shorter : t.length < s.length) : Read α s :=
  read.widen (Nat.succ_le_of_lt shorter)

/-- The item with a function applied to it. -/
def map (f : α → β) (read : Read α s) : Read β s := ⟨f read.item, read.rest, read.shorter⟩

/-- The same item, with more of the text taken behind it. -/
def upTo (read : Read α s) (rest : Rest read.rest) : Read α s :=
  ⟨read.item, rest.1, Nat.lt_of_le_of_lt rest.2 read.shorter⟩

/-- Two items, one after the other, put together. -/
def join (first : Read α s) (second : Read β first.rest) (f : α → β → γ) : Read γ s :=
  ⟨f first.item second.item, second.rest, Nat.lt_trans second.shorter first.shorter⟩

/-- What is left behind the item. -/
def left (read : Read α s) : Rest s := ⟨read.rest, Nat.le_of_lt read.shorter⟩

end Read

/-- The first symbol. -/
def first? : (s : List τ) → Option (Read τ s)
  | [] => none
  | c :: _ => some (.single c)

/-- What follows a word that has to stand here. -/
def word? [DecidableEq τ] : (word s : List τ) → Option (Rest s)
  | [], s => some (.all s)
  | _ :: _, [] => none
  | c :: word, d :: rest => if c = d then (word? word rest).map Rest.behind else none

end EvidenceTree.Text
