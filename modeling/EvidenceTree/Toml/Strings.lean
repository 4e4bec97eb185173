import EvidenceTree.Text.Hex
import EvidenceTree.Text.Read

/-!
# TOML strings

The four forms of a string: between double quotes with escapes, between single quotes as it stands,
and both over several lines between three quotes. A string over several lines may have a new line
behind its opening quotes, which does not belong to it, and one or two quotes in front of its
closing ones, which do.
-/

namespace EvidenceTree.Toml

open Text (Read Rest hexDigit?)

/-! ## Characters -/

/-- A space or a tab. -/
def isBlank (c : Char) : Bool := c = ' ' || c = '\t'

/-- A character that shows, or a space or a tab; beyond ASCII all do. -/
def isGraphic (c : Char) : Bool := c = '\t' || (0x20 ≤ c.toNat && c.toNat ≠ 0x7F)

/-- A character that may stand between double quotes as it is. -/
def isBasicChar (c : Char) : Bool := isGraphic c && c ≠ '"' && c ≠ '\\'

/-- A character that may stand between single quotes. -/
def isLiteralChar (c : Char) : Bool := isGraphic c && c ≠ '\''

/-- What follows a new line: a line feed, or a carriage return with one. -/
def newline? : (s : List Char) → Option (Read Unit s)
  | '\n' :: _ => some (.single ())
  | '\r' :: '\n' :: _ => some (Read.single ()).behind
  | _ => none

/-- What follows a new line that may be there. -/
def dropNewline (s : List Char) : Rest s := ((newline? s).map Read.left).getD (.all s)

/-! ## Escapes -/

/-- The value of `count` hexadecimal digits behind those that make up `high`. -/
def hexNumber? : (count high : Nat) → (s : List Char) →
    Option (Nat × Rest s)
  | 0, high, s => some (high, .all s)
  | _ + 1, _, [] => none
  | count + 1, high, c :: rest => do
    let digit ← hexDigit? c
    let (n, r) ← hexNumber? count (high * 16 + digit) rest
    some (n, r.behind)

/-- The character with a code point, which no surrogate has. -/
def charOf? (code : Nat) : Option Char :=
  if code.isValidChar then some (Char.ofNat code) else none

/-- The character that a short escape stands for. -/
def shortEscape? : Char → Option Char
  | 'b' => some '\x08'
  | 't' => some '\t'
  | 'n' => some '\n'
  | 'f' => some '\x0c'
  | 'r' => some '\r'
  | '"' => some '"'
  | '\\' => some '\\'
  | _ => none

/-- The number of digits of a numeric escape. -/
def escapeDigits? : Char → Option Nat
  | 'u' => some 4
  | 'U' => some 8
  | _ => none

/-- The character of an escape behind its backslash. -/
def escape? : (s : List Char) → Option (Read Char s)
  | [] => none
  | mark :: rest =>
    match escapeDigits? mark with
    | some count => do
      let (code, rest) ← hexNumber? count 0 rest
      let c ← charOf? code
      some (rest.readBehind c)
    | none => (shortEscape? mark).map fun c => .single c

/-! ## On one line -/

/-- The characters of a string behind its opening double quote. -/
def basicTail? (s : List Char) : Option (Read (List Char) s) :=
  match s with
  | [] => none
  | '"' :: _ => some (.single [])
  | '\\' :: rest => do
    let escaped ← escape? rest
    let tail ← basicTail? escaped.rest
    some (escaped.join tail List.cons).behind
  | c :: rest =>
    if isBasicChar c then (basicTail? rest).map fun tail => tail.behind.map (c :: ·) else none
termination_by s.length
decreasing_by
  · have := escaped.shorter
    simp only [List.length_cons]
    omega
  · simp

/-- The characters of a string behind its opening single quote. -/
def literalTail? : (s : List Char) → Option (Read (List Char) s)
  | [] => none
  | c :: rest =>
    if c = '\'' then some (.single [])
    else if isLiteralChar c then (literalTail? rest).map fun tail => tail.behind.map (c :: ·)
    else none

/-! ## Over several lines -/

/-- The one or two quotes in front of closing ones, and what follows these, if the text goes on with
closing quotes. -/
def closing? (quote : Char) : (s : List Char) → Option (Read (List Char) s)
  | a :: b :: c :: rest =>
    if a = quote ∧ b = quote ∧ c = quote then
      match rest with
      | d :: e :: _ =>
        if d = quote ∧ e = quote then
          some (Read.single [quote, quote]).behind.behind.behind.behind
        else if d = quote then some (Read.single [quote]).behind.behind.behind
        else some (Read.single []).behind.behind
      | [d] =>
        if d = quote then some (Read.single [quote]).behind.behind.behind
        else some (Read.single []).behind.behind
      | [] => some (Read.single []).behind.behind
    else none
  | _ => none

/-- What follows spaces, tabs and new lines. -/
def dropLines : List Char → List Char
  | [] => []
  | c :: rest =>
    if isBlank c || c = '\n' then dropLines rest
    else if c = '\r' then
      match rest with
      | '\n' :: rest' => dropLines rest'
      | _ => c :: rest
    else c :: rest

theorem length_dropLines_le (s : List Char) : (dropLines s).length ≤ s.length := by
  fun_induction dropLines s <;> simp_all only [List.length_cons, Nat.le_refl] <;> omega

/-- A new line that is taken out of a string, behind its backslash: the rest of the line, which is
blank, the new line, and all blank characters and lines after it. -/
def lineEscape? (s : List Char) : Option (Read Unit s) :=
  (newline? (s.dropWhile isBlank)).map fun read => ⟨(), dropLines read.rest, by
    have := read.shorter
    have := length_dropLines_le read.rest
    have := (List.dropWhile_suffix isBlank (l := s)).length_le
    omega⟩

/-- The characters of a string over several lines behind its opening double quotes. -/
def basicLines? (s : List Char) : Option (Read (List Char) s) :=
  match closing? '"' s with
  | some closed => some closed
  | none =>
    match s with
    | [] => none
    | '\\' :: rest =>
      match lineEscape? rest with
      | some joined => (basicLines? joined.rest).map fun tail => (tail.after joined.shorter).behind
      | none => do
        let escaped ← escape? rest
        let tail ← basicLines? escaped.rest
        some (escaped.join tail List.cons).behind
    | c :: rest =>
      match newline? (c :: rest) with
      | some below =>
        (basicLines? below.rest).map fun tail => below.join tail fun _ chars => '\n' :: chars
      | none =>
        if isBasicChar c || c = '"' then
          (basicLines? rest).map fun tail => tail.behind.map (c :: ·)
        else none
termination_by s.length
decreasing_by
  · have := joined.shorter
    simp only [List.length_cons]
    omega
  · have := escaped.shorter
    simp only [List.length_cons]
    omega
  · exact below.shorter
  · simp

/-- The characters of a string over several lines behind its opening single quotes. -/
def literalLines? (s : List Char) : Option (Read (List Char) s) :=
  match closing? '\'' s with
  | some closed => some closed
  | none =>
    match s with
    | [] => none
    | c :: rest =>
      match newline? (c :: rest) with
      | some below =>
        (literalLines? below.rest).map fun tail => below.join tail fun _ chars => '\n' :: chars
      | none =>
        if isGraphic c then (literalLines? rest).map fun tail => tail.behind.map (c :: ·)
        else none
termination_by s.length
decreasing_by
  · exact below.shorter
  · simp

/-! ## All forms -/

/-- A string on one line, in a form with or without escapes. -/
def lineString? : (s : List Char) → Option (Read String s)
  | '"' :: rest => (basicTail? rest).map fun read => read.behind.map String.ofList
  | '\'' :: rest => (literalTail? rest).map fun read => read.behind.map String.ofList
  | _ => none

/-- A string of any form. -/
def string? : (s : List Char) → Option (Read String s)
  | '"' :: '"' :: '"' :: rest =>
    let text := dropNewline rest
    (basicLines? text.1).map fun read => (text.resume read).behind.behind.behind.map String.ofList
  | '\'' :: '\'' :: '\'' :: rest =>
    let text := dropNewline rest
    (literalLines? text.1).map fun read => (text.resume read).behind.behind.behind.map String.ofList
  | s => lineString? s

end EvidenceTree.Toml
