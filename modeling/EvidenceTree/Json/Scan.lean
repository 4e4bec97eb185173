import EvidenceTree.Json.Fault
import EvidenceTree.Text.Hex
import EvidenceTree.Text.Read
import EvidenceTree.Text.Symbol

/-!
# Words, strings and numbers of a JSON text

Each reader takes an item from the front of the symbols and returns it with the symbols behind it,
which are fewer; that is what ends every loop over a text.

A string is checked for its encoding only when it is complete, so a fault inside a damaged string
comes before the damage.
-/

namespace EvidenceTree.Json

open Text (Read Rest Symbol hexDigit?)

/-! ## Spaces and words -/

/-- The four characters that may stand between items. -/
def isSpace : Symbol → Bool
  | some ' ' => true
  | some '\n' => true
  | some '\t' => true
  | some '\r' => true
  | _ => false

/-- The first symbol that is no space. -/
def next (s : List Symbol) : Option (Read Symbol s) :=
  match split : s.dropWhile isSpace with
  | [] => none
  | symbol :: rest =>
    some ⟨symbol, rest, by
      have := (List.dropWhile_suffix isSpace (l := s)).length_le
      rw [split, List.length_cons] at this
      omega⟩

/-- The letters of a word, one after the other. -/
def word : List Char → (s : List Symbol) → Except Fault (Rest s)
  | [], s => .ok (.all s)
  | _ :: _, [] => .error (.ended .value)
  | letter :: letters, symbol :: rest =>
    if symbol = some letter then (word letters rest).map Rest.behind else .error .misspelt

/-! ## Numbers -/

/-- The digits in front and what follows them. -/
def digits : List Symbol → List Char × List Symbol
  | some c :: rest =>
    if c.isDigit then (c :: (digits rest).1, (digits rest).2) else ([], some c :: rest)
  | s => ([], s)

theorem length_digits (s : List Symbol) : (digits s).1.length + (digits s).2.length = s.length := by
  fun_induction digits s with
  | case1 c rest digit ih =>
    simp only [List.length_cons]
    omega
  | case2 => simp
  | case3 => simp

/-- Digits that have to stand here. -/
def someDigits (s : List Symbol) : Except Fault (Read (List Char) s) :=
  if found : (digits s).1 = [] then .error (if s = [] then .ended .value else .badNumber)
  else .ok ⟨(digits s).1, (digits s).2, by
    have := length_digits s
    have := List.length_pos_iff.2 found
    omega⟩

/-- The digits of a fraction, if there is one. -/
def fraction (s : List Symbol) : Except Fault (List Char × Rest s) :=
  match s with
  | some '.' :: rest => (someDigits rest).map fun read => (read.item, read.left.behind)
  | s => .ok ([], .all s)

/-- An exponent's sign, if there is one. -/
def exponentSign (s : List Symbol) : Bool × Rest s :=
  match s with
  | some '-' :: rest => (true, (Rest.all rest).behind)
  | some '+' :: rest => (false, (Rest.all rest).behind)
  | s => (false, .all s)

/-- The mark in front of an exponent. -/
def isExponentMark (symbol : Symbol) : Bool := symbol == some 'e' || symbol == some 'E'

/-- An exponent, if there is one. -/
def exponent (s : List Symbol) : Except Fault (Option Int × Rest s) :=
  match s with
  | [] => .ok (none, .all [])
  | mark :: rest =>
    if isExponentMark mark then
      let sign := exponentSign rest
      (someDigits sign.2.1).map fun read =>
        let power : Int := Nat.ofDigitChars 10 read.item 0
        (some (if sign.1 then -power else power), (sign.2.further read.left).behind)
    else .ok (none, .all (mark :: rest))

/-- A number behind its sign. A zero in front stands alone. -/
def numeral (negative : Bool) (s : List Symbol) : Except Fault (Read Numeral s) := do
  let whole ← someDigits s
  if whole.item.head? = some '0' ∧ whole.item.length ≠ 1 then .error .badNumber
  else
    let (fractionDigits, afterFraction) ← fraction whole.rest
    let (power, rest) ← exponent afterFraction.1
    .ok ((whole.upTo (afterFraction.further rest)).map fun digits =>
      ⟨negative, digits, fractionDigits, power⟩)

/-- A number behind its sign, decoded. -/
def number (negative : Bool) (s : List Symbol) : Except Fault (Read Number s) := do
  let read ← numeral negative s
  match read.item.number? with
  | some n => .ok ⟨n, read.rest, read.shorter⟩
  | none => .error .hugeNumber

/-! ## Strings -/

/-- The value of four hexadecimal digits. -/
def hexUnit? (a b c d : Char) : Option Nat := do
  return ((← hexDigit? a) * 16 + (← hexDigit? b)) * 256 + (← hexDigit? c) * 16 + (← hexDigit? d)

/-- The four hexadecimal digits of an escape. -/
def hexUnit (s : List Symbol) : Except Fault (Read Nat s) :=
  match s with
  | some a :: some b :: some c :: some d :: rest =>
    match hexUnit? a b c d with
    | some unit => .ok ⟨unit, rest, by simp only [List.length_cons]; omega⟩
    | none => .error .badEscape
  | s => .error (if Symbol.hasBytes 4 s then .badEscape else .ended .string)

/-- A unit that opens a surrogate pair. -/
def isHighSurrogate (unit : Nat) : Bool := 0xD800 ≤ unit && unit ≤ 0xDBFF

/-- A unit that closes a surrogate pair. -/
def isLowSurrogate (unit : Nat) : Bool := 0xDC00 ≤ unit && unit ≤ 0xDFFF

/-- The character that a surrogate pair stands for. -/
def pairedChar (high low : Nat) : Char :=
  Char.ofNat ((high - 0xD800) * 0x400 + (low - 0xDC00) + 0x10000)

/-- The second half of a surrogate pair, its backslash included. -/
def lowSurrogate (s : List Symbol) : Except Fault (Read Nat s) :=
  match s with
  | [] => .error (.ended .string)
  | [some '\\'] => .error (.ended .string)
  | some '\\' :: some 'u' :: rest => do
    let unit ← hexUnit rest
    if isLowSurrogate unit.item then .ok unit.behind.behind else .error .loneSurrogate
  | _ => .error .unpairedSurrogate

/-- The character of a numeric escape behind its `u`. -/
def numericEscape (s : List Symbol) : Except Fault (Read Char s) := do
  let unit ← hexUnit s
  if isLowSurrogate unit.item then .error .loneSurrogate
  else if isHighSurrogate unit.item then
    let low ← lowSurrogate unit.rest
    .ok (unit.join low pairedChar)
  else .ok (unit.map Char.ofNat)

/-- The character that a short escape stands for. -/
def shortEscape? : Char → Option Char
  | '"' => some '"'
  | '\\' => some '\\'
  | '/' => some '/'
  | 'b' => some '\x08'
  | 'f' => some '\x0c'
  | 'n' => some '\n'
  | 'r' => some '\r'
  | 't' => some '\t'
  | _ => none

/-- The character of an escape behind its backslash. -/
def escape (s : List Symbol) : Except Fault (Read Char s) :=
  match s with
  | [] => .error (.ended .string)
  | some 'u' :: rest => (numericEscape rest).map Read.behind
  | some c :: _ =>
    match shortEscape? c with
    | some meant => .ok (.single meant)
    | none => .error .badEscape
  | none :: _ => .error .badEscape

/-- A character that a string may not hold as it is. -/
def isRawControl : Symbol → Bool
  | some c => c.toNat < 0x20
  | none => false

/-- The symbols of a string behind its opening quote, escapes resolved. -/
def stringSymbols (s : List Symbol) : Except Fault (Read (List Symbol) s) :=
  match s with
  | [] => .error (.ended .string)
  | some '"' :: _ => .ok (.single [])
  | some '\\' :: rest => do
    let escaped ← escape rest
    let tail ← stringSymbols escaped.rest
    .ok (escaped.join tail fun c symbols => some c :: symbols).behind
  | symbol :: rest =>
    if isRawControl symbol then .error .rawControl
    else (stringSymbols rest).map fun tail => tail.behind.map (symbol :: ·)
termination_by s.length
decreasing_by
  · have := escaped.shorter
    simp only [List.length_cons]
    omega
  · simp

/-- A string behind its opening quote. -/
def string (s : List Symbol) : Except Fault (Read String s) := do
  let read ← stringSymbols s
  match Symbol.characters? read.item with
  | some chars => .ok ⟨String.ofList chars, read.rest, read.shorter⟩
  | none => .error .badEncoding

end EvidenceTree.Json
