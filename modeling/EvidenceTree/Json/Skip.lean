import EvidenceTree.Json.Reader

/-!
# Skipping JSON values

A member that nobody asked for is passed over with a light check: brackets have to match and words,
strings and numbers have to be well formed, but nothing is decoded. So there is no limit on nesting
or on the size of a number, and neither surrogates nor encoding are looked at.
-/

namespace EvidenceTree.Json

open Text (Read Rest Symbol)

/-! ## Scalars -/

/-- An escape behind its backslash. -/
def skipEscape (s : List Symbol) : Except Fault (Read Unit s) :=
  match s with
  | [] => .error (.ended .string)
  | some 'u' :: rest => (hexUnit rest).map fun unit => unit.behind.map fun _ => ()
  | some c :: _ => if (shortEscape? c).isSome then .ok (.single ()) else .error .badEscape
  | none :: _ => .error .badEscape

/-- A string behind its opening quote. -/
def skipString (s : List Symbol) : Except Fault (Read Unit s) :=
  match s with
  | [] => .error (.ended .string)
  | some '"' :: _ => .ok (.single ())
  | some '\\' :: rest => do
    let escaped ← skipEscape rest
    (skipString escaped.rest).map fun tail => (tail.after escaped.shorter).behind
  | symbol :: rest =>
    if isRawControl symbol then .error .rawControl
    else (skipString rest).map Read.behind
termination_by s.length
decreasing_by
  · have := escaped.shorter
    simp only [List.length_cons]
    omega
  · simp

/-- A number behind its sign. Whatever is wrong with it, it is a bad number. -/
def skipNumber (s : List Symbol) : Except Fault (Read Unit s) :=
  match numeral false s with
  | .ok read => .ok (read.map fun _ => ())
  | .error _ => .error .badNumber

/-! ## Lists and objects -/

/-- What encloses a skipped value. -/
inductive Bracket where
  | list
  | object
  deriving DecidableEq

namespace Bracket

/-- The symbol that closes the bracket. -/
def closing : Bracket → Char
  | .list => ']'
  | .object => '\x7d'

/-- The fault of a text that ends within the bracket. -/
def unclosed : Bracket → Fault
  | .list => .ended .list
  | .object => .ended .object

/-- The fault of a bracket whose items are not separated. -/
def unseparated : Bracket → Fault
  | .list => .noListSeparator
  | .object => .noObjectSeparator

end Bracket

/-- The name of a member and its colon. -/
def skipName (s : List Symbol) : Except Fault (Read Unit s) :=
  match next s with
  | none => .error (.ended .object)
  | some ⟨some '"', rest, shorter⟩ => do
    let name ← skipString rest
    match next name.rest with
    | none => .error (.ended .object)
    | some ⟨some ':', rest', shorter'⟩ =>
      .ok ((name.join ⟨(), rest', shorter'⟩ fun _ _ => ()).after shorter)
    | some _ => .error .noColon
  | some _ => .error .keyNotText

/-- What stands in front of a value within a bracket: the name, in an object. -/
def skipLead (bracket : Bracket) (s : List Symbol) : Except Fault (Rest s) :=
  match bracket with
  | .list => .ok (.all s)
  | .object => (skipName s).map Read.left

/-- What a value starts with: all of a scalar, or the opening bracket of a list or an object. -/
def skipStart (s : List Symbol) : Except Fault (Read (Option Bracket) s) :=
  match next s with
  | none => .error (.ended .value)
  | some ⟨symbol, rest, shorter⟩ =>
    match symbol with
    | some 'n' => (word ['u', 'l', 'l'] rest).map fun r => r.read shorter none
    | some 't' => (word ['r', 'u', 'e'] rest).map fun r => r.read shorter none
    | some 'f' => (word ['a', 'l', 's', 'e'] rest).map fun r => r.read shorter none
    | some '"' => (skipString rest).map fun read => (read.after shorter).map fun _ => none
    | some '[' => .ok ⟨some .list, rest, shorter⟩
    | some '\x7b' => .ok ⟨some .object, rest, shorter⟩
    | some '-' => (skipNumber rest).map fun read => (read.after shorter).map fun _ => none
    | some c =>
      if c.isDigit then
        (skipNumber (some c :: rest)).map fun read => (read.fromFirst shorter).map fun _ => none
      else .error .noValue
    | none => .error .noValue

/-- What follows within the open brackets, innermost first: another value, or the end of all. A
bracket that was just opened may close at once but holds no separator yet. -/
def skipBetween (fresh : Bool) (brackets : List Bracket) (s : List Symbol) :
    Except Fault (List Bracket × Rest s) :=
  match brackets with
  | [] => .ok ([], .all s)
  | bracket :: outer =>
    match next s with
    | none => .error bracket.unclosed
    | some ⟨symbol, rest, shorter⟩ =>
      if symbol = some bracket.closing then
        (skipBetween false outer rest).map fun found => (found.1, found.2.after shorter)
      else if fresh then
        (skipLead bracket s).map fun lead => (bracket :: outer, lead)
      else if symbol = some ',' then
        (skipLead bracket rest).map fun lead => (bracket :: outer, lead.after shorter)
      else .error bracket.unseparated

/-- Passes over the value in front and all that the open brackets still hold. -/
def skipWithin (brackets : List Bracket) (s : List Symbol) : Except Fault (Read Unit s) := do
  let start ← skipStart s
  let between ← skipBetween start.item.isSome (start.item.toList ++ brackets) start.rest
  match between.1 with
  | [] => .ok (between.2.read start.shorter ())
  | bracket :: outer =>
    (skipWithin (bracket :: outer) between.2.1).map (·.widen (by
      have := start.shorter
      have := between.2.2
      omega))
termination_by s.length
decreasing_by
  have := start.shorter
  have := between.2.2
  omega

/-- Passes over the value in front. -/
def skipValue (s : List Symbol) : Except Fault (Read Unit s) := skipWithin [] s

end EvidenceTree.Json
