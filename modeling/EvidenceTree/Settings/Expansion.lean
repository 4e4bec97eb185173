import EvidenceTree.Settings.Environment
import EvidenceTree.Text.Alphanumeric

/-!
# Expansion of paths

In a path, `$NAME` and `${NAME}` stand for variables, `${NAME:-default}` for a variable or its
default, `$$` for a single dollar, and a tilde in front for the home directory. A variable that is
not set leaves the whole path as it is.
-/

namespace EvidenceTree.Expansion

variable (env : Environment)

/-- A character of a name without braces. -/
def isNameChar (c : Char) : Bool := Text.isAlphanumeric c || c = '_'

/-! ## Variables -/

/-- What stands between braces, and what follows them. -/
def braced? : List Char → Option (List Char × List Char)
  | [] => none
  | c :: rest =>
    if c = '\x7d' then some ([], rest)
    else (braced? rest).map fun found => (c :: found.1, found.2)

theorem length_braced? {s inner rest : List Char} (found : braced? s = some (inner, rest)) :
    rest.length < s.length := by
  induction s generalizing inner rest with
  | nil => simp [braced?] at found
  | cons c tail ih =>
    unfold braced? at found
    split at found
    · simp only [Option.some.injEq, Prod.mk.injEq] at found
      simp [found.2]
    · simp only [Option.map_eq_some_iff, Prod.mk.injEq] at found
      obtain ⟨⟨inner', rest'⟩, deeper, -, rfl⟩ := found
      exact Nat.lt_succ_of_lt (ih deeper)

/-- A name in front of a default, and the default, if there is one. -/
def splitDefault : List Char → List Char × Option (List Char)
  | [] => ([], none)
  | ':' :: '-' :: default => ([], some default)
  | c :: rest => (c :: (splitDefault rest).1, (splitDefault rest).2)

/-- The value that what stands between braces has. A default counts only behind a name. -/
def bracedValue? (inner : List Char) : Option (List Char) :=
  match splitDefault inner with
  | (c :: name, some default) =>
    some ((env.lookup? (c :: name)).getD default)
  | _ => env.lookup? inner

/-- The text with the values of its variables; none if one is not set. -/
def substituted? (s : List Char) : Option (List Char) :=
  match s with
  | [] => some []
  | '$' :: '\x7b' :: rest =>
    match found : braced? rest with
    | some (inner, after) =>
      have : after.length < rest.length := length_braced? found
      (bracedValue? env inner).bind fun value => (substituted? after).map (value ++ ·)
    | none => (substituted? rest).map ('$' :: '\x7b' :: ·)
  | '$' :: '$' :: rest => (substituted? rest).map ('$' :: ·)
  | '$' :: c :: rest =>
    if isNameChar c then
      let name := c :: rest.takeWhile isNameChar
      have : (rest.dropWhile isNameChar).length ≤ rest.length :=
        (List.dropWhile_suffix isNameChar (l := rest)).length_le
      (env.lookup? name).bind fun value =>
        (substituted? (rest.dropWhile isNameChar)).map (value ++ ·)
    else (substituted? (c :: rest)).map ('$' :: ·)
  | c :: rest => (substituted? rest).map (c :: ·)
termination_by s.length

/-! ## The home directory -/

/-- The text with the home directory in place of a tilde in front, if nothing or a slash follows
it. -/
def tilde (s : List Char) : List Char :=
  match s with
  | ['~'] => (env.home?.map String.toList).getD s
  | '~' :: '/' :: rest => ((env.home?.map String.toList).getD ['~']) ++ '/' :: rest
  | s => s

/-- The expanded form of a text. A tilde that comes from a variable is left as it is. -/
def expand (text : String) : String :=
  match substituted? env text.toList with
  | none => text
  | some expanded =>
    if expanded.head? = some '~' ∧ text.toList.head? ≠ some '~' then String.ofList expanded
    else String.ofList (tilde env expanded)

end EvidenceTree.Expansion
