import EvidenceTree.Toml.Scalars
import EvidenceTree.Toml.Strings
import EvidenceTree.Toml.Table

/-!
# Reading TOML

The statements of a TOML document: headers of tables and of elements of arrays of tables, and
assignments of values to keys. What the statements mean together is left to the tables that they
make. Values nest in one another up to a limit, and keys have a limited number of parts.
-/

namespace EvidenceTree.Toml

open Text (Read Rest first? word?)

/-! ## Blanks and comments -/

/-- What follows spaces and tabs. -/
def dropBlanks (s : List Char) : Rest s :=
  ⟨s.dropWhile isBlank, (List.dropWhile_suffix isBlank (l := s)).length_le⟩

/-- What follows a comment behind its mark. -/
def dropComment (s : List Char) : Rest s :=
  ⟨s.dropWhile isGraphic, (List.dropWhile_suffix isGraphic (l := s)).length_le⟩

/-- What follows a comment that may be there. -/
def dropOptionalComment (s : List Char) : Rest s :=
  match s with
  | '#' :: rest => (dropComment rest).behind
  | s => .all s

/-- What follows the end of a line: a new line, or nothing at the end of the text. -/
def endOfLine? (s : List Char) : Option (Rest s) :=
  match s with
  | [] => some (.all [])
  | s => (newline? s).map Read.left

/-- What follows a line on which nothing stands any more but blanks and a comment. -/
def restOfLine? (s : List Char) : Option (Rest s) :=
  let blanks := dropBlanks s
  let comment := dropOptionalComment blanks.1
  (endOfLine? comment.1).map fun rest => blanks.further (comment.further rest)

/-- What follows blanks, comments and new lines. -/
def dropLines? (s : List Char) : Option (Rest s) :=
  let blanks := dropBlanks s
  match first? blanks.1 with
  | some ⟨'#', rest, shorter⟩ => do
    let comment := dropComment rest
    let below ← newline? comment.1
    let found ← dropLines? below.rest
    some (blanks.further ((comment.further (found.after below.shorter)).after shorter))
  | some ⟨'\n', _, _⟩ | some ⟨'\r', _, _⟩ => do
    let below ← newline? blanks.1
    let found ← dropLines? below.rest
    some (blanks.further (found.after below.shorter))
  | _ => some blanks
termination_by s.length
decreasing_by
  · have := blanks.2
    have := comment.2
    have := below.shorter
    omega
  · have := blanks.2
    have := below.shorter
    omega

/-! ## Keys -/

/-- A character of a key without quotes. -/
def isKeyChar (c : Char) : Bool := c.isAlphanum || c = '-' || c = '_'

/-- A key without quotes. -/
def bareKey? (s : List Char) : Option (Read String s) :=
  match s with
  | [] => none
  | c :: rest =>
    if isKeyChar c then
      let others : Rest rest :=
        ⟨rest.dropWhile isKeyChar, (List.dropWhile_suffix isKeyChar (l := rest)).length_le⟩
      some (others.readBehind (String.ofList (c :: rest.takeWhile isKeyChar)))
    else none

/-- One part of a key, with or without quotes, and blanks around it. -/
def keyPart? (s : List Char) : Option (Read String s) :=
  let blanks := dropBlanks s
  ((lineString? blanks.1).or (bareKey? blanks.1)).map fun part =>
    blanks.resume (part.upTo (dropBlanks part.rest))

/-- The parts of a key, with dots between them. -/
def keyParts? (s : List Char) : Option (Read (List String) s) := do
  let first ← keyPart? s
  match first? first.rest with
  | some ⟨'.', rest, shorter⟩ =>
    let others ← keyParts? rest
    some (first.join (others.after shorter) List.cons)
  | _ => some (first.map ([·]))
termination_by s.length
decreasing_by
  have := first.shorter
  omega

/-- The number of parts that a key may not reach, and of levels that values may not. -/
def depthLimit : Nat := 80

/-- A key: not more parts than the limit allows. -/
def key? (s : List Char) : Option (Read (List String) s) :=
  (keyParts? s).bind fun read => if read.item.length < depthLimit then some read else none

/-! ## Values -/

/-- A reader of values. -/
abbrev ValueReader := (s : List Char) → Option (Read Value s)

/-- The items of an array from where one may stand. A comma may follow the last. -/
def items? (item : ValueReader) (s : List Char) : Option (Read (List Value) s) := do
  let lines ← dropLines? s
  match first? lines.1 with
  | some ⟨']', rest, shorter⟩ => some (lines.resume ⟨[], rest, shorter⟩)
  | _ =>
    let first ← item lines.1
    let after ← dropLines? first.rest
    match first? after.1 with
    | some ⟨']', rest, shorter⟩ =>
      some (lines.resume ((first.upTo (after.resume ⟨(), rest, shorter⟩).left).map ([·])))
    | some ⟨',', rest, shorter⟩ =>
      let others ← items? item rest
      some (lines.resume (first.join (after.resume (others.after shorter)) List.cons))
    | _ => none
termination_by s.length
decreasing_by
  have := lines.2
  have := first.shorter
  have := after.2
  omega

/-- An assignment, with blanks around its parts. -/
def assignment? (item : ValueReader) (s : List Char) : Option (Read Assignment s) := do
  let key ← key? s
  match first? key.rest with
  | some ⟨'=', rest, shorter⟩ =>
    let blanks := dropBlanks rest
    let value ← item blanks.1
    some (key.join ((blanks.resume value).after shorter) Assignment.mk)
  | _ => none

/-- The assignments of a table on one line from the first on. No comma may follow the last. -/
def assignments? (item : ValueReader) (s : List Char) : Option (Read (List Assignment) s) := do
  let first ← assignment? item s
  let after := dropBlanks first.rest
  match first? after.1 with
  | some ⟨'\x7d', rest, shorter⟩ =>
    some ((first.upTo (after.resume ⟨(), rest, shorter⟩).left).map ([·]))
  | some ⟨',', rest, shorter⟩ =>
    let others ← assignments? item rest
    some (first.join (after.resume (others.after shorter)) List.cons)
  | _ => none
termination_by s.length
decreasing_by
  have := first.shorter
  have := after.2
  omega

/-- The assignments of a table on one line behind its opening brace. -/
def inlineAssignments? (item : ValueReader) (s : List Char) : Option (Read (List Assignment) s) :=
  let blanks := dropBlanks s
  match first? blanks.1 with
  | some ⟨'\x7d', rest, shorter⟩ => some (blanks.resume ⟨[], rest, shorter⟩)
  | _ => assignments? item s

/-- A value that is one word. -/
def namedValue? (s : List Char) : Option (Read Value s) :=
  match s with
  | 't' :: rest => (word? ['r', 'u', 'e'] rest).map fun found => found.readBehind (.boolean true)
  | 'f' :: rest =>
    (word? ['a', 'l', 's', 'e'] rest).map fun found => found.readBehind (.boolean false)
  | s => namedFloat? s

/-- A value that holds no other. -/
def scalar? (s : List Char) : Option (Read Value s) :=
  match s with
  | [] => none
  | c :: rest =>
    if c = '"' ∨ c = '\'' then (string? (c :: rest)).map (·.map .string)
    else if c.isDigit ∨ c = '+' ∨ c = '-' then numeric? (c :: rest)
    else namedValue? (c :: rest)

/-- A value, in which others may nest as many levels deep as `levels` says. -/
def value? : (levels : Nat) → ValueReader
  | 0, s => scalar? s
  | levels + 1, s =>
    match s with
    | '[' :: rest =>
      (items? (value? levels) rest).map fun read => read.behind.map .array
    | '\x7b' :: rest => do
      let read ← inlineAssignments? (value? levels) rest
      let table ← inlineTable? read.item
      some (read.behind.map fun _ => table)
    | s => scalar? s

/-! ## Statements -/

/-- The header of a block behind its first bracket: the path, and whether it adds to an array, as it
does behind a second bracket. -/
def header? (s : List Char) : Option (Read (List String × Bool) s) := do
  let addsToArray := s.head? = some '['
  let opened ← word? (if addsToArray then ['['] else []) s
  let path ← key? opened.1
  let closed ← word? (if addsToArray then [']', ']'] else [']']) path.rest
  let below ← restOfLine? closed.1
  some (opened.resume ((path.upTo (closed.further below)).map (·, addsToArray)))

/-- The assignment on a line. -/
def assignmentLine? (s : List Char) : Option (Read Assignment s) := do
  let assignment ← assignment? (value? (depthLimit - 1)) s
  let below ← restOfLine? assignment.rest
  some (assignment.upTo below)

/-- A document with an assignment in front. -/
def Document.withAssignment (document : Document) (assignment : Assignment) : Document :=
  { document with assignments := assignment :: document.assignments }

/-- A document that starts with a header: what was in front of the first block is in the block of
the header. -/
def Document.withHeader (document : Document) (path : List String) (addsToArray : Bool) :
    Document where
  assignments := []
  blocks := ⟨path, addsToArray, document.assignments⟩ :: document.blocks

/-- A line with nothing but a comment, or only the end of a line. -/
def blankLine? (s : List Char) : Option (Read Unit s) :=
  match s with
  | '#' :: rest =>
    let comment := dropComment rest
    (endOfLine? comment.1).map fun below => (comment.further below).readBehind ()
  | s => newline? s

/-- The statements of a text. -/
def statements? (s : List Char) : Option Document :=
  let blanks := dropBlanks s
  match first? blanks.1 with
  | none => some ⟨[], []⟩
  | some ⟨'#', _, _⟩ | some ⟨'\n', _, _⟩ | some ⟨'\r', _, _⟩ => do
    let line ← blankLine? blanks.1
    statements? line.rest
  | some ⟨'[', rest, _⟩ => do
    let header ← header? rest
    let document ← statements? header.rest
    some (document.withHeader header.item.1 header.item.2)
  | some _ => do
    let assignment ← assignmentLine? blanks.1
    let document ← statements? assignment.rest
    some (document.withAssignment assignment.item)
termination_by s.length
decreasing_by
  all_goals have := blanks.2
  · have := line.shorter
    omega
  · have := header.shorter
    omega
  · have := assignment.shorter
    omega

/-- The table that a text stands for. A byte order mark in front does not count. -/
def Value.ofText? (text : String) : Option Value := do
  let document ← match text.toList with
    | '\ufeff' :: rest => statements? rest
    | s => statements? s
  document.table?

end EvidenceTree.Toml
