import EvidenceTree.Loading.Failure
import EvidenceTree.Settings.Basic
import EvidenceTree.Settings.Environment
import EvidenceTree.Text.Blank
import EvidenceTree.Text.Lowercase

/-!
# Settings from variables

A variable specifies a setting if its name, in lower case, starts with `proftree_`. In what follows,
two underscores lead from a table to an entry of it, so a variable can also put a table or a list
where a text is expected.
-/

namespace EvidenceTree.Settings

/-! ## Names -/

/-- What a variable's name has to start with, in lower case. -/
def namePrefix : List Char := "proftree_".toList

/-- A name with a dot in place of two underscores. -/
def dotted : List Char → List Char
  | '_' :: '_' :: rest => '.' :: dotted rest
  | c :: rest => c :: dotted rest
  | [] => []

/-- The dotted name of the setting that a variable specifies, if it does so. -/
def settingName? (variableName : String) : Option String :=
  (Text.word? namePrefix (Text.lower variableName).toList).map fun name =>
    String.ofList (dotted name.1)

/-! ## Paths -/

/-- A character of an entry's name. -/
def isEntryChar (c : Char) : Bool := c.isAlphanum || c = '_' || c = '-' || c = ' '

/-- A character that may stand beside an index. -/
def isIndexBlank (c : Char) : Bool := c = ' ' || c = '\t'

/-- The text of an index is a number of 64 bits. -/
def isIndex (written : List Char) : Bool :=
  let trimmed := ((written.dropWhile isIndexBlank).reverse.dropWhile isIndexBlank).reverse
  let (negative, digits) :=
    match trimmed with
    | '-' :: digits => (true, digits)
    | digits => (false, digits)
  let magnitude := digits.foldl (fun n c => n * 10 + (c.toNat - '0'.toNat)) 0
  !digits.isEmpty && digits.all Char.isDigit &&
    magnitude < (if negative then 2 ^ 63 + 1 else 2 ^ 63)

/-- A step of a path: to an entry of a table, or into a list. -/
inductive Step where
  | entry (name : String)
  | index

/-- The steps that a dotted name spells behind its first name; `name` is the part that has been
read of the present one, from behind. -/
def steps? : (name : List Char) → (s : List Char) → Option (List Step)
  | name, [] => if name.isEmpty then none else some [.entry (String.ofList name.reverse)]
  | name, c :: rest =>
    if isEntryChar c then steps? (c :: name) rest
    else if name.isEmpty then none
    else if c = '.' then (steps? [] rest).map (.entry (String.ofList name.reverse) :: ·)
    else if c = '[' then (indices? [] rest).map (.entry (String.ofList name.reverse) :: ·)
    else none
where
  /-- The steps behind an opening bracket; `written` is the part of the index read, from behind. -/
  indices? : (written : List Char) → (s : List Char) → Option (List Step)
    | _, [] => none
    | written, ']' :: rest =>
      if isIndex written.reverse then
        match rest with
        | [] => some [.index]
        | '.' :: rest' => (steps? [] rest').map (.index :: ·)
        | '[' :: rest' => (indices? [] rest').map (.index :: ·)
        | _ => none
      else none
    | written, c :: rest => indices? (c :: written) rest

/-- The path that a dotted name spells; a name that spells none is a single entry. -/
def pathOf (name : String) : List Step := (steps? [] name.toList).getD [.entry name]

/-! ## Entries -/

/-- What variables put under a name: a text, a table, or a list, of which nothing is read. -/
inductive Entry where
  | text (s : String)
  | table (members : List (String × Entry))
  | list
  deriving Inhabited

namespace Entry

/-- What stands at the start of a path once a text is put at its end. What stood in the way gives
way to a table or a list. -/
def put (value : String) : (path : List Step) → Option Entry → Entry
  | [], _ => text value
  | .index :: _, _ => list
  | .entry name :: path, current =>
    let members := match current with
      | some (table members) => members
      | _ => []
    table (Assoc.insert name (put value path (Assoc.find? name members)) members)

/-- What stands behind names. -/
def find? : (names : List String) → Entry → Option Entry
  | [], entry => some entry
  | name :: names, table members => (Assoc.find? name members).bind (find? names)
  | _ :: _, _ => none

/-- The table of all settings that variables specify by their values, each variable in turn. -/
def ofVariables (values : Assoc String) : Entry :=
  values.foldl
    (fun entry pair =>
      match settingName? pair.1 with
      | some name => put pair.2 (pathOf name) (some entry)
      | none => entry)
    (table [])

end Entry

/-! ## Values -/

/-- The truth value that a word stands for. -/
def truth? : String → Option Bool
  | "1" | "true" | "on" | "yes" => some true
  | "0" | "false" | "off" | "no" => some false
  | _ => none

/-- The truth value of an entry. -/
def Entry.bool : Entry → Except SettingsFault Bool
  | text s =>
    match truth? (Text.lower s) with
    | some b => .ok b
    | none => .error (.noBoolean (Text.lower s))
  | table _ => .error .booleanTable
  | list => .error .booleanList

/-- The text that an entry is. -/
def Entry.text? : Entry → Option String
  | text s => some s
  | _ => none

/-- The key policy that a text names, blank characters around it and its case set aside. -/
def policyOfText (s : String) : Except SettingsFault KeyPolicy :=
  let name := Text.lower (Text.trim s)
  match KeyPolicy.ofName? name with
  | some policy => .ok policy
  | none => .error (.noKeyPolicy name)

/-- The layer that variables specify. -/
def Layer.ofVariables (values : Assoc String) : Except SettingsFault Layer := do
  let entry := Entry.ofVariables values
  let caseSensitive ← (entry.find? ["matching", "case_sensitive"]).mapM Entry.bool
  let keyPolicy ← ((entry.find? ["matching", "key_policy"]).bind Entry.text?).mapM policyOfText
  return { dataFile := (entry.find? ["data_file"]).bind Entry.text?, caseSensitive, keyPolicy }

end EvidenceTree.Settings
