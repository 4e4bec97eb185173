import EvidenceTree.Assoc
import EvidenceTree.Toml.Basic

/-!
# TOML tables from their statements

What headers and assignments add to a table. A table is made by a header, on the way to a deeper
table, or by a dotted key, and that decides what may still be added to it: a header opens a table
once, and dotted keys add to no table that a header has opened.
-/

namespace EvidenceTree.Toml

/-- How a table came about: by a header of its own, on the way to a deeper table, or by a dotted
key. -/
inductive Origin where
  | opened
  | implied
  | dotted
  deriving DecidableEq

/-- What stands under a name while a document is put together: a value, a table, or the tables of an
array of tables. -/
inductive Item where
  | value (v : Value)
  | table (origin : Origin) (members : List (String × Item))
  | tables (elements : List (List (String × Item)))
  deriving Inhabited

/-- The members of a table while a document is put together. -/
abbrev Members := Assoc Item

/-! ## As values -/

mutual

/-- The value that an item has become. -/
def Item.toValue : Item → Value
  | .value v => v
  | .table _ members => .table (memberValues members)
  | .tables elements => .array (elementValues elements)

/-- The values of members. -/
def memberValues : List (String × Item) → List (String × Value)
  | [] => []
  | (name, item) :: rest => (name, item.toValue) :: memberValues rest

/-- The tables of an array of tables. -/
def elementValues : List (List (String × Item)) → List Value
  | [] => []
  | members :: rest => .table (memberValues members) :: elementValues rest

end

/-! ## Changes along a path -/

/-- The members with those of the table at the end of a path changed. Missing tables on the way are
made, of the origin `made`; an array of tables leads to its last table. Dotted keys do not lead into
a table that a header has opened. -/
def within (made : Origin) (change : Origin → Members → Option Members) :
    (path : List String) → Origin → Members → Option Members
  | [], origin, members => change origin members
  | name :: path, _, members =>
    match Assoc.find? name members with
    | none =>
      (within made change path made []).map fun inner =>
        Assoc.insert name (.table made inner) members
    | some (.value _) => none
    | some (.table origin inner) =>
      if made = .dotted ∧ origin = .opened then none
      else
        (within made change path origin inner).map fun inner =>
          Assoc.insert name (.table origin inner) members
    | some (.tables elements) =>
      (within made change path .opened (elements.getLastD [])).map fun inner =>
        Assoc.insert name (.tables (elements.dropLast ++ [inner])) members

/-! ## Assignments -/

/-- A value assigned to a key. -/
structure Assignment where
  key : List String
  value : Value

/-- The members with a value under a new name. A name alone adds to a table that no dotted key has
made, and a dotted key to one that such a key has made. -/
def assignName (isDotted : Bool) (name : String) (value : Value) (origin : Origin)
    (members : Members) : Option Members :=
  if (origin = .dotted) ≠ isDotted then none
  else if (Assoc.find? name members).isSome then none
  else some (Assoc.insert name (.value value) members)

/-- The members of a table with an assignment. -/
def assign (members : Members) (assignment : Assignment) : Option Members :=
  let path := assignment.key.dropLast
  within .dotted (assignName (!path.isEmpty) (assignment.key.getLastD "") assignment.value) path
    .opened members

/-- The members of a table with assignments, each in turn. -/
def assignAll (members : Members) (assignments : List Assignment) : Option Members :=
  assignments.foldlM assign members

/-- The table of assignments on one line. -/
def inlineTable? (assignments : List Assignment) : Option Value :=
  (assignAll [] assignments).map fun members => .table (memberValues members)

/-! ## Blocks -/

/-- A header with the assignments below it: one that opens a table, or one that adds a table to an
array of tables. -/
structure Block where
  path : List String
  addsToArray : Bool
  assignments : List Assignment

/-- What stands under the last name of a header once its block is read. -/
def openBlock (block : Block) (before : Option Item) : Option Item :=
  if block.addsToArray then
    match before with
    | none => (assignAll [] block.assignments).map fun members => .tables [members]
    | some (.tables elements) =>
      (assignAll [] block.assignments).map fun members => .tables (elements ++ [members])
    | some _ => none
  else
    match before with
    | none => (assignAll [] block.assignments).map (.table .opened)
    | some (.table .implied members) =>
      (assignAll members block.assignments).map (.table .opened)
    | some _ => none

/-- The members of the whole document with a block. -/
def addBlock (members : Members) (block : Block) : Option Members :=
  let name := block.path.getLastD ""
  within .implied
    (fun _ members =>
      (openBlock block (Assoc.find? name members)).map fun item =>
        Assoc.insert name item members)
    block.path.dropLast .opened members

/-- The statements of a document: assignments of the document itself, and blocks. -/
structure Document where
  assignments : List Assignment
  blocks : List Block

/-- The table that a document stands for. -/
def Document.table? (document : Document) : Option Value := do
  let members ← assignAll [] document.assignments
  let members ← document.blocks.foldlM addBlock members
  some (.table (memberValues members))

end EvidenceTree.Toml
