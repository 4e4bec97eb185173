import EvidenceTree.Json.Reader
import EvidenceTree.Json.Skip

/-!
# Documents

A published document holds a version, a publication date and the descriptors of its nodes. It is an
object, or a list of the three in this order; members of other names are passed over. A member that
is null counts as absent, but none of the three may stand twice.
-/

namespace EvidenceTree

open Json (Fault Misfit Value)
open Text (Read Symbol)

/-- The three parts of a document, as far as they are there. -/
structure Document where
  version : Option Value := none
  publishDate : Option Value := none
  data : Option (List Value) := none

namespace Document

/-! ## Parts -/

/-- The value, unless it is null. -/
def present : Value → Option Value
  | .null => none
  | value => some value

/-- The levels of nesting within a document. -/
def innerLevels : Nat := Json.maxLevels - 1

/-- A version or a publication date, of any kind. -/
def readPart (s : List Symbol) : Except Fault (Read (Option Value) s) :=
  (Json.value innerLevels s).map (·.map present)

/-- The fault of a value that is not the kind that is wanted. A scalar is read first, so that its
own faults come before. -/
def wrongKind (wanted : Json.Wanted) (s : List Symbol) : Fault :=
  match Json.next s with
  | some ⟨some '[', _, _⟩ => .misfit (.wrongKind .array wanted)
  | some ⟨some '\x7b', _, _⟩ => .misfit (.wrongKind .object wanted)
  | _ =>
    match Json.valueWith none s with
    | .error fault => fault
    | .ok read => .misfit (.wrongKind read.item.found wanted)

/-- The list of descriptors, or null. -/
def readData (s : List Symbol) : Except Fault (Read (Option (List Value)) s) :=
  match Json.next s with
  | some ⟨some 'n', rest, shorter⟩ =>
    (Json.word ['u', 'l', 'l'] rest).map fun r => r.read shorter none
  | some ⟨some '[', rest, shorter⟩ =>
    (Json.list (Json.value (innerLevels - 1)) rest).map fun read => (read.after shorter).map some
  | _ => .error (wrongKind .sequence s)

/-! ## As an object -/

/-- The names of the parts. -/
inductive Part where
  | version
  | publishDate
  | data
  deriving DecidableEq

/-- The part with a name. -/
def Part.ofName? (name : String) : Option Part :=
  if name = "Version" then some .version
  else if name = "PublishDate" then some .publishDate
  else if name = "Data" then some .data
  else none

/-- The parts read so far, and those that are no longer allowed. -/
structure Progress where
  document : Document := {}
  taken : List Part := []

/-- A part is refused where it has been taken already. -/
def allowPart (progress : Progress) (name : String) : Except Fault Unit :=
  match Part.ofName? name with
  | some part =>
    if progress.taken.contains part then .error (.misfit (.repeated name)) else .ok ()
  | none => .ok ()

/-- Takes a part, or passes over a member of another name. -/
def takePart (progress : Progress) (name : String) (s : List Symbol) :
    Except Fault (Read Progress s) :=
  let document := progress.document
  match Part.ofName? name with
  | some .version => (readPart s).map (·.map fun part =>
      ⟨{ document with version := part }, .version :: progress.taken⟩)
  | some .publishDate => (readPart s).map (·.map fun part =>
      ⟨{ document with publishDate := part }, .publishDate :: progress.taken⟩)
  | some .data => (readData s).map (·.map fun data =>
      ⟨{ document with data := data }, .data :: progress.taken⟩)
  | none => (Json.skipValue s).map (·.map fun _ => progress)

/-- How the members of a document are read. -/
def partReader : Json.MemberReader Progress := ⟨allowPart, takePart⟩

/-- A document as an object, behind its opening brace. -/
def readObject (s : List Symbol) : Except Fault (Read Document s) :=
  (Json.members partReader {} s).map (·.map Progress.document)

/-! ## As a list -/

/-- A part that another item has to follow; `length` items are read then. -/
def partBefore (length : Nat) (s : List Symbol) : Except Fault (Read (Option Value) s) := do
  let part ← readPart s
  let after ← Json.afterItem part.rest
  match after.item with
  | .done => .error (.misfit (.shortDocument length))
  | .more => .ok (part.upTo after.left)

/-- The end of the list, of which all items are read. -/
def endOfList (s : List Symbol) : Except Fault (Read Unit s) :=
  match Json.next s with
  | none => .error (.ended .list)
  | some ⟨some ']', rest, shorter⟩ => .ok ⟨(), rest, shorter⟩
  | some ⟨some ',', rest, _⟩ =>
    match Json.next rest with
    | some ⟨some ']', _, _⟩ => .error .trailingComma
    | _ => .error .trailingText
  | some _ => .error .trailingText

/-- A document as a list, behind its opening bracket. -/
def readList (s : List Symbol) : Except Fault (Read Document s) :=
  match Json.next s with
  | none => .error (.ended .list)
  | some ⟨some ']', _, _⟩ => .error (.misfit (.shortDocument 0))
  | some _ => do
    let version ← partBefore 1 s
    let publishDate ← partBefore 2 version.rest
    let data ← readData publishDate.rest
    let ended ← endOfList data.rest
    .ok (version.join (publishDate.join (data.upTo ended.left) Prod.mk) fun version others =>
      ⟨version, others.1, others.2⟩)

/-! ## The whole text -/

/-- The document that the symbols spell. -/
def ofSymbols (s : List Symbol) : Except Fault Document :=
  match Json.next s with
  | some ⟨some '\x7b', rest, _⟩ => do
    let read ← readObject rest
    Json.endOfText read.rest
    .ok read.item
  | some ⟨some '[', rest, _⟩ => do
    let read ← readList rest
    Json.endOfText read.rest
    .ok read.item
  | _ => .error (wrongKind .document s)

end Document

end EvidenceTree
