import EvidenceTree.Evidence.Basic
import EvidenceTree.Loading.Failure

/-!
# Loading files

Trees and evidence from files. A tree file that cannot be opened, one that cannot be read and one
that holds no tree fail in three ways; an evidence file that cannot be read fails as one that holds
no evidence.
-/

namespace EvidenceTree

open Evidence (Record)

/-- The stream of an opened file. -/
def Opened.stream : Opened → Stream
  | content bytes => ⟨[bytes], none⟩
  | unreadable fault => ⟨[], some fault.message⟩

/-- The tree in the file at a path. -/
def loadTree (fs : FileSystem) (path : String) : Except Failure Tree :=
  match fs.openFile path with
  | .error fault => .error (.unopened .openTree path fault)
  | .ok opened => (Builder.buildStream {} opened.stream).1.mapError .tree

section

variable {fs : FileSystem} {path : String} {fault : FileFault} {bytes : ByteArray}

theorem loadTree_of_unopened (unopened : fs.openFile path = .error fault) :
    loadTree fs path = .error (.unopened .openTree path fault) := by
  unfold loadTree
  rw [unopened]

theorem loadTree_of_unreadable (opened : fs.openFile path = .ok (.unreadable fault)) :
    loadTree fs path = .error (.tree (.read fault.message)) := by
  unfold loadTree
  rw [opened]
  rfl

/-- What a file holds decides what is loaded. -/
theorem loadTree_of_content (opened : fs.openFile path = .ok (.content bytes)) :
    loadTree fs path = (Builder.buildBytes {} bytes).1.mapError fun cause =>
      .tree (.malformed cause) := by
  have delivered : (Opened.content bytes).stream.bytes = bytes := ByteArray.empty_append
  unfold loadTree
  rw [opened]
  change ((Builder.buildBytes {} (Opened.content bytes).stream.bytes).1.mapError _).mapError _ = _
  rw [delivered]
  cases (Builder.buildBytes {} bytes).1 <;> rfl

/-- A tree is loaded exactly from a file that was read and whose bytes build it. -/
theorem loadTree_eq_ok_iff {tree : Tree} :
    loadTree fs path = .ok tree ↔ ∃ bytes, fs.openFile path = .ok (.content bytes) ∧
      (Builder.buildBytes {} bytes).1 = .ok tree := by
  cases opened : fs.openFile path with
  | error fault => simp [loadTree_of_unopened opened]
  | ok stream =>
    cases stream with
    | unreadable fault => simp [loadTree_of_unreadable opened]
    | content bytes =>
      rw [loadTree_of_content opened]
      cases made : (Builder.buildBytes {} bytes).1 with
      | error cause =>
        change Except.error _ = _ ↔ _
        simp [made]
      | ok built =>
        change Except.ok built = _ ↔ _
        simp [made]

end

/-- The JSON value in the file at a path. -/
def loadJson (fs : FileSystem) (path : String) : Except Failure Json.Value :=
  match fs.openFile path with
  | .error fault => .error (.unopened .openEvidence path fault)
  | .ok (.unreadable fault) => .error (.evidence path (.unread fault))
  | .ok (.content bytes) =>
    (Json.Value.ofSymbols (Text.Symbol.ofBytes bytes)).mapError fun fault =>
      .evidence path (.unreadable fault)

/-- The record of evidence that a value is. -/
def recordOf? : Json.Value → Option Record
  | .object members => some members
  | _ => none

/-- The record of evidence in the file at a path. -/
def loadRecord (fs : FileSystem) (path : String) : Except Failure Record := do
  let value ← loadJson fs path
  match recordOf? value with
  | some record => .ok record
  | none => .error (.evidence path (.noObject value.kindName))

/-- The records that values are, the first at an index. The first value that is none is
reported. -/
def recordsFrom : (index : Nat) → List Json.Value → Except EvidenceFault (List Record)
  | _, [] => .ok []
  | index, value :: rest =>
    match recordOf? value with
    | some record => (recordsFrom (index + 1) rest).map (record :: ·)
    | none => .error (.noRecord index value.kindName)

/-- The records of evidence in the file at a path. -/
def loadRecords (fs : FileSystem) (path : String) : Except Failure (List Record) := do
  match ← loadJson fs path with
  | .array items => (recordsFrom 0 items).mapError (.evidence path)
  | _ => .error (.evidence path .noArray)

end EvidenceTree
