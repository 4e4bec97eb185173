import EvidenceTree.Json.Fault
import EvidenceTree.Tree.Node

/-!
# Descriptors

A descriptor is the compact form of a node: an object with the members `v` (a literal), `r` (a
range), `m` (the key), `x` (the profile) and `n` (the children), or a list of them in this order
that may end early. Which of them are there decides what the node asks. A profile that is no number
of a profile is no fault; it is left out.
-/

namespace EvidenceTree

open Json (Misfit Value)

/-- The fields of a descriptor. -/
structure Descriptor where
  literal : Option Value := none
  range : Option Value := none
  key : Option String := none
  profile : Option Value := none
  children : List Nat := []

namespace Descriptor

/-! ## Fields -/

/-- A value that may be null. -/
def anyField : Value → Option Value
  | .null => none
  | value => some value

/-- The key, a text or null. -/
def keyField : Value → Except Misfit (Option String)
  | .null => .ok none
  | .string s => .ok (some s)
  | value => .error (.wrongKind value.found .text)

/-- One child index. -/
def childIndex : Value → Except Misfit Nat
  | .number (.integer value _) =>
    if 0 ≤ value then .ok value.toNat
    else .error (.negativeIndex value)
  | value => .error (.wrongKind value.found .index)

/-- The child indices, a list of natural numbers of 64 bits. -/
def childrenField : Value → Except Misfit (List Nat)
  | .array items => items.mapM childIndex
  | value => .error (.wrongKind value.found .sequence)

/-- The descriptor with the members of an object. The key is looked at before the children. -/
def ofMembers (members : Assoc Value) : Except Misfit Descriptor := do
  let key ← ((members.find? "m").map keyField).getD (.ok none)
  let children ← ((members.find? "n").map childrenField).getD (.ok [])
  .ok
    { literal := (members.find? "v").bind anyField
      range := (members.find? "r").bind anyField
      key := key
      profile := (members.find? "x").bind anyField
      children := children }

/-- The descriptor with the items of a list. -/
def ofItems (items : List Value) : Except Misfit Descriptor := do
  let key ← (items[2]?.map keyField).getD (.ok none)
  let children ← (items[4]?.map childrenField).getD (.ok [])
  if 5 < items.length then .error (.longDescriptor items.length)
  else
    .ok
      { literal := items[0]?.bind anyField
        range := items[1]?.bind anyField
        key := key
        profile := items[3]?.bind anyField
        children := children }

/-- The descriptor that a value spells. -/
def ofValue : Value → Except Misfit Descriptor
  | .object members => ofMembers members
  | .array items => ofItems items
  | value => .error (.wrongKind value.found .descriptor)

/-! ## What a node asks -/

/-- The text of a scalar. A float is written like a number of evidence. -/
def scalarLiteral? : Value → Option String
  | .string s => some s
  | .number (.integer value bounded) => some (Json.Number.integer value bounded).text
  | .number (.float value) => some (String.ofList value.plain)
  | .bool value => some (Json.boolText value)
  | _ => none

/-- The literal of a scalar, or of the scalar that stands first in a list. -/
def literal? : Value → Option String
  | .array (first :: _) => scalarLiteral? first
  | value => scalarLiteral? value

/-- The number, in the binary64 format. -/
def bound? : Value → Option Finite64
  | .number n => some n.toFinite
  | _ => none

/-- The bounds in a list of two numbers. -/
def pair? : List Value → Option (Finite64 × Finite64)
  | [low, high] => do return (← bound? low, ← bound? high)
  | _ => none

/-- The bounds in a list of two numbers, which may be wrapped in another list. -/
def range? : Value → Option (Finite64 × Finite64)
  | .array [.array inner] => pair? inner
  | .array items => pair? items
  | _ => none

/-- Why a descriptor says nothing that a node could ask. -/
inductive Defect where
  | unusableLiteral
  | unusableRange
  | noQuestion
  deriving DecidableEq

/-- The words for a defect. -/
def Defect.message : Defect → String
  | unusableLiteral => "literal must be a scalar or a non-empty list"
  | unusableRange => "range must be [min, max] of numbers"
  | noQuestion => "descriptor has neither a literal nor a range"

/-- What the node at an index asks: the root nothing, another node its literal, or else its
range. -/
def criterion (index : Nat) (descriptor : Descriptor) : Except Defect Criterion :=
  if index = 0 then .ok .root
  else match descriptor.literal, descriptor.range with
    | some value, _ =>
      match literal? value with
      | some text => .ok (.literal text)
      | none => .error .unusableLiteral
    | none, some value =>
      match range? value with
      | some (low, high) => .ok (.range low high)
      | none => .error .unusableRange
    | none, none => .error .noQuestion

/-! ## Profiles -/

/-- The number of a profile, if it has at most 32 bits. -/
def profileOfNat? (n : Nat) : Option ProfileId :=
  if n < 2 ^ 32 then some (UInt32.ofNat n) else none

/-- Digits in front of which a plus sign may stand. -/
def unsigned? (cs : List Char) : Option Nat :=
  let digits := match cs with
    | '+' :: rest => rest
    | cs => cs
  if digits ≠ [] ∧ digits.all Char.isDigit then some (Nat.ofDigitChars 10 digits 0) else none

/-- The profile that a value names. -/
def profileOf? : Value → Option ProfileId
  | .number n => n.toNat?.bind profileOfNat?
  | .string s => (unsigned? (Text.trimChars s.toList)).bind profileOfNat?
  | _ => none

/-- The profile of the node. -/
def profileId (descriptor : Descriptor) : Option ProfileId := descriptor.profile.bind profileOf?

/-! ## Nodes -/

/-- The node that a descriptor stands for at an index. -/
def node (index : Nat) (descriptor : Descriptor) : Except Defect Node :=
  (descriptor.criterion index).map fun criterion =>
    ⟨index, criterion, descriptor.key, descriptor.profileId, descriptor.children⟩

theorem criterion_eq_root_iff {index : Nat} {descriptor : Descriptor} {criterion : Criterion}
    (classified : descriptor.criterion index = .ok criterion) : criterion = .root ↔ index = 0 := by
  unfold Descriptor.criterion at classified
  split at classified
  · simp_all
  · split at classified
    · split at classified <;> simp_all
      subst classified
      simp
    · split at classified <;> simp_all
      subst classified
      simp
    · cases classified

end Descriptor

end EvidenceTree
