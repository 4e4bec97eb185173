import EvidenceTree.Proofs.Binary64.Integers
import EvidenceTree.Proofs.Binary64.Numerals
import EvidenceTree.Proofs.Document.Descriptors
import EvidenceTree.Proofs.Resolution.Policy
import EvidenceTree.Proofs.Text.Trimming

/-!
# Literals and the evidence that they are written like

A literal is compared with the text of the evidence. A text, a truth value and a float are written
alike on both sides. An integer keeps its digits as a literal but is rounded as evidence, so the two
agree where the number nearest to it is written with its own digits: always up to `2 ^ 53`, and not
for the first integer beyond.

* `Text.lower_eq_self`: what has no letters is its own lower-case form, so no case mode lets other
  digits pass.
* `Node.accepts_own_literal_iff`: which scalars a literal matches itself for.
* `Node.rejects_own_literal`: the least positive integer that it does not.
-/

namespace EvidenceTree

/-! ## Characters without case -/

/-- A character of the first 128 that is its own lower-case form. -/
def Text.Caseless (c : Char) : Prop := c.toNat < 0x80 ∧ c.toLower = c

theorem Text.lowerAfter_eq_self {before cs : List Char} (caseless : ∀ c ∈ cs, Caseless c) :
    lowerAfter before cs = cs := by
  induction cs generalizing before with
  | nil => rfl
  | cons c rest ih =>
    obtain ⟨⟨first, kept⟩, others⟩ := List.forall_mem_cons.1 caseless
    have noSigma : c ≠ 'Σ' := by
      rintro rfl
      exact absurd first (by decide)
    unfold lowerAfter lowerChar
    rw [if_neg noSigma, if_pos first, kept, ih others]
    rfl

theorem Text.lower_eq_self {cs : List Char} (caseless : ∀ c ∈ cs, Caseless c) :
    lower (String.ofList cs) = String.ofList cs := by
  unfold lower
  rw [String.toList_ofList, lowerAfter_eq_self caseless]

/-- Texts without case agree in every case mode only where they are the same. -/
theorem CaseMode.agree_iff_of_caseless {mode : CaseMode} {a b : List Char}
    (caseless : ∀ c ∈ a, Text.Caseless c) (caseless' : ∀ c ∈ b, Text.Caseless c) :
    mode.Agree (String.ofList a) (String.ofList b) ↔ a = b := by
  cases mode with
  | sensitive => exact String.ofList_inj
  | insensitive =>
    unfold Agree
    dsimp only
    rw [Text.lower_eq_self caseless, Text.lower_eq_self caseless']
    exact String.ofList_inj

theorem CaseMode.agree_refl (mode : CaseMode) (s : String) : mode.Agree s s := by
  cases mode <;> rfl

theorem IsNumeral.caseless {c : Char} (numeral : IsNumeral c) : Text.Caseless c := by
  rcases numeral with digit | rfl | rfl
  · have range := isDigit_iff.1 digit
    exact ⟨by omega, toLower_of_isDigit digit⟩
  · exact ⟨by decide, by decide⟩
  · exact ⟨by decide, by decide⟩

/-! ## Literals as evidence -/

/-- A text, a truth value or a number. -/
def Json.Value.IsScalar : Json.Value → Prop
  | .string _ | .bool _ | .number _ => True
  | _ => False

/-- An integer, where the value is one, is written with its own digits once it is rounded. -/
def Json.Value.KeepsDigits : Json.Value → Prop
  | .number (.integer n bounded) =>
    (Json.Number.integer n bounded).toFinite.plain = Json.integerChars n
  | _ => True

theorem Json.Value.keepsDigits_of_small {n : Int} {bounded : -(2 ^ 63) ≤ n ∧ n < 2 ^ 64}
    (small : n.natAbs ≤ 2 ^ 53) : (Json.Value.number (.integer n bounded)).KeepsDigits :=
  Finite64.plain_ofInt64 small _

namespace Descriptor

variable {source value s : Json.Value} {text : String}

/-- The text of a scalar is met by the evidence that the scalar gives, unless rounding changes its
digits. -/
theorem SpellsScalar.agree_iff (spells : SpellsScalar s text) :
    ∃ value, Evidence.Value.ofJson? s = some value ∧
      ∀ mode : CaseMode, mode.Agree text value.toText ↔ s.KeepsDigits := by
  cases spells with
  | string => exact ⟨_, rfl, fun mode => iff_of_true (mode.agree_refl _) trivial⟩
  | @bool value =>
    cases value with
    | false => exact ⟨_, rfl, fun mode => iff_of_true (mode.agree_refl _) trivial⟩
    | true => exact ⟨_, rfl, fun mode => iff_of_true (mode.agree_refl _) trivial⟩
  | @integer n =>
    refine ⟨_, rfl, fun mode => ?_⟩
    have literal : ∀ c ∈ Json.integerChars n, Text.Caseless c :=
      fun _ isChar => (Json.isNumeral_integerChars isChar).caseless
    refine (CaseMode.agree_iff_of_caseless literal fun _ isChar => ?_).trans eq_comm
    exact (Finite64.isNumeral_plain isChar).caseless
  | float => exact ⟨_, rfl, fun mode => iff_of_true (mode.agree_refl _) trivial⟩

/-- A literal is spelt as the scalar that it is or that stands first in it. -/
theorem SpellsLiteral.spellsScalar (spells : SpellsLiteral value text) (scalar : s.IsScalar)
    (own : value = s ∨ ∃ rest, value = .array (s :: rest)) : SpellsScalar s text := by
  cases spells with
  | scalar spells =>
    rcases own with rfl | ⟨rest, rfl⟩
    · exact spells
    · cases spells
  | first spells =>
    rcases own with rfl | ⟨rest, same⟩
    · cases scalar
    · cases same
      exact spells

end Descriptor

open Descriptor in
/-- A node whose literal is a scalar, or a list that the scalar stands first in, accepts the
evidence that the scalar gives, in each case mode, unless rounding changes its digits. -/
theorem Node.accepts_own_literal_iff {size index : Nat} {source value s : Json.Value} {node : Node}
    (decoded : decodeNode size index source = .ok node) (above : index ≠ 0)
    (said : content? source .literal = some value) (scalar : s.IsScalar)
    (own : value = s ∨ ∃ rest, value = .array (s :: rest)) :
    ∃ evidence, Evidence.Value.ofJson? s = some evidence ∧
      ∀ mode, node.criterion.accepts mode evidence = true ↔ s.KeepsDigits := by
  obtain ⟨stands, -⟩ := decodeNode_eq_ok_iff.1 decoded
  have asks := stands.asks above
  generalize node.criterion = criterion at asks
  rcases asks with ⟨said', spells⟩ | ⟨silent, -, -⟩
  · cases said.symm.trans said'
    obtain ⟨evidence, given, agree⟩ := (spells.spellsScalar scalar own).agree_iff
    refine ⟨evidence, given, fun mode => ?_⟩
    rw [Criterion.accepts_iff_met, ← agree mode]
    exact ⟨fun met => by cases met; assumption, .literal⟩
  · cases said.symm.trans silent

/-- A descriptor with an integer as its literal and nothing else. -/
def integerDescriptor (n : Int) (bounded : -(2 ^ 63) ≤ n ∧ n < 2 ^ 64) : Json.Value :=
  .object [("v", .number (.integer n bounded))]

open Descriptor in
theorem Node.accepts_own_literal_iff_seven :
    ∃ node, decodeNode 2 1 (integerDescriptor 7 (by decide)) = .ok node ∧
      ∃ evidence, Evidence.Value.ofJson? (.number (.integer 7 (by decide))) = some evidence ∧
        ∀ mode, node.criterion.accepts mode evidence = true := by
  have decoded : decodeNode 2 1 (integerDescriptor 7 (by decide)) =
      .ok ⟨1, .literal "7", none, none, []⟩ := rfl
  have said : content? (integerDescriptor 7 (by decide)) .literal =
      some (.number (.integer 7 (by decide))) := rfl
  have scalar : (Json.Value.number (.integer 7 (by decide))).IsScalar := trivial
  obtain ⟨evidence, given, accepts_iff⟩ :=
    Node.accepts_own_literal_iff decoded (by decide) said scalar (.inl rfl)
  exact ⟨_, decoded, evidence, given, fun mode =>
    (accepts_iff mode).2 (Json.Value.keepsDigits_of_small (by decide))⟩

/-- The first integer beyond `2 ^ 53` is rounded down to it, so a literal that it stands in does not
accept it. -/
theorem Node.rejects_own_literal :
    ∃ node, decodeNode 2 1 (integerDescriptor (2 ^ 53 + 1) (by decide)) = .ok node ∧
      ∃ evidence,
        Evidence.Value.ofJson? (.number (.integer (2 ^ 53 + 1) (by decide))) = some evidence ∧
          ∀ mode, node.criterion.accepts mode evidence = false := by
  refine ⟨⟨1, .literal "9007199254740993", none, none, []⟩, by decide +kernel, _, rfl,
    fun mode => ?_⟩
  cases mode <;> decide +kernel

end EvidenceTree
