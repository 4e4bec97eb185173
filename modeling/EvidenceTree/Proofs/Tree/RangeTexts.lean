import EvidenceTree.Proofs.Json.Numerals
import EvidenceTree.Proofs.Json.Scaling
import EvidenceTree.Proofs.Tree.Ranges

/-!
# Ranges and decimals that are written like their bounds

A decimal in a document is rounded at each step of its scaling, the same decimal in a text of the
evidence once. So a range whose two bounds are one decimal accepts this decimal as a text exactly
where the steps lead to the nearest number. They do for short decimals, and not for all.

* `Criterion.accepts_text_iff`: a range of one number accepts the texts of decimals that are nearest
  to it.
* `Node.accepts_own_bound_iff`: which decimals a range of two equal bounds accepts as texts.
* `Node.rejects_own_bound`: a decimal of one digit that it does not.
-/

namespace EvidenceTree

variable {cs : List Char} {numeral : Json.Numeral} {bound : Finite64}

/-- A range of one number accepts the texts of decimals that are nearest to it. -/
theorem Criterion.accepts_text_iff {mode : CaseMode} (spells : Json.SpellsNumeral cs numeral)
    (sign : bound.negative = numeral.negative) :
    (Criterion.range bound bound).accepts mode (.text (String.ofList cs)) = true ↔
      numeral.nearest = .finite bound := by
  have number : (Evidence.Value.text (String.ofList cs)).toNumber? = some numeral.nearest :=
    Binary64.ofText?_of_spells spells
  rw [accepts_range_iff, number]
  constructor
  · intro inside
    rcases inside with ⟨x, isNearest, lower, upper⟩
    have isFinite := Option.some.inj isNearest
    have same : x = bound := Finite64.eq_of_units
      ((Binary64.negative_of_ofRatio isFinite).trans sign.symm) (Int.le_antisymm upper lower)
    rw [isFinite, same]
  · intro isNearest
    exact ⟨bound, congrArg some isNearest, Int.le_refl _, Int.le_refl _⟩

open Descriptor in
/-- A node whose range holds a decimal twice accepts the decimal as a text exactly where the number
that the document reader makes of it is the nearest one, and so every short decimal. -/
theorem Node.accepts_own_bound_iff {size index : Nat} {source range : Json.Value} {node : Node}
    (spells : Json.SpellsNumeral cs numeral) (unpadded : numeral.IsUnpadded)
    (isFloat : numeral.IsFloat)
    (read : Json.Value.ofText (String.ofList (Json.pairChars cs)) = .ok range)
    (decoded : decodeNode size index source = .ok node) (above : index ≠ 0)
    (silent : content? source .literal = none) (said : content? source .range = some range) :
    ∃ bound, numeral.float? = some (.float bound) ∧ node.criterion = .range bound bound ∧
      ∀ mode, (node.criterion.accepts mode (.text (String.ofList cs)) = true ↔
          numeral.nearest = .finite bound) ∧
        (numeral.IsShort → node.criterion.accepts mode (.text (String.ofList cs)) = true) := by
  obtain ⟨stands, -⟩ := decodeNode_eq_ok_iff.1 decoded
  rw [Json.Value.ofText_pair spells unpadded, Json.Numeral.number?_of_isFloat isFloat] at read
  split at read
  · rename_i n isNumber
    cases read
    obtain ⟨m, -, rfl⟩ := Json.Numeral.float?_eq_some_iff.1 isNumber
    have asked : node.criterion = .range ⟨numeral.negative, m⟩ ⟨numeral.negative, m⟩ :=
      stands.criterion_eq_range above silent said (.inl rfl)
    refine ⟨_, isNumber, asked, fun mode => ?_⟩
    rw [asked, Criterion.accepts_text_iff spells rfl]
    exact ⟨Iff.rfl, fun short => Json.Numeral.nearest_of_isShort short isNumber⟩
  · cases read

/-- Two and a half, as a decimal and as the float that is read of it. -/
def Json.Numeral.twoAndHalf : Numeral := ⟨false, ['2'], ['5'], none⟩

@[inherit_doc Json.Numeral.twoAndHalf]
def Finite64.twoAndHalf : Finite64 :=
  ⟨false, ⟨5 * 2 ^ 50, 1023, by decide, .inr (by decide), by decide⟩⟩

theorem Node.accepts_own_bound_iff_twoAndHalf :
    ∃ bound node, Json.Value.ofText "[2.5,2.5]" = .ok (.array [.number bound, .number bound]) ∧
      decodeNode 2 1 (rangeDescriptor bound bound) = .ok node ∧
        ∀ mode, node.criterion.accepts mode (.text "2.5") = true := by
  have spells : Json.SpellsNumeral ['2', '.', '5'] .twoAndHalf :=
    ⟨by decide, List.forall_mem_singleton.2 (by decide), [], .none, rfl⟩
  have unpadded : Json.Numeral.twoAndHalf.IsUnpadded := nofun
  have isNumber : Json.Numeral.twoAndHalf.number? = some (.float .twoAndHalf) := by decide +kernel
  have read : Json.Value.ofText "[2.5,2.5]" =
      .ok (.array [.number (.float .twoAndHalf), .number (.float .twoAndHalf)]) := by
    have pair := Json.Value.ofText_pair spells unpadded
    rw [isNumber] at pair
    exact pair
  have decoded : decodeNode 2 1 (rangeDescriptor (.float .twoAndHalf) (.float .twoAndHalf)) =
      .ok ⟨1, .range .twoAndHalf .twoAndHalf, none, none, []⟩ := rfl
  obtain ⟨bound, -, -, accepts⟩ := Node.accepts_own_bound_iff spells unpadded
    (.inl (List.cons_ne_nil _ _)) read decoded (by decide) rfl rfl
  exact ⟨_, _, read, decoded, fun mode => (accepts mode).2 ⟨by decide, by decide⟩⟩

/-- Three times `10 ^ 23`, as a decimal. -/
def Json.Numeral.threeTimesPower : Numeral := ⟨false, ['3'], [], some 23⟩

/-- The float that is read of three times `10 ^ 23`, which is the one below the nearest one. -/
def Finite64.threeTimesPower : Finite64 :=
  ⟨false, ⟨8940696716308593, 1099, by decide, .inr (by decide), by decide⟩⟩

namespace Json

theorem spells_threeTimesPower : SpellsNumeral ['3', 'e', '2', '3'] .threeTimesPower :=
  ⟨by decide, nofun, ['e', '2', '3'], .unsigned (.inl rfl) (by decide), rfl⟩

theorem number?_threeTimesPower :
    Numeral.threeTimesPower.number? = some (.float .threeTimesPower) := by
  decide +kernel

theorem nearest_threeTimesPower_ne :
    Numeral.threeTimesPower.nearest ≠ .finite .threeTimesPower := by
  decide +kernel

end Json

/-- A tenth power that is no number of the format is rounded before it is multiplied, so a range
with a decimal of one digit as its bounds does not accept the decimal as a text. -/
theorem Node.rejects_own_bound :
    ∃ bound node, Json.Value.ofText "[3e23,3e23]" = .ok (.array [.number bound, .number bound]) ∧
      decodeNode 2 1 (rangeDescriptor bound bound) = .ok node ∧
        ∀ mode, node.criterion.accepts mode (.text "3e23") = false := by
  have read : Json.Value.ofText "[3e23,3e23]" =
      .ok (.array [.number (.float .threeTimesPower), .number (.float .threeTimesPower)]) := by
    have pair := Json.Value.ofText_pair Json.spells_threeTimesPower nofun
    rw [Json.number?_threeTimesPower] at pair
    exact pair
  refine ⟨_, _, read, rfl, fun mode => ?_⟩
  rw [← Bool.not_eq_true]
  exact mt (Criterion.accepts_text_iff Json.spells_threeTimesPower rfl).1
    Json.nearest_threeTimesPower_ne

end EvidenceTree
