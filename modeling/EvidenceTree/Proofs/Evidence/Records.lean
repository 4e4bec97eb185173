import EvidenceTree.Loading.Load
import EvidenceTree.Proofs.Document.Descriptors
import Mathlib.Data.List.Sort
import Mathlib.Data.String.Basic

/-!
# Records that are read

The reader keeps the members of an object under ascending names. So a record from a file gives the
same evidence whether a key is looked up in the record itself or among the values that are copied
out of it: where a member has no value, no later member of its name can come to light.

* `Assoc.Sorted`: ascending keys; `Assoc.sorted_insert`: what keeps them so.
* `Json.sorted_of_ofSymbols`: an object that is read has ascending names.
* `Evidence.Record.ofAssoc_values`: the two ways to look evidence up agree.
-/

namespace EvidenceTree

namespace Assoc

variable {α : Type} {key : String} {value : α} {assoc : Assoc α} {pair : String × α}

/-- The keys ascend, so none stands twice. -/
def Sorted (assoc : Assoc α) : Prop := assoc.Pairwise fun former latter => former.1 < latter.1

theorem mem_insert (isPair : pair ∈ insert key value assoc) : pair.1 = key ∨ pair ∈ assoc := by
  induction assoc with
  | nil =>
    rw [List.mem_singleton.1 isPair]
    exact .inl rfl
  | cons first rest ih =>
    unfold insert at isPair
    split at isPair
    · rcases List.mem_cons.1 isPair with rfl | isOther
      · exact .inl rfl
      · exact .inr (List.mem_cons_of_mem _ isOther)
    · split at isPair
      · rcases List.mem_cons.1 isPair with rfl | isOther
        · exact .inl rfl
        · exact .inr isOther
      · rcases List.mem_cons.1 isPair with rfl | inRest
        · exact .inr List.mem_cons_self
        · exact (ih inRest).imp_right (List.mem_cons_of_mem _)

theorem sorted_insert (sorted : Sorted assoc) (key : String) (value : α) :
    Sorted (insert key value assoc) := by
  induction assoc with
  | nil => exact List.pairwise_singleton _ _
  | cons first rest ih =>
    obtain ⟨k, v⟩ := first
    obtain ⟨least, sortedRest⟩ := List.pairwise_cons.1 sorted
    unfold insert
    split
    · rename_i same
      exact List.pairwise_cons.2 ⟨fun pair inRest => same ▸ least pair inRest, sortedRest⟩
    · rename_i differ
      split
      · rename_i less
        refine List.pairwise_cons.2 ⟨fun pair isPair => ?_, sorted⟩
        rcases List.mem_cons.1 isPair with rfl | inRest
        · exact less
        · exact String.lt_trans less (least pair inRest)
      · rename_i notLess
        refine List.pairwise_cons.2 ⟨fun pair isPair => ?_, ih sortedRest⟩
        rcases mem_insert isPair with isKey | inRest
        · rw [isKey]
          exact (lt_or_gt_of_ne differ).resolve_left notLess
        · exact least pair inRest

theorem find?_eq_none (absent : ∀ pair ∈ assoc, pair.1 ≠ key) : find? key assoc = none := by
  induction assoc with
  | nil => rfl
  | cons first rest ih =>
    obtain ⟨differ, absent⟩ := List.forall_mem_cons.1 absent
    exact (if_neg differ).trans (ih absent)

/-- Under ascending keys what stands in the list is what is found there. -/
theorem mem_iff_find?_eq (sorted : Sorted assoc) :
    (key, value) ∈ assoc ↔ find? key assoc = some value := by
  induction assoc with
  | nil => simp [find?]
  | cons first rest ih =>
    obtain ⟨k, v⟩ := first
    obtain ⟨least, sortedRest⟩ := List.pairwise_cons.1 sorted
    rw [List.mem_cons, ih sortedRest, find?, Prod.mk.injEq]
    split
    · rename_i same
      subst same
      have absent : find? k rest = none :=
        find?_eq_none fun pair inRest => (least pair inRest).ne'
      simp [absent, eq_comm]
    · rename_i differ
      simp [Ne.symm differ]

/-- Lists with ascending keys are the same where the same stands in them. -/
theorem eq_of_mem_iff {other : Assoc α} (sorted : Sorted assoc) (sorted' : Sorted other)
    (same : ∀ pair, pair ∈ assoc ↔ pair ∈ other) : assoc = other := by
  have antisymm : Std.Antisymm fun former latter : String × α => former.1 < latter.1 :=
    ⟨fun _ _ less greater => absurd less greater.not_gt⟩
  have irrefl : Std.Irrefl fun former latter : String × α => former.1 < latter.1 :=
    ⟨fun pair => lt_irrefl pair.1⟩
  exact sorted.eq_of_mem_iff sorted' same

end Assoc

/-! ## Objects that are read -/

namespace Json

open Text (Read Symbol)

variable {σ : Type} {reader : MemberReader σ} {known : σ} {s : List Symbol} {P : σ → Prop}

/-- What every member keeps is kept by an object. -/
def MemberReader.Keeps (reader : MemberReader σ) (P : σ → Prop) : Prop :=
  ∀ known name s read, P known → reader.take known name s = .ok read → P read.item

theorem member_keeps (keeps : reader.Keeps P) (holds : P known) {read : Read σ s}
    (run : member reader known s = .ok read) : P read.item := by
  obtain ⟨name, -, run⟩ := bind_eq_ok_iff.1 run
  obtain ⟨_, -, run⟩ := bind_eq_ok_iff.1 run
  split at run
  · cases run
  · obtain ⟨taken, takenRead, rfl⟩ := map_eq_ok_iff.1 run
    exact keeps _ _ _ taken holds takenRead
  · cases run

theorem membersFrom_keeps (keeps : reader.Keeps P) (holds : P known) {read : Read σ s}
    (run : membersFrom reader known s = .ok read) : P read.item := by
  induction known, s using membersFrom.induct with
  | case1 known s ih =>
    unfold membersFrom at run
    obtain ⟨first, firstRead, run⟩ := bind_eq_ok_iff.1 run
    obtain ⟨after, -, run⟩ := bind_eq_ok_iff.1 run
    have firstHolds : P first.item := member_keeps keeps holds firstRead
    split at run
    · cases run
      exact firstHolds
    · obtain ⟨all, othersRead, rfl⟩ := map_eq_ok_iff.1 run
      exact ih first after firstHolds othersRead

theorem members_keeps (keeps : reader.Keeps P) (holds : P known) {read : Read σ s}
    (run : members reader known s = .ok read) : P read.item := by
  unfold members at run
  split at run
  · cases run
  · cases run
    exact holds
  · obtain ⟨all, allRead, rfl⟩ := map_eq_ok_iff.1 run
    have kept : P all.item := membersFrom_keeps keeps holds allRead
    exact kept
  · cases run

theorem keepMember_keeps_sorted (nested : (s : List Symbol) → Except Fault (Read Value s)) :
    (keepMember nested).Keeps Assoc.Sorted := by
  intro known name s read sorted run
  obtain ⟨value, -, rfl⟩ := map_eq_ok_iff.1 run
  exact Assoc.sorted_insert sorted name value.item

/-- The names of an object that is read ascend. -/
def Value.HasSortedNames : Value → Prop
  | .object members => Assoc.Sorted members
  | _ => True

theorem hasSortedNames_container {nested : NestedReader} {isList : Bool} {read : Read Value s}
    (run : container nested isList s = .ok read) : read.item.HasSortedNames := by
  unfold container at run
  split at run
  · cases run
  · split at run
    · obtain ⟨items, -, rfl⟩ := map_eq_ok_iff.1 run
      trivial
    · obtain ⟨kept, keptRead, rfl⟩ := map_eq_ok_iff.1 run
      exact members_keeps (keepMember_keeps_sorted _) .nil keptRead

theorem hasSortedNames_valueWith {nested : NestedReader} {read : Read Value s}
    (run : valueWith nested s = .ok read) : read.item.HasSortedNames := by
  unfold valueWith at run
  split at run
  · cases run
  · split at run
    -- only a container can be an object
    case h_5 | h_6 =>
      obtain ⟨held, heldRead, rfl⟩ := map_eq_ok_iff.1 run
      have sorted : held.item.HasSortedNames := hasSortedNames_container heldRead
      exact sorted
    case h_8 =>
      split at run
      · obtain ⟨_, -, rfl⟩ := map_eq_ok_iff.1 run
        trivial
      · cases run
    case h_9 => cases run
    all_goals
      obtain ⟨_, -, rfl⟩ := map_eq_ok_iff.1 run
      trivial

/-- An object that is read has ascending names. -/
theorem hasSortedNames_of_ofSymbols {value : Value} (run : Value.ofSymbols s = .ok value) :
    value.HasSortedNames := by
  obtain ⟨read, valueRead, run⟩ := bind_eq_ok_iff.1 run
  obtain ⟨_, -, ⟨⟩⟩ := bind_eq_ok_iff.1 run
  unfold maxLevels Json.value at valueRead
  exact hasSortedNames_valueWith valueRead

end Json

theorem hasSortedNames_of_loadJson {fs : FileSystem} {path : String} {value : Json.Value}
    (loaded : loadJson fs path = .ok value) : value.HasSortedNames := by
  unfold loadJson at loaded
  split at loaded
  · cases loaded
  · cases loaded
  · exact Json.hasSortedNames_of_ofSymbols (mapError_eq_ok_iff.1 loaded)

/-! ## Two ways to look evidence up -/

namespace Evidence

theorem Record.find?_values {record : Record} (sorted : Assoc.Sorted record) (key : String) :
    Assoc.find? key record.values = (Assoc.find? key record).bind Value.ofJson? := by
  induction record with
  | nil => rfl
  | cons member rest ih =>
    obtain ⟨name, value⟩ := member
    obtain ⟨least, sortedRest⟩ := List.pairwise_cons.1 sorted
    have others : Assoc.find? key (Record.values rest) =
        (Assoc.find? key rest).bind Value.ofJson? := ih sortedRest
    have copied : Record.values ((name, value) :: rest) =
        ((Value.ofJson? value).map (name, ·)).toList ++ Record.values rest := by
      unfold Record.values
      cases given : Value.ofJson? value <;> simp [given]
    rw [copied, Assoc.find?]
    by_cases same : name = key
    · have absent : Assoc.find? key rest = none :=
        Assoc.find?_eq_none fun pair inRest => (same ▸ least pair inRest).ne'
      rw [if_pos same, Option.bind_some]
      cases given : Value.ofJson? value with
      | none =>
        rw [absent] at others
        exact others
      | some evidence => exact if_pos same
    · rw [if_neg same, ← others]
      cases given : Value.ofJson? value with
      | none => rfl
      | some evidence => exact if_neg same

/-- The values that are copied out of a record give the evidence that the record gives. -/
theorem Record.ofAssoc_values {record : Record} (sorted : Assoc.Sorted record) :
    Source.ofAssoc record.values = Source.ofRecord record :=
  funext fun key => record.find?_values sorted key

end Evidence

end EvidenceTree
