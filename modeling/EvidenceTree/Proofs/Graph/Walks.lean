import EvidenceTree.Graph.Walk
import EvidenceTree.Proofs.Graph.Cycles

/-!
# What a walk comes to

A walk passes over the nodes that it has been at. That loses nothing as long as the children of such
a node are not forgotten: each of them has been visited as well, or is still on the agenda. So in
the end the nodes that were visited are closed under children, and the walk from a node has come to
all that lies below it, by whatever way.

* `Graph.found_closed`: what has been visited when a walk ends is closed under children.
* `Graph.mem_preorder_iff`: a walk comes to a node exactly where the start is the node itself or
  lies above it.
-/

namespace EvidenceTree.Graph

variable {n : Nat} {g : Graph n} {seen : Vector Bool n} {agenda : List (Fin n)} {i j : Fin n}

/-! ## Marks -/

theorem get_set_true_iff : (seen.set i true i.2).get j = true ↔ j = i ∨ seen.get j = true := by
  change (seen.set i true)[j] = true ↔ j = i ∨ seen[j] = true
  rw [Fin.getElem_fin, Vector.getElem_set, Fin.ext_iff]
  by_cases same : i.1 = j.1
  · simp [same]
  · simp [same, Ne.symm same]

theorem get_replicate_false : (Vector.replicate n false).get j = false := by
  change (Vector.replicate n false)[j] = false
  simp

/-! ## Walks -/

/-- A node has been visited when a walk ends: by the walk, or before it. -/
def Found (g : Graph n) (seen : Vector Bool n) (agenda : List (Fin n)) (j : Fin n) : Prop :=
  seen.get j = true ∨ j ∈ g.walk seen agenda

theorem walk_of_seen {later : List (Fin n)} (isSeen : seen.get i = true) :
    g.walk seen (i :: later) = g.walk seen later := by
  rw [walk]
  split
  · rfl
  · rename_i new
    cases new.symm.trans isSeen

theorem walk_of_new {later : List (Fin n)} (isNew : seen.get i = false) :
    g.walk seen (i :: later) = i :: g.walk (seen.set i true i.2) (g i ++ later) := by
  rw [walk]
  split
  · rename_i known
    cases known.symm.trans isNew
  · rfl

theorem found_of_new {later : List (Fin n)} (isNew : seen.get i = false) :
    g.Found seen (i :: later) j ↔ g.Found (seen.set i true i.2) (g i ++ later) j := by
  unfold Found
  rw [walk_of_new isNew, List.mem_cons, get_set_true_iff]
  tauto

/-- The children of visited nodes are not forgotten: each is visited or on the agenda. -/
def Remembers (g : Graph n) (seen : Vector Bool n) (agenda : List (Fin n)) : Prop :=
  ∀ p, seen.get p = true → ∀ c ∈ g p, seen.get c = true ∨ c ∈ agenda

theorem Remembers.pass {later : List (Fin n)} (remembers : g.Remembers seen (i :: later))
    (isSeen : seen.get i = true) : g.Remembers seen later := by
  intro p known c isChild
  rcases remembers p known c isChild with known' | isNext
  · exact .inl known'
  · rcases List.mem_cons.1 isNext with rfl | isLater
    · exact .inl isSeen
    · exact .inr isLater

theorem Remembers.enter {later : List (Fin n)} (remembers : g.Remembers seen (i :: later)) :
    g.Remembers (seen.set i true i.2) (g i ++ later) := by
  intro p known c isChild
  rw [get_set_true_iff, List.mem_append]
  rcases get_set_true_iff.1 known with rfl | before
  · exact .inr (.inl isChild)
  · rcases remembers p before c isChild with known' | isNext
    · exact .inl (.inr known')
    · rcases List.mem_cons.1 isNext with rfl | isLater
      · exact .inl (.inl rfl)
      · exact .inr (.inr isLater)

/-- A walk visits its agenda, and what has been visited when it ends is closed under children. -/
theorem found_closed (remembers : g.Remembers seen agenda) :
    (∀ j ∈ agenda, g.Found seen agenda j) ∧
      ∀ p, g.Found seen agenda p → ∀ c ∈ g p, g.Found seen agenda c := by
  fun_induction walk g seen agenda with
  | case1 seen =>
    refine ⟨nofun, ?_⟩
    intro p found c isChild
    simp only [Found, walk, List.not_mem_nil, or_false] at found ⊢
    exact (remembers p found c isChild).resolve_right List.not_mem_nil
  | case2 seen i later new ih =>
    obtain ⟨visited, closed⟩ := ih (remembers.pass new)
    unfold Found at visited closed ⊢
    rw [walk_of_seen new]
    refine ⟨?_, closed⟩
    intro j isNext
    rcases List.mem_cons.1 isNext with rfl | isLater
    · exact .inl new
    · exact visited j isLater
  | case3 seen i later new ih =>
    obtain ⟨visited, closed⟩ := ih remembers.enter
    simp only [found_of_new new]
    refine ⟨?_, closed⟩
    intro j isNext
    rcases List.mem_cons.1 isNext with rfl | isLater
    · exact .inl (get_set_true_iff.2 (.inl rfl))
    · exact visited j (List.mem_append_right _ isLater)

/-- A walk comes only to what its agenda leads to. -/
theorem exists_above_of_mem_walk (isFound : j ∈ g.walk seen agenda) :
    ∃ i ∈ agenda, Relation.ReflTransGen g.Child j i := by
  fun_induction walk g seen agenda with
  | case1 => cases isFound
  | case2 seen i later new ih =>
    obtain ⟨start, isLater, leads⟩ := ih isFound
    exact ⟨start, List.mem_cons_of_mem _ isLater, leads⟩
  | case3 seen i later new ih =>
    rcases List.mem_cons.1 isFound with rfl | isBelow
    · exact ⟨j, List.mem_cons_self, .refl⟩
    · obtain ⟨start, isNext, leads⟩ := ih isBelow
      rcases List.mem_append.1 isNext with isChild | isLater
      · exact ⟨i, List.mem_cons_self, leads.tail isChild⟩
      · exact ⟨start, List.mem_cons_of_mem _ isLater, leads⟩

theorem found_of_leads (closed : ∀ p, g.Found seen agenda p → ∀ c ∈ g p, g.Found seen agenda c)
    (found : g.Found seen agenda i) (leads : Relation.ReflTransGen g.Child j i) :
    g.Found seen agenda j := by
  induction leads using Relation.ReflTransGen.head_induction_on with
  | refl => exact found
  | head isChild _ ih => exact closed _ ih _ isChild

/-- A walk comes to a node exactly where the start is the node itself or lies above it. -/
theorem mem_preorder_iff : j ∈ g.preorder i ↔ j = i ∨ g.Descendant j i := by
  have descends_iff : j = i ∨ g.Descendant j i ↔ Relation.ReflTransGen g.Child j i :=
    (or_congr_left eq_comm).trans Relation.reflTransGen_iff_eq_or_transGen.symm
  rw [descends_iff]
  constructor
  · intro isFound
    obtain ⟨start, isStart, leads⟩ := exists_above_of_mem_walk isFound
    rw [List.mem_singleton.1 isStart] at leads
    exact leads
  · intro leads
    have fresh : g.Remembers (Vector.replicate n false) [i] := by
      intro p known
      cases get_replicate_false.symm.trans known
    obtain ⟨visited, closed⟩ := found_closed fresh
    rcases found_of_leads closed (visited i List.mem_cons_self) leads with known | isFound
    · cases get_replicate_false.symm.trans known
    · exact isFound

end EvidenceTree.Graph
