import EvidenceTree.Document.Build
import Mathlib.Data.List.Chain
import Mathlib.Logic.Relation
import Mathlib.Order.WellFounded

/-!
# What the search for a cycle finds

`acyclic_of_closing_eq_none` says that a search without an answer proves a graph acyclic. This
module adds what an answer means. The path of a search is a walk upwards from its innermost node, so
a child that is on the path already lies above the node whose child it is.

* `closes_searchAll`: the edge that a search answers with lies on a cycle.
* `closing_searchAll_eq_none_iff`: a search has no answer exactly where no node is its own
  descendant.
* `Builder.checkAcyclic_decides`: the same for the check that a build makes, with the words of its
  refusal and for any marks that earlier builds left.
-/

namespace EvidenceTree

namespace Graph

variable {n : Nat} {g : Graph n}

/-! ## Descendants -/

/-- `d` lies below `a`: a walk of at least one step along children leads from `a` to `d`. -/
def Descendant (g : Graph n) (d a : Fin n) : Prop := Relation.TransGen g.Child d a

theorem Acyclic.not_descendant (acyclic : g.Acyclic) (i : Fin n) : ¬ g.Descendant i i :=
  acyclic.transGen.irrefl.irrefl i

/-- The edge lies on a cycle: its parent is its child, or is reached from it. -/
structure Edge.Closes (g : Graph n) (edge : Edge n) : Prop where
  isChild : g.Child edge.child edge.parent
  returns : edge.parent = edge.child ∨ g.Descendant edge.parent edge.child

theorem Edge.Closes.descendant {edge : Edge n} (closes : edge.Closes g) :
    g.Descendant edge.child edge.child := by
  rcases closes.returns with same | below
  · exact .single (same ▸ closes.isChild)
  · exact .head closes.isChild below

/-! ## The path as a walk -/

/-- The path of a search, innermost node first, leads upwards: each node is a child of the next, and
what is still to be visited of a node are children of it. -/
structure Trail (g : Graph n) (path : List (Frame n)) : Prop where
  linked : (path.map (·.1)).IsChain g.Child
  left : ∀ frame ∈ path, ∀ c ∈ frame.2, g.Child c frame.1

namespace Trail

variable {current child : Fin n} {left others : List (Fin n)} {frame : Frame n}
  {above : List (Frame n)}

theorem start (g : Graph n) (i : Fin n) : Trail g [(i, g i)] := by
  refine ⟨List.isChain_singleton i, fun frame here c inLeft => ?_⟩
  rw [List.mem_singleton.1 here] at inLeft ⊢
  exact inLeft

theorem leave (trail : Trail g (frame :: above)) : Trail g above :=
  ⟨trail.linked.tail, fun other inAbove => trail.left other (List.mem_cons_of_mem _ inAbove)⟩

theorem pass (trail : Trail g ((current, child :: others) :: above)) :
    Trail g ((current, others) :: above) := by
  refine ⟨trail.linked, fun frame onPath c inLeft => ?_⟩
  rcases List.mem_cons.1 onPath with here | inAbove
  · subst here
    exact trail.left _ List.mem_cons_self c (List.mem_cons_of_mem _ inLeft)
  · exact trail.left frame (List.mem_cons_of_mem _ inAbove) c inLeft

theorem enter (trail : Trail g ((current, child :: others) :: above)) :
    Trail g ((child, g child) :: (current, others) :: above) := by
  have isChild : g.Child child current :=
    trail.left _ List.mem_cons_self child List.mem_cons_self
  refine ⟨List.isChain_cons_cons.2 ⟨isChild, trail.linked⟩, fun frame onPath c inLeft => ?_⟩
  rcases List.mem_cons.1 onPath with here | inAbove
  · subst here
    exact inLeft
  · exact trail.pass.left frame inAbove c inLeft

/-- The innermost node lies below all others of the path. -/
theorem descendant (trail : Trail g ((current, left) :: above)) {x : Fin n}
    (inAbove : x ∈ above.map (·.1)) : g.Descendant current x := by
  have chain : (current :: above.map (·.1)).IsChain (Relation.TransGen g.Child) :=
    trail.linked.imp fun _ _ => Relation.TransGen.single
  exact (List.pairwise_cons.1 chain.pairwise).1 x inAbove

end Trail

/-! ## The answer of a search -/

variable {marks : Vector Mark n} {edge : Edge n}

theorem closes_searchBelow {path : List (Frame n)} (inv : Invariant g marks path)
    (trail : Trail g path) (closing : (searchBelow g marks path).closing = some edge) :
    edge.Closes g := by
  fun_induction searchBelow g marks path with
  | case1 marks => cases closing
  | case2 marks current above ih => exact ih inv.leave trail.leave closing
  | case3 marks current child others above seen =>
    cases closing
    have isChild : g.Child child current :=
      trail.left _ List.mem_cons_self child List.mem_cons_self
    -- a node that is marked as on the path has a frame there, and the trail leads up to it
    rcases List.mem_cons.1 (inv.listed child seen) with here | inAbove
    · exact ⟨isChild, .inl here.symm⟩
    · exact ⟨isChild, .inr (trail.descendant inAbove)⟩
  | case4 marks current child others above seen ih => exact ih (inv.pass seen) trail.pass closing
  | case5 marks current child others above seen ih => exact ih (inv.enter seen) trail.enter closing

theorem closes_searchFrom {starts : List (Fin n)} (inv : Invariant g marks [])
    (closing : (searchFrom g marks starts).closing = some edge) : edge.Closes g := by
  induction starts generalizing marks with
  | nil => cases closing
  | cons start others ih =>
    unfold searchFrom at closing
    split at closing
    · have begun : Invariant g (marks.set start .onPath) [(start, g start)] := invariant_start inv
      cases found : (searchBelow g (marks.set start .onPath) [(start, g start)]).closing with
      | some first =>
        simp only [found] at closing
        cases closing
        exact closes_searchBelow begun (.start g start) found
      | none =>
        simp only [found] at closing
        exact ih (finished_searchBelow begun found).final closing
    · exact ih inv closing

/-- The edge that a search answers with lies on a cycle. -/
theorem closes_searchAll (closing : (searchAll g (fresh n)).closing = some edge) :
    edge.Closes g :=
  closes_searchFrom (invariant_fresh g) closing

/-- A search has no answer exactly where no node, reachable from the first or not, is its own
descendant. -/
theorem closing_searchAll_eq_none_iff :
    (searchAll g (fresh n)).closing = none ↔ ∀ i, ¬ g.Descendant i i := by
  constructor
  · intro noneClosed
    exact (acyclic_of_closing_eq_none noneClosed).not_descendant
  · intro noneBelow
    cases closing : (searchAll g (fresh n)).closing with
    | none => rfl
    | some edge => exact absurd (closes_searchAll closing).descendant (noneBelow edge.child)

/-- On finitely many nodes, to be acyclic is to have no node that is its own descendant. -/
theorem acyclic_iff : g.Acyclic ↔ ∀ i, ¬ g.Descendant i i :=
  ⟨Acyclic.not_descendant, fun noneBelow =>
    acyclic_of_closing_eq_none (closing_searchAll_eq_none_iff.2 noneBelow)⟩

/-- A graph is acyclic if its nodes rank above their children. -/
theorem acyclic_of_rank (rank : Fin n → Nat) (descends : ∀ i, ∀ c ∈ g i, rank c < rank i) :
    g.Acyclic := by
  have below : Subrelation g.Child (InvImage (· < ·) rank) := fun {c p} isChild =>
    descends p c isChild
  exact below.wf (InvImage.wf _ Nat.lt_wfRel.wf)

/-- A graph whose nodes come before their children is acyclic. -/
theorem acyclic_of_ascending (ascending : ∀ i, ∀ c ∈ g i, i < c) : g.Acyclic :=
  acyclic_of_rank (fun i => n - i.1) fun i c isChild =>
    Nat.sub_lt_sub_left i.2 (ascending i c isChild)

end Graph

/-! ## The check of a build -/

namespace Builder

variable {n : Nat} {builder : Builder} {g : Graph n}

/-- Marks that are left from earlier builds have no say in the check. -/
theorem isOk_checkAcyclic_iff :
    (builder.checkAcyclic g).1.isOk = true ↔
      (Graph.searchAll g (Graph.fresh n)).closing = none := by
  unfold checkAcyclic
  rw [← Graph.ready_eq_fresh builder.marks n]
  dsimp only
  split
  · rename_i edge closing
    rw [closing]
    exact ⟨nofun, nofun⟩
  · rename_i noneClosed
    exact ⟨fun _ => noneClosed, fun _ => rfl⟩

theorem checkAcyclic_eq_error_iff {fault : Malformed} :
    (builder.checkAcyclic g).1 = .error fault ↔
      ∃ edge, (Graph.searchAll g (Graph.fresh n)).closing = some edge ∧
        fault = .cyclic edge.parent edge.child := by
  unfold checkAcyclic
  rw [← Graph.ready_eq_fresh builder.marks n]
  dsimp only
  split
  · rename_i edge closing
    rw [closing]
    constructor
    · intro refused
      cases refused
      exact ⟨edge, rfl, rfl⟩
    · intro found
      rcases found with ⟨_, ⟨⟩, rfl⟩
      rfl
  · rename_i noneClosed
    constructor
    · nofun
    · intro found
      rcases found with ⟨edge, closing, -⟩
      cases noneClosed.symm.trans closing

/-- The check refuses a graph exactly where a node is its own descendant, for any marks that earlier
builds left, and names the two ends of an edge on a cycle. -/
theorem checkAcyclic_decides (builder : Builder) (g : Graph n) :
    ((builder.checkAcyclic g).1.isOk = true ↔ ∀ i, ¬ g.Descendant i i) ∧
      ∀ fault, (builder.checkAcyclic g).1 = .error fault →
        ∃ p c : Fin n, fault = .cyclic p c ∧
          fault.reason = "cycle detected: node " ++ toString c.1 ++
            " is its own descendant (via node " ++ toString p.1 ++ ")" ∧
          c ∈ g p ∧ (p = c ∨ g.Descendant p c) := by
  constructor
  · rw [isOk_checkAcyclic_iff, Graph.closing_searchAll_eq_none_iff]
  · intro fault refused
    obtain ⟨edge, closing, rfl⟩ := checkAcyclic_eq_error_iff.1 refused
    have closes : edge.Closes g := Graph.closes_searchAll closing
    exact ⟨edge.parent, edge.child, rfl, rfl, closes.isChild, closes.returns⟩

/-- A ring of two nodes is refused, with the marks of a larger graph left. -/
theorem checkAcyclic_ring :
    ∃ p c : Fin 2,
      (checkAcyclic ⟨#[.done, .onPath, .done]⟩ fun i : Fin 2 => [i + 1]).1 = .error (.cyclic p c) ∧
        (p = c ∨ Graph.Descendant (fun i => [i + 1]) p c) := by
  obtain ⟨accepted, refused⟩ :=
    checkAcyclic_decides ⟨#[.done, .onPath, .done]⟩ fun i : Fin 2 => [i + 1]
  have below : Graph.Descendant (fun i : Fin 2 => [i + 1]) 0 0 :=
    .head (b := 1) (List.mem_singleton.2 rfl) (.single (List.mem_singleton.2 rfl))
  cases checked : (checkAcyclic ⟨#[.done, .onPath, .done]⟩ fun i : Fin 2 => [i + 1]).1 with
  | ok acyclic =>
    have isOk := congrArg Except.isOk checked
    exact absurd below (accepted.1 isOk 0)
  | error fault =>
    obtain ⟨p, c, rfl, -, -, returns⟩ := refused fault checked
    exact ⟨p, c, rfl, returns⟩

end Builder

end EvidenceTree
