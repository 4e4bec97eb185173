import EvidenceTree.Graph.CycleSearch
import EvidenceTree.Proofs.Graph.Embeddings
import Mathlib.Data.List.FinRange

/-!
# Walks by plain indices

A stored table names its nodes by plain numbers. Whoever walks it looks numbers up, in the table and
among the marks of the walk, and a number might be beyond the end. Here are the walks of a graph in
this form, in which they fail where a look-up does. On a table that reads as a graph none of them
fails, and what they find is what the walks of the graph find.

* `Graph.Reads`: a table says of each node what a graph says, and nothing of others.
* `Graph.searchAll?_eq`: the search for a cycle.
* `Graph.preorder?_eq`: the walk over all nodes below one.
* `Graph.height?_eq`: the measurement of heights.
-/

namespace EvidenceTree.Graph

/-! ## Look-ups that may fail -/

section

variable {α : Type} {marks marks' : Array α} {i : Nat} {old new : α}

/-- Marks with another one in a place, if they have this place. -/
def put? (marks : Array α) (i : Nat) (mark : α) : Option (Array α) :=
  if i < marks.size then some (marks.setIfInBounds i mark) else none

theorem put?_eq_some_iff : put? marks i new = some marks' ↔
    ∃ inside : i < marks.size, marks.set i new = marks' := by
  unfold put?
  split
  · rename_i inside
    rw [Array.setIfInBounds, dif_pos inside, Option.some.injEq]
    exact ⟨fun same => ⟨inside, same⟩, fun ⟨_, same⟩ => same⟩
  · rename_i outside
    exact ⟨nofun, fun ⟨inside, _⟩ => absurd inside outside⟩

variable [DecidableEq α]

/-- A mark that changes is one less of its kind. -/
theorem count_put?_lt (here : marks[i]? = some old) (put : put? marks i new = some marks')
    (differ : new ≠ old) : marks'.count old < marks.count old := by
  obtain ⟨inside, rfl⟩ := put?_eq_some_iff.1 put
  obtain ⟨_, here⟩ := Array.getElem?_eq_some_iff.1 here
  have present : 0 < marks.count old := Array.count_pos_iff.2 (here ▸ Array.getElem_mem inside)
  rw [Array.count_set, here, if_pos (beq_self_eq_true _),
    if_neg (fun same => differ (eq_of_beq same))]
  omega

/-- A change to another mark makes no more of a kind. -/
theorem count_put?_le (put : put? marks i new = some marks') (differ : new ≠ old) :
    marks'.count old ≤ marks.count old := by
  obtain ⟨inside, rfl⟩ := put?_eq_some_iff.1 put
  rw [Array.count_set, if_neg (fun same => differ (eq_of_beq same))]
  exact Nat.sub_le _ _

end

/-- A table names `c` as a child of `p`. -/
def Names (children? : Nat → Option (List Nat)) (c p : Nat) : Prop :=
  ∃ children, children? p = some children ∧ c ∈ children

/-- The work that a path of a search still holds. -/
def plainPending (path : List (Nat × List Nat)) : Nat :=
  path.foldr (fun frame work => frame.2.length + 1 + work) 0

section

variable (children? : Nat → Option (List Nat))

/-- Searches for a cycle below the nodes of a path, innermost first. -/
def searchBelow? (marks : Array Mark) (path : List (Nat × List Nat)) :
    Option (Option (Nat × Nat) × Array Mark) :=
  match path with
  | [] => some (none, marks)
  | (current, []) :: above =>
    match _ : put? marks current Mark.done with
    | none => none
    | some marks' => searchBelow? marks' above
  | (current, child :: others) :: above =>
    match _ : marks[child]? with
    | none => none
    | some .onPath => some (some (current, child), marks)
    | some .done => searchBelow? marks ((current, others) :: above)
    | some .unvisited =>
      match _ : put? marks child Mark.onPath with
      | none => none
      | some marks' =>
        match children? child with
        | none => none
        | some children => searchBelow? marks' ((child, children) :: (current, others) :: above)
termination_by (marks.count .unvisited, plainPending path)
decreasing_by
  · refine Prod.Lex.right' _ (count_put?_le (by assumption) (by decide)) ?_
    simp [plainPending]
  · refine Prod.Lex.right _ ?_
    simp [plainPending]
  · exact Prod.Lex.left _ _ (count_put?_lt (by assumption) (by assumption) (by decide))

theorem searchBelow?_nil (marks : Array Mark) (current : Nat) (above : List (Nat × List Nat)) :
    searchBelow? children? marks ((current, []) :: above) =
      (put? marks current .done).bind fun marks => searchBelow? children? marks above := by
  rw [searchBelow?]
  split <;> rename_i left <;> rw [left] <;> rfl

theorem searchBelow?_cons (marks : Array Mark) (current child : Nat) (others : List Nat)
    (above : List (Nat × List Nat)) :
    searchBelow? children? marks ((current, child :: others) :: above) =
      marks[child]?.bind fun mark =>
        match mark with
        | .onPath => some (some (current, child), marks)
        | .done => searchBelow? children? marks ((current, others) :: above)
        | .unvisited =>
          (put? marks child .onPath).bind fun marks =>
            (children? child).bind fun children =>
              searchBelow? children? marks ((child, children) :: (current, others) :: above) := by
  rw [searchBelow?]
  split <;> rename_i seen <;> rw [seen] <;> try rfl
  dsimp only [Option.bind_some]
  split <;> rename_i entered <;> rw [entered] <;> try rfl
  dsimp only [Option.bind_some]
  cases children? child <;> rfl

/-- Searches for a cycle from each of the nodes that no earlier search came to. -/
def searchFrom? (marks : Array Mark) : List Nat → Option (Option (Nat × Nat) × Array Mark)
  | [] => some (none, marks)
  | start :: others => do
    if (← marks[start]?) = Mark.unvisited then
      let search ← searchBelow? children? (← put? marks start Mark.onPath)
        [(start, ← children? start)]
      match search.1 with
      | some _ => some search
      | none => searchFrom? search.2 others
    else searchFrom? marks others

/-- Searches a whole table for a cycle. -/
def searchAll? (size : Nat) : Option (Option (Nat × Nat) × Array Mark) :=
  searchFrom? children? (Array.replicate size .unvisited) (List.range size)

/-- The nodes that a walk comes to from a list of nodes, those already seen left out. -/
def walk? (seen : Array Bool) (agenda : List Nat) : Option (List Nat) :=
  match agenda with
  | [] => some []
  | i :: later =>
    match _ : seen[i]? with
    | none => none
    | some true => walk? seen later
    | some false =>
      match _ : put? seen i true with
      | none => none
      | some seen' =>
        match children? i with
        | none => none
        | some children => (walk? seen' (children ++ later)).map (i :: ·)
termination_by (seen.count false, agenda.length)
decreasing_by
  · exact Prod.Lex.right _ (by simp)
  · exact Prod.Lex.left _ _ (count_put?_lt (by assumption) (by assumption) (by decide))

theorem walk?_cons (seen : Array Bool) (i : Nat) (later : List Nat) :
    walk? children? seen (i :: later) =
      seen[i]?.bind fun isSeen =>
        if isSeen then walk? children? seen later
        else
          (put? seen i true).bind fun seen =>
            (children? i).bind fun children =>
              (walk? children? seen (children ++ later)).map (i :: ·) := by
  rw [walk?]
  split <;> rename_i new <;> rw [new] <;> try rfl
  dsimp only [Option.bind_some]
  split <;> rename_i entered <;> rw [entered] <;> try rfl
  dsimp only [Option.bind_some]
  cases children? i <;> rfl

/-- The nodes of a table that a walk comes to. -/
def preorder? (size start : Nat) : Option (List Nat) :=
  walk? children? (Array.replicate size false) [start]

/-- The height of a node, and the heights known afterwards. -/
def measure? (ends : WellFounded (Names children?)) (i : Nat) (known : Array (Option Nat)) :
    Option (Nat × Array (Option Nat)) :=
  match known[i]? with
  | none => none
  | some (some height) => some (height, known)
  | some none =>
    match named : children? i with
    | none => none
    | some children => do
      let below ← children.attach.foldlM (fun sofar child => do
        let found ← measure? ends child.1 sofar.2
        some (max sofar.1 found.1, found.2)) (0, known)
      some (below.1 + 1, ← put? below.2 i (some (below.1 + 1)))
termination_by ends.wrap i
decreasing_by exact ⟨children, named, child.2⟩

/-- The number of nodes of a table on a longest walk down from one. -/
def height? (ends : WellFounded (Names children?)) (size i : Nat) : Option Nat :=
  (measure? children? ends i (Array.replicate size none)).map Prod.fst

/-- Measures one child more: the greatest height so far, and the heights known. -/
def measureNext? (ends : WellFounded (Names children?)) (sofar : Nat × Array (Option Nat))
    (child : Nat) : Option (Nat × Array (Option Nat)) := do
  let found ← measure? children? ends child sofar.2
  some (max sofar.1 found.1, found.2)

theorem measure?_of_known {ends : WellFounded (Names children?)} {i height : Nat}
    {known : Array (Option Nat)} (isKnown : known[i]? = some (some height)) :
    measure? children? ends i known = some (height, known) := by
  rw [measure?, isKnown]

theorem measure?_of_unknown {ends : WellFounded (Names children?)} {i : Nat}
    {known : Array (Option Nat)} {children : List Nat} (unknown : known[i]? = some none)
    (named : children? i = some children) :
    measure? children? ends i known =
      (children.foldlM (measureNext? children? ends) (0, known)).bind fun below =>
        (put? below.2 i (some (below.1 + 1))).bind fun known => some (below.1 + 1, known) := by
  have each : children.attach.foldlM
      (fun sofar child => measureNext? children? ends sofar child.1) (0, known) =
        children.foldlM (measureNext? children? ends) (0, known) := by
    rw [List.foldlM_subtype fun _ _ _ => rfl, List.unattach_attach]
  rw [measure?, unknown, ← each]
  dsimp only
  split
  · rename_i missing
    cases missing.symm.trans named
  · rename_i here
    cases here.symm.trans named
    rfl

end

/-! ## Tables that read as graphs -/

variable {n : Nat} {g : Graph n} {children? : Nat → Option (List Nat)} {α : Type}

/-- A table says of each node what a graph says, and nothing of others. -/
structure Reads (g : Graph n) (children? : Nat → Option (List Nat)) : Prop where
  inside : ∀ i : Fin n, children? i = some ((g i).map Fin.val)
  beyond : ∀ i, n ≤ i → children? i = none

theorem getElem?_toArray (marks : Vector α n) (i : Fin n) :
    marks.toArray[i.1]? = some (marks.get i) := by
  rw [Vector.getElem?_toArray]
  exact Vector.getElem?_eq_getElem i.2

theorem put?_toArray (marks : Vector α n) (i : Fin n) (mark : α) :
    put? marks.toArray i mark = some (marks.set i mark i.2).toArray :=
  put?_eq_some_iff.2 ⟨marks.size_toArray.symm ▸ i.2, rfl⟩

/-- What a table names comes to an end where the graph is acyclic. -/
theorem Reads.wellFounded (reads : g.Reads children?) (acyclic : g.Acyclic) :
    WellFounded (Names children?) := by
  have inside (i : Fin n) : Acc (Names children?) i := by
    induction i using acyclic.induction with
    | _ i ih =>
      refine Acc.intro _ fun c ⟨children, named, declared⟩ => ?_
      cases (reads.inside i).symm.trans named
      obtain ⟨child, isChild, rfl⟩ := List.mem_map.1 declared
      exact ih child isChild
  refine ⟨fun p => ?_⟩
  rcases Nat.lt_or_ge p n with isInside | isBeyond
  · exact inside ⟨p, isInside⟩
  · refine Acc.intro _ fun c ⟨children, named, _⟩ => ?_
    cases (reads.beyond p isBeyond).symm.trans named

/-! ## The search for a cycle -/

/-- A path of a search, by plain indices. -/
def plainPath (path : List (Frame n)) : List (Nat × List Nat) :=
  path.map fun frame => (frame.1.1, frame.2.map Fin.val)

/-- What a search leaves behind, by plain indices. -/
def Search.plain (search : Search n) : Option (Nat × Nat) × Array Mark :=
  (search.closing.map fun edge => (edge.parent.1, edge.child.1), search.marks.toArray)

theorem searchBelow?_eq (reads : g.Reads children?) (marks : Vector Mark n)
    (path : List (Frame n)) :
    searchBelow? children? marks.toArray (plainPath path) =
      some (searchBelow g marks path).plain := by
  fun_induction searchBelow g marks path with
  | case1 marks =>
    rw [plainPath, List.map_nil, searchBelow?]
    rfl
  | case2 marks current above ih =>
    rw [plainPath, List.map_cons, List.map_nil, searchBelow?_nil, put?_toArray]
    exact ih
  | case3 marks current child others above seen =>
    have isOnPath : marks.get child = .onPath := seen
    rw [plainPath, List.map_cons, List.map_cons, searchBelow?_cons, getElem?_toArray, isOnPath]
    rfl
  | case4 marks current child others above seen ih =>
    have isDone : marks.get child = .done := seen
    rw [plainPath, List.map_cons, List.map_cons, searchBelow?_cons, getElem?_toArray, isDone]
    exact ih
  | case5 marks current child others above seen ih =>
    have unvisited : marks.get child = .unvisited := seen
    rw [plainPath, List.map_cons, List.map_cons, searchBelow?_cons, getElem?_toArray, unvisited,
      put?_toArray, reads.inside]
    exact ih

theorem searchFrom?_eq (reads : g.Reads children?) (marks : Vector Mark n)
    (starts : List (Fin n)) :
    searchFrom? children? marks.toArray (starts.map Fin.val) =
      some (searchFrom g marks starts).plain := by
  induction starts generalizing marks with
  | nil => rfl
  | cons start others ih =>
    have below : searchBelow? children? (marks.set start .onPath).toArray
        [(start.1, (g start).map Fin.val)] =
          some (searchBelow g (marks.set start .onPath) [(start, g start)]).plain :=
      searchBelow?_eq reads (marks.set start .onPath) [(start, g start)]
    rw [List.map_cons, searchFrom?, getElem?_toArray, put?_toArray, reads.inside, searchFrom]
    by_cases unvisited : marks.get start = .unvisited
    · rw [if_pos (show marks[start] = .unvisited from unvisited)]
      simp only [Option.bind_eq_bind, Option.bind_some, if_pos unvisited, below]
      cases closing : (searchBelow g (marks.set start .onPath) [(start, g start)]).closing with
      | some edge => simp only [Search.plain, closing, Option.map_some]
      | none =>
        simp only [Search.plain, closing, Option.map_none]
        exact ih _
    · rw [if_neg (show ¬ marks[start] = .unvisited from unvisited)]
      simp only [Option.bind_eq_bind, Option.bind_some, if_neg unvisited]
      exact ih marks

/-- A table that reads as a graph is searched as the graph is. -/
theorem searchAll?_eq (reads : g.Reads children?) :
    searchAll? children? n = some (searchAll g (fresh n)).plain := by
  have all := searchFrom?_eq reads (fresh n) (List.finRange n)
  rw [List.map_coe_finRange_eq_range] at all
  exact all

/-! ## Walks -/

theorem walk?_eq (reads : g.Reads children?) (seen : Vector Bool n) (agenda : List (Fin n)) :
    walk? children? seen.toArray (agenda.map Fin.val) =
      some ((walk g seen agenda).map Fin.val) := by
  fun_induction walk g seen agenda with
  | case1 seen => rw [List.map_nil, walk?]
  | case2 seen i later new ih =>
    have isSeen : seen.get i = true := new
    rw [List.map_cons, walk?_cons, getElem?_toArray, isSeen]
    exact ih
  | case3 seen i later new ih =>
    have isNew : seen.get i = false := new
    rw [List.map_append] at ih
    rw [List.map_cons, walk?_cons, getElem?_toArray, isNew, put?_toArray, reads.inside]
    simp only [Option.bind_some, Bool.false_eq_true, if_false, ih, Option.map_some, List.map_cons]

/-- A table that reads as a graph is walked as the graph is. -/
theorem preorder?_eq (reads : g.Reads children?) (start : Fin n) :
    preorder? children? n start = some ((g.preorder start).map Fin.val) :=
  walk?_eq reads (Vector.replicate n false) [start]

/-! ## Heights -/

/-- A height and the heights known, by plain indices. -/
def plainHeights (found : Nat × Heights n) : Nat × Array (Option Nat) := (found.1, found.2.toArray)

section

variable {ends : WellFounded (Names children?)} {acyclic : g.Acyclic}

theorem foldlM_measureNext? {children : List (Fin n)}
    (each : ∀ child ∈ children, ∀ known : Heights n, measure? children? ends child known.toArray =
      some (plainHeights (measure g acyclic child known)))
    (sofar : Nat × Heights n) :
    (children.map Fin.val).foldlM (measureNext? children? ends) (plainHeights sofar) =
      some (plainHeights (children.foldl (measureNext g acyclic) sofar)) := by
  induction children generalizing sofar with
  | nil => rfl
  | cons child children ih =>
    have first : measureNext? children? ends (plainHeights sofar) child =
        some (plainHeights (measureNext g acyclic sofar child)) := by
      unfold measureNext?
      rw [plainHeights, each child List.mem_cons_self]
      rfl
    rw [List.map_cons, List.foldlM_cons, first]
    exact ih (fun other isLater => each other (List.mem_cons_of_mem _ isLater)) _

theorem measure?_eq (reads : g.Reads children?) (i : Fin n) (known : Heights n) :
    measure? children? ends i known.toArray = some (plainHeights (measure g acyclic i known)) := by
  induction i using acyclic.induction generalizing known with
  | _ i ih =>
    have here := getElem?_toArray known i
    cases found : known.get i with
    | some height =>
      rw [found] at here
      rw [measure_of_known found, measure?_of_known children? here]
      rfl
    | none =>
      rw [found] at here
      have below : ((g i).map Fin.val).foldlM (measureNext? children? ends) (0, known.toArray) =
          some (plainHeights ((g i).foldl (measureNext g acyclic) (0, known))) :=
        foldlM_measureNext? (fun child isChild => ih child isChild) (0, known)
      rw [measure_of_unknown found, measure?_of_unknown children? here (reads.inside i), below,
        Option.bind_some, plainHeights, put?_toArray]
      rfl

/-- A table that reads as a graph is measured as the graph is. -/
theorem height?_eq (reads : g.Reads children?) (i : Fin n) :
    height? children? ends n i = some (g.height acyclic i) := by
  have measured : measure? children? ends i (Array.replicate n none) =
      some (plainHeights (measure g acyclic i (Vector.replicate n none))) :=
    measure?_eq reads i (Vector.replicate n none)
  rw [height?, measured]
  rfl

end

end EvidenceTree.Graph
