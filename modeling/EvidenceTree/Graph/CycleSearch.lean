import EvidenceTree.Graph.Basic

/-!
# Searching a graph for a cycle

A depth-first search from every node, reachable from the first or not. A node is on the path while
the search is below it and done afterwards; a child that is on the path closes a cycle, and the
edge to it is the answer. The search keeps the path itself, with the children that are still to be
visited, so it needs no call stack.

* `acyclic_of_closing_eq_none`: a search that closes no cycle proves the graph acyclic.
-/

namespace EvidenceTree.Graph

variable {n : Nat}

/-! ## The search -/

/-- How far the search is with a node. -/
inductive Mark where
  | unvisited
  | onPath
  | done
  deriving DecidableEq, Inhabited

/-- A node on the path and those of its children that are still to be visited. -/
abbrev Frame (n : Nat) := Fin n × List (Fin n)

/-- What a search leaves behind: the edge that closes a cycle, if there is one, and the marks. -/
structure Search (n : Nat) where
  closing : Option (Edge n)
  marks : Vector Mark n

/-- The work that a path still holds. -/
def pending (path : List (Frame n)) : Nat :=
  path.foldr (fun frame work => frame.2.length + 1 + work) 0

/-- Searches below the nodes of a path, innermost first. -/
def searchBelow (g : Graph n) (marks : Vector Mark n) (path : List (Frame n)) : Search n :=
  match path with
  | [] => ⟨none, marks⟩
  | (current, []) :: above => searchBelow g (marks.set current .done) above
  | (current, child :: others) :: above =>
    match seen : marks[child] with
    | .onPath => ⟨some ⟨current, child⟩, marks⟩
    | .done => searchBelow g marks ((current, others) :: above)
    | .unvisited =>
      searchBelow g (marks.set child .onPath) ((child, g child) :: (current, others) :: above)
termination_by (marks.count .unvisited, pending path)
decreasing_by
  · refine Prod.Lex.right' _ (count_set_le marks current (by decide)) ?_
    simp [pending]
  · refine Prod.Lex.right _ ?_
    simp [pending]
  · exact Prod.Lex.left _ _ (count_set_lt seen (by decide))

/-- Searches from each of the nodes that no earlier search came to. -/
def searchFrom (g : Graph n) (marks : Vector Mark n) : List (Fin n) → Search n
  | [] => ⟨none, marks⟩
  | start :: others =>
    if marks[start] = .unvisited then
      let search := searchBelow g (marks.set start .onPath) [(start, g start)]
      match search.closing with
      | some _ => search
      | none => searchFrom g search.marks others
    else searchFrom g marks others

/-- No node is visited yet. -/
def fresh (n : Nat) : Vector Mark n := Vector.replicate n .unvisited

/-- Searches the whole graph, from marks that say nothing yet. -/
def searchAll (g : Graph n) (marks : Vector Mark n) : Search n :=
  searchFrom g marks (List.finRange n)

/-! ## A search that closes no cycle -/

/-- Every child of a node on the path is still to be visited, done, or the next node inward. -/
def Covered (g : Graph n) (marks : Vector Mark n) : Option (Fin n) → List (Frame n) → Prop
  | _, [] => True
  | inner, (node, left) :: above =>
    (∀ c ∈ g node, c ∈ left ∨ marks[c] = .done ∨ some c = inner) ∧
      Covered g marks (some node) above

/-- What holds during a search: a done node starts no endless walk, and a node is on the path only
while its frame is. -/
structure Invariant (g : Graph n) (marks : Vector Mark n) (path : List (Frame n)) : Prop where
  sound : ∀ x : Fin n, marks[x] = .done → Acc g.Child x
  listed : ∀ x : Fin n, marks[x] = .onPath → x ∈ path.map (·.1)
  covered : Covered g marks none path

theorem getElem_set_of_ne {marks : Vector Mark n} {c x : Fin n} {mark : Mark} (differ : c ≠ x) :
    (marks.set c mark)[x] = marks[x] :=
  Vector.getElem_set_ne c.2 x.2 (fun same => differ (Fin.ext same))

theorem getElem_set_self {marks : Vector Mark n} {c : Fin n} {mark : Mark} :
    (marks.set c mark)[c] = mark :=
  Vector.getElem_set_self c.2

/-- Marks may change as long as done nodes stay done. -/
theorem Covered.mono {g : Graph n} {marks marks' : Vector Mark n}
    (kept : ∀ x : Fin n, marks[x] = .done → marks'[x] = .done) :
    ∀ {inner : Option (Fin n)} {path : List (Frame n)},
      Covered g marks inner path → Covered g marks' inner path
  | _, [], _ => trivial
  | _, _ :: _, ⟨here, above⟩ =>
    ⟨fun c hc => (here c hc).imp_right (Or.imp_left (kept c)), above.mono kept⟩

/-- The innermost node is no longer needed as such once it is done. -/
theorem Covered.release {g : Graph n} {marks : Vector Mark n} {node : Fin n}
    (isDone : marks[node] = .done) :
    ∀ {path : List (Frame n)}, Covered g marks (some node) path → Covered g marks none path
  | [], _ => trivial
  | _ :: _, ⟨here, above⟩ => by
    refine ⟨fun c hc => ?_, above⟩
    rcases here c hc with inLeft | done | inner
    · exact .inl inLeft
    · exact .inr (.inl done)
    · rw [Option.some.inj inner]
      exact .inr (.inl isDone)

namespace Invariant

variable {g : Graph n} {marks : Vector Mark n} {above : List (Frame n)} {current : Fin n}

/-- A node whose children are all visited is done. -/
theorem leave (inv : Invariant g marks ((current, []) :: above)) :
    Invariant g (marks.set current .done) above := by
  have current_acc : Acc g.Child current := by
    refine Acc.intro _ fun c hc => ?_
    rcases inv.covered.1 c hc with inLeft | done | inner
    · cases inLeft
    · exact inv.sound c done
    · cases inner
  have kept : ∀ x : Fin n, marks[x] = .done → (marks.set current .done)[x] = .done := by
    intro x done
    by_cases same : current = x
    · subst same
      exact getElem_set_self
    · rw [getElem_set_of_ne same, done]
  refine ⟨fun x done => ?_, fun x onPath => ?_,
    (inv.covered.2.mono kept).release getElem_set_self⟩
  · by_cases same : current = x
    · exact same ▸ current_acc
    · rw [getElem_set_of_ne same] at done
      exact inv.sound x done
  · by_cases same : current = x
    · subst same
      rw [getElem_set_self] at onPath
      cases onPath
    · rw [getElem_set_of_ne same] at onPath
      rcases List.mem_cons.1 (inv.listed x onPath) with here | inAbove
      · exact absurd here.symm same
      · exact inAbove

/-- A child that is done needs no visit. -/
theorem pass {child : Fin n} {others : List (Fin n)}
    (inv : Invariant g marks ((current, child :: others) :: above)) (done : marks[child] = .done) :
    Invariant g marks ((current, others) :: above) := by
  refine ⟨inv.sound, inv.listed, fun c hc => ?_, inv.covered.2⟩
  rcases inv.covered.1 c hc with inLeft | done' | inner
  · rcases List.mem_cons.1 inLeft with here | later
    · exact here ▸ .inr (.inl done)
    · exact .inl later
  · exact .inr (.inl done')
  · cases inner

/-- An unvisited child becomes the innermost node of the path. -/
theorem enter {child : Fin n} {others : List (Fin n)}
    (inv : Invariant g marks ((current, child :: others) :: above))
    (unvisited : marks[child] = .unvisited) :
    Invariant g (marks.set child .onPath) ((child, g child) :: (current, others) :: above) := by
  have kept : ∀ x : Fin n, marks[x] = .done → (marks.set child .onPath)[x] = .done := by
    intro x done
    by_cases same : child = x
    · subst same
      rw [unvisited] at done
      cases done
    · rw [getElem_set_of_ne same, done]
  refine ⟨fun x done => ?_, fun x onPath => ?_, fun c hc => .inl hc, fun c hc => ?_,
    inv.covered.2.mono kept⟩
  · by_cases same : child = x
    · subst same
      rw [getElem_set_self] at done
      cases done
    · rw [getElem_set_of_ne same] at done
      exact inv.sound x done
  · by_cases same : child = x
    · subst same
      exact List.mem_cons_self
    · rw [getElem_set_of_ne same] at onPath
      exact List.mem_cons_of_mem _ (inv.listed x onPath)
  · rcases inv.covered.1 c hc with inLeft | done | inner
    · rcases List.mem_cons.1 inLeft with here | later
      · exact here ▸ .inr (.inr rfl)
      · exact .inl later
    · exact .inr (.inl (kept c done))
    · cases inner

end Invariant

/-- What a search that closes no cycle ends with. -/
structure Finished (g : Graph n) (marks : Vector Mark n) (nodes : List (Fin n))
    (search : Search n) : Prop where
  final : Invariant g search.marks []
  kept : ∀ x : Fin n, marks[x] = .done → search.marks[x] = .done
  visited : ∀ x ∈ nodes, search.marks[x] = .done

theorem finished_searchBelow {g : Graph n} {marks : Vector Mark n} {path : List (Frame n)}
    (inv : Invariant g marks path) (none_closed : (searchBelow g marks path).closing = none) :
    Finished g marks (path.map (·.1)) (searchBelow g marks path) := by
  fun_induction searchBelow g marks path with
  | case1 marks => exact ⟨inv, fun _ => id, fun _ hx => absurd hx List.not_mem_nil⟩
  | case2 marks current above ih =>
    have finished := ih inv.leave none_closed
    refine ⟨finished.final, fun x done => finished.kept x ?_, fun x hx => ?_⟩
    · by_cases same : current = x
      · exact same ▸ getElem_set_self
      · rw [getElem_set_of_ne same, done]
    · rcases List.mem_cons.1 hx with here | inAbove
      · exact here ▸ finished.kept current getElem_set_self
      · exact finished.visited x inAbove
  | case3 marks current child others above seen => cases none_closed
  | case4 marks current child others above seen ih => exact ih (inv.pass seen) none_closed
  | case5 marks current child others above seen ih =>
    have finished := ih (inv.enter seen) none_closed
    refine ⟨finished.final, fun x done => finished.kept x ?_, fun x hx =>
      finished.visited x (List.mem_cons_of_mem _ hx)⟩
    by_cases same : child = x
    · subst same
      rw [seen] at done
      cases done
    · rw [getElem_set_of_ne same, done]

theorem invariant_start {g : Graph n} {marks : Vector Mark n} {start : Fin n}
    (inv : Invariant g marks []) :
    Invariant g (marks.set start .onPath) [(start, g start)] := by
  refine ⟨fun x done => ?_, fun x onPath => ?_, fun c hc => .inl hc, trivial⟩
  · by_cases same : start = x
    · subst same
      rw [getElem_set_self] at done
      cases done
    · rw [getElem_set_of_ne same] at done
      exact inv.sound x done
  · by_cases same : start = x
    · exact same ▸ List.mem_cons_self
    · rw [getElem_set_of_ne same] at onPath
      exact absurd (inv.listed x onPath) List.not_mem_nil

theorem finished_searchFrom {g : Graph n} {marks : Vector Mark n} {starts : List (Fin n)}
    (inv : Invariant g marks []) (none_closed : (searchFrom g marks starts).closing = none) :
    Finished g marks starts (searchFrom g marks starts) := by
  induction starts generalizing marks with
  | nil => exact ⟨inv, fun _ => id, fun _ hx => absurd hx List.not_mem_nil⟩
  | cons start others ih =>
    by_cases unvisited : marks[start] = .unvisited
    · cases closing : (searchBelow g (marks.set start .onPath) [(start, g start)]).closing with
      | some edge =>
        rw [searchFrom, if_pos unvisited] at none_closed
        simp [closing] at none_closed
      | none =>
        have below := finished_searchBelow (invariant_start inv) closing
        have step : searchFrom g marks (start :: others) =
            searchFrom g (searchBelow g (marks.set start .onPath) [(start, g start)]).marks
              others := by
          rw [searchFrom, if_pos unvisited]
          simp only [closing]
        rw [step] at none_closed ⊢
        have rest := ih below.final none_closed
        refine ⟨rest.final, fun x done => rest.kept x (below.kept x ?_), fun x hx => ?_⟩
        · by_cases same : start = x
          · subst same
            rw [unvisited] at done
            cases done
          · rw [getElem_set_of_ne same, done]
        · rcases List.mem_cons.1 hx with here | later
          · exact here ▸ rest.kept start (below.visited start List.mem_cons_self)
          · exact rest.visited x later
    · have step : searchFrom g marks (start :: others) = searchFrom g marks others := by
        rw [searchFrom, if_neg unvisited]
      rw [step] at none_closed ⊢
      have rest := ih inv none_closed
      refine ⟨rest.final, rest.kept, fun x hx => ?_⟩
      rcases List.mem_cons.1 hx with here | later
      · subst here
        refine rest.kept x ?_
        cases mark : marks[x] with
        | unvisited => exact absurd mark unvisited
        | onPath => exact absurd (inv.listed x mark) List.not_mem_nil
        | done => rfl
      · exact rest.visited x later

theorem invariant_fresh (g : Graph n) : Invariant g (fresh n) [] := by
  refine ⟨fun x done => ?_, fun x onPath => ?_, trivial⟩
  · simp [fresh] at done
  · simp [fresh] at onPath

/-- A search from fresh marks that closes no cycle proves the graph acyclic. -/
theorem acyclic_of_closing_eq_none {g : Graph n}
    (none_closed : (searchAll g (fresh n)).closing = none) : g.Acyclic := by
  have finished := finished_searchFrom (invariant_fresh g) none_closed
  exact ⟨fun x => finished.final.sound x (finished.visited x (List.mem_finRange x))⟩

/-! ## Marks kept from an earlier search -/

/-- Marks of an earlier search, of a graph of any size, made ready for a graph of `n` nodes. -/
def ready (left : Array Mark) (n : Nat) : Vector Mark n :=
  ⟨(left.map fun _ => .unvisited).take n ++ Array.replicate (n - left.size) .unvisited, by
    simp
    omega⟩

/-- Nothing is left of the earlier search. -/
theorem ready_eq_fresh (left : Array Mark) (n : Nat) : ready left n = fresh n := by
  refine Vector.ext fun i hi => ?_
  simp only [ready, fresh, Vector.getElem_mk, Vector.getElem_replicate]
  rw [Array.getElem_append]
  split <;> simp

end EvidenceTree.Graph
