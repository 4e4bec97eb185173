import EvidenceTree.Proofs.Graph.Walks
import Mathlib.Data.List.Nodup

/-!
# The order of a walk

A walk keeps a list of nodes to go to, and puts the children of each node that it comes to in front
of it. A node may stand there many times, but the walk comes to it once, where a recursive walk
does: one that goes to a node and then, child by child, below it, and turns away from nodes that it
has been at.

An iterator hands the nodes out one at a time, and leaves those children off its list that have been
handed out already. It makes no difference: they would be passed over later.

* `Graph.tour`: the recursive walk.
* `Graph.preorder_eq_tour`: a walk comes to the same nodes in the same order.
* `Graph.yields_preorder`: so does an iterator.
* `Graph.nodup_preorder`: it comes to none twice.
-/

namespace EvidenceTree.Graph

variable {n : Nat} {g : Graph n} {acyclic : g.Acyclic} {seen : Vector Bool n} {i j : Fin n}
  {agenda later : List (Fin n)}

/-! ## Each node once -/

/-- A walk comes to no node that it has been at. -/
theorem get_of_mem_walk (isFound : j ∈ g.walk seen agenda) : seen.get j = false := by
  fun_induction walk g seen agenda with
  | case1 => cases isFound
  | case2 seen i later new ih => exact ih isFound
  | case3 seen i later new ih =>
    rcases List.mem_cons.1 isFound with rfl | isLater
    · exact new
    · by_contra known
      have isSeen : seen.get j = true := by simpa using known
      cases (ih isLater).symm.trans (get_set_true_iff.2 (.inr isSeen))

theorem nodup_walk (g : Graph n) (seen : Vector Bool n) (agenda : List (Fin n)) :
    (g.walk seen agenda).Nodup := by
  fun_induction walk g seen agenda with
  | case1 => exact .nil
  | case2 seen i later new ih => exact ih
  | case3 seen i later new ih =>
    refine List.nodup_cons.2 ⟨fun again => ?_, ih⟩
    cases (get_of_mem_walk again).symm.trans (get_set_true_iff.2 (.inl rfl))

theorem nodup_preorder (g : Graph n) (start : Fin n) : (g.preorder start).Nodup :=
  g.nodup_walk _ _

theorem head?_preorder (g : Graph n) (start : Fin n) : (g.preorder start).head? = some start := by
  unfold preorder
  rw [walk_of_new get_replicate_false]
  rfl

/-! ## The recursive walk -/

/-- The nodes that a recursive walk comes to from a node, and the nodes that are seen afterwards. -/
def tour (g : Graph n) (acyclic : g.Acyclic) (i : Fin n) (seen : Vector Bool n) :
    List (Fin n) × Vector Bool n :=
  if seen.get i then ([], seen)
  else
    let below := (g i).attach.foldl
      (fun (found, seen) child =>
        let (more, seen) := tour g acyclic child.1 seen
        (found ++ more, seen))
      ([], seen.set i true i.2)
    (i :: below.1, below.2)
termination_by acyclic.wrap i
decreasing_by exact child.2

/-- Goes to one child more: the nodes found so far, and those that are seen. -/
def tourNext (g : Graph n) (acyclic : g.Acyclic) (sofar : List (Fin n) × Vector Bool n)
    (child : Fin n) : List (Fin n) × Vector Bool n :=
  (sofar.1 ++ (tour g acyclic child sofar.2).1, (tour g acyclic child sofar.2).2)

theorem tour_of_seen (isSeen : seen.get i = true) : tour g acyclic i seen = ([], seen) := by
  rw [tour, if_pos isSeen]

theorem tour_of_new (isNew : seen.get i = false) :
    tour g acyclic i seen =
      (fun below : List (Fin n) × Vector Bool n => (i :: below.1, below.2))
        ((g i).foldl (tourNext g acyclic) ([], seen.set i true i.2)) := by
  have children : (g i).attach.foldl (fun sofar child => tourNext g acyclic sofar child.1)
      ([], seen.set i true i.2) = (g i).foldl (tourNext g acyclic) ([], seen.set i true i.2) :=
    List.foldl_attach
  rw [tour, if_neg (Bool.eq_false_iff.1 isNew), ← children]
  rfl

/-- A walk from some children is that from each of them, one after the other, and that from the rest
of its list. -/
theorem walk_foldl {children : List (Fin n)} (sofar : List (Fin n) × Vector Bool n)
    (later : List (Fin n))
    (each : ∀ c ∈ children, ∀ seen later,
      g.walk seen (c :: later) =
        (tour g acyclic c seen).1 ++ g.walk (tour g acyclic c seen).2 later) :
    sofar.1 ++ g.walk sofar.2 (children ++ later) =
      (children.foldl (tourNext g acyclic) sofar).1 ++
        g.walk (children.foldl (tourNext g acyclic) sofar).2 later := by
  induction children generalizing sofar with
  | nil => rfl
  | cons c children ih =>
    have rest := ih (tourNext g acyclic sofar c) fun other isLater =>
      each other (List.mem_cons_of_mem _ isLater)
    rw [List.foldl_cons, ← rest, List.cons_append, each c List.mem_cons_self, tourNext,
      List.append_assoc]

/-- What a walk comes to from the first node of its list is what the recursive walk comes to. -/
theorem walk_cons_eq_tour (acyclic : g.Acyclic) (seen : Vector Bool n) (i : Fin n)
    (later : List (Fin n)) :
    g.walk seen (i :: later) =
      (tour g acyclic i seen).1 ++ g.walk (tour g acyclic i seen).2 later := by
  induction i using acyclic.induction generalizing seen later with
  | _ i ih =>
    cases isSeen : seen.get i with
    | true =>
      rw [walk_of_seen isSeen, tour_of_seen isSeen]
      rfl
    | false =>
      have below := walk_foldl ([], seen.set i true i.2) later fun c isChild => ih c isChild
      rw [walk_of_new isSeen, tour_of_new isSeen]
      exact congrArg (i :: ·) below

/-- A walk comes to the nodes that the recursive walk comes to, in the same order. -/
theorem preorder_eq_tour (acyclic : g.Acyclic) (start : Fin n) :
    g.preorder start = (tour g acyclic start (Vector.replicate n false)).1 := by
  have whole := walk_cons_eq_tour acyclic (Vector.replicate n false) start []
  rw [walk, List.append_nil] at whole
  exact whole

/-! ## An iterator -/

/-- The nodes of a list that have not been seen. -/
def unseen (seen : Vector Bool n) (nodes : List (Fin n)) : List (Fin n) :=
  nodes.filter fun c => !seen.get c

/-- What an iterator hands out next, with the nodes seen and its list afterwards. -/
def next? (g : Graph n) (seen : Vector Bool n) :
    List (Fin n) → Option (Fin n × Vector Bool n × List (Fin n))
  | [] => none
  | i :: later =>
    if seen.get i then next? g seen later
    else some (i, seen.set i true i.2, unseen (seen.set i true i.2) (g i) ++ later)

/-- An iterator hands out these nodes and then nothing more. -/
inductive Yields (g : Graph n) : Vector Bool n → List (Fin n) → List (Fin n) → Prop
  | done {seen : Vector Bool n} {agenda : List (Fin n)} : next? g seen agenda = none →
      Yields g seen agenda []
  | more {seen seen' : Vector Bool n} {agenda agenda' : List (Fin n)} {i : Fin n}
      {rest : List (Fin n)} : next? g seen agenda = some (i, seen', agenda') →
      Yields g seen' agenda' rest → Yields g seen agenda (i :: rest)

theorem next?_append {passed : List (Fin n)} (isSeen : ∀ c ∈ passed, seen.get c = true) :
    next? g seen (passed ++ agenda) = next? g seen agenda := by
  induction passed with
  | nil => rfl
  | cons c passed ih =>
    rw [List.cons_append, next?, if_pos (isSeen c List.mem_cons_self)]
    exact ih fun other isLater => isSeen other (List.mem_cons_of_mem _ isLater)

theorem unseen_append (seen : Vector Bool n) (nodes others : List (Fin n)) :
    unseen seen (nodes ++ others) = unseen seen nodes ++ unseen seen others :=
  List.filter_append nodes others

theorem unseen_idem (seen : Vector Bool n) (nodes : List (Fin n)) :
    unseen seen (unseen seen nodes) = unseen seen nodes := by
  unfold unseen
  rw [List.filter_filter]
  simp only [Bool.and_self]

/-- What is not seen later has not been seen before. -/
theorem unseen_unseen (seen : Vector Bool n) (i : Fin n) (nodes : List (Fin n)) :
    unseen (seen.set i true i.2) (unseen seen nodes) = unseen (seen.set i true i.2) nodes := by
  unfold unseen
  rw [List.filter_filter]
  refine List.filter_congr fun c _ => ?_
  cases isSeen : seen.get c with
  | false => simp
  | true => simp [get_set_true_iff.2 (.inr isSeen)]

/-- An iterator hands out what a walk comes to whose list has the same nodes that are not seen. -/
theorem yields_walk {agenda' : List (Fin n)} (same : unseen seen agenda' = unseen seen agenda) :
    g.Yields seen agenda' (g.walk seen agenda) := by
  fun_induction walk g seen agenda generalizing agenda' with
  | case1 seen =>
    have isSeen : ∀ c ∈ agenda', seen.get c = true := by
      intro c isNext
      simpa using List.filter_eq_nil_iff.1 same c isNext
    have ended : next? g seen (agenda' ++ []) = none := next?_append isSeen
    rw [List.append_nil] at ended
    exact .done ended
  | case2 seen i later new ih =>
    refine ih (same.trans (List.filter_cons_of_neg ?_))
    have isSeen : seen.get i = true := new
    simp [isSeen]
  | case3 seen i later new ih =>
    have isNew : seen.get i = false := new
    have first : unseen seen agenda' = i :: unseen seen later :=
      same.trans (List.filter_cons_of_pos (by simp [isNew]))
    obtain ⟨passed, others, rfl, isPassed, -, rest⟩ := List.filter_eq_cons_iff.1 first
    have handed : next? g seen (passed ++ i :: others) =
        some (i, seen.set i true i.2, unseen (seen.set i true i.2) (g i) ++ others) := by
      rw [next?_append fun c isBefore => by simpa using isPassed c isBefore, next?,
        if_neg (Bool.eq_false_iff.1 isNew)]
    refine .more handed (ih ?_)
    have left : unseen seen others = unseen seen later := rest
    rw [unseen_append, unseen_append, unseen_idem, ← unseen_unseen seen i others, left,
      unseen_unseen]

/-- An iterator hands out the nodes that a walk comes to, in the same order. -/
theorem yields_preorder (g : Graph n) (start : Fin n) :
    g.Yields (Vector.replicate n false) [start] (g.preorder start) :=
  yields_walk rfl

end EvidenceTree.Graph
