import EvidenceTree.Live.State
import Mathlib.Data.List.Induction
import Mathlib.Logic.Relation

/-!
# What handles serve

A history is a list of steps, each an action with the files of its time. Which tree a handle serves
can be told from the history alone, without slots: clones make families of handles, and a family
serves the tree that was put in place last for one of them.

* `Live.Kin`: the handles of a family; `Live.Latest`: the tree put in place last for a group.
* `Live.Effect`: all that an action can do to the slots, handles and snapshots.
* `Live.latest_held`: the tree in a slot is the latest of the handles that lead to it, by induction
  over the history.
* `Live.run_faithful`: what a run answers and keeps, at every point of every history.
-/

namespace EvidenceTree.Live

/-- An action with the files of its time. -/
abbrev Step := FileSystem × Action

/-! ## What a history says -/

/-- How many handles there are once an action is taken. -/
def Action.count (n : Nat) : Action → Nat
  | create _ _ => n + 1
  | clone handle => if handle < n then n + 1 else n
  | _ => n

/-- How many handles there are after a history, which starts with one. -/
def count (steps : List Step) : Nat := steps.foldl (fun n step => step.2.count n) 1

/-- The handle that an action is on, unless it makes a handle on its own. -/
def Action.subject? : Action → Option Nat
  | create _ _ => none
  | clone handle => some handle
  | replace handle _ => some handle
  | reload handle _ => some handle
  | resolve handle _ => some handle
  | current handle => some handle
  | snapshot handle => some handle
  | resolveSnapshot handle _ _ => some handle

/-- A handle was made as a clone of another one. -/
def Cloned (steps : List Step) (handle copy : Nat) : Prop :=
  ∃ before fs later, steps = before ++ (fs, .clone handle) :: later ∧ handle < count before ∧
    copy = count before

/-- Two handles are of one family: clones lead from one to the other. -/
def Kin (steps : List Step) : Nat → Nat → Prop := Relation.EqvGen (Cloned steps)

/-- A step puts a tree in place for a handle, given how many handles there are before it. -/
inductive Installs (n : Nat) : Step → Nat → Tree → Prop
  | create {fs : FileSystem} {tree : Tree} {options : Options} :
      Installs n (fs, .create (some tree) options) n tree
  | replace {fs : FileSystem} {handle : Nat} {tree : Tree} : handle < n →
      Installs n (fs, .replace handle tree) handle tree
  | reload {fs : FileSystem} {handle : Nat} {path : String} {tree : Tree} : handle < n →
      loadTree fs path = .ok tree → Installs n (fs, .reload handle path) handle tree

/-- No step puts a tree in place for a handle of a group, given the steps before the first. -/
def Quiet (group : Nat → Prop) (earlier steps : List Step) : Prop :=
  ∀ before step later handle tree, steps = before ++ step :: later →
    Installs (count (earlier ++ before)) step handle tree → ¬ group handle

/-- The tree that was put in place last for a handle of a group, if there was any. -/
inductive Latest (group : Nat → Prop) (steps : List Step) : Option Tree → Prop
  | never : Quiet group [] steps → Latest group steps none
  | last {before later : List Step} {step : Step} {handle : Nat} {tree : Tree} :
      steps = before ++ step :: later → Installs (count before) step handle tree → group handle →
      Quiet group (before ++ [step]) later → Latest group steps (some tree)

/-! ## Runs -/

/-- The state after a history. -/
def after (steps : List Step) : State := (run .initial steps).2

/-- What the step at a place of a history is answered. -/
def answer? (steps : List Step) (place : Nat) : Option Answer := (run .initial steps).1[place]?

variable {steps before later : List Step} {step : Step} {fs : FileSystem} {action : Action}
  {state : State} {group : Nat → Prop} {handle other slot : Nat} {tree : Tree}

theorem length_answers : (run state steps).1.length = steps.length := by
  induction steps generalizing state with
  | nil => rfl
  | cons step steps ih => exact congrArg (· + 1) ih

theorem run_append :
    run state (before ++ later) =
      ((run state before).1 ++ (run (run state before).2 later).1,
        (run (run state before).2 later).2) := by
  induction before generalizing state with
  | nil => rfl
  | cons step before ih => simp only [List.cons_append, run, ih]

theorem after_snoc : after (steps ++ [(fs, action)]) = (act fs (after steps) action).2 := by
  unfold after
  rw [run_append]
  rfl

theorem answer?_append_cons :
    answer? (steps ++ (fs, action) :: later) steps.length =
      some (act fs (after steps) action).1 := by
  have front : (run .initial steps).1.length = steps.length := length_answers
  unfold answer? after
  rw [run_append, ← front, List.getElem?_append_right (Nat.le_refl _), Nat.sub_self]
  rfl

theorem count_snoc : count (steps ++ [(fs, action)]) = action.count (count steps) := by
  unfold count
  rw [List.foldl_append]
  rfl

theorem count_le_snoc : count steps ≤ count (steps ++ [(fs, action)]) := by
  rw [count_snoc]
  cases action <;> grind [Action.count]

theorem count_le_append : count steps ≤ count (steps ++ later) := by
  induction later using List.reverseRecOn with
  | nil => exact Nat.le_of_eq (by rw [List.append_nil])
  | append_singleton later step ih =>
    rw [← List.append_assoc]
    exact Nat.le_trans ih count_le_snoc

/-! ## What one action does -/

/-- The slot of a handle. -/
def State.slot? (state : State) (handle : Nat) : Option Nat :=
  state.handles[handle]?.map Handle.slot

/-- The tree in a slot. -/
def State.held (state : State) (slot : Nat) : Option Tree := state.slots[slot]?.join

/-- Each handle leads to a slot that is there. -/
def State.Slotted (state : State) : Prop := ∀ h ∈ state.handles, h.slot < state.slots.length

namespace State

theorem current_eq_held (found : state.slot? handle = some slot) :
    state.current handle = state.held slot := by
  obtain ⟨h, isHandle, rfl⟩ := Option.map_eq_some_iff.1 found
  unfold current held
  rw [isHandle]
  rfl

theorem exists_slot? (inside : handle < state.handles.length) :
    ∃ slot, state.slot? handle = some slot := by
  unfold slot?
  rw [List.getElem?_eq_getElem inside]
  exact ⟨_, rfl⟩

theorem lt_of_slot? (found : state.slot? handle = some slot) : handle < state.handles.length := by
  obtain ⟨h, isHandle, -⟩ := Option.map_eq_some_iff.1 found
  exact (List.getElem?_eq_some_iff.1 isHandle).1

theorem Slotted.lt (slotted : state.Slotted) (found : state.slot? handle = some slot) :
    slot < state.slots.length := by
  obtain ⟨h, isHandle, rfl⟩ := Option.map_eq_some_iff.1 found
  exact slotted h (List.mem_of_getElem? isHandle)

/-- A handle without a tree gives no profile and no path. -/
theorem resolve_eq (state : State) (handle : Nat) (source : Evidence.Source) :
    state.resolve handle source = match state.current handle with
      | some tree => tree.resolve (state.optionsOf handle) source
      | none => ⟨none, [], some .noTree⟩ := by
  unfold State.resolve resolveBy
  cases state.current handle <;> rfl

theorem install_of_slot? (found : state.slot? handle = some slot) :
    state.install handle tree = { state with slots := state.slots.set slot (some tree) } := by
  obtain ⟨h, isHandle, rfl⟩ := Option.map_eq_some_iff.1 found
  unfold install
  rw [isHandle]

theorem install_of_le (outside : state.handles.length ≤ handle) :
    state.install handle tree = state := by
  unfold install
  rw [List.getElem?_eq_none outside]

theorem held_set {slots : List (Option Tree)} (inside : slot < slots.length) (tree : Tree)
    (place : Nat) : (slots.set slot (some tree))[place]?.join =
      if slot = place then some tree else slots[place]?.join := by
  rw [List.getElem?_set]
  by_cases same : slot = place
  · rw [if_pos same, if_pos same, if_pos inside]
    rfl
  · rw [if_neg same, if_neg same]

theorem held_append (slots : List (Option Tree)) (tree : Option Tree) (place : Nat) :
    (slots ++ [tree])[place]?.join = if place = slots.length then tree else slots[place]?.join := by
  rcases Nat.lt_trichotomy place slots.length with less | rfl | more
  · rw [List.getElem?_append_left less, if_neg (Nat.ne_of_lt less)]
  · rw [List.getElem?_concat_length, if_pos rfl]
    rfl
  · have beyond : (slots ++ [tree]).length ≤ place := by
      rw [List.length_append]
      exact more
    rw [List.getElem?_eq_none beyond, List.getElem?_eq_none (Nat.le_of_lt more),
      if_neg (Nat.ne_of_gt more)]

theorem slot_append_cases {handles : List Handle} {h : Handle}
    (found : (handles ++ [h])[handle]?.map Handle.slot = some slot) :
    handles[handle]?.map Handle.slot = some slot ∨ handle = handles.length ∧ slot = h.slot := by
  rcases Nat.lt_trichotomy handle handles.length with less | rfl | more
  · rw [List.getElem?_append_left less] at found
    exact .inl found
  · rw [List.getElem?_concat_length] at found
    exact .inr ⟨rfl, (Option.some.inj found).symm⟩
  · have beyond : (handles ++ [h]).length ≤ handle := by
      rw [List.length_append]
      exact more
    rw [List.getElem?_eq_none beyond] at found
    cases found

end State

open State

theorem Installs.unique {n : Nat} {tree' : Tree} (put : Installs n step handle tree)
    (put' : Installs n step other tree') : handle = other ∧ tree = tree' := by
  cases put with
  | create => cases put'; exact ⟨rfl, rfl⟩
  | replace => cases put'; exact ⟨rfl, rfl⟩
  | reload _ loaded =>
    cases put' with
    | reload _ loaded' => exact ⟨rfl, Except.ok.inj (loaded.symm.trans loaded')⟩

theorem Installs.lt_count (put : Installs (count steps) (fs, action) handle tree) :
    handle < count (steps ++ [(fs, action)]) := by
  rw [count_snoc]
  cases put with
  | create => exact Nat.lt_succ_self _
  | replace inside => exact inside
  | reload inside _ => exact inside

/-- What an action can do: a handle is added, a tree is put in place, or neither. -/
inductive Effect (fs : FileSystem) (state : State) : Action → State → Prop
  | create (tree : Option Tree) (options : Options) :
      Effect fs state (.create tree options) (state.addHandle tree options)
  | clone {handle : Nat} {h : Handle} : state.handles[handle]? = some h →
      Effect fs state (.clone handle) { state with handles := state.handles ++ [h] }
  | install {action : Action} {handle slot : Nat} {tree : Tree} :
      state.slot? handle = some slot → Installs state.handles.length (fs, action) handle tree →
      action.subject? = some handle → action.count state.handles.length = state.handles.length →
      Effect fs state action { state with slots := state.slots.set slot (some tree) }
  | rest {action : Action} (trees : List (Option Tree)) :
      (∀ handle tree, ¬ Installs state.handles.length (fs, action) handle tree) →
      action.count state.handles.length = state.handles.length →
      Effect fs state action { state with snapshots := state.snapshots ++ trees }

theorem Effect.unchanged (quiet : ∀ handle tree,
      ¬ Installs state.handles.length (fs, action) handle tree)
    (kept : action.count state.handles.length = state.handles.length) :
    Effect fs state action state := by
  have rest := Effect.rest [] quiet kept
  rwa [List.append_nil] at rest

theorem Effect.installed
    (installs : handle < state.handles.length →
      Installs state.handles.length (fs, action) handle tree)
    (only : ∀ other tree, Installs state.handles.length (fs, action) other tree →
      handle < state.handles.length)
    (subject : action.subject? = some handle)
    (kept : action.count state.handles.length = state.handles.length) :
    Effect fs state action (state.install handle tree) := by
  rcases Nat.lt_or_ge handle state.handles.length with inside | outside
  · obtain ⟨slot, found⟩ := exists_slot? inside
    rw [install_of_slot? found]
    exact .install found (installs inside) subject kept
  · rw [install_of_le outside]
    exact .unchanged (fun other tree put => Nat.not_lt.2 outside (only other tree put)) kept

theorem effect_clone : Effect fs state (.clone handle) (state.cloneHandle handle) := by
  unfold cloneHandle
  cases found : state.handles[handle]? with
  | some h => exact .clone found
  | none =>
    have outside : ¬ handle < state.handles.length :=
      Nat.not_lt.2 (List.getElem?_eq_none_iff.1 found)
    exact .unchanged (fun _ _ put => by cases put) (if_neg outside)

theorem effect_reload {path : String} :
    Effect fs state (.reload handle path) (act fs state (.reload handle path)).2 := by
  cases loaded : loadTree fs path with
  | ok tree =>
    have next : (act fs state (.reload handle path)).2 = state.install handle tree := by
      simp only [act, loaded]
    rw [next]
    refine .installed (.reload · loaded) (fun _ _ put => ?_) rfl rfl
    cases put
    assumption
  | error failure =>
    have next : (act fs state (.reload handle path)).2 = state := by simp only [act, loaded]
    rw [next]
    refine .unchanged (fun _ _ put => ?_) rfl
    cases put with
    | reload _ loaded' => cases loaded.symm.trans loaded'

theorem effect_act (fs : FileSystem) (state : State) (action : Action) :
    Effect fs state action (act fs state action).2 := by
  cases action with
  | create tree options => exact .create tree options
  | clone handle => exact effect_clone
  | replace handle tree =>
    refine .installed .replace (fun _ _ put => ?_) rfl rfl
    cases put
    assumption
  | reload handle path => exact effect_reload
  | snapshot handle => exact .rest [_] (fun _ _ put => by cases put) rfl
  | _ => exact .unchanged (fun _ _ put => by cases put) rfl

namespace Effect

variable {next : State}

/-- Handles and snapshots are only ever added, behind those that are there. -/
theorem grows (effect : Effect fs state action next) :
    state.handles <+: next.handles ∧ state.snapshots <+: next.snapshots := by
  cases effect with
  | create => exact ⟨List.prefix_append _ _, List.prefix_rfl⟩
  | clone => exact ⟨List.prefix_append _ _, List.prefix_rfl⟩
  | install => exact ⟨List.prefix_rfl, List.prefix_rfl⟩
  | rest => exact ⟨List.prefix_rfl, List.prefix_append _ _⟩

theorem length_handles (effect : Effect fs state action next) :
    next.handles.length = action.count state.handles.length := by
  cases effect with
  | create tree options => exact List.length_append
  | clone found =>
    have inside := (List.getElem?_eq_some_iff.1 found).1
    exact List.length_append.trans (if_pos inside).symm
  | install _ _ _ kept => exact kept.symm
  | rest _ _ kept => exact kept.symm

theorem slotted (effect : Effect fs state action next) (slotted : state.Slotted) :
    next.Slotted := by
  cases effect with
  | create tree options =>
    intro h isHandle
    have grown : (state.addHandle tree options).slots.length = state.slots.length + 1 :=
      List.length_append
    rw [grown]
    rcases List.mem_append.1 isHandle with old | new
    · exact Nat.lt_succ_of_lt (slotted h old)
    · cases List.mem_singleton.1 new
      exact Nat.lt_succ_self _
  | clone found =>
    intro h isHandle
    rcases List.mem_append.1 isHandle with old | new
    · exact slotted h old
    · rw [List.mem_singleton.1 new]
      exact slotted _ (List.mem_of_getElem? found)
  | install =>
    intro h isHandle
    exact Nat.lt_of_lt_of_eq (slotted h isHandle) List.length_set.symm
  | rest => exact slotted

/-- A handle is there already, or is added behind the others, for a slot of its own or for that of
the handle it is a clone of. -/
theorem slot?_cases (effect : Effect fs state action next)
    (found : next.slot? handle = some slot) :
    state.slot? handle = some slot ∨ handle = state.handles.length ∧
      (slot = state.slots.length ∨
        ∃ original, action = .clone original ∧ state.slot? original = some slot) := by
  cases effect with
  | create =>
    rcases slot_append_cases found with old | ⟨isNew, same⟩
    · exact .inl old
    · exact .inr ⟨isNew, .inl same⟩
  | @clone original h isHandle =>
    rcases slot_append_cases found with old | ⟨isNew, rfl⟩
    · exact .inl old
    · exact .inr ⟨isNew, .inr ⟨original, rfl, Option.map_eq_some_iff.2 ⟨h, isHandle, rfl⟩⟩⟩
  | install => exact .inl found
  | rest => exact .inl found

/-- The tree in a slot is the one that the action puts in place for a handle of it, or none is and
it is the one that was there. -/
theorem held_cases (effect : Effect fs state action next) (slotted : state.Slotted) (slot : Nat) :
    (∃ handle tree, Installs state.handles.length (fs, action) handle tree ∧
        next.slot? handle = some slot ∧ next.held slot = some tree) ∨
      (∀ handle tree, Installs state.handles.length (fs, action) handle tree →
        next.slot? handle ≠ some slot) ∧ next.held slot = state.held slot := by
  cases effect with
  | create tree options =>
    have held := held_append state.slots tree slot
    have newSlot : (state.addHandle tree options).slot? state.handles.length =
        some state.slots.length := by
      unfold slot? addHandle
      rw [List.getElem?_concat_length]
      rfl
    by_cases last : slot = state.slots.length
    · subst last
      rw [if_pos rfl] at held
      cases tree with
      | some tree => exact .inl ⟨_, tree, .create, newSlot, held⟩
      | none =>
        have empty : state.held state.slots.length = none := by
          unfold State.held
          rw [List.getElem?_eq_none (Nat.le_refl _)]
          rfl
        exact .inr ⟨fun handle tree put => (by cases put), held.trans empty.symm⟩
    · rw [if_neg last] at held
      refine .inr ⟨fun handle tree put => ?_, held⟩
      cases put
      rw [newSlot]
      exact fun same => last (Option.some.inj same).symm
  | clone => exact .inr ⟨fun handle tree put => (by cases put), rfl⟩
  | @install _ handle slot' tree found put =>
    have held := held_set (slotted.lt found) tree slot
    by_cases same : slot' = slot
    · subst same
      exact .inl ⟨handle, tree, put, found, held.trans (if_pos rfl)⟩
    · refine .inr ⟨fun other tree' put' same' => ?_, held.trans (if_neg same)⟩
      cases (put.unique put').1
      exact same (Option.some.inj (found.symm.trans same'))
  | rest trees quiet => exact .inr ⟨fun handle tree put => absurd put (quiet handle tree), rfl⟩

/-- An action on handles of other slots leaves the tree in a slot. -/
theorem held_eq_of_apart (effect : Effect fs state action next) (slotted : state.Slotted)
    (inside : slot < state.slots.length)
    (apart : ∀ handle, action.subject? = some handle → state.slot? handle ≠ some slot) :
    next.held slot = state.held slot := by
  cases effect with
  | create tree options => exact (held_append _ _ _).trans (if_neg (Nat.ne_of_lt inside))
  | clone => rfl
  | @install _ handle slot' tree found _ subject =>
    refine (held_set (slotted.lt found) tree slot).trans (if_neg ?_)
    rintro rfl
    exact apart handle subject found
  | rest => rfl

end Effect

/-! ## What a run keeps -/

theorem effect_snoc : Effect fs (after steps) action (after (steps ++ [(fs, action)])) := by
  rw [after_snoc]
  exact effect_act fs (after steps) action

theorem length_handles_after : (after steps).handles.length = count steps := by
  induction steps using List.reverseRecOn with
  | nil => rfl
  | append_singleton steps step ih =>
    rw [effect_snoc.length_handles, count_snoc, ih]

theorem slotted_after : (after steps).Slotted := by
  induction steps using List.reverseRecOn with
  | nil =>
    intro h isHandle
    rw [List.mem_singleton.1 isHandle]
    exact Nat.zero_lt_one
  | append_singleton steps step ih => exact effect_snoc.slotted ih

theorem after_grows : (after steps).handles <+: (after (steps ++ later)).handles ∧
    (after steps).snapshots <+: (after (steps ++ later)).snapshots := by
  induction later using List.reverseRecOn with
  | nil =>
    rw [List.append_nil]
    exact ⟨List.prefix_rfl, List.prefix_rfl⟩
  | append_singleton later step ih =>
    rw [← List.append_assoc]
    exact ⟨ih.1.trans effect_snoc.grows.1, ih.2.trans effect_snoc.grows.2⟩

theorem handle?_after (inside : handle < count steps) :
    (after (steps ++ later)).handles[handle]? = (after steps).handles[handle]? := by
  rw [← length_handles_after] at inside
  rw [List.prefix_iff_getElem?.1 after_grows.1 handle inside,
    List.getElem?_eq_getElem inside]

theorem slot?_after (inside : handle < count steps) :
    (after (steps ++ later)).slot? handle = (after steps).slot? handle :=
  congrArg (Option.map Handle.slot) (handle?_after inside)

theorem lt_count_of_slot? (found : (after steps).slot? handle = some slot) :
    handle < count steps :=
  Nat.lt_of_lt_of_eq (lt_of_slot? found) length_handles_after

theorem optionsOf_after (inside : handle < count steps) :
    (after (steps ++ later)).optionsOf handle = (after steps).optionsOf handle := by
  unfold optionsOf
  rw [handle?_after inside]

/-- A snapshot keeps the tree that was served when it was taken. -/
theorem snapshots_after :
    (after (steps ++ (fs, .snapshot handle) :: later)).snapshots[(after steps).snapshots.length]? =
      some ((after steps).current handle) := by
  have taken : (after (steps ++ [(fs, .snapshot handle)])).snapshots =
      (after steps).snapshots ++ [(after steps).current handle] := by
    rw [after_snoc]
    rfl
  have kept : (after steps).snapshots ++ [(after steps).current handle] <+:
      (after (steps ++ (fs, .snapshot handle) :: later)).snapshots := by
    rw [List.append_cons steps, ← taken]
    exact after_grows.2
  have inside : (after steps).snapshots.length <
      ((after steps).snapshots ++ [(after steps).current handle]).length := by
    rw [List.length_append]
    exact Nat.lt_succ_self _
  rw [List.prefix_iff_getElem?.1 kept _ inside, List.getElem_concat_length rfl]

/-! ## Families and slots -/

theorem Cloned.append (cloned : Cloned steps handle other) :
    Cloned (steps ++ later) handle other := by
  rcases cloned with ⟨before, fs, rest, rfl, inside, rfl⟩
  exact ⟨before, fs, rest ++ later, by simp, inside, rfl⟩

theorem Kin.append (kin : Kin steps handle other) : Kin (steps ++ later) handle other :=
  kin.mono fun _ _ => Cloned.append

/-- A clone has the slot of the handle it was made of. -/
theorem Cloned.slot?_eq (cloned : Cloned steps handle other) :
    (after steps).slot? handle = (after steps).slot? other := by
  rcases cloned with ⟨before, fs, rest, rfl, inside, rfl⟩
  have grown : count (before ++ [(fs, .clone handle)]) = count before + 1 :=
    count_snoc.trans (if_pos inside)
  have same : (after (before ++ [(fs, .clone handle)])).slot? (count before) =
      (after before).slot? handle := by
    rw [← length_handles_after] at inside ⊢
    rw [after_snoc]
    simp only [act, cloneHandle, slot?, List.getElem?_eq_getElem inside,
      List.getElem?_concat_length]
  rw [List.append_cons]
  calc (after (before ++ [(fs, .clone handle)] ++ rest)).slot? handle
      = (after before).slot? handle := by rw [slot?_after (by omega), slot?_after inside]
    _ = (after (before ++ [(fs, .clone handle)])).slot? (count before) := same.symm
    _ = (after (before ++ [(fs, .clone handle)] ++ rest)).slot? (count before) :=
      (slot?_after (by omega)).symm

theorem Kin.slot?_eq (kin : Kin steps handle other) :
    (after steps).slot? handle = (after steps).slot? other := by
  induction kin with
  | rel _ _ cloned => exact cloned.slot?_eq
  | refl => rfl
  | symm _ _ _ ih => exact ih.symm
  | trans _ _ _ _ _ ih ih' => exact ih.trans ih'

/-- Handles of one slot are of one family. -/
theorem kin_of_slot? (found : (after steps).slot? handle = some slot)
    (found' : (after steps).slot? other = some slot) : Kin steps handle other := by
  induction steps using List.reverseRecOn generalizing handle other with
  | nil =>
    have only {handle : Nat} (found : (after []).slot? handle = some slot) : handle = 0 :=
      Nat.lt_one_iff.1 (lt_count_of_slot? found)
    rw [only found, only found']
    exact .refl _
  | append_singleton steps step ih =>
    obtain ⟨fs, action⟩ := step
    -- a handle that is not there yet is akin to one that is, or has a slot that is not there yet
    have known {handle : Nat} (found : (after (steps ++ [(fs, action)])).slot? handle = some slot) :
        (∃ old, (after steps).slot? old = some slot ∧ Kin (steps ++ [(fs, action)]) old handle) ∨
          handle = count steps ∧ slot = (after steps).slots.length := by
      rcases effect_snoc.slot?_cases found with old | ⟨isNew, fresh | ⟨original, rfl, old⟩⟩
      · exact .inl ⟨handle, old, .refl _⟩
      · exact .inr ⟨isNew.trans length_handles_after, fresh⟩
      · refine .inl ⟨original, old, .rel _ _ ⟨steps, fs, [], rfl, lt_count_of_slot? old, ?_⟩⟩
        exact isNew.trans length_handles_after
    have ofOld {old : Nat} (found : (after steps).slot? old = some slot) :
        slot < (after steps).slots.length := slotted_after.lt found
    rcases known found with ⟨old, isOld, kin⟩ | ⟨rfl, fresh⟩
    · rcases known found' with ⟨old', isOld', kin'⟩ | ⟨-, fresh⟩
      · exact (kin.symm.trans _ _ _ (ih isOld isOld').append).trans _ _ _ kin'
      · exact absurd fresh (Nat.ne_of_lt (ofOld isOld))
    · rcases known found' with ⟨old', isOld', -⟩ | ⟨rfl, -⟩
      · exact absurd fresh (Nat.ne_of_lt (ofOld isOld'))
      · exact .refl _

/-! ## The latest tree -/

theorem Quiet.snoc (quiet : Quiet group before steps)
    (last : ∀ handle tree, Installs (count (before ++ steps)) step handle tree → ¬ group handle) :
    Quiet group before (steps ++ [step]) := by
  intro front step' rest handle tree split put
  rcases rest.eq_nil_or_concat with rfl | ⟨rest, final, rfl⟩
  · obtain ⟨rfl, same⟩ := List.append_inj' split rfl
    cases same
    exact last handle tree put
  · rw [List.concat_eq_append, ← List.cons_append, ← List.append_assoc] at split
    exact quiet front step' rest handle tree (List.append_inj' split rfl).1 put

theorem quiet_nil : Quiet group before [] := by
  intro front step rest _ _ split
  simp at split

theorem Latest.put (put : Installs (count steps) step handle tree) (isOf : group handle) :
    Latest group (steps ++ [step]) (some tree) :=
  .last rfl put isOf quiet_nil

theorem Latest.keep {found : Option Tree} (latest : Latest group steps found)
    (quiet : ∀ handle tree, Installs (count steps) step handle tree → ¬ group handle) :
    Latest group (steps ++ [step]) found := by
  cases latest with
  | never never => exact .never (never.snoc quiet)
  | @last front rest _ _ _ split put isOf after =>
    subst split
    have quiet' : Quiet group (front ++ [_]) (rest ++ [step]) :=
      after.snoc (by rwa [← List.append_cons])
    exact .last (List.append_assoc front _ _) put isOf quiet'

theorem Quiet.false_of_split {later' : List Step} {step' : Step}
    (quiet : Quiet group (before ++ [step]) later)
    (split : before ++ step :: later = steps ++ step' :: later')
    (longer : before.length < steps.length)
    (put : Installs (count steps) step' handle tree) (isOf : group handle) : False := by
  rcases List.append_eq_append_iff.1 split with ⟨middle, rfl, rest⟩ | ⟨middle, rfl, -⟩
  · cases middle with
    | nil =>
      rw [List.append_nil] at longer
      exact Nat.lt_irrefl _ longer
    | cons _ middle =>
      cases rest
      rw [List.append_cons] at put
      exact quiet middle step' later' handle tree rfl put isOf
  · rw [List.length_append] at longer
    omega

/-- A history tells one tree. -/
theorem Latest.unique {found found' : Option Tree} (latest : Latest group steps found)
    (latest' : Latest group steps found') : found = found' := by
  cases latest with
  | never quiet =>
    cases latest' with
    | never => rfl
    | last split put isOf => exact absurd isOf (quiet _ _ _ _ _ split put)
  | @last front rest step handle tree split put isOf quiet =>
    cases latest' with
    | never quiet' => exact absurd isOf (quiet' _ _ _ _ _ split put)
    | @last front' rest' step' handle' tree' split' put' isOf' quiet' =>
      subst split
      rcases Nat.lt_trichotomy front.length front'.length with less | same | more
      · exact (quiet.false_of_split split' less put' isOf').elim
      · obtain ⟨rfl, tails⟩ := List.append_inj split' same
        cases tails
        rw [(put.unique put').2]
      · exact (quiet'.false_of_split split'.symm more put isOf).elim

/-- The tree in a slot is the latest of the handles that lead to it. -/
theorem latest_held (leads : ∀ handle < count steps,
      group handle ↔ (after steps).slot? handle = some slot) :
    Latest group steps ((after steps).held slot) := by
  induction steps using List.reverseRecOn with
  | nil =>
    have empty : (after []).held slot = none := by
      cases slot <;> rfl
    rw [empty]
    exact .never quiet_nil
  | append_singleton steps step ih =>
    obtain ⟨fs, action⟩ := step
    have known : Latest group steps ((after steps).held slot) := ih fun handle inside => by
      rw [← slot?_after inside]
      exact leads handle (Nat.lt_of_lt_of_le inside count_le_append)
    rcases effect_snoc.held_cases slotted_after slot with
      ⟨handle, tree, put, found, held⟩ | ⟨quiet, held⟩
    · rw [held]
      rw [length_handles_after] at put
      exact .put put ((leads handle (lt_count_of_slot? found)).2 found)
    · rw [held]
      rw [length_handles_after] at quiet
      refine known.keep fun handle tree put isOf => quiet handle tree put ?_
      exact (leads handle put.lt_count).1 isOf

theorem latest_current (inside : handle < count steps) :
    Latest (Kin steps handle) steps ((after steps).current handle) := by
  rw [← length_handles_after] at inside
  obtain ⟨slot, found⟩ := exists_slot? inside
  rw [current_eq_held found]
  refine latest_held fun other _ => ⟨fun kin => kin.slot?_eq.symm.trans found, kin_of_slot? found⟩

/-- Steps on handles of other families leave the tree that a handle serves. -/
theorem current_append (inside : handle < count steps)
    (apart : ∀ step ∈ later, ∀ other, step.2.subject? = some other →
      ¬ Kin (steps ++ later) other handle) :
    (after (steps ++ later)).current handle = (after steps).current handle := by
  rw [← length_handles_after] at inside
  obtain ⟨slot, found⟩ := exists_slot? inside
  induction later using List.reverseRecOn with
  | nil => rw [List.append_nil]
  | append_singleton later step ih =>
    obtain ⟨fs, action⟩ := step
    have there : handle < count steps := lt_count_of_slot? found
    have found' : (after (steps ++ later)).slot? handle = some slot :=
      (slot?_after there).trans found
    have found'' : (after (steps ++ later ++ [(fs, action)])).slot? handle = some slot := by
      rw [List.append_assoc, slot?_after there, found]
    have others : ∀ step ∈ later, ∀ other, step.2.subject? = some other →
        ¬ Kin (steps ++ later) other handle := by
      intro step isLater other subject kin
      refine apart step (List.mem_append_left _ isLater) other subject ?_
      rw [← List.append_assoc]
      exact kin.append
    have kept : (after (steps ++ later ++ [(fs, action)])).held slot =
        (after (steps ++ later)).held slot := by
      refine effect_snoc.held_eq_of_apart slotted_after (slotted_after.lt found') ?_
      intro other subject sameSlot
      refine apart (fs, action) (List.mem_append_right _ List.mem_cons_self) other subject ?_
      rw [← List.append_assoc]
      exact (kin_of_slot? sameSlot found').append
    rw [← ih others, ← List.append_assoc, current_eq_held found', current_eq_held found'', kept]

/-! ## A whole run -/

/-- What a run answers and keeps: `steps` have been taken, `later` are still to come. -/
structure Faithful (steps later : List Step) : Prop where
  /-- A handle serves the tree that was put in place last for a handle of its family. -/
  serves : ∀ handle < count steps, ∀ found,
    (after steps).current handle = found ↔ Latest (Kin steps handle) steps found
  /-- New handles and clones are numbered in the order in which they are made. -/
  numbered : ∀ fs action, action.count (count steps) = count steps + 1 →
    answer? (steps ++ (fs, action) :: later) steps.length = some (.handle (count steps))
  /-- Looking gives the tree that is served. -/
  shown : ∀ fs handle, answer? (steps ++ (fs, .current handle) :: later) steps.length =
    some (.tree ((after steps).current handle))
  /-- Replacing gives back the tree that was served before. -/
  replaced : ∀ fs handle tree,
    answer? (steps ++ (fs, .replace handle tree) :: later) steps.length =
      some (.tree ((after steps).current handle))
  /-- Reloading answers what loading the file does. -/
  reloaded : ∀ fs handle path,
    answer? (steps ++ (fs, .reload handle path) :: later) steps.length =
      some (.reloaded (loadTree fs path))
  /-- A reload that fails changes nothing. -/
  failed : ∀ fs handle path failure, loadTree fs path = .error failure →
    after (steps ++ [(fs, .reload handle path)]) = after steps
  /-- Steps on other families leave the tree that a handle serves. -/
  apart : ∀ handle < count steps,
    (∀ step ∈ later, ∀ other, step.2.subject? = some other → ¬ Kin (steps ++ later) other handle) →
    (after (steps ++ later)).current handle = (after steps).current handle
  /-- A new handle has the options that it is made with. -/
  created : ∀ fs tree options,
    (after (steps ++ [(fs, .create tree options)])).optionsOf (count steps) = options
  /-- A clone has the options of the handle that it is made of. -/
  cloned : ∀ fs, ∀ handle < count steps,
    (after (steps ++ [(fs, .clone handle)])).optionsOf (count steps) =
      (after steps).optionsOf handle
  /-- A handle keeps its options. -/
  options : ∀ handle < count steps,
    (after (steps ++ later)).optionsOf handle = (after steps).optionsOf handle
  /-- A handle resolves evidence by the tree that it serves and its options. -/
  resolved : ∀ fs handle source,
    answer? (steps ++ (fs, .resolve handle source) :: later) steps.length =
      some (.resolution (some (match (after steps).current handle with
        | some tree => tree.resolve ((after steps).optionsOf handle) source
        | none => ⟨none, [], some .noTree⟩)))
  /-- A handle evaluates evidence by its state alone. -/
  evaluates : ∀ fs handle source,
    (answer? (steps ++ (fs, .evaluate handle source) :: later) steps.length).map Answer.profile? =
      some ((after steps).evaluate handle source)
  /-- Evaluating is resolving, of which the profile alone is kept. -/
  evaluated : ∀ handle source, (after steps).evaluate handle source =
    ((after steps).current handle).bind fun tree =>
      (tree.resolve ((after steps).optionsOf handle) source).profile
  /-- A snapshot that is taken now resolves evidence at any time like the tree served now. -/
  snapshots : ∀ fs handle, ∃ number,
    answer? (steps ++ (fs, .snapshot handle) :: later) steps.length = some (.snapshot number) ∧
      ∀ fs' source, ∀ other < count steps,
        answer? (steps ++ (fs, .snapshot handle) :: later ++
            [(fs', .resolveSnapshot other number source)]) (steps.length + 1 + later.length) =
          some (.resolution (((after steps).current handle).map fun tree =>
            tree.resolve ((after steps).optionsOf other) source))

/-- Every run is faithful at every point. -/
theorem run_faithful (steps later : List Step) : Faithful steps later where
  serves handle inside found := by
    constructor
    · rintro rfl
      exact latest_current inside
    · exact (latest_current inside).unique
  numbered fs action grown := by
    rw [answer?_append_cons, ← length_handles_after]
    cases action with
    | create => rfl
    | clone => rfl
    | _ => exact absurd grown (Nat.ne_of_lt (Nat.lt_succ_self _))
  shown fs handle := answer?_append_cons
  replaced fs handle tree := answer?_append_cons
  reloaded fs handle path := by
    rw [answer?_append_cons]
    cases loaded : loadTree fs path <;> simp only [act, loaded]
  failed fs handle path failure failed := by
    rw [after_snoc]
    simp only [act, failed]
  apart handle inside apart := current_append inside apart
  created fs tree options := by
    rw [after_snoc, ← length_handles_after]
    simp only [act, addHandle, optionsOf, List.getElem?_concat_length]
    rfl
  cloned fs handle inside := by
    rw [after_snoc]
    rw [← length_handles_after] at inside ⊢
    simp only [act, cloneHandle, optionsOf, List.getElem?_eq_getElem inside,
      List.getElem?_concat_length]
  options handle inside := optionsOf_after inside
  resolved fs handle source := by
    rw [← resolve_eq]
    exact answer?_append_cons
  evaluates fs handle source := by
    rw [answer?_append_cons]
    rfl
  evaluated handle source := by
    unfold evaluate
    rw [resolve_eq]
    cases (after steps).current handle <;> rfl
  snapshots fs handle := by
    refine ⟨_, answer?_append_cons, fun fs' source other inside => ?_⟩
    have place : (steps ++ (fs, .snapshot handle) :: later).length =
        steps.length + 1 + later.length := by
      rw [List.length_append, List.length_cons]
      omega
    rw [← place, answer?_append_cons]
    simp only [act, snapshots_after, resolveBy, optionsOf_after inside]
    rfl

end EvidenceTree.Live
