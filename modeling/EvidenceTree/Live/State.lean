import EvidenceTree.Loading.Load
import EvidenceTree.Resolution.Resolve

/-!
# Live trees

A tree that is in use can be replaced as a whole. A handle resolves evidence by the tree in its slot
and its own options; handles that share a slot see the same tree, and a snapshot keeps a tree that
was there at some time. A file that holds no tree changes nothing.
-/

namespace EvidenceTree.Live

/-- A way to a slot, with options of its own. -/
structure Handle where
  slot : Nat
  options : Options

/-- The slots with their trees, the handles and the snapshots, all numbered. -/
structure State where
  slots : List (Option Tree)
  handles : List Handle
  snapshots : List (Option Tree)

namespace State

/-- One handle with the usual options, and no tree. -/
def initial : State := ⟨[none], [⟨0, {}⟩], []⟩

/-- The tree that a handle sees. -/
def current (state : State) (handle : Nat) : Option Tree :=
  (state.handles[handle]?.bind fun h => state.slots[h.slot]?).join

/-- The options of a handle. -/
def optionsOf (state : State) (handle : Nat) : Options :=
  (state.handles[handle]?.map Handle.options).getD {}

/-- The answer that a handle gives from a tree, if there is one. -/
def resolveBy (state : State) (handle : Nat) (tree : Option Tree) (source : Evidence.Source) :
    Option Resolution :=
  tree.map fun t => t.resolve (state.optionsOf handle) source

/-- The answer that a handle gives. -/
def resolve (state : State) (handle : Nat) (source : Evidence.Source) : Resolution :=
  (state.resolveBy handle (state.current handle) source).getD .noTree

/-- The profile alone of the answer that a handle gives. -/
def evaluate (state : State) (handle : Nat) (source : Evidence.Source) : Option ProfileId :=
  (state.resolve handle source).profile

/-- A new handle with a slot of its own. -/
def addHandle (state : State) (tree : Option Tree) (options : Options) : State :=
  { state with
    slots := state.slots ++ [tree]
    handles := state.handles ++ [⟨state.slots.length, options⟩] }

/-- A new handle for the slot of another one. -/
def cloneHandle (state : State) (handle : Nat) : State :=
  match state.handles[handle]? with
  | some h => { state with handles := state.handles ++ [h] }
  | none => state

/-- A tree in place of the one that a handle sees. -/
def install (state : State) (handle : Nat) (tree : Tree) : State :=
  match state.handles[handle]? with
  | some h => { state with slots := state.slots.set h.slot (some tree) }
  | none => state

end State

/-! ## Actions -/

/-- What can be done with live trees. -/
inductive Action where
  | create (tree : Option Tree) (options : Options)
  | clone (handle : Nat)
  | replace (handle : Nat) (tree : Tree)
  | reload (handle : Nat) (path : String)
  | resolve (handle : Nat) (source : Evidence.Source)
  | current (handle : Nat)
  | snapshot (handle : Nat)
  | resolveSnapshot (handle snapshot : Nat) (source : Evidence.Source)

/-- Evaluating is resolving, of which the profile alone is kept. -/
def Action.evaluate (handle : Nat) (source : Evidence.Source) : Action := .resolve handle source

/-- What comes of an action. -/
inductive Answer where
  | handle (number : Nat)
  | tree (tree : Option Tree)
  | reloaded (result : Except Failure Tree)
  | resolution (answer : Option Resolution)
  | snapshot (number : Nat)

/-- The profile that an answer gives, if it is a resolution. Evaluating keeps no more of it. -/
def Answer.profile? : Answer → Option ProfileId
  | resolution answer => answer.bind Resolution.profile
  | _ => none

/-- Takes an action while the files are as given. -/
def act (fs : FileSystem) (state : State) : Action → Answer × State
  | .create tree options => (.handle state.handles.length, state.addHandle tree options)
  | .clone handle => (.handle state.handles.length, state.cloneHandle handle)
  | .replace handle tree => (.tree (state.current handle), state.install handle tree)
  | .reload handle path =>
    match loadTree fs path with
    | .ok tree => (.reloaded (.ok tree), state.install handle tree)
    | .error failure => (.reloaded (.error failure), state)
  | .resolve handle source => (.resolution (some (state.resolve handle source)), state)
  | .current handle => (.tree (state.current handle), state)
  | .snapshot handle =>
    (.snapshot state.snapshots.length,
      { state with snapshots := state.snapshots ++ [state.current handle] })
  | .resolveSnapshot handle snapshot source =>
    (.resolution (state.resolveBy handle (state.snapshots[snapshot]?).join source), state)

/-- Takes actions one after the other, each with the files of its time. -/
def run (state : State) : List (FileSystem × Action) → List Answer × State
  | [] => ([], state)
  | (fs, action) :: rest =>
    let (answer, next) := act fs state action
    let (answers, last) := run next rest
    (answer :: answers, last)

end EvidenceTree.Live
