import TracePlayer.Trace.Frame

/-
  This file defines the structures that are carried forward: a
  tracer does not report every live structure at every step,
  and one that a frame leaves out is shown as it last was.

  Key definitions include:
    * `Carry`
    * `Carry.update`, `Carry.observe`
    * `Carry.names`, `Carry.get?`
    * `Carry.resolve`, `Carry.resolveSequence`,
      `Carry.resolveTree`
-/

namespace TracePlayer

/-
  The last state that was not empty of each structure, in the
  order in which the structures were first seen. A structure
  is known by its kind and name.
-/
structure Carry where
  entries : List ((Kind × String) × Structure)
deriving DecidableEq

namespace Carry

def empty : Carry :=
  ⟨[]⟩

instance : Inhabited Carry :=
  ⟨empty⟩

------------------------------------------------------------
-- Contents
------------------------------------------------------------

/- The kinds and names in the order of their first sight. -/
def keys (carry : Carry) : List (Kind × String) :=
  carry.entries.map Prod.fst

def size (carry : Carry) : Nat :=
  carry.entries.length

def isEmpty (carry : Carry) : Bool :=
  carry.entries.isEmpty

/- The last state of a structure that was not empty. -/
def get?
    (carry : Carry)
    (kind : Kind)
    (name : String) : Option Structure :=
  carry.entries.lookup (kind, name)

/- The names of one kind in the order of their first sight. -/
def names
    (carry : Carry)
    (kind : Kind) : List String :=
  (carry.keys.filter fun key => key.1 = kind).map Prod.snd

------------------------------------------------------------
-- Updates
------------------------------------------------------------

/-
  Remember the state of a structure, unless it is empty.
-/
def update
    (carry : Carry)
    (name : String)
    (state : Structure) : Carry :=
  if state.isEmpty then
    carry
  else
    ⟨put (state.kind, name) state carry.entries⟩

/- Remember several states, one after the other. -/
def updateAll
    (carry : Carry)
    (states : List (String × Structure)) : Carry :=
  states.foldl
    (fun carry state => carry.update state.1 state.2) carry

/-
  The states of a frame that are carried: its arrays, linked
  lists and trees. Dicts are reported at every step.
-/
def carried (frame : Frame) : List (String × Structure) :=
  (frame.arrays.map Structure.array).entries ++
    (frame.linkedLists.map Structure.linkedList).entries ++
    (frame.trees.map Structure.tree).entries

/- Remember the states of a frame. -/
def observe
    (carry : Carry)
    (frame : Frame) : Carry :=
  carry.updateAll (carried frame)

/- What is carried after a sequence of frames. -/
def ofFrames (frames : List Frame) : Carry :=
  frames.foldl observe empty

------------------------------------------------------------
-- Resolution
------------------------------------------------------------

/-
  The current state of a structure when there is one of its
  kind that is not empty, else the carried state, else the
  empty state.
-/
def resolve
    (carry : Carry)
    (kind : Kind)
    (name : String)
    (current : Option Structure) : Structure :=
  match current.filter fun state =>
      state.kind = kind && !state.isEmpty with
  | some state => state
  | none => (carry.get? kind name).getD (Structure.empty kind)

/-
  The current values when there are any, else the carried
  values of a sequence, else none.
-/
def resolveSequence
    (carry : Carry)
    (kind : Kind)
    (name : String)
    (current : Option (List Json)) : List Json :=
  match current.filter fun values => !values.isEmpty with
  | some values => values
  | none =>
      ((carry.get? kind name).bind Structure.sequence?).getD []

/- The current tree unless it is empty, else the carried one. -/
def resolveTree
    (carry : Carry)
    (name : String)
    (current : Tree) : Tree :=
  if current.isEmpty then
    ((carry.get? .tree name).map Structure.root).getD .empty
  else
    current

end Carry

end TracePlayer
