import TracePlayer.Trace.Structure

/-
  This file defines one step of a traced program and the
  sequence of the steps of a run.

  Key definitions include:
    * `LineNumber`, `PointerLabel`
    * `Frame`
    * `Frame.tree`, `Frame.mainTree`, `Frame.structure?`
    * `Trace.pair?`
-/

namespace TracePlayer

------------------------------------------------------------
-- Frames
------------------------------------------------------------

/- The tree that holds the primary structure being built. -/
def mainTreeName : String :=
  "root"

/- The name of a method's receiver. -/
def receiverName : String :=
  "self"

/- A line of a program; lines are counted from one. -/
structure LineNumber where
  number : UInt32
  positive : 0 < number
deriving DecidableEq

/- A variable that holds an index of an array. -/
structure PointerLabel where
  label : String
  index : UInt64
deriving DecidableEq, Repr

/- One step of a traced program. -/
structure Frame where
  line : Option LineNumber
  scalars : Named Json
  arrays : Named (List Json)
  dicts : Named (Named Json)
  linkedLists : Named (List Json)
  trees : Named Tree
  pointers : Named (List PointerLabel)
deriving DecidableEq

namespace Frame

/- A frame that reports nothing. -/
def empty : Frame :=
  { line := none
    scalars := Named.empty
    arrays := Named.empty
    dicts := Named.empty
    linkedLists := Named.empty
    trees := Named.empty
    pointers := Named.empty }

instance : Inhabited Frame :=
  ⟨empty⟩

/- The tree of a name, empty when the frame has none. -/
def tree
    (frame : Frame)
    (name : String) : Tree :=
  (frame.trees.get? name).getD .empty

def mainTree (frame : Frame) : Tree :=
  frame.tree mainTreeName

/- The state of a named structure of a kind. -/
def structure?
    (frame : Frame)
    (kind : Kind)
    (name : String) : Option Structure :=
  match kind with
  | .array => (frame.arrays.get? name).map .array
  | .dict => (frame.dicts.get? name).map .dict
  | .linkedList =>
      (frame.linkedLists.get? name).map .linkedList
  | .tree => (frame.trees.get? name).map .tree

end Frame

------------------------------------------------------------
-- Traces
------------------------------------------------------------

/- The steps of one run, in order. -/
abbrev Trace :=
  List Frame

namespace Trace

/-
  The frame at an index with the one before it; the first
  frame has none before it.
-/
def pair?
    (frames : Trace)
    (index : Nat) : Option (Option Frame × Frame) :=
  frames[index]?.map fun current =>
    (if index = 0 then none else frames[index - 1]?, current)

end Trace

end TracePlayer
