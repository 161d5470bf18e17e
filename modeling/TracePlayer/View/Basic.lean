import TracePlayer.Change

/-
  This file defines the view of one step: everything that is
  shown of it, with what is new since the step before.

  Key definitions include:
    * `SequenceEntry`, `SequenceEntry.labelsAt?`
    * `View`
    * `View.ofStep`
    * `View.isNew`
-/

namespace TracePlayer

------------------------------------------------------------
-- Sequences
------------------------------------------------------------

/-
  An array or linked list with its new index and, for an
  array, the variables that hold one of its indices.
-/
structure SequenceEntry where
  name : String
  values : List Json
  newIndex : Option Nat
  pointers : List PointerLabel
deriving DecidableEq

namespace SequenceEntry

/- The labels of the variables that hold an index. -/
def labelsOf
    (entry : SequenceEntry)
    (index : Nat) : List String :=
  (entry.pointers.filter fun pointer =>
    pointer.index.toNat = index).map PointerLabel.label

/- The labels at an index, joined by commas. -/
def labelsAt?
    (entry : SequenceEntry)
    (index : Nat) : Option String :=
  match entry.labelsOf index with
  | [] => none
  | labels => some (", ".intercalate labels)

end SequenceEntry

------------------------------------------------------------
-- Views
------------------------------------------------------------

/- Everything that is shown of one step. -/
structure View where
  index : Nat
  line : Option LineNumber
  scalars : Named Json
  arrays : List SequenceEntry
  dicts : Named (Named Json)
  linkedLists : List SequenceEntry
  mainTree : Tree
  newIds : List NodeId
  detached : List (String × Tree)
deriving DecidableEq

namespace View

/- The view of a step that shows nothing. -/
def empty : View :=
  { index := 0
    line := none
    scalars := Named.empty
    arrays := []
    dicts := Named.empty
    linkedLists := []
    mainTree := .empty
    newIds := []
    detached := [] }

instance : Inhabited View :=
  ⟨empty⟩

/- Whether a node of the main tree is new. -/
def isNew
    (view : View)
    (id : NodeId) : Bool :=
  view.newIds.contains id

/- The variables that hold an index of an array. -/
def pointersOf
    (frame : Frame)
    (name : String) : List PointerLabel :=
  (frame.pointers.get? name).getD []

/-
  The arrays of a frame; when it has none at all, the carried
  arrays, none of which is new.
-/
def arrayEntries
    (current : Frame)
    (carry : Carry)
    (grown : List (String × Nat)) : List SequenceEntry :=
  if current.arrays.isEmpty then
    (carry.names .array).map fun name =>
      { name := name
        values := carry.resolveSequence .array name none
        newIndex := none
        pointers := pointersOf current name }
  else
    current.arrays.entries.map fun (name, values) =>
      { name := name
        values := values
        newIndex := grown.lookup name
        pointers := pointersOf current name }

/-
  The linked lists of a frame and the carried ones that it
  leaves out, without a receiver that repeats another list.
-/
def linkedListEntries
    (current : Frame)
    (carry : Carry)
    (grown : List (String × Nat)) : List SequenceEntry :=
  let shown :=
    (Change.linkedListNames current carry).map fun name =>
      (name, Change.linkedListValues current carry name)
  (dropReceiver listIdentity shown).map fun (name, values) =>
    { name := name
      values := values
      newIndex := grown.lookup name
      pointers := [] }

/-
  The view of a step, given its frame, the frame before it and
  what is carried from all frames before it.
-/
def ofStep
    (index : Nat)
    (current : Frame)
    (previous : Option Frame)
    (carry : Carry) : View :=
  { index := index
    line := current.line
    scalars := current.scalars
    arrays :=
      arrayEntries current carry
        (Change.arrays current previous)
    dicts := current.dicts
    linkedLists :=
      linkedListEntries current carry
        (Change.linkedLists current previous carry)
    mainTree := Change.shownTree current carry
    newIds := Change.treeIds current previous
    detached := Change.detached current previous carry }

end View

end TracePlayer
