import TracePlayer.Carry

/-
  This file defines what is new in a frame compared with the
  frame before it. A sequence changes only by growing, trees
  change by the numbers of their nodes, and values are never
  compared. Nothing is new in the first frame.

  Key definitions include:
    * `Change.grownTo?`
    * `Change.arrays`, `Change.linkedLists`
    * `Change.treeIds`
    * `Change.detached`
    * `dropReceiver`
-/

namespace TracePlayer

namespace Change

------------------------------------------------------------
-- Sequences
------------------------------------------------------------

/- The last index of a sequence that got longer. -/
def grownTo?
    (current previous : List Json) : Option Nat :=
  if previous.length < current.length then
    some (current.length - 1)
  else
    none

/- The arrays that grew, with their last index. -/
def arrays
    (current : Frame)
    (previous : Option Frame) : List (String × Nat) :=
  match previous with
  | none => []
  | some previous =>
      current.arrays.entries.filterMap fun (name, values) =>
        (grownTo? values
            ((previous.arrays.get? name).getD [])).map
          fun index => (name, index)

/-
  The names of the linked lists to show: those of the frame,
  then the carried ones that it leaves out.
-/
def linkedListNames
    (current : Frame)
    (carry : Carry) : List String :=
  current.linkedLists.names ++
    (carry.names .linkedList).filter fun name =>
      !current.linkedLists.contains name

/- The values of a linked list as they are shown. -/
def linkedListValues
    (frame : Frame)
    (carry : Carry)
    (name : String) : List Json :=
  carry.resolveSequence .linkedList name
    (frame.linkedLists.get? name)

/-
  The linked lists that grew, with their last index; the lists
  that a frame leaves out are the carried ones.
-/
def linkedLists
    (current : Frame)
    (previous : Option Frame)
    (carry : Carry) : List (String × Nat) :=
  match previous with
  | none => []
  | some previous =>
      (linkedListNames current carry).filterMap fun name =>
        (grownTo?
            (linkedListValues current carry name)
            (linkedListValues previous carry name)).map
          fun index => (name, index)

------------------------------------------------------------
-- Trees
------------------------------------------------------------

/-
  The nodes of the main tree that the main tree before it did
  not have, in pre-order.
-/
def treeIds
    (current : Frame)
    (previous : Option Frame) : List NodeId :=
  match previous with
  | none => []
  | some previous =>
      let before := previous.mainTree.ids
      current.mainTree.ids.filter fun id => !before.contains id

/- The main tree as it is shown. -/
def shownTree
    (current : Frame)
    (carry : Carry) : Tree :=
  carry.resolveTree mainTreeName current.mainTree

/-
  The named trees that are not empty, were not there in the
  frame before, and hang outside the main tree.
-/
def detached
    (current : Frame)
    (previous : Option Frame)
    (carry : Carry) : List (String × Tree) :=
  match previous with
  | none => []
  | some previous =>
      let main := shownTree current carry
      current.trees.entries.filter fun (name, tree) =>
        name != mainTreeName && name != receiverName &&
          (previous.tree name).isEmpty &&
          match tree.rootId? with
          | some id => !main.contains id
          | none => false

end Change

------------------------------------------------------------
-- The Receiver
------------------------------------------------------------

/-
  Whether the receiver's identity is that of another entry.
-/
def receiverRepeats
    {α κ : Type}
    [BEq κ]
    (identity : α → Option κ)
    (entries : List (String × α)) : Bool :=
  entries.any fun (name, item) =>
    name == receiverName &&
      match identity item with
      | some own =>
          entries.any fun (other, otherItem) =>
            other != receiverName &&
              match identity otherItem with
              | some id => id == own
              | none => false
      | none => false

/-
  Leave out the receiver when it only repeats another entry.
-/
def dropReceiver
    {α κ : Type}
    [BEq κ]
    (identity : α → Option κ)
    (entries : List (String × α)) : List (String × α) :=
  if receiverRepeats identity entries then
    entries.filter fun entry => entry.1 != receiverName
  else
    entries

/-
  What stands for the first node of a flattened list: names
  that share it have the same values, so that the values are
  its identity. An empty list has none.
-/
def listIdentity (values : List Json) : Option (List Json) :=
  if values.isEmpty then none else some values

end TracePlayer
