import TracePlayer.Json.Value

/-
  This file defines the trees of a trace. A node is known by
  the number the tracer gave it and by nothing else: nodes
  with equal values are different nodes, and a node whose
  value or children changed is still the same node.

  The walks keep the subtrees that are still to be visited on
  a list, so that a degenerate tree needs no deep recursion.

  Key definitions include:
    * `Color` and `Tree`
    * `Side`, `Tree.child`
    * `Tree.walk`, the subtrees in pre-order
    * `Tree.ids`, `Tree.contains`, `Tree.find?`
    * `Tree.count`, `Tree.height`
-/

namespace TracePlayer

------------------------------------------------------------
-- Trees
------------------------------------------------------------

/- The number that the tracer gives to a node. -/
abbrev NodeId :=
  UInt64

/- The colour of a node of a red-black tree. -/
inductive Color where
| red
| black
deriving DecidableEq, Repr

/- The sides on which children hang. -/
inductive Side where
| left
| right
deriving DecidableEq, Repr

/- A binary tree; an absent subtree is empty. -/
inductive Tree where
| empty
| node
    (id : NodeId)
    (value : Json)
    (color : Option Color)
    (left right : Tree)
deriving DecidableEq

namespace Tree

instance : Inhabited Tree :=
  ⟨empty⟩

/- A node without children and without a colour. -/
def leaf
    (id : NodeId)
    (value : Json) : Tree :=
  node id value none empty empty

def isEmpty : Tree → Bool
| empty => true
| node _ _ _ _ _ => false

/- The number of the root. -/
def rootId? : Tree → Option NodeId
| empty => none
| node id _ _ _ _ => some id

/- The value of the root; an empty tree shows as null. -/
def value : Tree → Json
| empty => .null
| node _ value _ _ _ => value

/- The colour of the root, if it has one. -/
def color : Tree → Option Color
| empty => none
| node _ _ color _ _ => color

/- The subtree on a side, empty if there is none. -/
def child : Tree → Side → Tree
| empty, _ => empty
| node _ _ _ left _, .left => left
| node _ _ _ _ right, .right => right

/- The children that are there, left first. -/
def children : Tree → List Tree
| empty => []
| node _ _ _ left right =>
    [left, right].filter fun child => !child.isEmpty

------------------------------------------------------------
-- Walks
------------------------------------------------------------

/- The number of nodes and empty places of a tree. -/
def weight : Tree → Nat
| empty => 1
| node _ _ _ left right => 1 + left.weight + right.weight

/- The weight of the trees in a list. -/
def totalWeight : List Tree → Nat
| [] => 0
| tree :: rest => tree.weight + totalWeight rest

theorem totalWeight_append (first second : List Tree) :
    totalWeight (first ++ second) =
      totalWeight first + totalWeight second := by
  induction first with
  | nil => simp [totalWeight]
  | cons tree rest ih =>
      simp only [List.cons_append, totalWeight, ih]
      omega

/-
  Visit the pending trees in order, each before its left and
  right subtrees; the visited nodes are collected in reverse.
-/
def walkFrom
    (pending reversed : List Tree) : List Tree :=
  match pending with
  | [] => reversed.reverse
  | empty :: rest => walkFrom rest reversed
  | node id value color left right :: rest =>
      walkFrom (left :: right :: rest)
        (node id value color left right :: reversed)
termination_by totalWeight pending
decreasing_by
  · simp only [totalWeight, weight]
    omega
  · simp only [totalWeight, weight]
    omega

/- The subtrees with a root, in pre-order. -/
def walk (tree : Tree) : List Tree :=
  walkFrom [tree] []

/- The numbers of the nodes, in pre-order. -/
def ids (tree : Tree) : List NodeId :=
  tree.walk.filterMap rootId?

/- Whether a node with a number is in the tree. -/
def contains
    (tree : Tree)
    (id : NodeId) : Bool :=
  tree.walk.any fun subtree => subtree.rootId? == some id

/- The first node with a number, with its whole subtree. -/
def find?
    (tree : Tree)
    (id : NodeId) : Option Tree :=
  tree.walk.find? fun subtree => subtree.rootId? == some id

/- The number of nodes. -/
def count (tree : Tree) : Nat :=
  tree.walk.length

/-
  The greatest level of the pending trees, each paired with
  the level of its root.
-/
def heightFrom
    (pending : List (Tree × Nat))
    (deepest : Nat) : Nat :=
  match pending with
  | [] => deepest
  | (empty, _) :: rest => heightFrom rest deepest
  | (node _ _ _ left right, level) :: rest =>
      heightFrom
        ((right, level + 1) :: (left, level + 1) :: rest)
        (max deepest level)
termination_by totalWeight (pending.map Prod.fst)
decreasing_by
  · simp only [List.map_cons, totalWeight, weight]
    omega
  · simp only [List.map_cons, totalWeight, weight]
    omega

/- The number of levels; a leaf has one. -/
def height (tree : Tree) : Nat :=
  heightFrom [(tree, 1)] 0

------------------------------------------------------------
-- Sets of Numbers
------------------------------------------------------------

/- The distinct numbers of the nodes, in increasing order. -/
def idSet (tree : Tree) : List NodeId :=
  (tree.ids.mergeSort (· ≤ ·)).eraseReps

end Tree

end TracePlayer
