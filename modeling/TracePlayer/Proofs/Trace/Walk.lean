import Mathlib.Algebra.Group.Nat.Defs
import Mathlib.Logic.Function.Iterate
import TracePlayer.Trace.Tree

/-
  This file proves what the walks through a tree find: the
  walks keep the subtrees still to be visited on a list, and
  the subtrees, numbers and levels that they collect are
  those of the recursion on the tree.

  Main declarations:
    * `Tree.subtrees`, `Tree.walk_eq`
    * `Tree.turn`, `Tree.turns_end`
    * `Tree.preorder`, `Tree.ids_eq`, `Tree.mem_idSet_iff`
    * `Tree.search`, `Tree.find?_eq`
    * `Tree.size`, `Tree.count_eq`
    * `Tree.levels`, `Tree.height_eq`
    * `Tree.walks_recurse`
-/

namespace TracePlayer

namespace Tree

------------------------------------------------------------
-- Subtrees
------------------------------------------------------------

/- The subtrees with a root: each before those below it. -/
def subtrees : Tree → List Tree
| empty => []
| node id value color left right =>
    node id value color left right ::
      (left.subtrees ++ right.subtrees)

/- A walk visits the subtrees of the pending trees in order. -/
theorem walkFrom_eq (pending reversed : List Tree) :
    walkFrom pending reversed =
      reversed.reverse ++ pending.flatMap subtrees := by
  induction pending, reversed using walkFrom.induct with
  | case1 reversed => simp [walkFrom]
  | case2 reversed rest ih => simp [walkFrom, ih, subtrees]
  | case3 reversed id value color left right rest ih =>
      simp [walkFrom, ih, subtrees]

theorem walk_eq (tree : Tree) : tree.walk = tree.subtrees := by
  simp [walk, walkFrom_eq]

/- The number of a node comes before those below it. -/
theorem ids_node
    (id : NodeId)
    (value : Json)
    (color : Option Color)
    (left right : Tree) :
    (node id value color left right).ids =
      id :: (left.ids ++ right.ids) := by
  simp [ids, walk_eq, subtrees, rootId?]

------------------------------------------------------------
-- Turns
------------------------------------------------------------

/-
  One turn of a walk, on the pending trees and the visited
  ones in reverse: the next tree is taken, and if it has a
  root, its subtrees are pending in its place.
-/
def turn : List Tree × List Tree → List Tree × List Tree
| ([], visited) => ([], visited)
| (empty :: rest, visited) => (rest, visited)
| (node id value color left right :: rest, visited) =>
    (left :: right :: rest,
      node id value color left right :: visited)

/- A turn does not change what a walk collects. -/
theorem walkFrom_turn (pending visited : List Tree) :
    walkFrom (turn (pending, visited)).1
        (turn (pending, visited)).2 =
      walkFrom pending visited := by
  rcases pending with _ | ⟨_ | _, rest⟩ <;>
    simp [turn, walkFrom]

/- A turn takes a node or an empty place off what is pending. -/
theorem totalWeight_turn (pending visited : List Tree) :
    totalWeight (turn (pending, visited)).1 =
      totalWeight pending - 1 := by
  rcases pending with _ | ⟨_ | _, rest⟩ <;>
    simp only [turn, totalWeight, weight] <;> omega

/- After as many turns as there are places, all are visited. -/
theorem turns_end (pending visited : List Tree) :
    turn^[totalWeight pending] (pending, visited) =
      ([], (walkFrom pending visited).reverse) := by
  induction hWeight : totalWeight pending
    generalizing pending visited with
  | zero =>
      cases pending with
      | nil => simp [walkFrom]
      | cons tree rest =>
          cases tree <;>
            simp only [totalWeight, weight] at hWeight <;> omega
  | succ n ih =>
      have hLess := totalWeight_turn pending visited
      rw [Function.iterate_succ_apply,
        ← walkFrom_turn pending visited]
      exact ih (turn (pending, visited)).1
        (turn (pending, visited)).2 (by omega)

------------------------------------------------------------
-- Nodes
------------------------------------------------------------

/- The number of nodes, by recursion on the tree. -/
def size : Tree → Nat
| empty => 0
| node _ _ _ left right => 1 + left.size + right.size

/- The numbers of the nodes, by recursion on the tree. -/
def preorder : Tree → List NodeId
| empty => []
| node id _ _ left right =>
    id :: (left.preorder ++ right.preorder)

theorem length_subtrees (tree : Tree) :
    tree.subtrees.length = tree.size := by
  induction tree with
  | empty => rfl
  | node id value color left right ihLeft ihRight =>
      simp only [subtrees, size, List.length_cons,
        List.length_append, ihLeft, ihRight]
      omega

theorem count_eq (tree : Tree) : tree.count = tree.size := by
  rw [count, walk_eq, length_subtrees]

/- Between the nodes of a tree there is one more empty place. -/
theorem weight_eq (tree : Tree) :
    tree.weight = 2 * tree.count + 1 := by
  rw [count_eq]
  induction tree with
  | empty => rfl
  | node id value color left right ihLeft ihRight =>
      simp only [weight, size, ihLeft, ihRight]
      omega

theorem ids_empty : Tree.empty.ids = [] := by
  simp [ids, walk, walkFrom]

theorem ids_eq (tree : Tree) : tree.ids = tree.preorder := by
  induction tree with
  | empty => exact ids_empty
  | node id value color left right ihLeft ihRight =>
      rw [ids_node, preorder, ihLeft, ihRight]

theorem length_preorder (tree : Tree) :
    tree.preorder.length = tree.size := by
  induction tree with
  | empty => rfl
  | node id value color left right ihLeft ihRight =>
      simp only [preorder, size, List.length_cons,
        List.length_append, ihLeft, ihRight]
      omega

------------------------------------------------------------
-- Searching
------------------------------------------------------------

/- A tree contains the numbers of its nodes. -/
theorem contains_iff
    (tree : Tree)
    (id : NodeId) :
    tree.contains id = true ↔ id ∈ tree.ids := by
  simp [contains, ids]

/- Erasing repetitions, with what was kept of them, loses nothing. -/
theorem mem_eraseRepsLoop
    (id last : NodeId)
    (rest kept : List NodeId) :
    id ∈ List.eraseRepsBy.loop (· == ·) last rest kept ↔
      id ∈ kept ∨ id = last ∨ id ∈ rest := by
  induction rest generalizing last kept with
  | nil =>
      simp [List.eraseRepsBy.loop, or_comm]
  | cons next rest ih =>
      unfold List.eraseRepsBy.loop
      split
      case h_1 hSame =>
        rw [ih, List.mem_cons, eq_of_beq hSame, or_self_left]
      case h_2 =>
        rw [ih, List.mem_cons, List.mem_cons, or_assoc,
          or_left_comm]

/- The set of a tree has the numbers of its nodes. -/
theorem mem_idSet_iff
    (tree : Tree)
    (id : NodeId) :
    id ∈ tree.idSet ↔ id ∈ tree.ids := by
  rw [← (List.mergeSort_perm tree.ids (· ≤ ·)).mem_iff, idSet,
    List.eraseReps]
  cases tree.ids.mergeSort (· ≤ ·) with
  | nil => rfl
  | cons first rest =>
      rw [List.eraseRepsBy, mem_eraseRepsLoop, List.mem_cons]
      simp

/-
  The first node with a number, by recursion on the tree: the
  root, else one on the left, else one on the right.
-/
def search (id : NodeId) : Tree → Option Tree
| empty => none
| node root value color left right =>
    if root = id then
      some (node root value color left right)
    else
      (left.search id).or (right.search id)

theorem find?_eq
    (tree : Tree)
    (id : NodeId) :
    tree.find? id = tree.search id := by
  rw [find?, walk_eq]
  induction tree with
  | empty => rfl
  | node root value color left right ihLeft ihRight =>
      rw [subtrees, search]
      by_cases hRoot : root = id
      · rw [if_pos hRoot, List.find?_cons_of_pos]
        simpa [rootId?] using hRoot
      · rw [if_neg hRoot, List.find?_cons_of_neg,
          List.find?_append, ihLeft, ihRight]
        simpa [rootId?] using hRoot

/-
  What is found is a subtree whose root has the number, and
  none visited before it has.
-/
theorem find?_eq_some_iff
    (tree found : Tree)
    (id : NodeId) :
    tree.find? id = some found ↔
      found.rootId? = some id ∧
        ∃ before after,
          tree.subtrees = before ++ found :: after ∧
            ∀ earlier ∈ before, earlier.rootId? ≠ some id := by
  rw [find?, walk_eq, List.find?_eq_some_iff_append]
  simp

theorem isSome_find?_iff
    (tree : Tree)
    (id : NodeId) :
    (tree.find? id).isSome = true ↔ id ∈ tree.ids := by
  rw [← contains_iff, find?, contains, List.find?_isSome,
    List.any_eq_true]

------------------------------------------------------------
-- Levels
------------------------------------------------------------

/- The number of levels, by recursion on the tree. -/
def levels : Tree → Nat
| empty => 0
| node _ _ _ left right => 1 + max left.levels right.levels

/-
  The greatest level of a tree whose root is at a level; an
  empty tree has none.
-/
def deepestLevel : Tree × Nat → Nat
| (empty, _) => 0
| (node _ _ _ left right, level) =>
    level + max left.levels right.levels

/- The children of a root at a level reach as deep as it does. -/
theorem deepestLevel_node
    (id : NodeId)
    (value : Json)
    (color : Option Color)
    (left right : Tree)
    (level : Nat) :
    deepestLevel (node id value color left right, level) =
      max level
        (max (deepestLevel (left, level + 1))
          (deepestLevel (right, level + 1))) := by
  cases left <;> cases right <;>
    simp only [deepestLevel, levels] <;> omega

/- The greatest level of pending trees, or one seen before. -/
theorem heightFrom_eq
    (pending : List (Tree × Nat))
    (deepest : Nat) :
    heightFrom pending deepest =
      (pending.map deepestLevel).foldl max deepest := by
  induction pending, deepest using heightFrom.induct with
  | case1 deepest => simp [heightFrom]
  | case2 deepest level rest ih =>
      simp [heightFrom, ih, deepestLevel]
  | case3 deepest id value color left right level rest ih =>
      rw [heightFrom, ih, List.map_cons, List.map_cons,
        List.map_cons, List.foldl_cons, List.foldl_cons,
        List.foldl_cons, deepestLevel_node]
      congr 1
      omega

/- The height is the number of levels. -/
theorem height_eq (tree : Tree) : tree.height = tree.levels := by
  rw [height, heightFrom_eq]
  cases tree with
  | empty => rfl
  | node => simp [deepestLevel, levels]

------------------------------------------------------------
-- Bounds
------------------------------------------------------------

/- Every level has a node. -/
theorem levels_le_size (tree : Tree) :
    tree.levels ≤ tree.size := by
  induction tree with
  | empty => exact Nat.le_refl 0
  | node id value color left right ihLeft ihRight =>
      simp only [levels, size]
      omega

/- A level has at most twice the nodes of the one above it. -/
theorem size_lt_two_pow (tree : Tree) :
    tree.size < 2 ^ tree.levels := by
  induction tree with
  | empty => exact Nat.one_pos
  | node id value color left right ihLeft ihRight =>
      have hLeft :
          2 ^ left.levels ≤ 2 ^ max left.levels right.levels :=
        Nat.pow_le_pow_right Nat.two_pos (Nat.le_max_left _ _)
      have hRight :
          2 ^ right.levels ≤ 2 ^ max left.levels right.levels :=
        Nat.pow_le_pow_right Nat.two_pos (Nat.le_max_right _ _)
      rw [levels, size, Nat.add_comm 1 (max _ _), Nat.pow_succ]
      omega

------------------------------------------------------------
-- Walks and Recursion
------------------------------------------------------------

/-
  The walks through a tree find what the recursion on it
  does. A walk of n nodes ends after 2 n + 1 turns; its
  numbers are those in pre-order, and it contains, has in its
  set and finds the same ones. What is found is the first
  subtree in pre-order with the number. The nodes and levels
  are counted as by recursion, so that they bound each other.
-/
theorem walks_recurse (tree : Tree) :
    (turn^[2 * tree.count + 1] ([tree], []) =
        ([], tree.walk.reverse) ∧
      tree.ids = tree.preorder) ∧
    (∀ id,
      (tree.contains id = true ↔ id ∈ tree.ids) ∧
        (id ∈ tree.idSet ↔ id ∈ tree.ids) ∧
        ((tree.find? id).isSome = true ↔ id ∈ tree.ids)) ∧
    (∀ id,
      tree.find? id = tree.search id ∧
        ∀ found,
          tree.find? id = some found ↔
            found.rootId? = some id ∧
              ∃ before after,
                tree.subtrees = before ++ found :: after ∧
                  ∀ earlier ∈ before,
                    earlier.rootId? ≠ some id) ∧
    (tree.count = tree.size ∧ tree.count = tree.ids.length) ∧
    (tree.height = tree.levels ∧
      tree.height ≤ tree.count ∧
      tree.count < 2 ^ tree.height) ∧
    (empty.ids = [] ∧ ∀ id, empty.contains id = false) := by
  refine ⟨⟨?_, tree.ids_eq⟩, fun id => ?_, fun id => ?_, ?_, ?_, ?_⟩
  · have hEnd := turns_end [tree] []
    rwa [totalWeight, totalWeight, weight_eq] at hEnd
  · exact
      ⟨tree.contains_iff id, tree.mem_idSet_iff id,
        tree.isSome_find?_iff id⟩
  · exact
      ⟨tree.find?_eq id,
        fun found => tree.find?_eq_some_iff found id⟩
  · refine ⟨tree.count_eq, ?_⟩
    rw [count_eq, ids_eq, length_preorder]
  · rw [height_eq, count_eq]
    exact ⟨rfl, tree.levels_le_size, tree.size_lt_two_pow⟩
  · refine ⟨ids_empty, fun id => ?_⟩
    rw [← Bool.not_eq_true, contains_iff, ids_empty]
    exact List.not_mem_nil

end Tree

end TracePlayer
