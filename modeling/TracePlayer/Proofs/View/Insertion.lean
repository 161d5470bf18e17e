import TracePlayer.Proofs.Trace.Walk
import TracePlayer.Proofs.View.History

/-
  This file proves that no node gets into the main tree
  unseen: when the steps of a trace are viewed in order, a
  node that is shown at a step and was not at an earlier one
  is new at some step in between.

  Main declarations:
    * `Change.shownTree_of_present`, `shownTree_of_absent`
    * `Change.outside_of_detached`
    * `Trace.NewBetween`
    * `Trace.new_of_shown_next`
    * `Trace.newBetween_of_shown`
    * `Trace.no_insertion_missed`
-/

namespace TracePlayer

------------------------------------------------------------
-- Shown Trees
------------------------------------------------------------

namespace Change

variable {current previous : Frame}

/- A main tree that a frame has is shown. -/
theorem shownTree_of_present
    (hPresent : current.mainTree ≠ .empty)
    (carry : Carry) :
    shownTree current carry = current.mainTree := by
  rw [shownTree, Carry.resolveTree, if_neg]
  cases hTree : current.mainTree with
  | empty => exact absurd hTree hPresent
  | node => exact Bool.false_ne_true

/-
  Without a main tree, a frame is shown with that of the
  frame before it.
-/
theorem shownTree_of_absent
    (hAbsent : current.mainTree = .empty)
    (frames : Trace) :
    shownTree current (Carry.ofFrames (frames ++ [previous])) =
      shownTree previous (Carry.ofFrames frames) := by
  have hOmits : Part.trees.Omits current mainTreeName := by
    intro tree hTree
    have hSame : current.mainTree = tree := by
      rw [Frame.mainTree, Frame.tree]
      exact congrArg (Option.getD · .empty) hTree
    rw [← hSame, hAbsent]
    rfl
  rw [shownTree_ofFrames, shownTree_ofFrames,
    Part.last?_concat _ current, hOmits.lookup_reported,
    Option.none_or]

/- With nothing carried, a frame is shown with its own. -/
theorem shownTree_of_nothing (frame : Frame) :
    shownTree frame (Carry.ofFrames []) = frame.mainTree := by
  by_cases hAbsent : frame.mainTree = .empty
  · rw [shownTree, Carry.resolveTree, hAbsent]
    rfl
  · exact shownTree_of_present hAbsent _

/-
  A tree that hangs outside has another name than the main
  tree and the receiver, and its root is not in the main tree
  that is shown.
-/
theorem outside_of_detached
    {previous : Option Frame}
    {carry : Carry}
    {name : String}
    {tree : Tree}
    (hDetached :
      (name, tree) ∈ detached current previous carry) :
    name ≠ mainTreeName ∧ name ≠ receiverName ∧
      ∃ id, tree.rootId? = some id ∧
        id ∉ (shownTree current carry).ids := by
  cases previous with
  | none => cases hDetached
  | some previous =>
      have hKept := (List.mem_filter.mp hDetached).2
      simp only [Bool.and_eq_true, bne_iff_ne] at hKept
      rcases hKept with ⟨⟨⟨hMain, hReceiver⟩, _⟩, hOutside⟩
      cases hRoot : tree.rootId? with
      | none =>
          rw [hRoot] at hOutside
          cases hOutside
      | some id =>
          simp only [hRoot, Bool.not_eq_true'] at hOutside
          refine ⟨hMain, hReceiver, id, rfl, ?_⟩
          rw [← Tree.contains_iff, hOutside]
          exact Bool.false_ne_true

/- A node that is shown next and was not before is new. -/
theorem mem_treeIds_of_shown
    {frames : Trace}
    {id : NodeId}
    (hBefore :
      id ∉ (shownTree previous (Carry.ofFrames frames)).ids)
    (hAfter :
      id ∈ (shownTree current
        (Carry.ofFrames (frames ++ [previous]))).ids) :
    id ∈ treeIds current (some previous) := by
  by_cases hAbsent : current.mainTree = .empty
  · rw [shownTree_of_absent hAbsent] at hAfter
    exact absurd hAfter hBefore
  · rw [shownTree_of_present hAbsent] at hAfter
    have hOld : id ∉ previous.mainTree.ids := by
      by_cases hNone : previous.mainTree = .empty
      · rw [hNone, Tree.ids_empty]
        exact List.not_mem_nil
      · rwa [shownTree_of_present hNone] at hBefore
    exact List.mem_filter.mpr ⟨hAfter, by simpa using hOld⟩

end Change

------------------------------------------------------------
-- New Nodes
------------------------------------------------------------

namespace Trace

/-
  Whether a node is new at some step after one step and up to
  another.
-/
def NewBetween
    (frames : Trace)
    (id : NodeId)
    (after upTo : Nat) : Prop :=
  ∃ step view,
    after < step ∧ step ≤ upTo ∧
    frames.viewAt step = some view ∧
    id ∈ view.newIds

variable {frames : Trace}
variable {i j : Nat}
variable {v w : View}
variable {id : NodeId}

/-
  A node that is shown at a step and was not at the one
  before is new at the step.
-/
theorem new_of_shown_next
    (hFrom : frames.viewAt i = some v)
    (hTo : frames.viewAt (i + 1) = some w)
    (hBefore : id ∉ v.mainTree.ids)
    (hAfter : id ∈ w.mainTree.ids) : id ∈ w.newIds := by
  rcases exists_of_viewAt hFrom with ⟨_, last, hLast, rfl⟩
  rcases exists_of_viewAt hTo with ⟨_, current, hPair, rfl⟩
  rcases (pair?_cases hPair).2 with
    ⟨hZero, _⟩ | ⟨n, before, hIndex, hFrame, rfl⟩
  · exact absurd hZero (Nat.succ_ne_zero i)
  · cases hIndex
    cases (pair?_cases hLast).1.symm.trans hFrame
    have hTake := take_succ hFrame
    simp only [View.ofStep, hTake] at hBefore hAfter ⊢
    exact Change.mem_treeIds_of_shown hBefore hAfter

/-
  A node that is shown at a step and was not at an earlier
  one is new at some step in between, the last one included.
-/
theorem newBetween_of_shown
    (hLess : i < j)
    (hFrom : frames.viewAt i = some v)
    (hTo : frames.viewAt j = some w)
    (hBefore : id ∉ v.mainTree.ids)
    (hAfter : id ∈ w.mainTree.ids) :
    frames.NewBetween id i j := by
  induction j generalizing w with
  | zero => exact absurd hLess (Nat.not_lt_zero i)
  | succ n ih =>
      rcases viewAt_of_lt hTo (Nat.lt_succ_self n) with
        ⟨u, hHere⟩
      by_cases hShown : id ∈ u.mainTree.ids
      · have hNe : i ≠ n := by
          rintro rfl
          cases hFrom.symm.trans hHere
          exact hBefore hShown
        have hEarlier : i < n :=
          Nat.lt_of_le_of_ne (Nat.le_of_lt_succ hLess) hNe
        rcases ih hEarlier hHere hShown with
          ⟨step, view, hFirst, hLast, hView, hNew⟩
        exact
          ⟨step, view, hFirst, Nat.le_succ_of_le hLast, hView,
            hNew⟩
      · exact
          ⟨n + 1, w, hLess, Nat.le_refl _, hTo,
            new_of_shown_next hHere hTo hShown hAfter⟩

/- A detached node is not in the tree that is shown. -/
theorem not_shown_of_detached
    {name : String}
    {tree : Tree}
    (hView : frames.viewAt i = some v)
    (hDetached : (name, tree) ∈ v.detached)
    (hRoot : tree.rootId? = some id) :
    id ∉ v.mainTree.ids := by
  rcases exists_of_viewAt hView with
    ⟨previous, current, _, rfl⟩
  rcases Change.outside_of_detached hDetached with
    ⟨_, _, own, hOwn, hOutside⟩
  rw [hRoot] at hOwn
  cases hOwn
  exact hOutside

/- The first step shows the main tree of the first frame. -/
theorem shown_at_first
    (hView : frames.viewAt 0 = some v) :
    ∃ first,
      frames[0]? = some first ∧
        v.mainTree = first.mainTree := by
  rcases exists_of_viewAt hView with ⟨_, first, hPair, rfl⟩
  exact ⟨first, (pair?_cases hPair).1,
    Change.shownTree_of_nothing first⟩

/-
  When the steps of a trace are viewed in order, no node gets
  into the main tree unseen. A node that is shown at a step
  and was not at an earlier one is new at a step in between,
  so that one which was detached is; and every node that is
  shown comes from the first frame or was new at some step.
-/
theorem no_insertion_missed (frames : Trace) :
    (∀ i j v w id, i < j →
      frames.viewAt i = some v →
      frames.viewAt j = some w →
      id ∉ v.mainTree.ids →
      id ∈ w.mainTree.ids →
      frames.NewBetween id i j) ∧
    (∀ i j v w name tree id, i < j →
      frames.viewAt i = some v →
      frames.viewAt j = some w →
      (name, tree) ∈ v.detached →
      tree.rootId? = some id →
      id ∈ w.mainTree.ids →
      frames.NewBetween id i j) ∧
    ∀ j w id,
      frames.viewAt j = some w →
      id ∈ w.mainTree.ids →
      (∃ first,
        frames[0]? = some first ∧ id ∈ first.mainTree.ids) ∨
      frames.NewBetween id 0 j := by
  refine ⟨?_, ?_, ?_⟩
  · intro i j v w id hLess hFrom hTo hBefore hAfter
    exact newBetween_of_shown hLess hFrom hTo hBefore hAfter
  · intro i j v w name tree id hLess hFrom hTo hDetached hRoot
      hAfter
    have hBefore := not_shown_of_detached hFrom hDetached hRoot
    exact newBetween_of_shown hLess hFrom hTo hBefore hAfter
  · intro j w id hTo hShown
    cases j with
    | zero =>
        rcases shown_at_first hTo with ⟨first, hFirst, hTree⟩
        exact Or.inl ⟨first, hFirst, hTree ▸ hShown⟩
    | succ n =>
        rcases viewAt_of_lt hTo (Nat.succ_pos n) with
          ⟨v, hFrom⟩
        rcases shown_at_first hFrom with ⟨first, hFirst, hTree⟩
        by_cases hOld : id ∈ first.mainTree.ids
        · exact Or.inl ⟨first, hFirst, hOld⟩
        · rw [← hTree] at hOld
          exact Or.inr
            (newBetween_of_shown (Nat.succ_pos n) hFrom hTo
              hOld hShown)

/-
  A node hangs outside the main tree while the frame leaves
  out that tree, and is then linked into it: it is new there.
-/
theorem no_insertion_missed_of_detached :
    let node := Tree.leaf 9 .null
    let first : Frame :=
      { Frame.empty with
        trees := Named.ofList
          [(mainTreeName, Tree.leaf 1 .null)] }
    let second : Frame :=
      { Frame.empty with
        trees := Named.ofList [("node", node)] }
    let third : Frame :=
      { Frame.empty with
        trees := Named.ofList
          [(mainTreeName, .node 1 .null none node .empty)] }
    let frames : Trace := [first, second, third]
    ∃ v w,
      frames.viewAt 1 = some v ∧ ("node", node) ∈ v.detached ∧
      frames.viewAt 2 = some w ∧ 9 ∈ w.mainTree.ids ∧
      frames.NewBetween 9 1 2 := by
  intro node first second third frames
  let v :=
    View.ofStep 1 second (some first) (Carry.ofFrames [first])
  let w :=
    View.ofStep 2 third (some second)
      (Carry.ofFrames [first, second])
  have hFrom : frames.viewAt 1 = some v := rfl
  have hTo : frames.viewAt 2 = some w := rfl
  have hDetached : ("node", node) ∈ v.detached := by
    decide +kernel
  have hShown : 9 ∈ w.mainTree.ids := by
    decide +kernel
  have hNew : frames.NewBetween 9 1 2 :=
    (no_insertion_missed frames).2.1 1 2 v w "node" node 9
      (by decide) hFrom hTo hDetached rfl hShown
  exact ⟨v, w, hFrom, hDetached, hTo, hShown, hNew⟩

end Trace

end TracePlayer
