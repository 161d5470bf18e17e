import TracePlayer.Proofs.View.Entries
import TracePlayer.Proofs.View.Insertion

/-
  This file proves what a view marks of the things that the
  view before it showed already: no linked list, and a node or
  an array only when the frame before has no main tree, or no
  array, of its own and showed what was carried.

  Main declarations:
    * `Change.mem_treeIds_iff_of_shown`
    * `SequenceEntry.SameLength`
    * `View.isSome_newIndex_iff_of_shown`
    * `View.newIndex_eq_none_of_shown`
    * `Trace.marked_again_iff`
-/

namespace TracePlayer

namespace Change

------------------------------------------------------------
-- Nodes
------------------------------------------------------------

/- A node is new when the main tree before does not have it. -/
theorem mem_treeIds_iff
    {current previous : Frame}
    {id : NodeId} :
    id ∈ treeIds current (some previous) ↔
      id ∈ current.mainTree.ids ∧
        id ∉ previous.mainTree.ids := by
  simp [treeIds]

/-
  A node that is shown before is new exactly when the frame
  before has no main tree of its own.
-/
theorem mem_treeIds_iff_of_shown
    {current previous : Frame}
    {carry : Carry}
    {id : NodeId}
    (hShown : id ∈ (shownTree previous carry).ids) :
    id ∈ treeIds current (some previous) ↔
      previous.mainTree = .empty ∧
        id ∈ current.mainTree.ids := by
  rw [mem_treeIds_iff]
  by_cases hAbsent : previous.mainTree = .empty
  · rw [hAbsent, Tree.ids_empty]
    simp
  · rw [shownTree_of_present hAbsent] at hShown
    exact
      ⟨fun hNew => absurd hShown hNew.2,
        fun hNone => absurd hNone.1 hAbsent⟩

------------------------------------------------------------
-- Growth
------------------------------------------------------------

/- A list that did not get longer is not marked. -/
theorem grownTo?_eq_none_iff
    {current previous : List Json} :
    grownTo? current previous = none ↔
      current.length ≤ previous.length := by
  rw [Option.eq_none_iff_forall_ne_some]
  constructor
  · intro hNone
    by_contra hLonger
    exact hNone _
      (grownTo?_eq_some_iff.mpr ⟨Nat.not_le.mp hLonger, rfl⟩)
  · intro hShort index hIndex
    exact Nat.not_lt.mpr hShort
      (grownTo?_eq_some_iff.mp hIndex).1

/- A list that is not empty has grown from nothing. -/
theorem isSome_grownTo?_nil
    {values : List Json}
    (hFull : values ≠ []) :
    (grownTo? values []).isSome = true := by
  rw [Option.isSome_iff_ne_none, ne_eq,
    grownTo?_eq_none_iff]
  simpa using hFull

end Change

------------------------------------------------------------
-- Sequences
------------------------------------------------------------

/-
  Whether two entries have the same name and equally many
  values, as those with the same values have.
-/
def SequenceEntry.SameLength
    (entry other : SequenceEntry) : Prop :=
  entry.name = other.name ∧
    entry.values.length = other.values.length

namespace View

variable {frames : Trace}
variable {previous current : Frame}
variable {grown : List (String × Nat)}
variable {shown again : SequenceEntry}

/-
  An array that is shown again, no longer than before, is
  marked exactly when the frame has arrays and the one before
  it has none at all.
-/
theorem isSome_newIndex_iff_of_shown
    (hShown :
      shown ∈
        arrayEntries previous (Carry.ofFrames frames) grown)
    (hAgain :
      again ∈
        arrayEntries current
          (Carry.ofFrames (frames ++ [previous]))
          (Change.arrays current (some previous)))
    (hSame : again.SameLength shown) :
    again.newIndex.isSome = true ↔
      previous.arrays.isEmpty = true ∧
        current.arrays.isEmpty = false := by
  rcases hSame with ⟨hName, hLength⟩
  cases hCurrent : current.arrays.isEmpty with
  | true =>
      have hUnmarked :=
        (mem_arrayEntries_of_none hCurrent hAgain).2.2
      simp [hUnmarked]
  | false =>
      rcases mem_arrayEntries_of_some hCurrent hAgain with
        ⟨hValues, hMark⟩
      rw [hMark, Change.lookup_arrays, hValues,
        Option.bind_some]
      cases hPrevious : previous.arrays.isEmpty with
      | true =>
          have hFull : again.values ≠ [] := by
            have hCarried :=
              (mem_arrayEntries_of_none hPrevious hShown).2.1
            rw [← List.length_pos_iff] at hCarried ⊢
            rwa [hLength]
          rw [Named.get?_of_isEmpty hPrevious]
          simpa using Change.isSome_grownTo?_nil hFull
      | false =>
          have hBefore :=
            (mem_arrayEntries_of_some hPrevious hShown).1
          have hNone :
              Change.grownTo? again.values shown.values =
                none :=
            Change.grownTo?_eq_none_iff.mpr
              (Nat.le_of_eq hLength)
          rw [hName, hBefore, Option.getD_some, hNone]
          simp

/-
  A linked list that is shown again, no longer than before,
  is not marked, whether the frames report it or not.
-/
theorem newIndex_eq_none_of_shown
    {grownBefore : List (String × Nat)}
    (hShown :
      shown ∈
        linkedListEntries previous (Carry.ofFrames frames)
          grownBefore)
    (hAgain :
      again ∈
        linkedListEntries current
          (Carry.ofFrames (frames ++ [previous]))
          (Change.linkedLists current (some previous)
            (Carry.ofFrames (frames ++ [previous]))))
    (hSame : again.SameLength shown) :
    again.newIndex = none := by
  rcases hSame with ⟨hName, hLength⟩
  rcases mem_linkedListEntries hShown with ⟨_, hBefore, _⟩
  rcases mem_linkedListEntries hAgain with
    ⟨hMem, hValues, hMark⟩
  have hPrevious :
      Change.linkedListValues previous
          (Carry.ofFrames (frames ++ [previous]))
          again.name =
        shown.values := by
    rw [hBefore, hName, Change.linkedListValues_last,
      Change.linkedListValues_ofFrames]
  rw [hMark, Change.lookup_linkedLists, if_pos hMem,
    ← hValues, hPrevious, Change.grownTo?_eq_none_iff]
  exact Nat.le_of_eq hLength

end View

------------------------------------------------------------
-- Neighbouring Steps
------------------------------------------------------------

namespace Trace

/- The views of neighbouring steps, from their frames. -/
theorem views_of_neighbours
    {frames : Trace}
    {i : Nat}
    {v w : View}
    {previous current : Frame}
    (hPrevious : frames[i]? = some previous)
    (hCurrent : frames[i + 1]? = some current)
    (hFrom : frames.viewAt i = some v)
    (hTo : frames.viewAt (i + 1) = some w) :
    (∃ earlier,
      v = View.ofStep i previous earlier
        (Carry.ofFrames (frames.take i))) ∧
    w = View.ofStep (i + 1) current (some previous)
      (Carry.ofFrames (frames.take i ++ [previous])) := by
  rcases exists_of_viewAt hFrom with ⟨earlier, frame, hPair, rfl⟩
  cases (pair?_cases hPair).1.symm.trans hPrevious
  refine ⟨⟨earlier, rfl⟩, ?_⟩
  rcases exists_of_viewAt hTo with ⟨before, frame, hPair, rfl⟩
  rcases pair?_cases hPair with
    ⟨hFrame, ⟨hZero, _⟩ | ⟨n, last, hIndex, hLast, rfl⟩⟩
  · exact absurd hZero (Nat.succ_ne_zero i)
  · cases hIndex
    cases hFrame.symm.trans hCurrent
    cases hLast.symm.trans hPrevious
    rw [take_succ hPrevious]

/-
  What of the things shown at a step the next step marks as
  new, when the steps are viewed in order. A node of the main
  tree is new again exactly when the frame of the first of
  them has no main tree, and showed a carried one. An array
  that is shown again with as many values is marked exactly
  when that frame has no array at all. A linked list that is
  shown again is never marked.
-/
theorem marked_again_iff
    {frames : Trace}
    {i : Nat}
    {v w : View}
    {previous current : Frame}
    (hPrevious : frames[i]? = some previous)
    (hCurrent : frames[i + 1]? = some current)
    (hFrom : frames.viewAt i = some v)
    (hTo : frames.viewAt (i + 1) = some w) :
    (∀ id ∈ v.mainTree.ids,
      id ∈ w.newIds ↔
        previous.mainTree = .empty ∧
          id ∈ current.mainTree.ids) ∧
    (∀ shown ∈ v.arrays, ∀ again ∈ w.arrays,
      again.SameLength shown →
        (again.newIndex.isSome = true ↔
          previous.arrays.isEmpty = true ∧
            current.arrays.isEmpty = false)) ∧
    ∀ shown ∈ v.linkedLists, ∀ again ∈ w.linkedLists,
      again.SameLength shown → again.newIndex = none := by
  rcases views_of_neighbours hPrevious hCurrent hFrom hTo with
    ⟨⟨earlier, rfl⟩, rfl⟩
  refine ⟨?_, ?_, ?_⟩
  · intro id hShown
    exact Change.mem_treeIds_iff_of_shown hShown
  · intro shown hShown again hAgain hSame
    exact View.isSome_newIndex_iff_of_shown hShown hAgain hSame
  · intro shown hShown again hAgain hSame
    exact View.newIndex_eq_none_of_shown hShown hAgain hSame

/-
  The second frame leaves out the linked list, and the third
  reports everything again as it was: nothing is marked.
-/
theorem not_marked_again_after_list :
    let value := Json.bool true
    let root := Tree.leaf 1 .null
    let second : Frame :=
      { Frame.empty with
        arrays := Named.ofList [("xs", [value])]
        trees := Named.ofList [(mainTreeName, root)] }
    let first : Frame :=
      { second with
        linkedLists := Named.ofList [("list", [value])] }
    let frames : Trace := [first, second, first]
    let entry (name : String) : SequenceEntry :=
      { name := name
        values := [value]
        newIndex := none
        pointers := [] }
    ∃ v w,
      frames.viewAt 1 = some v ∧ frames.viewAt 2 = some w ∧
      1 ∈ v.mainTree.ids ∧ 1 ∉ w.newIds ∧
      entry "xs" ∈ v.arrays ∧ entry "xs" ∈ w.arrays ∧
      entry "list" ∈ v.linkedLists ∧
      ∀ again ∈ w.linkedLists,
        again.SameLength (entry "list") →
          again.newIndex = none := by
  intro value root second first frames entry
  let v :=
    View.ofStep 1 second (some first) (Carry.ofFrames [first])
  let w :=
    View.ofStep 2 first (some second)
      (Carry.ofFrames [first, second])
  have hFrom : frames.viewAt 1 = some v := rfl
  have hTo : frames.viewAt 2 = some w := rfl
  have hSecond : frames[1]? = some second := rfl
  have hThird : frames[2]? = some first := rfl
  rcases marked_again_iff hSecond hThird hFrom hTo with
    ⟨hNodes, _, hLists⟩
  have hShown : 1 ∈ v.mainTree.ids := by
    decide +kernel
  have hRoot : second.mainTree ≠ .empty := by
    decide +kernel
  have hOld : 1 ∉ w.newIds := fun hNew =>
    hRoot ((hNodes 1 hShown).mp hNew).1
  have hList : entry "list" ∈ v.linkedLists := by
    decide +kernel
  exact
    ⟨v, w, hFrom, hTo, hShown, hOld, by decide +kernel,
      by decide +kernel, hList, hLists _ hList⟩

/-
  The second frame leaves out everything, so that the main
  tree and the array are carried, and the third reports them
  again as they were: both are marked as new.
-/
theorem marked_again_after_omission :
    let value := Json.bool true
    let reporting : Frame :=
      { Frame.empty with
        arrays := Named.ofList [("xs", [value])]
        trees := Named.ofList
          [(mainTreeName, Tree.leaf 1 .null)] }
    let frames : Trace := [reporting, Frame.empty, reporting]
    let entry (mark : Option Nat) : SequenceEntry :=
      { name := "xs"
        values := [value]
        newIndex := mark
        pointers := [] }
    ∃ v w,
      frames.viewAt 1 = some v ∧ frames.viewAt 2 = some w ∧
      1 ∈ v.mainTree.ids ∧ 1 ∈ w.newIds ∧
      entry none ∈ v.arrays ∧ entry (some 0) ∈ w.arrays := by
  intro value reporting frames entry
  let v :=
    View.ofStep 1 Frame.empty (some reporting)
      (Carry.ofFrames [reporting])
  let w :=
    View.ofStep 2 reporting (some Frame.empty)
      (Carry.ofFrames [reporting, Frame.empty])
  exact
    ⟨v, w, rfl, rfl, by decide +kernel, by decide +kernel,
      by decide +kernel, by decide +kernel⟩

end Trace

end TracePlayer
