import TracePlayer.Proofs.Carry.Operations
import TracePlayer.Proofs.View.Entries
import TracePlayer.Proofs.View.Insertion

/-
  This file proves that every view is consistent in itself,
  whatever is carried: marks are at the last values that are
  shown, no name is shown twice, new nodes are nodes of the
  tree that is shown, and what hangs outside is outside.

  Main declarations:
    * `SequenceEntry.WellMarked`
    * `View.wellMarked_arrayEntries`
    * `View.wellMarked_linkedListEntries`
    * `Change.treeIds_sublist`
    * `View.Consistent`, `View.NothingNew`
    * `View.consistent_and_first`
-/

namespace TracePlayer

------------------------------------------------------------
-- Entries
------------------------------------------------------------

/-
  Whether the marks of entries are at their last values, and
  the names are distinct.
-/
structure SequenceEntry.WellMarked
    (entries : List SequenceEntry) : Prop where
  at_last :
    ∀ entry ∈ entries, ∀ index,
      entry.newIndex = some index →
        index + 1 = entry.values.length
  nodup : (entries.map SequenceEntry.name).Nodup

/- A list that got longer is marked at its last value. -/
theorem Change.succ_of_grownTo?
    {current previous : List Json}
    {index : Nat}
    (hGrown : grownTo? current previous = some index) :
    index + 1 = current.length := by
  rcases grownTo?_eq_some_iff.mp hGrown with ⟨hLonger, rfl⟩
  omega

/- Dropping the receiver keeps the order of the rest. -/
theorem dropReceiver_sublist
    {α κ : Type}
    [BEq κ]
    (identity : α → Option κ)
    (entries : List (String × α)) :
    (dropReceiver identity entries).Sublist entries := by
  unfold dropReceiver
  split
  case isTrue => exact List.filter_sublist
  case isFalse => exact List.Sublist.refl _

namespace View

variable {current : Frame}
variable {carry : Carry}

/- The names of the arrays that are shown. -/
theorem map_name_arrayEntries
    (current : Frame)
    (carry : Carry)
    (grown : List (String × Nat)) :
    (arrayEntries current carry grown).map
        SequenceEntry.name =
      if current.arrays.isEmpty then
        carry.names .array
      else
        current.arrays.names := by
  unfold arrayEntries
  split
  case isTrue =>
      rw [List.map_map]
      exact List.map_id _
  case isFalse =>
      rw [List.map_map]
      rfl

/- Arrays that are carried are not marked. -/
theorem newIndex_of_carried
    {grown : List (String × Nat)}
    {entry : SequenceEntry}
    (hNone : current.arrays.isEmpty = true)
    (hEntry : entry ∈ arrayEntries current carry grown) :
    entry.newIndex = none := by
  rw [arrayEntries, if_pos hNone] at hEntry
  rcases List.mem_map.mp hEntry with ⟨name, _, rfl⟩
  rfl

/- The arrays of a view are well marked. -/
theorem wellMarked_arrayEntries
    (hDistinct : carry.Distinct)
    (current : Frame)
    (previous : Option Frame) :
    SequenceEntry.WellMarked
      (arrayEntries current carry
        (Change.arrays current previous)) := by
  constructor
  case at_last =>
      intro entry hEntry index hIndex
      cases hArrays : current.arrays.isEmpty with
      | true =>
          rw [newIndex_of_carried hArrays hEntry] at hIndex
          cases hIndex
      | false =>
          rcases mem_arrayEntries_of_some hArrays hEntry with
            ⟨hValues, hMark⟩
          rw [hMark] at hIndex
          cases previous with
          | none => cases hIndex
          | some previous =>
              rw [Change.lookup_arrays, hValues,
                Option.bind_some] at hIndex
              exact Change.succ_of_grownTo? hIndex
  case nodup =>
      rw [map_name_arrayEntries]
      split
      case isTrue => exact hDistinct.nodup_names .array
      case isFalse => exact current.arrays.distinct

/- The names of the linked lists that are shown, in their order. -/
theorem names_linkedListEntries_sublist
    (current : Frame)
    (carry : Carry)
    (grown : List (String × Nat)) :
    ((linkedListEntries current carry grown).map
      SequenceEntry.name).Sublist
        (Change.linkedListNames current carry) := by
  let shown :=
    (Change.linkedListNames current carry).map fun name =>
      (name, Change.linkedListValues current carry name)
  have hShown :
      shown.map Prod.fst =
        Change.linkedListNames current carry := by
    simp only [shown, List.map_map, Function.comp_def,
      List.map_id']
  have hNames :
      (linkedListEntries current carry grown).map
          SequenceEntry.name =
        (dropReceiver listIdentity shown).map Prod.fst := by
    unfold linkedListEntries
    rw [List.map_map]
    rfl
  rw [hNames, ← hShown]
  exact (dropReceiver_sublist listIdentity shown).map Prod.fst

/- The linked lists of a view are well marked. -/
theorem wellMarked_linkedListEntries
    (hDistinct : carry.Distinct)
    (current : Frame)
    (previous : Option Frame) :
    SequenceEntry.WellMarked
      (linkedListEntries current carry
        (Change.linkedLists current previous carry)) := by
  constructor
  case at_last =>
      intro entry hEntry index hIndex
      rcases mem_linkedListEntries hEntry with
        ⟨hName, hValues, hMark⟩
      rw [hMark] at hIndex
      cases previous with
      | none => cases hIndex
      | some previous =>
          rw [Change.lookup_linkedLists, if_pos hName,
            ← hValues] at hIndex
          exact Change.succ_of_grownTo? hIndex
  case nodup =>
      have hNames :
          (Change.linkedListNames current carry).Nodup :=
        Change.nodup_linkedListNames_of_nodup
          (hDistinct.nodup_names .linkedList) current
      exact hNames.sublist (names_linkedListEntries_sublist ..)

end View

------------------------------------------------------------
-- Nodes
------------------------------------------------------------

/- New nodes are nodes of the tree that is shown, in its order. -/
theorem Change.treeIds_sublist
    (current : Frame)
    (previous : Option Frame)
    (carry : Carry) :
    (treeIds current previous).Sublist
      (shownTree current carry).ids := by
  cases previous with
  | none => exact List.nil_sublist _
  | some previous =>
      by_cases hAbsent : current.mainTree = .empty
      · simp [treeIds, hAbsent, Tree.ids_empty]
      · rw [shownTree_of_present hAbsent]
        exact List.filter_sublist

------------------------------------------------------------
-- Views
------------------------------------------------------------

namespace View

/-
  Whether what a view marks is among what it shows: no name
  twice, every mark at a last value, the new nodes in the main
  tree and in its order, and what hangs outside, the main tree
  and the receiver apart, with its root outside.
-/
structure Consistent (view : View) : Prop where
  arrays : SequenceEntry.WellMarked view.arrays
  linkedLists : SequenceEntry.WellMarked view.linkedLists
  newIds : view.newIds.Sublist view.mainTree.ids
  detached :
    ∀ name tree,
      (name, tree) ∈ view.detached →
      name ≠ mainTreeName ∧ name ≠ receiverName ∧
        ∃ id, tree.rootId? = some id ∧
          id ∉ view.mainTree.ids

/- Whether a view marks nothing as new. -/
structure NothingNew (view : View) : Prop where
  arrays : ∀ entry ∈ view.arrays, entry.newIndex = none
  linkedLists :
    ∀ entry ∈ view.linkedLists, entry.newIndex = none
  newIds : view.newIds = []
  detached : view.detached = []

/- With distinct structures carried, a view is consistent. -/
theorem consistent_of_distinct
    {carry : Carry}
    (hDistinct : carry.Distinct)
    (index : Nat)
    (current : Frame)
    (previous : Option Frame) :
    (ofStep index current previous carry).Consistent where
  arrays := wellMarked_arrayEntries hDistinct current previous
  linkedLists :=
    wellMarked_linkedListEntries hDistinct current previous
  newIds := Change.treeIds_sublist current previous carry
  detached := by
    intro name tree hDetached
    exact Change.outside_of_detached hDetached

/- With no frame before it, a frame has nothing new. -/
theorem nothingNew_first
    (index : Nat)
    (current : Frame)
    (carry : Carry) :
    (ofStep index current none carry).NothingNew where
  arrays := by
    intro entry hEntry
    cases hArrays : current.arrays.isEmpty with
    | true => exact newIndex_of_carried hArrays hEntry
    | false => exact (mem_arrayEntries_of_some hArrays hEntry).2
  linkedLists := by
    intro entry hEntry
    exact (mem_linkedListEntries hEntry).2.2
  newIds := rfl
  detached := rfl

/-
  Every view is consistent in itself, whatever frames it is
  made of and whatever operations led to what is carried; and
  nothing is new without a frame before it.
-/
theorem consistent_and_first
    (index : Nat)
    (current : Frame)
    (previous : Option Frame)
    (operations : List Carry.Operation) :
    let carry := Carry.ofOperations operations
    (ofStep index current previous carry).Consistent ∧
      (ofStep index current none carry).NothingNew := by
  intro carry
  have hDistinct : carry.Distinct :=
    Carry.distinct_ofOperations operations
  exact
    ⟨consistent_of_distinct hDistinct index current previous,
      nothingNew_first index current carry⟩

end View

end TracePlayer
