import TracePlayer.Proofs.Change.Growth

/-
  This file proves where the arrays and linked lists of a view
  come from, and when they are marked: their names, values and
  marks are those of the frame, the one before it, and what is
  carried.

  Main declarations:
    * `Part.exists_last?_of_mem_names`
    * `Change.lookup_arrays`
    * `View.mem_arrayEntries_of_some`
    * `View.mem_arrayEntries_of_none`
    * `View.pointers_of_mem_arrayEntries`
    * `View.mem_linkedListEntries`
-/

namespace TracePlayer

------------------------------------------------------------
-- Reported Names
------------------------------------------------------------

/- A name that was reported has a last value, not empty. -/
theorem Part.exists_last?_of_mem_names
    {α : Type}
    {part : Part α}
    {frames : Trace}
    {name : String}
    (hName : name ∈ part.names frames) :
    ∃ value,
      part.last? frames name = some value ∧
        part.isEmpty value = false := by
  rw [names, List.mem_eraseDups] at hName
  induction frames using List.reverseRecOn with
  | nil => cases hName
  | append_singleton frames frame ih =>
      rw [last?_concat]
      rcases part.omits_or_reports frame name with
        hOmits | ⟨value, hValue, hFull⟩
      · rw [List.flatMap_append, List.mem_append,
          List.flatMap_singleton] at hName
        rw [hOmits.lookup_reported, Option.none_or]
        refine ih (hName.resolve_right fun hHere => ?_)
        rcases List.mem_map.mp hHere with ⟨entry, hEntry, rfl⟩
        have hFound :=
          lookup_of_mem (nodup_reported frame) hEntry
        rw [hOmits.lookup_reported] at hFound
        cases hFound
      · rw [lookup_reported_of_get? hValue hFull]
        exact ⟨value, rfl, hFull⟩

------------------------------------------------------------
-- Arrays
------------------------------------------------------------

/- The mark of an array compares it with the frame before. -/
theorem Change.lookup_arrays
    (current previous : Frame)
    (name : String) :
    (arrays current (some previous)).lookup name =
      (current.arrays.get? name).bind fun values =>
        grownTo? values
          ((previous.arrays.get? name).getD []) :=
  lookup_filterMap_entries current.arrays.distinct
    (fun name values =>
      grownTo? values ((previous.arrays.get? name).getD []))
    name

namespace View

variable {current : Frame}
variable {carry : Carry}
variable {grown : List (String × Nat)}
variable {entry : SequenceEntry}

/- The arrays of a frame are shown as they are. -/
theorem mem_arrayEntries_of_some
    (hSome : current.arrays.isEmpty = false)
    (hEntry : entry ∈ arrayEntries current carry grown) :
    current.arrays.get? entry.name = some entry.values ∧
      entry.newIndex = grown.lookup entry.name := by
  rw [arrayEntries, hSome, if_neg Bool.false_ne_true] at hEntry
  rcases List.mem_map.mp hEntry with ⟨pair, hPair, rfl⟩
  exact ⟨lookup_of_mem current.arrays.distinct hPair, rfl⟩

/- Carried arrays are shown as last reported, unmarked. -/
theorem mem_arrayEntries_of_none
    {frames : Trace}
    (hNone : current.arrays.isEmpty = true)
    (hEntry :
      entry ∈
        arrayEntries current (Carry.ofFrames frames) grown) :
    Part.arrays.last? frames entry.name = some entry.values ∧
      entry.values ≠ [] ∧
      entry.newIndex = none := by
  rw [arrayEntries, hNone, if_pos rfl,
    Part.carried_arrays.names_ofFrames] at hEntry
  rcases List.mem_map.mp hEntry with ⟨name, hName, rfl⟩
  rcases Part.exists_last?_of_mem_names hName with
    ⟨values, hLast, hFull⟩
  have hValues :
      (Carry.ofFrames frames).resolveSequence .array name
        none = values := by
    rw [Carry.resolveSequence_ofFrames, hLast,
      Option.getD_some]
  rw [hValues]
  exact ⟨hLast, List.isEmpty_eq_false_iff.mp hFull, rfl⟩

/- Every array has the labels of the frame. -/
theorem pointers_of_mem_arrayEntries
    (hEntry : entry ∈ arrayEntries current carry grown) :
    entry.pointers =
      (current.pointers.get? entry.name).getD [] := by
  unfold arrayEntries at hEntry
  split at hEntry
  case isTrue =>
      rcases List.mem_map.mp hEntry with ⟨name, _, rfl⟩
      rfl
  case isFalse =>
      rcases List.mem_map.mp hEntry with ⟨array, _, rfl⟩
      rfl

end View

------------------------------------------------------------
-- Linked Lists
------------------------------------------------------------

/- Dropping the receiver adds nothing. -/
theorem mem_of_mem_dropReceiver
    {α κ : Type}
    [BEq κ]
    {identity : α → Option κ}
    {entries : List (String × α)}
    {entry : String × α}
    (hMem : entry ∈ dropReceiver identity entries) :
    entry ∈ entries := by
  unfold dropReceiver at hMem
  split at hMem
  case isTrue => exact (List.mem_filter.mp hMem).1
  case isFalse => exact hMem

/- An entry has a shown name, its values and its mark. -/
theorem View.mem_linkedListEntries
    {current : Frame}
    {carry : Carry}
    {grown : List (String × Nat)}
    {entry : SequenceEntry}
    (hEntry : entry ∈ linkedListEntries current carry grown) :
    entry.name ∈ Change.linkedListNames current carry ∧
      entry.values =
        Change.linkedListValues current carry entry.name ∧
      entry.newIndex = grown.lookup entry.name := by
  rcases List.mem_map.mp hEntry with ⟨pair, hPair, rfl⟩
  rcases List.mem_map.mp (mem_of_mem_dropReceiver hPair) with
    ⟨name, hName, rfl⟩
  exact ⟨hName, rfl, rfl⟩

end TracePlayer
