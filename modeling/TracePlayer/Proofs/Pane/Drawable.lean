import TracePlayer.Proofs.Pane.ArrayCells
import TracePlayer.Proofs.Session.Coherence
import TracePlayer.Proofs.View.Entries

/-
  This file proves which traces can be drawn throughout: those
  whose frames hold no text that is too wide for the cell of
  an array. What is carried from them is no wider.

  Main declarations:
    * `Frame.labelText`, `Frame.Fits`
    * `Frame.Fits.drawable_entry`
    * `View.drawable_ofStep`
    * `Session.Coherent.drawable_view`
-/

namespace TracePlayer

variable {frames : Trace}
variable {current : Frame}

------------------------------------------------------------
-- Frames
------------------------------------------------------------

namespace Frame

/- The labels at an index of an array, joined by commas. -/
def labelText
    (frame : Frame)
    (name : String)
    (index : Nat) : String :=
  ", ".intercalate
    ((((frame.pointers.get? name).getD []).filter
      fun pointer => pointer.index.toNat = index).map
        PointerLabel.label)

/-
  Whether the values and labels of a frame fit into cells:
  each value of an array, and the labels at each index.
-/
structure Fits (frame : Frame) : Prop where
  value_le :
    ∀ name values,
      frame.arrays.get? name = some values →
        ∀ value ∈ values,
          (scalarText value).length ≤ widthLimit
  label_le :
    ∀ name index,
      (frame.labelText name index).length ≤ widthLimit

/- An array of values that fit can be drawn with the labels. -/
theorem Fits.drawable_entry
    {frame : Frame}
    {entry : SequenceEntry}
    (hFits : frame.Fits)
    (hValues :
      ∀ value ∈ entry.values,
        (scalarText value).length ≤ widthLimit)
    (hPointers :
      entry.pointers =
        (frame.pointers.get? entry.name).getD []) :
    entry.drawable = true := by
  rw [drawable_iff]
  intro n value hValue
  have hLabel :
      entry.labelText n = frame.labelText entry.name n := by
    rw [SequenceEntry.labelText, hPointers]
    rfl
  rw [hLabel]
  exact
    Nat.max_le.mpr
      ⟨hValues value (List.mem_of_getElem? hValue),
        hFits.label_le entry.name n⟩

end Frame

------------------------------------------------------------
-- Views
------------------------------------------------------------

/- A view of frames that fit can be drawn. -/
theorem View.drawable_ofStep
    (hFrames : ∀ frame ∈ frames, frame.Fits)
    (hCurrent : current.Fits)
    (index : Nat)
    (previous : Option Frame) :
    (ofStep index current previous
      (Carry.ofFrames frames)).drawable = true := by
  rw [drawable, List.all_eq_true]
  intro entry hEntry
  refine
    hCurrent.drawable_entry ?_
      (pointers_of_mem_arrayEntries hEntry)
  cases hNone : current.arrays.isEmpty with
  | true =>
      rcases Part.exists_get?_of_last?
          (mem_arrayEntries_of_none hNone hEntry).1 with
        ⟨frame, hMem, hValues⟩
      exact (hFrames frame hMem).value_le _ _ hValues
  | false =>
      exact
        hCurrent.value_le _ _
          (mem_arrayEntries_of_some hNone hEntry).1

/- What a session shows of frames that fit can be drawn. -/
theorem Session.Coherent.drawable_view
    {s : Session}
    (hCoherent : s.Coherent)
    (hFits : ∀ frame ∈ s.trace, frame.Fits) :
    s.view.1.all View.drawable = true := by
  rw [hCoherent.view_fst]
  cases hCurrent : s.trace[s.playback.index]? with
  | none => rfl
  | some current =>
      exact
        View.drawable_ofStep
          (fun frame hMem =>
            hFits frame (List.mem_of_mem_take hMem))
          (hFits current (List.mem_of_getElem? hCurrent)) _ _

end TracePlayer
