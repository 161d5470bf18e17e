import TracePlayer.Proofs.Carry.History
import TracePlayer.View.Basic

/-
  This file proves that a view is a function of the frames
  up to its own: what a frame leaves out is shown as the
  last of them reported it, and a receiver that repeats
  another linked list is left out.

  Main declarations:
    * `Trace.shownLists`, `RepeatsReceiver`
    * `View.Recounts`
    * `View.recounts_ofStep`
    * `Trace.viewAt`, `Trace.recounts_viewAt`
-/

namespace TracePlayer

------------------------------------------------------------
-- Resolved Values
------------------------------------------------------------

/- A carried array has the values of its last report. -/
theorem Carry.resolveSequence_ofFrames
    (frames : Trace)
    (name : String) :
    (Carry.ofFrames frames).resolveSequence .array name none =
      (Part.arrays.last? frames name).getD [] := by
  rw [resolveSequence, Option.filter_none,
    Part.carried_arrays.get?_ofFrames]
  cases Part.arrays.last? frames name <;> rfl

/-
  A linked list has the values of its last report, that of
  the shown frame included.
-/
theorem Change.linkedListValues_ofFrames
    (frames : Trace)
    (frame : Frame)
    (name : String) :
    Change.linkedListValues frame (Carry.ofFrames frames) name =
      (Part.linkedLists.last? (frames ++ [frame])
        name).getD [] := by
  have hReport :
      (Part.linkedLists.reported frame).lookup name =
        (frame.linkedLists.get? name).filter fun values =>
          !values.isEmpty :=
    Part.lookup_reported frame name
  rw [linkedListValues, Carry.resolveSequence,
    Part.carried_linkedLists.get?_ofFrames, Part.last?_concat,
    hReport]
  cases (frame.linkedLists.get? name).filter fun values =>
      !values.isEmpty with
  | some values => rfl
  | none => cases Part.linkedLists.last? frames name <;> rfl

/-
  The main tree is that of the last report, that of the
  shown frame included.
-/
theorem Change.shownTree_ofFrames
    (frames : Trace)
    (frame : Frame) :
    Change.shownTree frame (Carry.ofFrames frames) =
      (Part.trees.last? (frames ++ [frame])
        mainTreeName).getD .empty := by
  have hReport :
      (Part.trees.reported frame).lookup mainTreeName =
        (frame.trees.get? mainTreeName).filter fun tree =>
          !tree.isEmpty :=
    Part.lookup_reported frame mainTreeName
  have hCarried :
      (((Carry.ofFrames frames).get? .tree mainTreeName).map
          Structure.root).getD .empty =
        (Part.trees.last? frames mainTreeName).getD .empty := by
    rw [Part.carried_trees.get?_ofFrames]
    cases Part.trees.last? frames mainTreeName <;> rfl
  rw [shownTree, Carry.resolveTree, hCarried,
    Part.last?_concat, hReport, Frame.mainTree, Frame.tree]
  cases frame.trees.get? mainTreeName with
  | none => rfl
  | some tree =>
      cases hEmpty : tree.isEmpty with
      | true => simp [hEmpty, Option.filter]
      | false => simp [hEmpty, Option.filter]

------------------------------------------------------------
-- Linked Lists
------------------------------------------------------------

/-
  The linked lists of a step, with their values: those of
  its frame, then those that it leaves out.
-/
def Trace.shownLists
    (frames : Trace)
    (index : Nat)
    (frame : Frame) : List (String × List Json) :=
  let leftOut :=
    (Part.linkedLists.names (frames.take index)).filter
      fun name => name ∉ frame.linkedLists.names
  (frame.linkedLists.names ++ leftOut).map fun name =>
    (name,
      (Part.linkedLists.last? (frames.take (index + 1))
        name).getD [])

/-
  Whether a receiver that is not empty has the same values
  as another entry.
-/
def RepeatsReceiver
    (entries : List (String × List Json)) : Prop :=
  ∃ own ∈ entries, own.1 = receiverName ∧ own.2 ≠ [] ∧
    ∃ other ∈ entries,
      other.1 ≠ receiverName ∧ (other.2 == own.2) = true

instance (entries : List (String × List Json)) :
    Decidable (RepeatsReceiver entries) := by
  unfold RepeatsReceiver
  infer_instance

theorem receiverRepeats_iff
    (entries : List (String × List Json)) :
    receiverRepeats listIdentity entries = true ↔
      RepeatsReceiver entries := by
  unfold receiverRepeats RepeatsReceiver
  rw [List.any_eq_true]
  refine exists_congr fun own => and_congr_right fun _ => ?_
  obtain ⟨name, values⟩ := own
  rw [Bool.and_eq_true, beq_iff_eq]
  refine and_congr_right fun _ => ?_
  by_cases hOwn : values = []
  · subst hOwn
    simp [listIdentity]
  · have hIdentity : listIdentity values = some values := by
      simp [listIdentity, hOwn]
    simp only [hIdentity, List.any_eq_true,
      Bool.and_eq_true,
      bne_iff_ne, ne_eq, hOwn, not_false_eq_true, true_and]
    refine exists_congr fun other => and_congr_right fun _ =>
      and_congr_right fun _ => ?_
    -- An empty list has no identity and equals no other list.
    cases hOther : other.2 with
    | nil =>
        cases values with
        | nil => exact absurd rfl hOwn
        | cons => simp [listIdentity]
    | cons => simp [listIdentity]

/-
  A receiver is dropped exactly when it repeats another
  list.
-/
theorem dropReceiver_eq
    (entries : List (String × List Json)) :
    dropReceiver listIdentity entries =
      if RepeatsReceiver entries then
        entries.filter fun entry => entry.1 ≠ receiverName
      else
        entries := by
  have hIff := receiverRepeats_iff entries
  by_cases hRepeats : RepeatsReceiver entries
  · rw [if_pos hRepeats, dropReceiver,
      if_pos (hIff.mpr hRepeats)]
    refine List.filter_congr fun entry _ => ?_
    rw [Bool.eq_iff_iff]
    simp
  · rw [if_neg hRepeats, dropReceiver,
      if_neg (mt hIff.mp hRepeats)]

------------------------------------------------------------
-- Views of Steps
------------------------------------------------------------

/- The name and values of an entry. -/
def SequenceEntry.content
    (entry : SequenceEntry) : String × List Json :=
  (entry.name, entry.values)

/-
  What a view shows of a step, from nothing but the frames:
  the line, scalars and dicts are those of the frame, the
  main tree is that of the last report up to the frame. The
  arrays are those of the frame, or, when it has none at
  all, those that were reported before, none of which is
  new. The linked lists are those of the frame and those
  that it leaves out, without a receiver that repeats
  another one.
-/
structure View.Recounts
    (view : View)
    (frames : Trace)
    (index : Nat)
    (frame : Frame) : Prop where
  index_eq : view.index = index
  line_eq : view.line = frame.line
  scalars_eq : view.scalars = frame.scalars
  dicts_eq : view.dicts = frame.dicts
  mainTree_eq :
    view.mainTree =
      (Part.trees.last? (frames.take (index + 1))
        mainTreeName).getD .empty
  arrays_of_some :
    frame.arrays.entries ≠ [] →
      view.arrays.map SequenceEntry.content =
        frame.arrays.entries
  arrays_of_none :
    frame.arrays.entries = [] →
      view.arrays.map SequenceEntry.content =
          ((Part.arrays.names (frames.take index)).map
            fun name =>
              (name,
                (Part.arrays.last? (frames.take index)
                  name).getD [])) ∧
        ∀ entry ∈ view.arrays, entry.newIndex = none
  linkedLists_eq :
    view.linkedLists.map SequenceEntry.content =
      if RepeatsReceiver (frames.shownLists index frame) then
        (frames.shownLists index frame).filter
          fun entry => entry.1 ≠ receiverName
      else
        frames.shownLists index frame

/- The linked lists that a view resolves. -/
theorem shownLists_eq
    {frames : Trace}
    {index : Nat}
    {frame : Frame}
    (hFrame : frames[index]? = some frame) :
    (Change.linkedListNames frame
        (Carry.ofFrames (frames.take index))).map
      (fun name =>
        (name,
          Change.linkedListValues frame
            (Carry.ofFrames (frames.take index)) name)) =
      frames.shownLists index frame := by
  have hTake := Trace.take_succ hFrame
  have hLeftOut :
      ((Part.linkedLists.names (frames.take index)).filter
          fun name => !frame.linkedLists.contains name) =
        (Part.linkedLists.names (frames.take index)).filter
          fun name => name ∉ frame.linkedLists.names := by
    refine List.filter_congr fun name _ => ?_
    by_cases hMem : name ∈ frame.linkedLists.names
    · simp [frame.linkedLists.contains_iff.mpr hMem, hMem]
    · have hNot :
          frame.linkedLists.contains name = false := by
        rw [Bool.eq_false_iff]
        exact mt frame.linkedLists.contains_iff.mp hMem
      simp [hNot, hMem]
  simp only [Change.linkedListValues_ofFrames, ← hTake,
    Change.linkedListNames,
    Part.carried_linkedLists.names_ofFrames, hLeftOut,
    Trace.shownLists]

/- The view of a step recounts the frames up to it. -/
theorem View.recounts_ofStep
    {frames : Trace}
    {index : Nat}
    {frame : Frame}
    (hFrame : frames[index]? = some frame)
    (previous : Option Frame) :
    (View.ofStep index frame previous
      (Carry.ofFrames (frames.take index))).Recounts
        frames index frame := by
  constructor
  case index_eq => rfl
  case line_eq => rfl
  case scalars_eq => rfl
  case dicts_eq => rfl
  case mainTree_eq =>
      rw [Trace.take_succ hFrame]
      exact Change.shownTree_ofFrames _ frame
  case arrays_of_some =>
      intro hSome
      have hArrays : frame.arrays.isEmpty = false := by
        simpa [Named.isEmpty] using hSome
      simp only [View.ofStep, View.arrayEntries, hArrays,
        Bool.false_eq_true, if_false, List.map_map]
      exact List.map_id _
  case arrays_of_none =>
      intro hNone
      have hArrays : frame.arrays.isEmpty = true := by
        simpa [Named.isEmpty] using hNone
      simp only [View.ofStep, View.arrayEntries, hArrays,
        if_true, List.map_map,
        Part.carried_arrays.names_ofFrames,
        Carry.resolveSequence_ofFrames]
      refine ⟨rfl, fun entry hMem => ?_⟩
      rcases List.mem_map.mp hMem with ⟨name, _, rfl⟩
      rfl
  case linkedLists_eq =>
      rw [← dropReceiver_eq, ← shownLists_eq hFrame]
      simp only [View.ofStep, View.linkedListEntries,
        List.map_map]
      exact List.map_id _

------------------------------------------------------------
-- Views in Order
------------------------------------------------------------

namespace Trace

/-
  The view of a step when the steps are viewed in order: what
  is carried comes from the frames before it.
-/
def viewAt
    (frames : Trace)
    (index : Nat) : Option View :=
  (frames.pair? index).map fun (previous, current) =>
    View.ofStep index current previous
      (Carry.ofFrames (frames.take index))

variable {frames : Trace}
variable {index : Nat}
variable {view : View}

theorem exists_of_viewAt
    (hView : frames.viewAt index = some view) :
    ∃ previous current,
      frames.pair? index = some (previous, current) ∧
      view = View.ofStep index current previous
        (Carry.ofFrames (frames.take index)) := by
  rcases Option.map_eq_some_iff.mp hView with
    ⟨⟨previous, current⟩, hPair, rfl⟩
  exact ⟨previous, current, hPair, rfl⟩

/- Every step of a trace has a view. -/
theorem exists_viewAt
    (hIndex : index < frames.length) :
    ∃ view, frames.viewAt index = some view := by
  rw [viewAt, pair?, List.getElem?_eq_getElem hIndex]
  exact ⟨_, rfl⟩

/- A step before one that has a view has a view. -/
theorem viewAt_of_lt
    {later : Nat}
    (hView : frames.viewAt later = some view)
    (hLess : index < later) :
    ∃ earlier, frames.viewAt index = some earlier := by
  rcases exists_of_viewAt hView with ⟨_, _, hPair, _⟩
  have hLength : later < frames.length :=
    (List.getElem?_eq_some_iff.mp (pair?_cases hPair).1).1
  exact exists_viewAt (Nat.lt_trans hLess hLength)

/- The view of a step in order recounts the frames up to it. -/
theorem recounts_viewAt
    (hView : frames.viewAt index = some view) :
    ∃ frame,
      frames[index]? = some frame ∧
        view.Recounts frames index frame := by
  rcases exists_of_viewAt hView with
    ⟨previous, current, hPair, rfl⟩
  have hFrame := (pair?_cases hPair).1
  exact ⟨current, hFrame, View.recounts_ofStep hFrame previous⟩

end Trace

end TracePlayer
