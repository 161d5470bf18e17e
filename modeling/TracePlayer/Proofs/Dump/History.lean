import TracePlayer.Proofs.Json.Lines
import TracePlayer.Proofs.Session.Coherence
import TracePlayer.Proofs.View.History
import TracePlayer.Dump

/-
  This file proves that a dump is a history: it has one line
  for every frame, and each recounts the frames up to its
  own.

  Main declarations:
    * `textLines_dumpText`
    * `Session.Coherent.viewsFrom_recounts`
    * `Session.dump_recounts`
-/

namespace TracePlayer

------------------------------------------------------------
-- Lines
------------------------------------------------------------

/- A dump has one line for every view. -/
theorem textLines_dumpText (views : List View) :
    textLines (dumpText views) =
      views.map fun view => view.toJson.write := by
  have hText :
      (dumpText views).toList =
        (views.map fun view => view.toJson.write).flatMap
          fun line => line ++ ['\n'] := by
    simp [dumpText, String.toList_join, List.flatMap_map,
      Json.compact]
  rw [textLines, hText]
  apply textLinesFrom_join
  intro line hMem
  rcases List.mem_map.mp hMem with ⟨view, _, rfl⟩
  exact Json.write_printable view.toJson

namespace Session

------------------------------------------------------------
-- Views in Order
------------------------------------------------------------

/- Going to a frame that is there. -/
theorem Coherent.seek
    {s : Session}
    (hCoherent : s.Coherent)
    {index : Nat}
    (hIndex : index < s.trace.length) :
    (s.seek index).Coherent ∧
      (s.seek index).playback.index = index := by
  have hControl :
      (Event.seek index).control? = some (.seek index) := rfl
  refine ⟨hCoherent.control hControl rfl, ?_⟩
  have hLast : index ≤ s.playback.lastIndex := by
    rw [Playback.lastIndex, hCoherent.length_eq]
    omega
  exact Nat.min_eq_left hLast

/-
  The view of a frame recounts the frames up to it, if no
  later frame was observed before.
-/
theorem Coherent.view_recounts
    {s : Session}
    {index : Nat}
    (hCoherent : s.Coherent)
    (hIndex : index < s.trace.length)
    (hObserved : s.observed ≤ index) :
    ∃ view frame,
      (s.seek index).view.1 = some view ∧
      s.trace[index]? = some frame ∧
      view.Recounts s.trace index frame := by
  rcases hCoherent.seek hIndex with ⟨hSought, hAt⟩
  have hEarlier :
      (s.seek index).observed ≤ (s.seek index).playback.index := by
    rw [hAt]
    exact hObserved
  have hTrace : (s.seek index).trace = s.trace := rfl
  have hInOrder := hSought.view_in_order hEarlier
  rw [hAt, hTrace] at hInOrder
  rcases Trace.exists_viewAt hIndex with ⟨view, hView⟩
  rcases Trace.recounts_viewAt hView with
    ⟨frame, hFrame, hRecounts⟩
  exact
    ⟨view, frame, hInOrder.trans hView, hFrame, hRecounts⟩

/- After that view the frames before it are observed. -/
theorem Coherent.observed_view
    {s : Session}
    {index : Nat}
    (hCoherent : s.Coherent)
    (hIndex : index < s.trace.length)
    (hObserved : s.observed ≤ index) :
    (s.seek index).view.2.observed = index := by
  rcases hCoherent.seek hIndex with ⟨hSought, hAt⟩
  have hAfter :=
    (observeTo_spec hSought.carry_eq hSought.index_le).1
  rw [view_snd, hAfter, hAt]
  exact Nat.max_eq_right hObserved

/-
  The views from an index on recount the frames, if no later
  frame was observed before.
-/
theorem Coherent.viewsFrom_recounts
    {s : Session}
    {index count : Nat}
    (hCoherent : s.Coherent)
    (hObserved : s.observed ≤ index)
    (hCount : index + count ≤ s.trace.length) :
    (s.viewsFrom index count).length = count ∧
      ∀ k view, (s.viewsFrom index count)[k]? = some view →
        ∃ frame, s.trace[index + k]? = some frame ∧
          view.Recounts s.trace (index + k) frame := by
  induction count generalizing s index with
  | zero => exact ⟨rfl, by simp [viewsFrom]⟩
  | succ count ih =>
      have hIndex : index < s.trace.length := by omega
      rcases hCoherent.view_recounts hIndex hObserved with
        ⟨first, frame, hView, hFrame, hFirst⟩
      have hViews :
          s.viewsFrom index (count + 1) =
            first ::
              (s.seek index).view.2.viewsFrom
                (index + 1) count := by
        rw [viewsFrom]
        simp [hView]
      have hTrace :
          (s.seek index).view.2.trace = s.trace := by
        rw [view_snd, observeTo_eq]
        rfl
      have hNext :
          (s.seek index).view.2.observed ≤ index + 1 := by
        rw [hCoherent.observed_view hIndex hObserved]
        exact Nat.le_succ index
      have hLeft :
          index + 1 + count ≤
            (s.seek index).view.2.trace.length := by
        rw [hTrace]
        omega
      have hRest :=
        ih (hCoherent.seek hIndex).1.view hNext hLeft
      rw [hTrace] at hRest
      rw [hViews]
      refine ⟨congrArg (· + 1) hRest.1, fun k view hAt => ?_⟩
      cases k with
      | zero =>
          cases hAt
          exact ⟨frame, hFrame, hFirst⟩
      | succ k =>
          rw [← Nat.add_assoc, Nat.add_right_comm]
          exact hRest.2 k view hAt

/-
  A dump has a view and a line for every frame, and each
  view recounts the frames up to its own.
-/
theorem dump_recounts
    (s : Session)
    {tracer : Tracer}
    {source : String}
    {reply : Reply}
    (hReply : tracer source = .ok reply) :
    (s.dump tracer source).2.length = reply.frames.length ∧
      textLines (dumpText (s.dump tracer source).2) =
        ((s.dump tracer source).2.map
          fun view => view.toJson.write) ∧
      ∀ (i : Nat) (view : View),
        (s.dump tracer source).2[i]? = some view →
        ∃ frame, reply.frames[i]? = some frame ∧
          view.Recounts reply.frames i frame := by
  have hCoherent : (s.loadNow tracer source).2.Coherent :=
    Coherent.apply rfl _
  have hObserved :
      (s.loadNow tracer source).2.observed = 0 := by
    rw [loadNow, apply_snd]
  have hTrace :
      (s.loadNow tracer source).2.trace = reply.frames := by
    rw [loadNow, apply_snd, hReply]
    rfl
  have hViews :=
    hCoherent.viewsFrom_recounts
      (Nat.le_of_eq hObserved)
      (Nat.le_of_eq (Nat.zero_add _))
  rw [hTrace] at hViews
  have hDump :
      (s.dump tracer source).2 =
        (s.loadNow tracer source).2.viewsFrom 0
          reply.frames.length := by
    rw [← hTrace]
    rfl
  rw [hDump]
  refine ⟨hViews.1, textLines_dumpText _, fun i view hAt => ?_⟩
  rcases hViews.2 i view hAt with ⟨frame, hFrame, hRecounts⟩
  rw [Nat.zero_add] at hFrame hRecounts
  exact ⟨frame, hFrame, hRecounts⟩

/-
  A receiver that repeats a list is shown neither in the
  frame that reports both nor in the next, which leaves them
  out.
-/
theorem dump_recounts_of_two :
    let first : Frame :=
      { Frame.empty with
        linkedLists :=
          ⟨[("self", [.bool true]), ("xs", [.bool true])],
            by decide⟩ }
    let frames : Trace := [first, Frame.empty]
    let views :=
      (new.dump (fun _ => .ok ⟨frames, none⟩) "").2
    views.length = 2 ∧
      ∃ view, views[1]? = some view ∧
        view.Recounts frames 1 Frame.empty ∧
        view.linkedLists.map SequenceEntry.content =
          [("xs", [.bool true])] := by
  intro first frames views
  let tracer : Tracer := fun _ => .ok ⟨frames, none⟩
  have hReply : tracer "" = .ok ⟨frames, none⟩ := rfl
  rcases dump_recounts new hReply with
    ⟨hLength, _, hRecounts⟩
  refine ⟨hLength, ?_⟩
  cases hView : views[1]? with
  | none =>
      have hShort := List.getElem?_eq_none_iff.mp hView
      rw [hLength] at hShort
      exact absurd hShort (by decide)
  | some view =>
      rcases hRecounts 1 view hView with
        ⟨frame, hFrame, hRecounted⟩
      cases hFrame
      refine ⟨view, rfl, hRecounted, ?_⟩
      rw [hRecounted.linkedLists_eq]
      decide

end Session

end TracePlayer
