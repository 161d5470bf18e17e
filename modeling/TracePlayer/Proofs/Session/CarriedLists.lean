import TracePlayer.Proofs.Session.Coherence
import TracePlayer.Proofs.View.Entries

/-
  This file proves when a session marks a linked list that
  the shown frame leaves out: never while the frames from
  the index on are not observed, but after going back when
  the frame before reports fewer values than are carried.

  Main declarations:
    * `Change.lookup_linkedLists_of_omits`
    * `Session.Reachable.carried_list_marked_iff`
-/

namespace TracePlayer

------------------------------------------------------------
-- Lists That Are Left Out
------------------------------------------------------------

/-
  A list that its frame leaves out is marked exactly when the
  frame before reports fewer values than are carried.
-/
theorem Change.lookup_linkedLists_of_omits
    {current : Frame}
    {carry : Carry}
    {name : String}
    (hOmits : Part.linkedLists.Omits current name)
    (hShown : name ∈ linkedListNames current carry)
    (previous : Frame)
    (place : Nat) :
    (linkedLists current (some previous) carry).lookup name =
        some place ↔
      ∃ values,
        previous.linkedLists.get? name = some values ∧
        values ≠ [] ∧
        values.length <
          (linkedListValues current carry name).length ∧
        place =
          (linkedListValues current carry name).length - 1 := by
  rw [lookup_linkedLists, if_pos hShown]
  rcases Part.linkedLists.omits_or_reports previous name with
    hBefore | ⟨values, hValues, hFull⟩
  · rw [linkedListValues_of_omits hOmits,
      linkedListValues_of_omits hBefore, grownTo?_self]
    refine ⟨nofun, ?_⟩
    rintro ⟨values, hValues, hSome, _⟩
    exact absurd (List.isEmpty_iff.mp (hBefore values hValues))
      hSome
  · have hSome := Part.isEmpty_linkedLists.mp hFull
    rw [linkedListValues_of_reports hValues hSome,
      grownTo?_eq_some_iff]
    constructor
    · intro hGrown
      exact ⟨values, hValues, hSome, hGrown⟩
    · rintro ⟨other, hOther, _, hGrown⟩
      have hSame : values = other :=
        Option.some.inj (hValues.symm.trans hOther)
      rwa [hSame]

namespace Session

------------------------------------------------------------
-- Carried Lists of a Session
------------------------------------------------------------

variable {s : Session}
variable {view : View}
variable {current : Frame}
variable {entry : SequenceEntry}

/-
  Whether the frame before the current one reports a list,
  with fewer values than given.
-/
def ReportedShorterBefore
    (s : Session)
    (name : String)
    (values : List Json) : Prop :=
  ∃ before earlier,
    s.playback.index ≠ 0 ∧
    s.trace[s.playback.index - 1]? = some before ∧
    before.linkedLists.get? name = some earlier ∧
    earlier ≠ [] ∧
    earlier.length < values.length

/-
  An entry in the view of a session: its name, values and mark
  come from the current frame, the one before it and what is
  carried from the observed frames.
-/
theorem Coherent.linkedList_entry
    (hCoherent : s.Coherent)
    (hView : s.view.1 = some view)
    (hCurrent : s.trace[s.playback.index]? = some current)
    (hEntry : entry ∈ view.linkedLists) :
    let carry :=
      Carry.ofFrames
        (s.trace.take (max s.observed s.playback.index))
    let previous :=
      if s.playback.index = 0 then none
      else s.trace[s.playback.index - 1]?
    entry.name ∈ Change.linkedListNames current carry ∧
      entry.values =
        Change.linkedListValues current carry entry.name ∧
      entry.newIndex =
        (Change.linkedLists current previous carry).lookup
          entry.name := by
  rw [hCoherent.view_fst, hCurrent] at hView
  cases hView
  exact View.mem_linkedListEntries hEntry

/-
  A list that the current frame leaves out has the values of
  the last report among the observed frames.
-/
theorem Coherent.carried_list_values
    (hCoherent : s.Coherent)
    (hView : s.view.1 = some view)
    (hCurrent : s.trace[s.playback.index]? = some current)
    (hEntry : entry ∈ view.linkedLists)
    (hOmits : Part.linkedLists.Omits current entry.name) :
    entry.values =
      (Part.linkedLists.last?
        (s.trace.take (max s.observed s.playback.index))
        entry.name).getD [] := by
  rcases hCoherent.linkedList_entry hView hCurrent hEntry with
    ⟨_, hValues, _⟩
  rw [hValues, Change.linkedListValues_ofFrames,
    Part.last?_concat, hOmits.lookup_reported, Option.none_or]

/-
  A list that the current frame leaves out is marked exactly
  when the frame before reports it shorter.
-/
theorem Coherent.carried_list_mark
    (hCoherent : s.Coherent)
    (hView : s.view.1 = some view)
    (hCurrent : s.trace[s.playback.index]? = some current)
    (hEntry : entry ∈ view.linkedLists)
    (hOmits : Part.linkedLists.Omits current entry.name)
    (place : Nat) :
    entry.newIndex = some place ↔
      s.ReportedShorterBefore entry.name entry.values ∧
        place = entry.values.length - 1 := by
  rcases hCoherent.linkedList_entry hView hCurrent hEntry with
    ⟨hShown, hValues, hMark⟩
  rw [hMark]
  by_cases hFirst : s.playback.index = 0
  · rw [if_pos hFirst]
    refine ⟨nofun, ?_⟩
    rintro ⟨⟨_, _, hLater, _⟩, _⟩
    exact absurd hFirst hLater
  · rw [if_neg hFirst]
    cases hBefore : s.trace[s.playback.index - 1]? with
    | none =>
        refine ⟨nofun, ?_⟩
        rintro ⟨⟨before, _, _, hSome, _⟩, _⟩
        rw [hBefore] at hSome
        cases hSome
    | some before =>
        rw [Change.lookup_linkedLists_of_omits hOmits hShown,
          ← hValues]
        constructor
        · rintro ⟨earlier, hReport, hSome, hLonger, hPlace⟩
          exact
            ⟨⟨before, earlier, hFirst, hBefore, hReport,
              hSome, hLonger⟩, hPlace⟩
        · rintro
            ⟨⟨other, earlier, _, hSame, hReport⟩, hPlace⟩
          cases hBefore.symm.trans hSame
          exact ⟨earlier, hReport.1, hReport.2.1,
            hReport.2.2, hPlace⟩

/-
  While no frame from the index on is observed, the frame
  before the index is the last one observed, and reports just
  what is carried.
-/
theorem not_reportedShorterBefore
    {name : String}
    {values : List Json}
    (hValues :
      values =
        (Part.linkedLists.last?
          (s.trace.take s.playback.index) name).getD []) :
    ¬ s.ReportedShorterBefore name values := by
  rintro ⟨before, earlier, hLater, hBefore, hReport, hSome,
    hLonger⟩
  obtain ⟨n, hIndex⟩ := Nat.exists_eq_succ_of_ne_zero hLater
  have hTake :
      s.trace.take s.playback.index =
        s.trace.take n ++ [before] := by
    rw [hIndex] at hBefore ⊢
    exact Trace.take_succ hBefore
  have hFull := Part.isEmpty_linkedLists.mpr hSome
  have hLast :
      Part.linkedLists.last?
          (s.trace.take s.playback.index) name =
        some earlier := by
    rw [hTake, Part.last?_concat,
      Part.lookup_reported_of_get? hReport hFull,
      Option.some_or]
  rw [hValues, hLast] at hLonger
  exact Nat.lt_irrefl _ hLonger

/-
  A list that the current frame leaves out shows its last
  report among the observed frames. It is not marked while all
  of them come before the index; after going back it is marked
  exactly when the frame before the index reports it shorter.
-/
theorem Reachable.carried_list_marked_iff
    (hReach : s.Reachable)
    (hView : s.view.1 = some view)
    (hCurrent : s.trace[s.playback.index]? = some current)
    (hEntry : entry ∈ view.linkedLists)
    (hOmits : Part.linkedLists.Omits current entry.name) :
    (s.observed ≤ s.playback.index →
      entry.newIndex = none) ∧
    entry.values =
      (Part.linkedLists.last?
        (s.trace.take (max s.observed s.playback.index))
        entry.name).getD [] ∧
    ∀ place, entry.newIndex = some place ↔
      s.ReportedShorterBefore entry.name entry.values ∧
        place = entry.values.length - 1 := by
  have hCoherent := hReach.coherent
  have hValues :=
    hCoherent.carried_list_values hView hCurrent hEntry hOmits
  have hMark :=
    hCoherent.carried_list_mark hView hCurrent hEntry hOmits
  refine ⟨fun hObserved => ?_, hValues, hMark⟩
  rw [Nat.max_eq_right hObserved] at hValues
  rw [Option.eq_none_iff_forall_ne_some]
  intro place hPlace
  exact not_reportedShorterBefore hValues
    ((hMark place).mp hPlace).1

/-
  One step on, a list that is left out is shown as it was,
  without a mark.
-/
theorem carried_list_unmarked_after_step :
    let values := [Json.bool true]
    let reporting : Frame :=
      { Frame.empty with
        linkedLists := Named.ofList [("xs", values)] }
    let tracer : Tracer := fun _ =>
      .ok ⟨[reporting, Frame.empty], none⟩
    let s := (new.loadNow tracer "").2.step 1
    let entry : SequenceEntry :=
      { name := "xs"
        values := values
        newIndex := none
        pointers := [] }
    s.Reachable ∧
      ∃ view, s.view.1 = some view ∧
        entry ∈ view.linkedLists ∧ entry.newIndex = none := by
  intro values reporting tracer s entry
  have hReach : s.Reachable :=
    ⟨[⟨tracer, .loadNow ""⟩, ⟨tracer, .step 1⟩], rfl⟩
  cases hView : s.view.1 with
  | none => cases hView
  | some view =>
      have hEntry : entry ∈ view.linkedLists := by
        cases hView
        decide
      have hOmits :
          Part.linkedLists.Omits Frame.empty entry.name := nofun
      have hUnmarked :=
        (hReach.carried_list_marked_iff hView rfl hEntry
          hOmits).1
      exact
        ⟨hReach, view, rfl, hEntry, hUnmarked (by decide)⟩

/-
  A look at the last frame, and back to the second: the list
  that the second frame leaves out is shown as the third one
  reports it, and marked as grown.
-/
theorem carried_list_marked_going_back :
    let value := Json.bool true
    let reporting (values : List Json) : Frame :=
      { Frame.empty with
        linkedLists := Named.ofList [("xs", values)] }
    let frames : Trace :=
      [reporting [value], Frame.empty,
        reporting [value, value], Frame.empty]
    let tracer : Tracer := fun _ => .ok ⟨frames, none⟩
    let s :=
      ((new.loadNow tracer "").2.seekEnd.view.2).seek 1
    s.Reachable ∧
      s.trace[s.playback.index]? = some Frame.empty ∧
      Part.linkedLists.Omits Frame.empty "xs" ∧
      ∃ view, s.view.1 = some view ∧
        view.linkedLists =
          [{ name := "xs"
             values := [value, value]
             newIndex := some 1
             pointers := [] }] := by
  intro value reporting frames tracer s
  have hReach : s.Reachable :=
    ⟨[⟨tracer, .loadNow ""⟩, ⟨tracer, .seekEnd⟩,
      ⟨tracer, .view⟩, ⟨tracer, .seek 1⟩], rfl⟩
  cases hView : s.view.1 with
  | none => cases hView
  | some view =>
      refine ⟨hReach, rfl, nofun, view, rfl, ?_⟩
      cases hView
      decide

end Session

end TracePlayer
