import TracePlayer.Proofs.View.History

/-
  This file proves which linked lists count as grown: those
  that a frame reports with more values than their last
  report before it had, however many frames in between left
  them out.

  Main declarations:
    * `Change.grownTo?_eq_some_iff`
    * `Change.lookup_linkedLists`
    * `Change.linkedListValues_of_omits`
    * `Change.linkedListValues_of_reports`
    * `Change.grown_since_last_report`
-/

namespace TracePlayer

namespace Change

------------------------------------------------------------
-- Growth
------------------------------------------------------------

/- A list that got longer is marked at its last index. -/
theorem grownTo?_eq_some_iff
    {current previous : List Json}
    {index : Nat} :
    grownTo? current previous = some index ↔
      previous.length < current.length ∧
        index = current.length - 1 := by
  unfold grownTo?
  split
  case isTrue hLonger =>
      rw [Option.some.injEq, eq_comm]
      exact (and_iff_right hLonger).symm
  case isFalse hShort =>
      exact ⟨nofun, fun hGrown => absurd hGrown.1 hShort⟩

/- A list does not grow by staying as it is. -/
theorem grownTo?_self (values : List Json) :
    grownTo? values values = none := by
  simp [grownTo?]

/- The mark of a list compares it as it is shown. -/
theorem lookup_linkedLists
    (current previous : Frame)
    (carry : Carry)
    (name : String) :
    (linkedLists current (some previous) carry).lookup name =
      if name ∈ linkedListNames current carry then
        grownTo?
          (linkedListValues current carry name)
          (linkedListValues previous carry name)
      else none :=
  lookup_filterMap
    (fun name =>
      grownTo?
        (linkedListValues current carry name)
        (linkedListValues previous carry name))
    (linkedListNames current carry) name

/- A list that is left out has its carried values. -/
theorem linkedListValues_of_omits
    {frame : Frame}
    {name : String}
    (hOmits : Part.linkedLists.Omits frame name)
    (carry : Carry) :
    linkedListValues frame carry name =
      ((carry.get? .linkedList name).bind
        Structure.sequence?).getD [] := by
  have hNone :
      (frame.linkedLists.get? name).filter
        (fun values => !values.isEmpty) = none := by
    rw [Option.filter_eq_none_iff]
    intro values hValues
    simpa [Part.linkedLists] using hOmits values hValues
  rw [linkedListValues, Carry.resolveSequence, hNone]

/- A list that is reported has the values of its report. -/
theorem linkedListValues_of_reports
    {frame : Frame}
    {name : String}
    {values : List Json}
    (hValues : frame.linkedLists.get? name = some values)
    (hFull : values ≠ [])
    (carry : Carry) :
    linkedListValues frame carry name = values := by
  have hSome :
      (frame.linkedLists.get? name).filter
        (fun values => !values.isEmpty) = some values := by
    simp [hValues, hFull]
  rw [linkedListValues, Carry.resolveSequence, hSome]

------------------------------------------------------------
-- Growth against the History
------------------------------------------------------------

/-
  The values of a list in the frame that was carried last are
  the carried ones.
-/
theorem linkedListValues_last
    (frames : Trace)
    (last : Frame)
    (name : String) :
    linkedListValues last
        (Carry.ofFrames (frames ++ [last])) name =
      (Part.linkedLists.last? (frames ++ [last]) name).getD [] := by
  rw [linkedListValues_ofFrames, Part.last?_concat_last]

/- No name is shown twice, if none is carried twice. -/
theorem nodup_linkedListNames_of_nodup
    {carry : Carry}
    (hNames : (carry.names .linkedList).Nodup)
    (frame : Frame) :
    (linkedListNames frame carry).Nodup := by
  rw [linkedListNames, List.nodup_append]
  refine ⟨frame.linkedLists.distinct, hNames.filter _, ?_⟩
  rintro name hOwn other hOther rfl
  have hNew := (List.mem_filter.mp hOther).2
  rw [frame.linkedLists.contains_iff.mpr hOwn] at hNew
  cases hNew

/- After any frames, no name is shown twice. -/
theorem nodup_linkedListNames
    (frames : Trace)
    (frame : Frame) :
    (linkedListNames frame (Carry.ofFrames frames)).Nodup := by
  refine nodup_linkedListNames_of_nodup ?_ frame
  rw [Part.carried_linkedLists.names_ofFrames]
  exact nodup_eraseDups _

/-
  After the frame before it, a list is marked exactly when
  its frame reports it longer than its last report.
-/
theorem lookup_linkedLists_ofFrames
    (frames : Trace)
    (previous current : Frame)
    (name : String)
    (index : Nat) :
    (linkedLists current (some previous)
          (Carry.ofFrames (frames ++ [previous]))).lookup name =
        some index ↔
      ∃ values,
        current.linkedLists.get? name = some values ∧
        values ≠ [] ∧
        ((Part.linkedLists.last? (frames ++ [previous])
          name).getD []).length < values.length ∧
        index = values.length - 1 := by
  rw [lookup_linkedLists, linkedListValues_last,
    linkedListValues_ofFrames, Part.last?_concat _ current]
  rcases Part.linkedLists.omits_or_reports current name with
    hOmits | ⟨values, hValues, hFull⟩
  · rw [hOmits.lookup_reported, Option.none_or,
      grownTo?_self, ite_self]
    refine ⟨nofun, ?_⟩
    rintro ⟨values, hValues, hFull, _⟩
    exact absurd (List.isEmpty_iff.mp (hOmits values hValues))
      hFull
  · have hMem :
        name ∈ linkedListNames current
          (Carry.ofFrames (frames ++ [previous])) :=
      List.mem_append_left _
        (Named.mem_names_of_get? hValues)
    have hSome := Part.isEmpty_linkedLists.mp hFull
    rw [if_pos hMem, Part.lookup_reported_of_get? hValues hFull,
      Option.some_or, Option.getD_some, grownTo?_eq_some_iff]
    constructor
    · intro hGrown
      exact ⟨values, hValues, hSome, hGrown⟩
    · rintro ⟨other, hOther, _, hGrown⟩
      have hSame : values = other :=
        Option.some.inj (hValues.symm.trans hOther)
      rwa [hSame]

/-
  A list is marked as grown exactly when its frame is not the
  first and reports more values than the last report before
  it, and then at its last index. Frames that leave the list
  out do not matter, however many there are since then.
-/
theorem grown_since_last_report
    {frames : Trace}
    {index : Nat}
    {previous : Option Frame}
    {current : Frame}
    (hPair : frames.pair? index = some (previous, current)) :
    let before := frames.take index
    let grown :=
      linkedLists current previous (Carry.ofFrames before)
    (grown.map Prod.fst).Nodup ∧
      ∀ name,
        (∀ place, grown.lookup name = some place ↔
          1 ≤ index ∧ ∃ values,
            current.linkedLists.get? name = some values ∧
            values ≠ [] ∧
            ((Part.linkedLists.last? before name).getD
              []).length < values.length ∧
            place = values.length - 1) ∧
        ∀ kept gap : Trace,
          before = kept ++ gap →
          (∀ frame ∈ gap,
            Part.linkedLists.Omits frame name) →
          Part.linkedLists.last? before name =
            Part.linkedLists.last? kept name := by
  intro before grown
  refine ⟨?_, fun name => ⟨fun place => ?_, ?_⟩⟩
  · cases previous with
    | none => exact List.nodup_nil
    | some previous =>
        exact (nodup_linkedListNames before current).sublist
          (keys_filterMap_sublist _ _)
  · rcases (Trace.pair?_cases hPair).2 with
      ⟨rfl, rfl⟩ | ⟨n, last, rfl, hLast, rfl⟩
    · exact ⟨nofun, fun hLater => absurd hLater.1 (by omega)⟩
    · have hBefore : before = frames.take n ++ [last] :=
        Trace.take_succ hLast
      simp only [grown, hBefore, lookup_linkedLists_ofFrames]
      exact (and_iff_right (Nat.succ_pos n)).symm
  · rintro kept gap hSplit hGap
    rw [hSplit, Part.last?_append_of_omits hGap]

/-
  A list of two values that is left out, then empty, then
  reported with three: its last value is marked.
-/
theorem grown_since_last_report_after_gap :
    let value := Json.bool true
    let reporting (values : List Json) : Frame :=
      { Frame.empty with
        linkedLists := Named.ofList [("xs", values)] }
    let current := reporting [value, value, value]
    let before : Trace :=
      [reporting [value, value], Frame.empty, reporting []]
    Trace.pair? (before ++ [current]) 3 =
        some (some (reporting []), current) ∧
      (linkedLists current (some (reporting []))
        (Carry.ofFrames before)).lookup "xs" = some 2 := by
  intro value reporting current before
  have hPair :
      Trace.pair? (before ++ [current]) 3 =
        some (some (reporting []), current) := rfl
  have hMarked :=
    ((grown_since_last_report hPair).2 "xs").1 2
  refine ⟨hPair, hMarked.mpr ⟨by decide, ?_⟩⟩
  exact ⟨[value, value, value], rfl, by simp, by decide, rfl⟩

end Change

end TracePlayer
