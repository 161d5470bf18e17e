import TracePlayer.Proofs.Carry.Contents

/-
  This file proves that what is carried is a history: the
  names are those that the frames so far reported with a
  value that was not empty, in the order of the first such
  report, and the state of a name is that of the last.

  Main declarations:
    * `Trace.take_succ`, `Trace.pair?_cases`
    * `Part`, `Part.reported`
    * `Part.names`, `Part.last?`
    * `Part.Omits`, `Part.last?_append_of_omits`
    * `Part.Carried`
    * `Part.Carried.names_ofFrames`
    * `Part.Carried.get?_ofFrames`
-/

namespace TracePlayer

------------------------------------------------------------
-- Steps of a Trace
------------------------------------------------------------

/- The frames up to a frame are those before it and it. -/
theorem Trace.take_succ
    {frames : Trace}
    {index : Nat}
    {frame : Frame}
    (hFrame : frames[index]? = some frame) :
    frames.take (index + 1) = frames.take index ++ [frame] := by
  rw [List.take_add_one, hFrame]
  rfl

/- A frame is the first, or there is one before it. -/
theorem Trace.pair?_cases
    {frames : Trace}
    {index : Nat}
    {previous : Option Frame}
    {current : Frame}
    (hPair : frames.pair? index = some (previous, current)) :
    frames[index]? = some current ∧
      (index = 0 ∧ previous = none ∨
        ∃ n before,
          index = n + 1 ∧ frames[n]? = some before ∧
          previous = some before) := by
  rcases Option.map_eq_some_iff.mp hPair with
    ⟨frame, hFrame, hBoth⟩
  rw [Prod.mk.injEq] at hBoth
  rcases hBoth with ⟨rfl, rfl⟩
  refine ⟨hFrame, ?_⟩
  cases index with
  | zero => exact Or.inl ⟨rfl, rfl⟩
  | succ n =>
      have hLess : n + 1 < frames.length :=
        (List.getElem?_eq_some_iff.mp hFrame).1
      have hBefore : frames[n]? = some frames[n] :=
        List.getElem?_eq_getElem (Nat.lt_of_succ_lt hLess)
      exact Or.inr ⟨n, frames[n], rfl, hBefore, hBefore⟩

------------------------------------------------------------
-- Parts of Frames
------------------------------------------------------------

/- Named values of a frame, some of which count as empty. -/
structure Part (α : Type) where
  of : Frame → Named α
  isEmpty : α → Bool

namespace Part

def arrays : Part (List Json) :=
  ⟨Frame.arrays, List.isEmpty⟩

def linkedLists : Part (List Json) :=
  ⟨Frame.linkedLists, List.isEmpty⟩

def trees : Part Tree :=
  ⟨Frame.trees, Tree.isEmpty⟩

theorem isEmpty_linkedLists
    {values : List Json} :
    linkedLists.isEmpty values = false ↔ values ≠ [] :=
  List.isEmpty_eq_false_iff

variable {α : Type}

/- The values of a frame that are not empty. -/
def reported
    (part : Part α)
    (frame : Frame) : List (String × α) :=
  (part.of frame).entries.filter fun entry =>
    !part.isEmpty entry.2

/-
  The names under which frames report a value, in the order
  of the first report: by frame, then by place in the frame.
-/
def names
    (part : Part α)
    (frames : Trace) : List String :=
  (frames.flatMap fun frame =>
    (part.reported frame).map Prod.fst).eraseDups

/-
  The value that the last frame to report a name gave it.
-/
def last?
    (part : Part α)
    (frames : Trace)
    (name : String) : Option α :=
  frames.reverse.findSome? fun frame =>
    (part.reported frame).lookup name

variable {part : Part α}

/- A frame reports a name at most once. -/
theorem nodup_reported (frame : Frame) :
    ((part.reported frame).map Prod.fst).Nodup :=
  (part.of frame).distinct.sublist
    (List.filter_sublist.map Prod.fst)

/- A frame reports the value of a name that is not empty. -/
theorem lookup_reported
    (frame : Frame)
    (name : String) :
    (part.reported frame).lookup name =
      ((part.of frame).get? name).filter fun value =>
        !part.isEmpty value :=
  lookup_filter (part.of frame).distinct
    (fun value => !part.isEmpty value) name

/- With one more frame, its report comes first. -/
theorem last?_concat
    (frames : Trace)
    (frame : Frame)
    (name : String) :
    part.last? (frames ++ [frame]) name =
      ((part.reported frame).lookup name).or
        (part.last? frames name) := by
  rw [last?, List.reverse_append, List.findSome?_append]
  simp [last?]

/- The last value of a name is one that a frame has for it. -/
theorem exists_get?_of_last?
    {frames : Trace}
    {name : String}
    {value : α}
    (hLast : part.last? frames name = some value) :
    ∃ frame ∈ frames,
      (part.of frame).get? name = some value := by
  rcases List.exists_of_findSome?_eq_some hLast with
    ⟨frame, hMem, hReport⟩
  rw [lookup_reported, Option.filter_eq_some_iff] at hReport
  exact ⟨frame, List.mem_reverse.mp hMem, hReport.1⟩

------------------------------------------------------------
-- Omissions
------------------------------------------------------------

/-
  Whether a frame leaves out a name: it has no value for it,
  or an empty one.
-/
def Omits
    (part : Part α)
    (frame : Frame)
    (name : String) : Prop :=
  ∀ value,
    (part.of frame).get? name = some value →
      part.isEmpty value = true

/- A frame reports no value for a name that it leaves out. -/
theorem Omits.lookup_reported
    {frame : Frame}
    {name : String}
    (hOmits : part.Omits frame name) :
    (part.reported frame).lookup name = none := by
  rw [Part.lookup_reported, Option.filter_eq_none_iff]
  intro value hValue
  simp [hOmits value hValue]

/- A frame reports its value for a name if it is not empty. -/
theorem lookup_reported_of_get?
    {frame : Frame}
    {name : String}
    {value : α}
    (hValue : (part.of frame).get? name = some value)
    (hFull : part.isEmpty value = false) :
    (part.reported frame).lookup name = some value := by
  rw [lookup_reported, hValue]
  simp [hFull]

/- A frame leaves out a name or has a value to report. -/
theorem omits_or_reports
    (part : Part α)
    (frame : Frame)
    (name : String) :
    part.Omits frame name ∨
      ∃ value,
        (part.of frame).get? name = some value ∧
          part.isEmpty value = false := by
  by_cases hOmits : part.Omits frame name
  · exact Or.inl hOmits
  · unfold Omits at hOmits
    push Not at hOmits
    rcases hOmits with ⟨value, hValue, hFull⟩
    exact Or.inr ⟨value, hValue, by simpa using hFull⟩

/- Frames that leave out a name do not change its value. -/
theorem last?_append_of_omits
    {frames gap : Trace}
    {name : String}
    (hGap : ∀ frame ∈ gap, part.Omits frame name) :
    part.last? (frames ++ gap) name =
      part.last? frames name := by
  induction gap using List.reverseRecOn with
  | nil => rw [List.append_nil]
  | append_singleton gap frame ih =>
      have hFrame : part.Omits frame name :=
        hGap frame (by simp)
      rw [← List.append_assoc, last?_concat,
        hFrame.lookup_reported, Option.none_or]
      exact ih fun other hMem => hGap other (by simp [hMem])

/- Seeing the last frame once more changes nothing. -/
theorem last?_concat_last
    (frames : Trace)
    (frame : Frame)
    (name : String) :
    part.last? (frames ++ [frame] ++ [frame]) name =
      part.last? (frames ++ [frame]) name := by
  rw [last?_concat, last?_concat, ← Option.or_assoc,
    Option.or_self]

------------------------------------------------------------
-- Carried Parts
------------------------------------------------------------

/-
  A part is carried under a kind when its values, as they
  are wrapped, are the reports of that kind.
-/
structure Carried
    (part : Part α)
    (kind : Kind)
    (wrap : α → Structure) : Prop where
  reportsOf_carried :
    ∀ frame : Frame,
      Carry.reportsOf kind (Carry.carried frame) =
        (part.reported frame).map fun entry =>
          (entry.1, wrap entry.2)

/- The reports among values that are wrapped. -/
theorem reportsOf_map
    {kind own : Kind}
    (wrap : α → Structure)
    (hKind : ∀ value, (wrap value).kind = own)
    (m : Named α) :
    Carry.reportsOf kind (m.map wrap).entries =
      if own = kind then
        (m.entries.filter fun entry =>
          !(wrap entry.2).isEmpty).map
            fun entry => (entry.1, wrap entry.2)
      else [] := by
  simp only [Carry.reportsOf, Named.map, List.filter_map]
  by_cases hSame : own = kind
  · rw [if_pos hSame]
    congr 2
    funext entry
    simp [Carry.reports, hKind, hSame]
  · rw [if_neg hSame, List.filter_eq_nil_iff.mpr]
    · rfl
    · intro entry _
      simp [Carry.reports, hKind, hSame]

/-
  The reports of a frame come from the part of their kind.
-/
theorem reportsOf_carried
    (kind : Kind)
    (frame : Frame) :
    Carry.reportsOf kind (Carry.carried frame) =
      (if .array = kind then
        (arrays.reported frame).map fun entry =>
          (entry.1, Structure.array entry.2)
      else []) ++
      (if .linkedList = kind then
        (linkedLists.reported frame).map fun entry =>
          (entry.1, Structure.linkedList entry.2)
      else []) ++
      (if .tree = kind then
        (trees.reported frame).map fun entry =>
          (entry.1, Structure.tree entry.2)
      else []) := by
  rw [Carry.carried, Carry.reportsOf_append,
    Carry.reportsOf_append,
    reportsOf_map Structure.array fun _ => rfl,
    reportsOf_map Structure.linkedList fun _ => rfl,
    reportsOf_map Structure.tree fun _ => rfl]
  rfl

theorem carried_arrays :
    arrays.Carried .array Structure.array where
  reportsOf_carried := by
    intro frame
    simp [reportsOf_carried]

theorem carried_linkedLists :
    linkedLists.Carried .linkedList Structure.linkedList where
  reportsOf_carried := by
    intro frame
    simp [reportsOf_carried]

theorem carried_trees :
    trees.Carried .tree Structure.tree where
  reportsOf_carried := by
    intro frame
    simp [reportsOf_carried]

------------------------------------------------------------
-- Histories
------------------------------------------------------------

/- Frames are carried one state after the other. -/
theorem ofFrames_eq_updateAll (frames : Trace) :
    Carry.ofFrames frames =
      Carry.empty.updateAll (frames.flatMap Carry.carried) := by
  induction frames using List.reverseRecOn with
  | nil => rfl
  | append_singleton frames frame ih =>
      rw [Carry.ofFrames, List.foldl_append,
        ← Carry.ofFrames,
        ih, List.flatMap_append, Carry.updateAll,
        Carry.updateAll, List.foldl_append]
      simp [Carry.observe, Carry.updateAll]

variable {kind : Kind}
variable {wrap : α → Structure}

/- The reports of frames, one frame after the other. -/
theorem Carried.reportsOf_flatMap
    (hCarried : part.Carried kind wrap)
    (frames : Trace) :
    Carry.reportsOf kind (frames.flatMap Carry.carried) =
      (frames.flatMap part.reported).map fun entry =>
        (entry.1, wrap entry.2) := by
  induction frames with
  | nil => rfl
  | cons frame rest ih =>
      rw [List.flatMap_cons, Carry.reportsOf_append, ih,
        hCarried.reportsOf_carried, List.flatMap_cons,
        List.map_append]

/-
  The names that are carried are those that were reported.
-/
theorem Carried.names_ofFrames
    (hCarried : part.Carried kind wrap)
    (frames : Trace) :
    (Carry.ofFrames frames).names kind =
      part.names frames := by
  rw [ofFrames_eq_updateAll, Carry.names_updateAll,
    hCarried.reportsOf_flatMap, List.map_map, names,
    ← List.map_flatMap]
  rfl

/-
  The state that is carried is the last that was reported.
-/
theorem Carried.get?_ofFrames
    (hCarried : part.Carried kind wrap)
    (frames : Trace)
    (name : String) :
    (Carry.ofFrames frames).get? kind name =
      (part.last? frames name).map wrap := by
  rw [ofFrames_eq_updateAll, Carry.get?_updateAll,
    hCarried.reportsOf_flatMap, ← List.map_reverse,
    lookup_map_snd]
  congr 1
  induction frames using List.reverseRecOn with
  | nil => rfl
  | append_singleton frames frame ih =>
      rw [List.flatMap_append, List.reverse_append,
        List.lookup_append, ih, last?_concat,
        List.flatMap_singleton,
        lookup_reverse (nodup_reported frame)]

end Part

end TracePlayer
