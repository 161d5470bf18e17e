import TracePlayer.Proofs.Session.Coherence

/-
  This file proves what a session has carried after any
  navigation of a loaded trace: the frames before the
  furthest index that was viewed, each once and in order,
  however the index got there.

  Main declarations:
    * `Session.viewedAt`, `Session.furthestView`
    * `Session.Loaded`, `Session.Navigated`
    * `Session.Navigated.carried_and_shown`
-/

namespace TracePlayer

namespace Session

------------------------------------------------------------
-- Loads
------------------------------------------------------------

/- Only a result is an outcome, and it was just applied. -/
theorem exists_apply_of_outcome
    {s t : Session}
    {o : Occurrence}
    {outcome : LoadOutcome}
    (hOrderly : s.Orderly)
    (hReact :
      s.react o = (.ok (.outcome (some outcome)), some t)) :
    ∃ u result,
      outcome = LoadOutcome.ofResult result ∧
        t = (apply u result).2 := by
  rcases hOrderly.applied_cases o with
    ⟨_, hNone⟩ | ⟨answer, u, _, _, hApplied⟩
  · exact absurd (congrArg Prod.fst hReact) (hNone outcome)
  · simp only [hReact, Prod.mk.injEq, Except.ok.injEq,
      Report.outcome.injEq, Option.some.injEq] at hApplied
    exact ⟨u, answer.result, hApplied.1, hApplied.2⟩

/- A session right after frames were loaded into it. -/
def Loaded
    (frames : Trace)
    (t : Session) : Prop :=
  t.trace = frames ∧
    ∃ (s : Session) (o : Occurrence) (count : Nat),
      s.Reachable ∧
      s.react o =
        (.ok (.outcome (some (.loaded count))), some t)

/-
  There are frames after a load, and none is observed yet.
-/
theorem Loaded.start
    {frames : Trace}
    {t : Session}
    (hLoaded : Loaded frames t) :
    t.Coherent ∧ t.observed = 0 ∧ frames ≠ [] := by
  rcases hLoaded with ⟨rfl, s, o, count, hReach, hReact⟩
  have hStep : Step s o t := step_of_react (by rw [hReact])
  refine
    ⟨hReach.coherent.step hReach.orderly hStep, ?_⟩
  rcases exists_apply_of_outcome hReach.orderly hReact with
    ⟨u, result, hOutcome, rfl⟩
  rw [apply_snd]
  refine ⟨rfl, fun hEmpty => ?_⟩
  cases result with
  | ok reply =>
      have hFrames : reply.frames = [] := hEmpty
      simp [LoadOutcome.ofResult, hFrames] at hOutcome
  | error error => cases hOutcome

------------------------------------------------------------
-- Views along a Run
------------------------------------------------------------

/-
  The indices at which a run looks at the trace, in order.
-/
def viewedAt (s : Session) : List Occurrence → List Nat
| [] => []
| o :: rest =>
    let later :=
      match (s.react o).2 with
      | some t => t.viewedAt rest
      | none => []
    if o.event = .view then s.playback.index :: later
    else later

/- The greatest of these indices, zero if there is none. -/
def furthestView
    (s : Session)
    (history : List Occurrence) : Nat :=
  (s.viewedAt history).foldr max 0

theorem furthestView_cons
    {s t : Session}
    {o : Occurrence}
    (hReact : (s.react o).2 = some t)
    (rest : List Occurrence) :
    s.furthestView (o :: rest) =
      max (if o.event = .view then s.playback.index else 0)
        (t.furthestView rest) := by
  simp only [furthestView, viewedAt, hReact]
  by_cases hView : o.event = .view
  · simp only [if_pos hView, List.foldr_cons]
  · simp only [if_neg hView, Nat.zero_max]

/-
  One step of navigation keeps the trace; only a view
  observes frames, those before its index.
-/
theorem Coherent.navigate
    {s t : Session}
    {o : Occurrence}
    (hCoherent : s.Coherent)
    (hNavigates : o.event.Navigates)
    (hStep : Step s o t) :
    t.Coherent ∧ t.trace = s.trace ∧
      t.observed =
        max s.observed
          (if o.event = .view then s.playback.index
            else 0) := by
  cases hStep with
  | control tracer event control moved p hControl hApply =>
      have hNot : event ≠ .view := by
        rintro rfl
        cases hControl
      refine ⟨hCoherent.control hControl hApply, rfl, ?_⟩
      rw [if_neg hNot, Nat.max_zero]
      rfl
  | refused tracer event control hControl =>
      have hNot : event ≠ .view := by
        rintro rfl
        cases hControl
      refine ⟨hCoherent, rfl, ?_⟩
      rw [if_neg hNot, Nat.max_zero]
  | view tracer =>
      refine ⟨hCoherent.view, ?_, ?_⟩
      · rw [view_snd, observeTo_eq]
      · rw [if_pos rfl]
        exact (observeTo_spec hCoherent.carry_eq
          hCoherent.index_le).1
  | load _ | loadNow _ | rerun | poll | wait =>
      rcases hNavigates with hControl | hView
      · cases hControl
      · cases hView
  | arrive _ _ _ | stray _ _ =>
      rcases hNavigates with hControl | hView
      · cases hControl
      · cases hView

/-
  Along a navigation the trace stays, and the frames before
  the furthest view are observed.
-/
theorem Coherent.navigate_run
    {s t : Session}
    {history : List Occurrence}
    (hCoherent : s.Coherent)
    (hNavigates : ∀ o ∈ history, o.event.Navigates)
    (hRun : (s.run history).2 = some t) :
    t.Coherent ∧ t.trace = s.trace ∧
      t.observed =
        max s.observed (s.furthestView history) := by
  induction history generalizing s with
  | nil =>
      cases hRun
      exact ⟨hCoherent, rfl, (Nat.max_zero _).symm⟩
  | cons o rest ih =>
      rcases exists_of_run_cons hRun with ⟨u, hReact, hRest⟩
      rcases hCoherent.navigate
          (hNavigates o List.mem_cons_self)
          (step_of_react hReact) with
        ⟨hNext, hTrace, hObserved⟩
      rcases ih hNext
          (fun o hMem =>
            hNavigates o (List.mem_cons_of_mem _ hMem))
          hRest with
        ⟨hLast, hSame, hFurthest⟩
      refine ⟨hLast, hSame.trans hTrace, ?_⟩
      -- A running maximum: this view, then the later ones.
      rw [hFurthest, hObserved, furthestView_cons hReact,
        Nat.max_assoc]

------------------------------------------------------------
-- Navigated Sessions
------------------------------------------------------------

/-
  A session that was navigated after frames were loaded into
  it, with the furthest index that was viewed on the way.
-/
def Navigated
    (frames : Trace)
    (furthest : Nat)
    (t : Session) : Prop :=
  ∃ s history,
    Loaded frames s ∧
    (∀ o ∈ history, o.event.Navigates) ∧
    (s.run history).2 = some t ∧
    s.furthestView history = furthest

namespace Navigated

variable {frames : Trace}
variable {furthest : Nat}
variable {t : Session}

/- The invariant of a navigation. -/
theorem observed_eq
    (hNavigated : Navigated frames furthest t) :
    t.Coherent ∧ t.trace = frames ∧ frames ≠ [] ∧
      t.observed = furthest := by
  rcases hNavigated with
    ⟨s, history, hLoaded, hNavigates, hRun, rfl⟩
  rcases hLoaded.start with ⟨hCoherent, hObserved, hFrames⟩
  rcases hCoherent.navigate_run hNavigates hRun with
    ⟨hLast, hTrace, hFurthest⟩
  rw [hObserved, Nat.zero_max] at hFurthest
  exact ⟨hLast, hTrace.trans hLoaded.1, hFrames, hFurthest⟩

theorem carry_eq
    (hNavigated : Navigated frames furthest t) :
    t.carry = Carry.ofFrames (frames.take furthest) := by
  rcases hNavigated.observed_eq with
    ⟨hCoherent, hTrace, _, hObserved⟩
  rw [hCoherent.carry_eq, hTrace, hObserved]

theorem view_eq
    (hNavigated : Navigated frames furthest t) :
    t.view.1 =
      frames[t.playback.index]?.map fun current =>
        View.ofStep t.playback.index current
          (if t.playback.index = 0 then none
            else frames[t.playback.index - 1]?)
          (Carry.ofFrames
            (frames.take (max furthest t.playback.index))) := by
  rcases hNavigated.observed_eq with
    ⟨hCoherent, hTrace, _, hObserved⟩
  rw [hCoherent.view_fst, hTrace, hObserved]

/-
  Whatever the navigation, the frames before the furthest
  view are observed, each once and in order, and a view
  shows its frame with what is carried from them and from
  those before the frame. So how a session got to an index
  does not matter.
-/
theorem carried_and_shown
    (hNavigated : Navigated frames furthest t) :
    t.observed = furthest ∧
    t.carry = (frames.take furthest).foldl
      Carry.observe Carry.empty ∧
    (∃ current,
      frames[t.playback.index]? = some current ∧
      t.view.1 =
        some (View.ofStep t.playback.index current
          (if t.playback.index = 0 then none
            else frames[t.playback.index - 1]?)
          ((frames.take (max furthest t.playback.index)).foldl
            Carry.observe Carry.empty))) ∧
    ∀ other : Session, Navigated frames furthest other →
      other.carry = t.carry ∧
      (other.playback.index = t.playback.index →
        other.view.1 = t.view.1) := by
  rcases hNavigated.observed_eq with
    ⟨hCoherent, hTrace, hFrames, hObserved⟩
  have hIndex : t.playback.index < frames.length := by
    rw [← hTrace] at hFrames ⊢
    exact hCoherent.index_lt hFrames
  have hCurrent :
      frames[t.playback.index]? =
        some frames[t.playback.index] :=
    List.getElem?_eq_getElem hIndex
  refine ⟨hObserved, hNavigated.carry_eq,
    ⟨_, hCurrent, ?_⟩, fun other hOther => ⟨?_, fun hSame => ?_⟩⟩
  · rw [hNavigated.view_eq, hCurrent]
    rfl
  · rw [hOther.carry_eq, hNavigated.carry_eq]
  · rw [hOther.view_eq, hNavigated.view_eq, hSame]

/-
  Three frames, a look at the last one, and one frame back:
  the array of the first frame is still shown.
-/
theorem carried_and_shown_going_back :
    let values := [Json.bool true]
    let first : Frame :=
      { Frame.empty with
        arrays := Named.ofList [("xs", values)] }
    let frames : Trace := [first, Frame.empty, Frame.empty]
    ∃ t, Navigated frames 2 t ∧
      t.playback.index = 1 ∧ t.observed = 2 ∧
      t.carry = ⟨[((.array, "xs"), .array values)]⟩ ∧
      ∃ current,
        frames[1]? = some current ∧
        t.view.1 =
          some (View.ofStep 1 current (some first) t.carry) := by
  intro values first frames
  let tracer : Tracer := fun _ => .ok ⟨frames, none⟩
  let start := (new.loadNow tracer "").2
  let history : List Occurrence :=
    [⟨tracer, .seek 2⟩, ⟨tracer, .view⟩,
      ⟨tracer, .step (-1)⟩]
  have hLoaded : Loaded frames start :=
    ⟨rfl, new, ⟨tracer, .loadNow ""⟩, 3, ⟨[], rfl⟩, rfl⟩
  have hNavigates : ∀ o ∈ history, o.event.Navigates := by
    simp [history, Event.Navigates, Event.control?]
  cases hRun : (start.run history).2 with
  | none => cases hRun
  | some t =>
      have hNavigated : Navigated frames 2 t :=
        ⟨start, history, hLoaded, hNavigates, hRun, rfl⟩
      cases hRun
      rcases hNavigated.carried_and_shown with
        ⟨hObserved, hCarry, hShown, _⟩
      exact ⟨_, hNavigated, rfl, hObserved, hCarry, hShown⟩

end Navigated

end Session

end TracePlayer
