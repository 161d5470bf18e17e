import TracePlayer.Proofs.Session.Applied
import TracePlayer.Proofs.View.History

/-
  This file proves that the parts of a session agree in
  every reachable state: the playback has the length of the
  trace, what is carried comes from the frames counted as
  observed, and a session that waits or has failed has
  nothing loaded.

  Main declarations:
    * `Session.observeTo_spec`
    * `Session.Coherent`, `Session.Coherent.step`
    * `Session.Coherent.view_fst`, `view_in_order`
    * `Session.Reachable.orderly`
    * `Session.Reachable.coherent`
    * `Session.Consistent`, `Session.Reachable.consistent`
-/

namespace TracePlayer

namespace Session

------------------------------------------------------------
-- Observing
------------------------------------------------------------

/- More frames are observed after fewer. -/
theorem ofFrames_take_add
    (frames : Trace)
    (before more : Nat) :
    ((frames.drop before).take more).foldl Carry.observe
        (Carry.ofFrames (frames.take before)) =
      Carry.ofFrames (frames.take (before + more)) := by
  rw [List.take_add, Carry.ofFrames, Carry.ofFrames,
    List.foldl_append]

/-
  After observing up to an index, the frames before it are
  observed, and those that were observed earlier.
-/
theorem observeTo_spec
    {s : Session}
    (hCarry :
      s.carry = Carry.ofFrames (s.trace.take s.observed))
    {index : Nat}
    (hIndex : index ≤ s.trace.length) :
    (s.observeTo index).observed = max s.observed index ∧
      (s.observeTo index).carry =
        Carry.ofFrames
          (s.trace.take (max s.observed index)) := by
  have hSum :
      s.observed + (index - s.observed) =
        max s.observed index := by
    omega
  rw [observeTo_eq_foldl, Nat.min_eq_left hIndex]
  refine ⟨rfl, ?_⟩
  dsimp only
  rw [hCarry, ofFrames_take_add, hSum]

------------------------------------------------------------
-- Coherent Sessions
------------------------------------------------------------

/-
  The playback, the carried structures and the failure of a
  session fit its trace. While it waits for an answer, and
  after a failure, it has no trace; it never waits with a
  failure to show.
-/
structure Coherent (s : Session) : Prop where
  sound : s.playback.Sound
  length_eq : s.playback.length = s.trace.length
  observed_le : s.observed ≤ s.trace.length
  carry_eq :
    s.carry = Carry.ofFrames (s.trace.take s.observed)
  cleared :
    s.pending = true ∨ s.lastError ≠ none →
      s.trace = [] ∧ s.complexity = none
  no_error : s.pending = true → s.lastError = none

namespace Coherent

theorem new : Session.new.Coherent where
  sound := Playback.sound_new
  length_eq := rfl
  observed_le := Nat.le_refl _
  carry_eq := rfl
  cleared := fun _ => ⟨rfl, rfl⟩
  no_error := fun _ => rfl

/- The index of a coherent session is in its trace. -/
theorem index_le
    {s : Session}
    (hCoherent : s.Coherent) :
    s.playback.index ≤ s.trace.length := by
  have hIndex := hCoherent.sound.index_le
  rw [Playback.lastIndex, hCoherent.length_eq] at hIndex
  omega

theorem index_lt
    {s : Session}
    (hCoherent : s.Coherent)
    (hTrace : s.trace ≠ []) :
    s.playback.index < s.trace.length := by
  have hIndex := hCoherent.sound.index_le
  have hLength := List.length_pos_iff.mpr hTrace
  rw [Playback.lastIndex, hCoherent.length_eq] at hIndex
  omega

/- The requests and answers do not matter. -/
theorem withQueues
    {s : Session}
    (hCoherent : s.Coherent)
    (requests : List Request)
    (answers : List Answer) :
    { s with
      requests := requests
      answers := answers }.Coherent where
  sound := hCoherent.sound
  length_eq := hCoherent.length_eq
  observed_le := hCoherent.observed_le
  carry_eq := hCoherent.carry_eq
  cleared := hCoherent.cleared
  no_error := hCoherent.no_error

/- Beginning a request makes any session coherent. -/
theorem load
    (s : Session)
    (source : String) : (s.load source).Coherent where
  sound := Playback.sound_load _ 0
  length_eq := rfl
  observed_le := Nat.le_refl _
  carry_eq := rfl
  cleared := fun _ => ⟨rfl, rfl⟩
  no_error := fun _ => rfl

/-
  Applying a result makes a session coherent if no failure
  is left from before.
-/
theorem apply
    {s : Session}
    (hError : s.lastError = none)
    (result : Except TracerError Reply) :
    (s.apply result).2.Coherent := by
  rw [apply_snd]
  constructor
  · exact Playback.sound_load _ _
  · rfl
  · exact Nat.zero_le _
  · rfl
  · intro hFailed
    cases result with
    | ok reply =>
        simp [SessionError.ofResult?, hError] at hFailed
    | error error => exact ⟨rfl, rfl⟩
  · nofun

/- Reading an answer keeps a session coherent. -/
theorem readNext
    {s : Session}
    (hOrderly : s.Orderly)
    (hCoherent : s.Coherent) : s.readNext.2.Coherent := by
  cases hQueue : s.answers with
  | nil =>
      rwa [Session.readNext, hQueue]
  | cons answer rest =>
      rcases readNext_cases hQueue with
        ⟨_, hRead⟩ | ⟨hLatest, hRead⟩
      · rw [hRead]
        exact hCoherent.withQueues s.requests rest
      · have hMem : answer ∈ s.answers := by
          rw [hQueue]
          exact List.mem_cons_self
        have hError : s.lastError = none :=
          hCoherent.no_error
            (hOrderly.pending_of_queued hMem hLatest)
        rw [hRead]
        exact
          Coherent.apply (s := { s with answers := rest })
            hError answer.result

/- A control keeps a session coherent. -/
theorem control
    {s : Session}
    {event : Event}
    {control : Playback.Control}
    {moved : Bool}
    {p : Playback}
    (hCoherent : s.Coherent)
    (hControl : event.control? = some control)
    (hApply : s.playback.apply control = .ok (moved, p)) :
    (s.withPlayback p).Coherent := by
  have hLength : p.length = s.playback.length :=
    (Playback.length_speed_apply hApply).1
      (Event.loads_of_control? hControl)
  exact
    ⟨hCoherent.sound.apply hApply,
      hLength.trans hCoherent.length_eq,
      hCoherent.observed_le, hCoherent.carry_eq,
      hCoherent.cleared, hCoherent.no_error⟩

/- A view keeps a session coherent. -/
theorem view
    {s : Session}
    (hCoherent : s.Coherent) : s.view.2.Coherent := by
  have hSpec :=
    observeTo_spec hCoherent.carry_eq hCoherent.index_le
  rw [view_snd, observeTo_eq, hSpec.1, hSpec.2]
  exact
    ⟨hCoherent.sound, hCoherent.length_eq,
      Nat.max_le.mpr
        ⟨hCoherent.observed_le, hCoherent.index_le⟩,
      rfl, hCoherent.cleared, hCoherent.no_error⟩

/-
  The view of a coherent session is that of its index: what
  is carried into it comes from the frames before the index
  and those that were observed.
-/
theorem view_fst
    {s : Session}
    (hCoherent : s.Coherent) :
    s.view.1 =
      s.trace[s.playback.index]?.map fun current =>
        View.ofStep s.playback.index current
          (if s.playback.index = 0 then none
            else s.trace[s.playback.index - 1]?)
          (Carry.ofFrames
            (s.trace.take
              (max s.observed s.playback.index))) := by
  have hCarry :=
    (observeTo_spec hCoherent.carry_eq hCoherent.index_le).2
  have hTrace :
      (s.observeTo s.playback.index).trace = s.trace := by
    rw [observeTo_eq]
  simp only [Session.view, hCarry, hTrace, Trace.pair?,
    Option.map_map, Function.comp_def]

/-
  While no frame from the index on is observed, the view is
  that of a trace which is viewed in order.
-/
theorem view_in_order
    {s : Session}
    (hCoherent : s.Coherent)
    (hObserved : s.observed ≤ s.playback.index) :
    s.view.1 = s.trace.viewAt s.playback.index := by
  rw [hCoherent.view_fst, Nat.max_eq_right hObserved,
    Trace.viewAt, Trace.pair?, Option.map_map]
  rfl

/- Every step keeps a session orderly and coherent. -/
theorem step
    {s t : Session}
    {o : Occurrence}
    (hOrderly : s.Orderly)
    (hCoherent : s.Coherent)
    (hStep : Step s o t) : t.Coherent := by
  have hRead :
      ∀ u : Session, u.Orderly ∧ u.Coherent →
        u.readNext.2.Orderly ∧ u.readNext.2.Coherent :=
    fun u hBoth =>
      ⟨hBoth.1.readNext, hBoth.2.readNext hBoth.1⟩
  cases hStep with
  | load tracer source => exact Coherent.load s source
  | loadNow tracer source => exact Coherent.apply rfl _
  | rerun tracer =>
      unfold rerun
      split
      case h_1 source _ => exact Coherent.load s source
      case h_2 => exact hCoherent
  | arrive tracer number request hFind =>
      exact hCoherent.withQueues _ _
  | stray tracer number hFind => exact hCoherent
  | poll tracer =>
      exact (poll_preserves hRead ⟨hOrderly, hCoherent⟩).2
  | wait tracer =>
      exact (wait_preserves hRead ⟨hOrderly, hCoherent⟩).2
  | control tracer event control moved p hControl hApply =>
      exact hCoherent.control hControl hApply
  | refused tracer event control hControl => exact hCoherent
  | view tracer => exact hCoherent.view

end Coherent

/- The requests of a reachable session are orderly. -/
theorem Reachable.orderly
    {s : Session}
    (hReach : s.Reachable) : s.Orderly :=
  hReach.induction Orderly.new
    fun _ _ _ hOrderly hReact =>
      hOrderly.step (step_of_react hReact)

/- A reachable session is coherent. -/
theorem Reachable.coherent
    {s : Session}
    (hReach : s.Reachable) : s.Coherent := by
  have hBoth : s.Orderly ∧ s.Coherent := by
    apply hReach.induction ⟨Orderly.new, Coherent.new⟩
    intro u v o hBoth hReact
    have hStep := step_of_react hReact
    exact
      ⟨hBoth.1.step hStep,
        hBoth.2.step hBoth.1 hStep⟩
  exact hBoth.2

------------------------------------------------------------
-- Consistent Sessions
------------------------------------------------------------

/- Nothing that comes from a trace is left. -/
def Cleared (s : Session) : Prop :=
  s.trace = [] ∧ s.carry = Carry.empty ∧ s.complexity = none

/-
  What can be relied on in every session: the playback fits
  the trace, a request that is pending and a failure that is
  shown both mean that nothing is loaded, and there is a view,
  that of the current index, exactly when there is a trace.
-/
structure Consistent (s : Session) : Prop where
  length_eq : s.playback.length = s.trace.length
  index_lt :
    s.trace ≠ [] → s.playback.index < s.trace.length
  index_eq_zero : s.trace = [] → s.playback.index = 0
  stopped_iff : s.playback.state = .stopped ↔ s.trace = []
  observed_le : s.observed ≤ s.trace.length
  cleared_of_pending :
    s.pending = true → s.Cleared ∧ s.lastError = none
  cleared_of_failed :
    s.lastError ≠ none → s.pending = false ∧ s.Cleared
  view_iff : s.view.1.isSome = true ↔ s.trace ≠ []
  view_index :
    ∀ view, s.view.1 = some view →
      view.index = s.playback.index

/- A coherent session without a trace has nothing carried. -/
theorem Coherent.cleared_of_nil
    {s : Session}
    (hCoherent : s.Coherent)
    (hTrace : s.trace = [])
    (hComplexity : s.complexity = none) : s.Cleared := by
  refine ⟨hTrace, ?_, hComplexity⟩
  rw [hCoherent.carry_eq, hTrace, List.take_nil]
  rfl

/- There is a view exactly when there is a trace. -/
theorem Coherent.view_iff
    {s : Session}
    (hCoherent : s.Coherent) :
    s.view.1.isSome = true ↔ s.trace ≠ [] := by
  rw [hCoherent.view_fst]
  constructor
  · intro hView hNone
    rw [hNone] at hView
    cases hView
  · intro hTrace
    rw [List.getElem?_eq_getElem (hCoherent.index_lt hTrace)]
    rfl

/-
  Every reachable session is consistent. A request that cannot
  be sent counts as one that is answered with a failure at
  once.
-/
theorem Reachable.consistent
    {s : Session}
    (hReach : s.Reachable) : s.Consistent := by
  have hCoherent := hReach.coherent
  constructor
  case length_eq => exact hCoherent.length_eq
  case index_lt => exact hCoherent.index_lt
  case index_eq_zero =>
      intro hTrace
      have hIndex := hCoherent.index_le
      rw [hTrace] at hIndex
      exact Nat.le_zero.mp hIndex
  case stopped_iff =>
      rw [hCoherent.sound.stopped_iff, hCoherent.length_eq]
      exact List.length_eq_zero_iff
  case observed_le => exact hCoherent.observed_le
  case cleared_of_pending =>
      intro hPending
      rcases hCoherent.cleared (Or.inl hPending) with
        ⟨hTrace, hComplexity⟩
      exact
        ⟨hCoherent.cleared_of_nil hTrace hComplexity,
          hCoherent.no_error hPending⟩
  case cleared_of_failed =>
      intro hError
      rcases hCoherent.cleared (Or.inr hError) with
        ⟨hTrace, hComplexity⟩
      refine ⟨?_, hCoherent.cleared_of_nil hTrace hComplexity⟩
      rw [Bool.eq_false_iff]
      exact mt hCoherent.no_error hError
  case view_iff => exact hCoherent.view_iff
  case view_index =>
      intro view hView
      rw [hCoherent.view_fst] at hView
      rcases Option.map_eq_some_iff.mp hView with
        ⟨current, _, rfl⟩
      rfl

/-
  Two frames, a look at the last one, then another source that
  fails: a seek does not leave the start, and nothing plays.
-/
theorem Reachable.consistent_after_failure :
    let loads : Tracer := fun _ =>
      .ok ⟨[Frame.empty, Frame.empty], some "O(n)"⟩
    let fails : Tracer := fun _ => .error (.unreachable "")
    let playing := (new.loadNow loads "a").2.seekEnd.view.2
    let failed := (playing.loadNow fails "b").2.seek 1
    playing.observed = 1 ∧
      failed.Consistent ∧
      failed.lastError ≠ none ∧
      failed.playback.state = .stopped ∧
      failed.playback.index = 0 ∧
      failed.Cleared := by
  intro loads fails playing failed
  have hConsistent : failed.Consistent :=
    Reachable.consistent
      ⟨[⟨loads, .loadNow "a"⟩, ⟨loads, .seekEnd⟩,
        ⟨loads, .view⟩, ⟨fails, .loadNow "b"⟩,
        ⟨fails, .seek 1⟩], rfl⟩
  have hError : failed.lastError ≠ none := nofun
  have hCleared := (hConsistent.cleared_of_failed hError).2
  exact
    ⟨rfl, hConsistent, hError,
      hConsistent.stopped_iff.mpr hCleared.1,
      hConsistent.index_eq_zero hCleared.1, hCleared⟩

end Session

end TracePlayer
