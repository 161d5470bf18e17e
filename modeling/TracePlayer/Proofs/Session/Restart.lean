import TracePlayer.Proofs.Session.Coherence

/-
  This file proves that a new run leaves nothing behind: two
  sessions of one speed to which the same result is applied
  agree in all that can be seen of them, whatever happened
  to them before, and go on to agree. Only the speed
  survives.

  Main declarations:
    * `Session.Agree`, `Session.Agree.react`
    * `Session.Agree.run`
    * `Session.speed_of_react`
    * `Session.Restarts`, `Session.restart_leaves_nothing`
-/

namespace TracePlayer

namespace Session

------------------------------------------------------------
-- Agreement
------------------------------------------------------------

/-
  Two sessions agree when they differ at most in their
  requests: their numbers, the last source and the queues.
-/
structure Agree (s t : Session) : Prop where
  trace : s.trace = t.trace
  complexity : s.complexity = t.complexity
  playback : s.playback = t.playback
  carry : s.carry = t.carry
  observed : s.observed = t.observed
  pending : s.pending = t.pending
  lastError : s.lastError = t.lastError

namespace Agree

variable {s t : Session}

/- A control does the same to sessions that agree. -/
theorem withPlayback
    (hAgree : s.Agree t)
    (p : Playback) :
    (s.withPlayback p).Agree (t.withPlayback p) where
  trace := hAgree.trace
  complexity := hAgree.complexity
  playback := rfl
  carry := hAgree.carry
  observed := hAgree.observed
  pending := hAgree.pending
  lastError := hAgree.lastError

/- A view shows the same of sessions that agree. -/
theorem view
    (hAgree : s.Agree t) :
    s.view.1 = t.view.1 ∧ s.view.2.Agree t.view.2 := by
  have hCarry :
      (s.observeTo s.playback.index).carry =
        (t.observeTo t.playback.index).carry := by
    rw [observeTo_eq_foldl, observeTo_eq_foldl, hAgree.trace,
      hAgree.playback, hAgree.carry, hAgree.observed]
  have hObserved :
      (s.observeTo s.playback.index).observed =
        (t.observeTo t.playback.index).observed := by
    rw [observeTo_eq_foldl, observeTo_eq_foldl, hAgree.trace,
      hAgree.playback, hAgree.observed]
  constructor
  · simp only [Session.view]
    rw [hCarry, observeTo_eq s, observeTo_eq t]
    simp only [hAgree.trace, hAgree.playback]
  · rw [view_snd, view_snd, observeTo_eq s, observeTo_eq t]
    exact
      ⟨hAgree.trace, hAgree.complexity, hAgree.playback,
        hCarry, hObserved, hAgree.pending, hAgree.lastError⟩

/- Sessions that agree answer a control or view alike. -/
theorem react
    {o : Occurrence}
    (hAgree : s.Agree t)
    (hNavigates : o.event.Navigates) :
    (s.react o).1 = (t.react o).1 ∧
      Option.Rel Agree (s.react o).2 (t.react o).2 := by
  obtain ⟨tracer, event⟩ := o
  rcases hNavigates with hControl | rfl
  · rcases Option.isSome_iff_exists.mp hControl with
      ⟨control, hControl⟩
    simp only [Session.react, handle_of_control? hControl,
      hAgree.playback]
    cases t.playback.apply control with
    | error error =>
        cases error with
        | invalidSpeed speed => exact ⟨rfl, .some hAgree⟩
        | timeOverflow => exact ⟨rfl, .none⟩
    | ok result =>
        exact ⟨rfl, .some (hAgree.withPlayback result.2)⟩
  · rcases hAgree.view with ⟨hView, hAfter⟩
    simp only [Session.react, handle, hView, true_and]
    exact .some hAfter

/- Sessions that agree answer every navigation alike. -/
theorem run
    {later : List Occurrence}
    (hAgree : s.Agree t)
    (hNavigates : ∀ o ∈ later, o.event.Navigates) :
    (s.run later).1 = (t.run later).1 ∧
      Option.Rel Agree (s.run later).2 (t.run later).2 := by
  induction later generalizing s t with
  | nil => exact ⟨rfl, .some hAgree⟩
  | cons o rest ih =>
      rcases hAgree.react
          (hNavigates o List.mem_cons_self) with
        ⟨hResponse, hAfter⟩
      cases hLeft : (s.react o).2 with
      | none =>
          cases hRight : (t.react o).2 with
          | none =>
              rw [run_cons_of_none hLeft,
                run_cons_of_none hRight, hResponse]
              exact ⟨rfl, .none⟩
          | some v =>
              rw [hLeft, hRight] at hAfter
              cases hAfter
      | some u =>
          cases hRight : (t.react o).2 with
          | none =>
              rw [hLeft, hRight] at hAfter
              cases hAfter
          | some v =>
              rw [hLeft, hRight,
                Option.rel_some_some] at hAfter
              rcases ih hAfter
                  (fun o hMem =>
                    hNavigates o (List.mem_cons_of_mem _ hMem))
                with ⟨hResponses, hLast⟩
              rw [run_cons hLeft, run_cons hRight,
                hResponse, hResponses]
              exact ⟨rfl, hLast⟩

end Agree

------------------------------------------------------------
-- Speed
------------------------------------------------------------

/- Reading an answer keeps the speed. -/
theorem speed_readNext (s : Session) :
    s.readNext.2.playback.speed = s.playback.speed := by
  cases hQueue : s.answers with
  | nil => rw [readNext, hQueue]
  | cons answer rest =>
      rcases readNext_cases hQueue with ⟨_, hRead⟩ | ⟨_, hRead⟩
      · rw [hRead]
      · rw [hRead, apply_snd]
        rfl

theorem speed_poll (s : Session) :
    s.poll.2.playback.speed = s.playback.speed :=
  poll_preserves
    (P := fun u => u.playback.speed = s.playback.speed)
    (fun u hSpeed => (speed_readNext u).trans hSpeed) rfl

theorem speed_wait (s : Session) :
    s.wait.2.playback.speed = s.playback.speed :=
  wait_preserves
    (P := fun u => u.playback.speed = s.playback.speed)
    (fun u hSpeed => (speed_readNext u).trans hSpeed) rfl

theorem speed_view (s : Session) :
    s.view.2.playback.speed = s.playback.speed := by
  rw [view_snd, observeTo_eq]

/- Only setting it changes the speed. -/
theorem speed_of_react
    {s t : Session}
    {o : Occurrence}
    (hReact : (s.react o).2 = some t)
    (hKeeps : ∀ speed now, o.event ≠ .setSpeed speed now) :
    t.playback.speed = s.playback.speed := by
  cases step_of_react hReact with
  | load tracer source => rfl
  | loadNow tracer source =>
      rw [loadNow, apply_snd]
      rfl
  | rerun tracer =>
      unfold rerun
      split <;> rfl
  | arrive tracer number request hFind => rfl
  | stray tracer number hFind => rfl
  | poll tracer => exact speed_poll s
  | wait tracer => exact speed_wait s
  | control tracer event control moved p hControl hApply =>
      have hSpeed := (Playback.length_speed_apply hApply).2
      have hSame : control.speed? = none := by
        cases event with
        | setSpeed speed now => exact absurd rfl (hKeeps _ _)
        | load _ | loadNow _ | rerun => cases hControl
        | arrive _ | poll | wait | view => cases hControl
        | play _ | pause | toggle _ => cases hControl; rfl
        | step _ | seek _ | seekEnd | tick _ =>
            cases hControl
            rfl
      rw [hSame] at hSpeed
      exact hSpeed
  | refused tracer event control hControl => rfl
  | view tracer => exact speed_view s

/- A run in which none is set keeps the speed. -/
theorem speed_of_run
    {s t : Session}
    {history : List Occurrence}
    (hRun : (s.run history).2 = some t)
    (hKeeps :
      ∀ o ∈ history, ∀ speed now,
        o.event ≠ .setSpeed speed now) :
    t.playback.speed = s.playback.speed :=
  run_preserves
    (P := fun u => u.playback.speed = s.playback.speed)
    (fun _ _ o hMem hOld hNext =>
      (speed_of_react hNext (hKeeps o hMem)).trans hOld)
    hRun rfl

------------------------------------------------------------
-- Restarts
------------------------------------------------------------

/-
  One result makes sessions of one speed agree, if they show
  no failure from before.
-/
theorem agree_apply
    {s t : Session}
    (hSpeed : s.playback.speed = t.playback.speed)
    (hLeft : s.lastError = none)
    (hRight : t.lastError = none)
    (result : Except TracerError Reply) :
    (s.apply result).2.Agree (t.apply result).2 := by
  rw [apply_snd, apply_snd]
  constructor
  case playback =>
      exact Playback.load_eq_of_speed_eq hSpeed _
  case lastError =>
      simp only [hLeft, hRight]
  all_goals rfl

/-
  A session after some run without a change of speed, at the
  end of which a result was applied.
-/
def Restarts
    (s : Session)
    (result : Except TracerError Reply)
    (t : Session) : Prop :=
  ∃ (history : List Occurrence) (u : Session)
    (o : Occurrence) (answer : Answer),
    (∀ p ∈ history, ∀ speed now,
      p.event ≠ .setSpeed speed now) ∧
    (s.run history).2 = some u ∧
    u.appliedBy o = [answer] ∧
    answer.result = result ∧
    (u.react o).2 = some t

/-
  A result is applied to a session of the same speed that
  shows no failure: it has just begun a request, or it still
  waits for the answer.
-/
theorem Restarts.exists_apply
    {s t : Session}
    {result : Except TracerError Reply}
    (hReach : s.Reachable)
    (hRestart : s.Restarts result t) :
    t.Orderly ∧ ∃ u : Session,
      u.lastError = none ∧
      u.playback.speed = s.playback.speed ∧
      t = (u.apply result).2 := by
  rcases hRestart with
    ⟨history, v, o, answer, hKeeps, hRun, hApplied, rfl,
      hReact⟩
  have hSpeed : v.playback.speed = s.playback.speed :=
    speed_of_run hRun hKeeps
  have hOrderly : v.Orderly := (hReach.run hRun).orderly
  have hCoherent : v.Coherent := (hReach.run hRun).coherent
  refine ⟨hOrderly.step (step_of_react hReact), ?_⟩
  rcases hOrderly.applied_cases o with
    ⟨hNone, _⟩ | ⟨other, u, hOne, hAwaits, hSame⟩
  · rw [hNone] at hApplied
    cases hApplied
  · have hAnswer : other = answer := by
      simpa [hOne] using hApplied
    rw [hSame, hAnswer] at hReact
    refine ⟨u, ?_, ?_, (Option.some.inj hReact).symm⟩
    · cases hAwaits with
      | now source hEvent => rfl
      | queued _ rest hEvent hMem hLatest hRest =>
          exact hCoherent.no_error
            (hOrderly.pending_of_queued hMem hLatest)
    · rw [← hSpeed]
      cases hAwaits <;> rfl

/-
  After a failure a session is as good as new, but for its
  speed, its requests and the failure.
-/
theorem Restarts.eq_new_of_error
    {s t : Session}
    {error : TracerError}
    (hReach : s.Reachable)
    (hRestart : s.Restarts (.error error) t) :
    t =
      { new with
        playback :=
          { Playback.new with speed := s.playback.speed }
        lastError := some (SessionError.ofTracer error)
        requestNumber := t.requestNumber
        source := t.source
        requests := t.requests
        answers := t.answers } ∧
    ∀ number ∈ t.outstanding, number < t.requestNumber := by
  rcases hRestart.exists_apply hReach with
    ⟨hOrderly, u, _, hSpeed, rfl⟩
  constructor
  · rw [apply_snd, ← hSpeed]
    rfl
  · intro number hMem
    have hIdle :
        (u.apply (.error error)).2.pending = false := by
      rw [apply_snd]
    have hOther :
        number ≠ (u.apply (.error error)).2.requestNumber := by
      intro hSame
      have hPending := hOrderly.pending_iff.mpr (hSame ▸ hMem)
      rw [hIdle] at hPending
      cases hPending
    exact
      Nat.lt_of_le_of_ne (hOrderly.sent number hMem) hOther

/-
  Sessions of one speed agree after the same result and
  answer all that follows alike; after a failure they are as
  good as new, and no event but the one that sets it changes
  a speed.
-/
theorem restart_leaves_nothing
    {s₁ s₂ t₁ t₂ : Session}
    {result : Except TracerError Reply}
    (hReach₁ : s₁.Reachable)
    (hReach₂ : s₂.Reachable)
    (hSpeed : s₁.playback.speed = s₂.playback.speed)
    (hRestart₁ : s₁.Restarts result t₁)
    (hRestart₂ : s₂.Restarts result t₂) :
    t₁.Agree t₂ ∧
    (∀ later : List Occurrence,
      (∀ o ∈ later, o.event.Navigates) →
      (t₁.run later).1 = (t₂.run later).1 ∧
      Option.Rel Agree (t₁.run later).2 (t₂.run later).2) ∧
    (∀ error, result = .error error →
      t₁ =
        { new with
          playback :=
            { Playback.new with speed := s₁.playback.speed }
          lastError := some (SessionError.ofTracer error)
          requestNumber := t₁.requestNumber
          source := t₁.source
          requests := t₁.requests
          answers := t₁.answers } ∧
      ∀ number ∈ t₁.outstanding,
        number < t₁.requestNumber) ∧
    ∀ (s t : Session) (o : Occurrence),
      (s.react o).2 = some t →
      (∀ speed now, o.event ≠ .setSpeed speed now) →
      t.playback.speed = s.playback.speed := by
  have hAgree : t₁.Agree t₂ := by
    rcases hRestart₁.exists_apply hReach₁ with
      ⟨_, u₁, hError₁, hSpeed₁, rfl⟩
    rcases hRestart₂.exists_apply hReach₂ with
      ⟨_, u₂, hError₂, hSpeed₂, rfl⟩
    have hSame : u₁.playback.speed = u₂.playback.speed := by
      rw [hSpeed₁, hSpeed₂, hSpeed]
    exact agree_apply hSame hError₁ hError₂ result
  refine ⟨hAgree, fun later => hAgree.run, ?_, ?_⟩
  · rintro error rfl
    exact hRestart₁.eq_new_of_error hReach₁
  · intro s t o hReact hKeeps
    exact speed_of_react hReact hKeeps

/-
  A new session, and one that has shown the last of its two
  frames: after a failure both have nothing loaded.
-/
theorem restart_leaves_nothing_of_failure :
    ∃ s t₁ t₂ : Session,
      s.trace.length = 2 ∧ s.observed = 1 ∧
      new.Restarts (.error (.unreachable "")) t₁ ∧
      s.Restarts (.error (.unreachable "")) t₂ ∧
      t₁.Agree t₂ ∧ t₂.trace = [] := by
  let result : Except TracerError Reply :=
    .error (.unreachable "")
  let loads : Tracer := fun _ =>
    .ok ⟨[Frame.empty, Frame.empty], none⟩
  let fails : Tracer := fun _ => result
  let before : List Occurrence :=
    [⟨loads, .loadNow "a"⟩, ⟨loads, .seekEnd⟩, ⟨loads, .view⟩]
  let after : List Occurrence :=
    [⟨fails, .load "b"⟩, ⟨fails, .arrive 2⟩]
  let s : Session := (new.loadNow loads "a").2.seekEnd.view.2
  let waiting : Session := (s.load "b").arrive 2 result
  have hBefore : (new.run before).2 = some s := rfl
  have hSpeed : s.playback.speed = new.playback.speed := by
    apply speed_of_run hBefore
    simp [before]
  have hNow :
      new.Restarts result (new.loadNow fails "b").2 :=
    ⟨[], new, ⟨fails, .loadNow "b"⟩, ⟨1, result⟩, nofun,
      rfl, rfl, rfl, rfl⟩
  have hLater : s.Restarts result waiting.poll.2 :=
    ⟨after, waiting, ⟨fails, .poll⟩, ⟨2, result⟩,
      by simp [after], rfl, rfl, rfl, rfl⟩
  have hAgree :=
    (restart_leaves_nothing ⟨[], rfl⟩ ⟨before, hBefore⟩
      hSpeed.symm hNow hLater).1
  exact ⟨s, _, _, rfl, rfl, hNow, hLater, hAgree, rfl⟩

end Session

end TracePlayer
