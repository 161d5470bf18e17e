import TracePlayer.Proofs.Session.Answers

/-
  This file proves which answers a session applies. A poll
  and a wait apply at most one, that to the latest request;
  older ones in the queue do not matter to them.

  Main declarations:
    * `Session.Outdated`
    * `Session.Orderly.poll_cases`, `Session.wait_cases`
    * `Session.appliedBy`
    * `Session.Awaits`
    * `Session.Orderly.applied_cases`
-/

namespace TracePlayer

namespace Session

------------------------------------------------------------
-- Outcomes
------------------------------------------------------------

/-
  Whether an answer is to a request before the latest one.
-/
def Outdated
    (s : Session)
    (answer : Answer) : Prop :=
  answer.number ≠ s.requestNumber

/-
  A read of an outdated answer only takes it from the queue.
-/
theorem readNext_of_outdated
    {s : Session}
    {answer : Answer}
    {rest : List Answer}
    (hQueue : s.answers = answer :: rest)
    (hOld : s.Outdated answer) :
    s.readNext = (none, { s with answers := rest }) := by
  rcases readNext_cases hQueue with ⟨_, hRead⟩ | ⟨hLatest, _⟩
  · exact hRead
  · exact absurd hLatest hOld

/- Outdated answers at the front do not matter to a poll. -/
theorem poll_of_outdated
    {s : Session}
    {old rest : List Answer}
    (hQueue : s.answers = old ++ rest)
    (hOld : ∀ answer ∈ old, s.Outdated answer) :
    s.poll = { s with answers := rest }.poll := by
  induction old generalizing s with
  | nil =>
      rw [List.nil_append] at hQueue
      rw [← hQueue]
  | cons answer old ih =>
      have hRead :=
        readNext_of_outdated hQueue
          (hOld answer List.mem_cons_self)
      rw [poll_eq_readNext (by simp [hQueue]), hRead,
        Option.or_none]
      exact ih rfl fun other hMem =>
        hOld other (List.mem_cons_of_mem _ hMem)

/- A poll drops a queue of outdated answers. -/
theorem poll_of_all_outdated
    {s : Session}
    (hOld : ∀ answer ∈ s.answers, s.Outdated answer) :
    s.poll = (none, { s with answers := [] }) := by
  have hQueue : s.answers = s.answers ++ [] := by
    simp
  rw [poll_of_outdated hQueue hOld, poll_of_empty rfl]

/- Outdated answers at the front do not matter to a wait. -/
theorem acceptFirst_of_outdated
    {s : Session}
    {old rest : List Answer}
    (hQueue : s.answers = old ++ rest)
    (hOld : ∀ answer ∈ old, s.Outdated answer) :
    s.acceptFirst s.answers =
      { s with answers := rest }.acceptFirst rest := by
  induction old generalizing s with
  | nil =>
      rw [List.nil_append] at hQueue
      rw [← hQueue]
  | cons answer old ih =>
      have hRead :=
        readNext_of_outdated hQueue
          (hOld answer List.mem_cons_self)
      rw [acceptFirst_eq_readNext (by simp [hQueue]), hRead]
      exact ih rfl fun other hMem =>
        hOld other (List.mem_cons_of_mem _ hMem)

/-
  A queue has only outdated answers, or the first that is
  not outdated splits it.
-/
theorem queue_cases (s : Session) :
    (∀ answer ∈ s.answers, s.Outdated answer) ∨
      ∃ old answer rest,
        s.answers = old ++ answer :: rest ∧
        (∀ other ∈ old, s.Outdated other) ∧
        answer.number = s.requestNumber := by
  cases hFind :
      s.answers.find? fun a => a.number = s.requestNumber with
  | none =>
      refine Or.inl fun answer hMem hLatest => ?_
      exact List.find?_eq_none.mp hFind answer hMem
        (decide_eq_true hLatest)
  | some answer =>
      rcases List.find?_eq_some_iff_append.mp hFind with
        ⟨hLatest, old, rest, hQueue, hOld⟩
      refine Or.inr
        ⟨old, answer, rest, hQueue, fun other hMem => ?_,
          of_decide_eq_true hLatest⟩
      intro hSame
      simpa [hSame] using hOld other hMem

/-
  Around the answer to the latest request there is no other.
-/
theorem Orderly.outdated_of_queue
    {s : Session}
    (hOrderly : s.Orderly)
    {old rest : List Answer}
    {answer : Answer}
    (hQueue : s.answers = old ++ answer :: rest)
    (hLatest : answer.number = s.requestNumber) :
    ∀ other ∈ old ++ rest, s.Outdated other := by
  intro other hMem hSame
  have hNodup :
      (s.answers.map Answer.number).Nodup :=
    (List.nodup_append.mp hOrderly.distinct).2.1
  rw [hQueue, List.map_append, List.map_cons,
    List.perm_middle.nodup_iff, ← List.map_append] at hNodup
  apply (List.nodup_cons.mp hNodup).1
  rw [hLatest, ← hSame]
  exact List.mem_map_of_mem hMem

/-
  A poll reads the whole queue. It applies the answer to the
  latest request, if that is in the queue.
-/
theorem Orderly.poll_cases
    {s : Session}
    (hOrderly : s.Orderly) :
    (∀ answer ∈ s.answers, s.Outdated answer) ∧
        s.poll = (none, { s with answers := [] }) ∨
      ∃ answer ∈ s.answers,
        answer.number = s.requestNumber ∧
        s.poll =
          (some (LoadOutcome.ofResult answer.result),
            ({ s with answers := [] }.apply
              answer.result).2) := by
  rcases s.queue_cases with
    hOld | ⟨old, answer, rest, hQueue, hOld, hLatest⟩
  · exact Or.inl ⟨hOld, poll_of_all_outdated hOld⟩
  · refine Or.inr ⟨answer, by simp [hQueue], hLatest, ?_⟩
    have hRest : ∀ other ∈ rest, s.Outdated other :=
      fun other hMem =>
        hOrderly.outdated_of_queue hQueue hLatest other
          (List.mem_append_right old hMem)
    rw [poll_of_outdated hQueue hOld,
      poll_eq_readNext (List.cons_ne_nil _ _)]
    rcases readNext_cases
        (s := { s with answers := answer :: rest }) rfl with
      ⟨hNot, _⟩ | ⟨_, hRead⟩
    · exact absurd hLatest hNot
    · have hRestPoll :
          ({ s with answers := rest }.apply
              answer.result).2.poll =
            (none,
              ({ s with answers := [] }.apply
                answer.result).2) := by
        have hOldRest :
            ∀ other ∈ ({ s with answers := rest }.apply
                answer.result).2.answers,
              ({ s with answers := rest }.apply
                answer.result).2.Outdated other := by
          rw [apply_snd]
          exact hRest
        rw [poll_of_all_outdated hOldRest, apply_snd,
          apply_snd]
      rw [hRead, hRestPoll, Option.none_or]

/-
  A wait reads the queue up to the answer to the latest
  request, which it applies; what comes after stays.
-/
theorem wait_cases (s : Session) :
    s.pending = false ∧ s.wait = (none, s) ∨
      (∀ answer ∈ s.answers, s.Outdated answer) ∧
        s.wait = (none, { s with answers := [] }) ∨
      ∃ old answer rest,
        s.pending = true ∧
        s.answers = old ++ answer :: rest ∧
        answer.number = s.requestNumber ∧
        s.wait =
          (some (LoadOutcome.ofResult answer.result),
            ({ s with answers := rest }.apply
              answer.result).2) := by
  by_cases hPending : s.pending = true
  · rw [wait, if_pos hPending]
    rcases s.queue_cases with
      hOld | ⟨old, answer, rest, hQueue, hOld, hLatest⟩
    · have hQueue : s.answers = s.answers ++ [] := by
        simp
      rw [acceptFirst_of_outdated hQueue hOld]
      exact Or.inr (Or.inl ⟨hOld, rfl⟩)
    · refine Or.inr (Or.inr
        ⟨old, answer, rest, hPending, hQueue, hLatest, ?_⟩)
      rw [acceptFirst_of_outdated hQueue hOld, acceptFirst,
        accept, if_pos hLatest,
        ← apply_fst { s with answers := rest }]
  · have hIdle : s.pending = false := by
      simpa using hPending
    exact Or.inl ⟨hIdle, wait_of_not_pending hIdle⟩

------------------------------------------------------------
-- Applied Answers
------------------------------------------------------------

/- The answers that are applied when a list is read. -/
def acceptedOf
    (s : Session) : List Answer → List Answer
| [] => []
| answer :: rest =>
    match s.accept answer with
    | (some _, t) => answer :: t.acceptedOf rest
    | (none, t) => t.acceptedOf rest

/-
  The answers that an event applies, in order. A wait stops
  at the first one.
-/
def appliedBy
    (s : Session)
    (o : Occurrence) : List Answer :=
  match o.event with
  | .loadNow source =>
      [⟨s.requestNumber + 1, o.tracer source⟩]
  | .poll => s.acceptedOf s.answers
  | .wait =>
      if s.pending then (s.acceptedOf s.answers).take 1
      else []
  | _ => []

/- A control applies no answer. -/
theorem appliedBy_of_control?
    (s : Session)
    {event : Event}
    {control : Playback.Control}
    (hControl : event.control? = some control)
    (tracer : Tracer) :
    s.appliedBy ⟨tracer, event⟩ = [] := by
  cases event with
  | load _ | loadNow _ | rerun | arrive _ => cases hControl
  | poll | wait | view => cases hControl
  | play _ | pause | toggle _ => rfl
  | step _ | seek _ | seekEnd => rfl
  | setSpeed _ _ | tick _ => rfl

/- The answers to the latest request are applied. -/
theorem acceptedOf_eq_filter
    (s : Session)
    (answers : List Answer) :
    s.acceptedOf answers =
      answers.filter fun a => a.number =
        s.requestNumber := by
  induction answers generalizing s with
  | nil => rfl
  | cons answer rest ih =>
      by_cases hLatest : answer.number = s.requestNumber
      · have hNumber :
            (s.apply answer.result).2.requestNumber =
              s.requestNumber := by
          rw [apply_snd]
        simp only [acceptedOf, accept, if_pos hLatest, ih,
          hNumber, List.filter_cons, decide_eq_true hLatest,
          if_true]
      · simp only [acceptedOf, accept, if_neg hLatest, ih,
          List.filter_cons, decide_eq_false hLatest,
          Bool.false_eq_true, if_false]

theorem acceptedOf_of_outdated
    {s : Session}
    {answers : List Answer}
    (hOld : ∀ answer ∈ answers, s.Outdated answer) :
    s.acceptedOf answers = [] := by
  rw [acceptedOf_eq_filter, List.filter_eq_nil_iff]
  intro answer hMem hLatest
  exact hOld answer hMem (of_decide_eq_true hLatest)

/-
  Of a queue, the answer to the latest request is applied.
-/
theorem Orderly.acceptedOf_eq_singleton
    {s : Session}
    (hOrderly : s.Orderly)
    {answer : Answer}
    (hMem : answer ∈ s.answers)
    (hLatest : answer.number = s.requestNumber) :
    s.acceptedOf s.answers = [answer] := by
  rcases List.append_of_mem hMem with ⟨old, rest, hQueue⟩
  have hOthers := hOrderly.outdated_of_queue hQueue hLatest
  have hOld : s.acceptedOf old = [] :=
    acceptedOf_of_outdated fun other hMem =>
      hOthers other (List.mem_append_left rest hMem)
  have hRest : s.acceptedOf rest = [] :=
    acceptedOf_of_outdated fun other hMem =>
      hOthers other (List.mem_append_right old hMem)
  rw [acceptedOf_eq_filter] at hOld hRest ⊢
  rw [hQueue, List.filter_append, hOld, List.nil_append,
    List.filter_cons, if_pos (decide_eq_true hLatest), hRest]

/-
  A poll or wait only takes answers from the queue, or it
  also applies one of them, that to the latest request.
-/
theorem Orderly.read_cases
    {s : Session}
    (hOrderly : s.Orderly)
    {o : Occurrence}
    (hRead : o.event = .poll ∨ o.event = .wait) :
    ∃ rest, rest ⊆ s.answers ∧
      (s.appliedBy o = [] ∧
          s.react o =
            (.ok (.outcome none),
              some { s with answers := rest }) ∨
        ∃ answer ∈ s.answers,
          answer.number = s.requestNumber ∧
          s.appliedBy o = [answer] ∧
          s.react o =
            (.ok (.outcome
                (some (LoadOutcome.ofResult answer.result))),
              some ({ s with answers := rest }.apply
                answer.result).2)) := by
  obtain ⟨tracer, event⟩ := o
  rcases hRead with rfl | rfl
  · simp only [appliedBy, react, handle]
    refine ⟨[], List.nil_subset _, ?_⟩
    rcases hOrderly.poll_cases with
      ⟨hOld, hPoll⟩ | ⟨answer, hMem, hLatest, hPoll⟩
    · rw [hPoll]
      exact Or.inl ⟨acceptedOf_of_outdated hOld, rfl⟩
    · rw [hPoll]
      exact Or.inr ⟨answer, hMem, hLatest,
        hOrderly.acceptedOf_eq_singleton hMem hLatest, rfl⟩
  · simp only [appliedBy, react, handle]
    rcases s.wait_cases with
      ⟨hPending, hWait⟩ | ⟨hOld, hWait⟩ |
        ⟨old, answer, rest, hPending, hQueue, hLatest, hWait⟩
    · rw [hWait, if_neg (by simp [hPending])]
      exact
        ⟨s.answers, List.Subset.refl _, Or.inl ⟨rfl, rfl⟩⟩
    · rw [hWait, acceptedOf_of_outdated hOld]
      exact ⟨[], List.nil_subset _, Or.inl ⟨by simp, rfl⟩⟩
    · have hMem : answer ∈ s.answers := by
        simp [hQueue]
      have hRest : rest ⊆ s.answers := by
        intro other hOther
        simp [hQueue, hOther]
      rw [hWait, if_pos hPending,
        hOrderly.acceptedOf_eq_singleton hMem hLatest]
      exact ⟨rest, hRest,
        Or.inr ⟨answer, hMem, hLatest, rfl, rfl⟩⟩

/-
  An answer that an event applies, with the session to which
  it is applied: one that has just begun a request, or one
  that has taken the answer from its queue.
-/
inductive Awaits
    (s : Session)
    (o : Occurrence) : Answer → Session → Prop where
| now
    (source : String)
    (hEvent : o.event = .loadNow source) :
    Awaits s o ⟨s.requestNumber + 1, o.tracer source⟩
      (s.begin source)
| queued
    (answer : Answer)
    (rest : List Answer)
    (hEvent : o.event = .poll ∨ o.event = .wait)
    (hMem : answer ∈ s.answers)
    (hLatest : answer.number = s.requestNumber)
    (hRest : rest ⊆ s.answers) :
    Awaits s o answer { s with answers := rest }

/-
  An event applies nothing and has no outcome, or it applies
  one answer, whose outcome it reports.
-/
theorem Orderly.applied_cases
    {s : Session}
    (hOrderly : s.Orderly)
    (o : Occurrence) :
    (s.appliedBy o = [] ∧
      ∀ outcome,
        (s.react o).1 ≠ .ok (.outcome (some outcome))) ∨
    ∃ answer u,
      s.appliedBy o = [answer] ∧
      s.Awaits o answer u ∧
      s.react o =
        (.ok (.outcome
            (some (LoadOutcome.ofResult answer.result))),
          some (u.apply answer.result).2) := by
  by_cases hRead : o.event = .poll ∨ o.event = .wait
  · rcases hOrderly.read_cases hRead with
      ⟨rest, hRest, ⟨hNone, hReact⟩ |
        ⟨answer, hMem, hLatest, hApplied, hReact⟩⟩
    · rw [hReact]
      refine Or.inl ⟨hNone, fun outcome hOutcome => ?_⟩
      cases hOutcome
    · exact Or.inr ⟨answer, _, hApplied,
        Awaits.queued answer rest hRead hMem hLatest hRest,
        hReact⟩
  obtain ⟨tracer, event⟩ := o
  cases hControl : event.control? with
  | some control =>
      refine Or.inl
        ⟨s.appliedBy_of_control? hControl tracer, ?_⟩
      intro outcome hOutcome
      rw [react, handle_of_control? hControl] at hOutcome
      cases hApply : s.playback.apply control with
      | error error =>
          rw [hApply] at hOutcome
          cases error <;> cases hOutcome
      | ok result =>
          rw [hApply] at hOutcome
          cases event <;> cases hOutcome
  | none =>
      cases event with
      | loadNow source =>
          refine Or.inr ⟨_, _, rfl, Awaits.now source rfl, ?_⟩
          rw [← apply_fst (s.begin source)]
          rfl
      | poll | wait => exact absurd (by simp) hRead
      | arrive number =>
          refine Or.inl ⟨rfl, ?_⟩
          intro outcome hOutcome
          simp only [react, handle] at hOutcome
          cases hFind :
              s.requests.find? fun r => r.number = number with
          | none =>
              rw [hFind] at hOutcome
              cases hOutcome
          | some request =>
              rw [hFind] at hOutcome
              cases hOutcome
      | load _ | rerun | view =>
          refine Or.inl ⟨rfl, fun outcome hOutcome => ?_⟩
          cases hOutcome
      | play _ | pause | toggle _ | step _ => cases hControl
      | seek _ | seekEnd | setSpeed _ _ => cases hControl
      | tick _ => cases hControl

end Session

end TracePlayer
