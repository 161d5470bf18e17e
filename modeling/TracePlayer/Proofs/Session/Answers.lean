import TracePlayer.Proofs.Session.Run

/-
  This file proves how a session reads the answers of a
  tracer. A poll and a wait read the queue one answer at a
  time; numbers keep the requests apart, and the session is
  pending as long as the answer to its latest request is not
  read. A view observes the frames before its own, each of
  them once.

  Main declarations:
    * `LoadOutcome.ofResult`, `Reply.ofResult`
    * `Session.apply_fst`, `Session.apply_snd`
    * `Session.readNext`, `Session.readNext_cases`
    * `Session.poll_preserves`, `Session.wait_preserves`
    * `Session.observeTo_loop`, `Session.observeTo_eq_foldl`
    * `Session.outstanding`, `Session.Orderly`
    * `Session.Orderly.step`
-/

namespace TracePlayer

------------------------------------------------------------
-- Results
------------------------------------------------------------

/- The outcome of a result. -/
def LoadOutcome.ofResult :
    Except TracerError Reply → LoadOutcome
| .ok reply =>
    if reply.frames.length = 0 then .empty
    else .loaded reply.frames.length
| .error error => .failed (SessionError.ofTracer error)

/- What a result brings; a failure brings nothing. -/
def Reply.ofResult : Except TracerError Reply → Reply
| .ok reply => reply
| .error _ => Reply.empty

/- The failure of a result. -/
def SessionError.ofResult? :
    Except TracerError Reply → Option SessionError
| .ok _ => none
| .error error => some (SessionError.ofTracer error)

namespace Session

theorem apply_fst
    (s : Session)
    (result : Except TracerError Reply) :
    (s.apply result).1 = LoadOutcome.ofResult result := by
  cases result <;> rfl

/-
  Applying a result replaces all but the speed, the number
  and source of the request, and the requests and answers;
  an old failure stays when there is no new one.
-/
theorem apply_snd
    (s : Session)
    (result : Except TracerError Reply) :
    (s.apply result).2 =
      { s with
        trace := (Reply.ofResult result).frames
        complexity := (Reply.ofResult result).complexity
        playback :=
          s.playback.load (Reply.ofResult result).frames.length
        carry := Carry.empty
        observed := 0
        pending := false
        lastError :=
          (SessionError.ofResult? result).or s.lastError } := by
  cases result <;> rfl

------------------------------------------------------------
-- Reading Answers
------------------------------------------------------------

/- Read the first answer in the queue. -/
def readNext (s : Session) : Option LoadOutcome × Session :=
  match s.answers with
  | [] => (none, s)
  | answer :: rest => { s with answers := rest }.accept answer

/-
  Reading drops an answer to an older request, and applies
  the answer to the latest one.
-/
theorem readNext_cases
    {s : Session}
    {answer : Answer}
    {rest : List Answer}
    (hQueue : s.answers = answer :: rest) :
    answer.number ≠ s.requestNumber ∧
        s.readNext = (none, { s with answers := rest }) ∨
      answer.number = s.requestNumber ∧
        s.readNext =
          (some (LoadOutcome.ofResult answer.result),
            ({ s with answers := rest }.apply
              answer.result).2) := by
  simp only [readNext, hQueue, accept]
  by_cases hLatest : answer.number = s.requestNumber
  · rw [if_pos hLatest, ← apply_fst]
    exact Or.inr ⟨hLatest, rfl⟩
  · rw [if_neg hLatest]
    exact Or.inl ⟨hLatest, rfl⟩

/- Reading takes one answer from the queue. -/
theorem answers_readNext (s : Session) :
    s.readNext.2.answers = s.answers.tail := by
  cases hQueue : s.answers with
  | nil => simp [readNext, hQueue]
  | cons answer rest =>
      rcases readNext_cases hQueue with
        ⟨_, hRead⟩ | ⟨_, hRead⟩
      · rw [hRead]
        rfl
      · rw [hRead, apply_snd]
        rfl

/-
  The answers still in the queue do not matter to a read.
-/
theorem accept_with_answers
    (s : Session)
    (queue : List Answer)
    (answer : Answer) :
    { s with answers := queue }.accept answer =
      ((s.accept answer).1,
        { (s.accept answer).2 with answers := queue }) := by
  unfold accept
  by_cases hLatest : answer.number = s.requestNumber
  · simp only [hLatest, if_true, apply_fst, apply_snd]
  · simp only [hLatest, if_false]

/- The outcome before a list of answers is read. -/
theorem acceptAll_eq
    (s : Session)
    (outcome : Option LoadOutcome)
    (answers : List Answer) :
    s.acceptAll outcome answers =
      ((s.acceptAll none answers).1.or outcome,
        (s.acceptAll none answers).2) := by
  induction answers generalizing s outcome with
  | nil => simp [acceptAll]
  | cons answer rest ih =>
      simp only [acceptAll]
      rw [ih, ih _ ((s.accept answer).1.or none)]
      cases (s.accept answer).1 <;> simp

theorem poll_of_empty
    {s : Session}
    (hQueue : s.answers = []) : s.poll = (none, s) := by
  rw [poll, hQueue, acceptAll, ← hQueue]

/- A poll reads one answer and polls the rest. -/
theorem poll_eq_readNext
    {s : Session}
    (hQueue : s.answers ≠ []) :
    s.poll =
      (s.readNext.2.poll.1.or s.readNext.1,
        s.readNext.2.poll.2) := by
  cases hAnswers : s.answers with
  | nil => exact absurd hAnswers hQueue
  | cons answer rest =>
      have hRead :
          s.readNext =
            (({ s with answers := [] }.accept answer).1,
              { ({ s with answers := [] }.accept answer).2 with
                answers := rest }) := by
        rw [accept_with_answers s, readNext, hAnswers]
        exact accept_with_answers s rest answer
      have hEmpty :
          { s.readNext.2 with answers := [] } =
            ({ s with answers := [] }.accept answer).2 := by
        rw [hRead, accept_with_answers s]
      have hRest :
          s.readNext.2.poll =
            ({ s with answers := [] }.accept
              answer).2.acceptAll none rest := by
        rw [poll, hEmpty, answers_readNext, hAnswers,
          List.tail_cons]
      rw [hRest, hRead, poll, hAnswers]
      simp only [acceptAll, Option.or_none]
      exact acceptAll_eq _ _ rest

/- What reading keeps, a poll keeps. -/
theorem poll_preserves
    {P : Session → Prop}
    (hRead : ∀ u : Session, P u → P u.readNext.2)
    {s : Session}
    (hStart : P s) : P s.poll.2 := by
  generalize hQueue : s.answers = queue
  induction queue generalizing s with
  | nil =>
      rw [poll_of_empty hQueue]
      exact hStart
  | cons answer rest ih =>
      rw [poll_eq_readNext (by simp [hQueue])]
      apply ih (hRead s hStart)
      rw [answers_readNext, hQueue, List.tail_cons]

/-
  A wait that is pending reads one answer, and waits on when
  it was dropped.
-/
theorem acceptFirst_eq_readNext
    {s : Session}
    (hQueue : s.answers ≠ []) :
    s.acceptFirst s.answers =
      match s.readNext with
      | (some outcome, t) => (some outcome, t)
      | (none, t) => t.acceptFirst t.answers := by
  cases hAnswers : s.answers with
  | nil => exact absurd hAnswers hQueue
  | cons answer rest =>
      rcases readNext_cases hAnswers with
        ⟨hOld, hRead⟩ | ⟨hLatest, hRead⟩
      · rw [hRead, acceptFirst, accept, if_neg hOld]
      · rw [hRead, acceptFirst, accept, if_pos hLatest,
          ← apply_fst { s with answers := rest }]

/- A wait that is not pending does nothing. -/
theorem wait_of_not_pending
    {s : Session}
    (hPending : s.pending = false) :
    s.wait = (none, s) := by
  simp [wait, hPending]

/- What reading keeps, a wait keeps. -/
theorem wait_preserves
    {P : Session → Prop}
    (hRead : ∀ u : Session, P u → P u.readNext.2)
    {s : Session}
    (hStart : P s) : P s.wait.2 := by
  have hFirst :
      ∀ (queue : List Answer) (u : Session),
        u.answers = queue → P u →
          P (u.acceptFirst u.answers).2 := by
    intro queue
    induction queue with
    | nil =>
        intro u hQueue hStart
        rwa [hQueue, acceptFirst, ← hQueue]
    | cons answer rest ih =>
        intro u hQueue hStart
        have hNext : P u.readNext.2 := hRead u hStart
        have hTail : u.readNext.2.answers = rest := by
          rw [answers_readNext, hQueue, List.tail_cons]
        rw [acceptFirst_eq_readNext (by simp [hQueue])]
        split
        case h_1 outcome t hPair =>
            rwa [hPair] at hNext
        case h_2 t hPair =>
            rw [hPair] at hNext hTail
            exact ih t hTail hNext
  cases hPending : s.pending with
  | false =>
      rw [wait_of_not_pending hPending]
      exact hStart
  | true =>
      rw [wait, if_pos hPending]
      exact hFirst s.answers s rfl hStart

------------------------------------------------------------
-- Views
------------------------------------------------------------

/-
  Observing goes on, one frame at a time, as long as one of
  the frames before the index is not observed.
-/
theorem observeTo_loop
    (s : Session)
    (index : Nat) :
    s.observeTo index =
      if s.observed < min index s.trace.length then
        s.observeNext.observeTo index
      else
        s := by
  unfold observeTo
  split
  case isTrue hMore =>
      have hLeft :
          min index s.trace.length - s.observed =
            min index s.observeNext.trace.length -
              s.observeNext.observed + 1 := by
        simp only [observeNext]
        omega
      rw [hLeft, observeMore]
  case isFalse hAll =>
      rw [Nat.sub_eq_zero_of_le (Nat.not_lt.mp hAll),
        observeMore]

/- Each of the next frames is observed once, in order. -/
theorem observeMore_eq
    {s : Session}
    {more : Nat}
    (hMore : s.observed + more ≤ s.trace.length) :
    s.observeMore more =
      { s with
        carry :=
          ((s.trace.drop s.observed).take more).foldl
            Carry.observe s.carry
        observed := s.observed + more } := by
  induction more generalizing s with
  | zero => rfl
  | succ more ih =>
      have hLess : s.observed < s.trace.length := by omega
      have hNext :
          s.observeNext =
            { s with
              carry := s.carry.observe s.trace[s.observed]
              observed := s.observed + 1 } := by
        rw [observeNext, List.getElem?_eq_getElem hLess]
      have hLater :
          s.observeNext.observed + more ≤
            s.observeNext.trace.length := by
        rw [hNext]
        dsimp only
        omega
      rw [observeMore, ih hLater, hNext,
        List.drop_eq_getElem_cons hLess, List.take_succ_cons,
        List.foldl_cons]
      simp only [Nat.add_assoc, Nat.add_comm 1]

/- The frames up to an index are observed, each of them once. -/
theorem observeTo_eq_foldl
    (s : Session)
    (index : Nat) :
    s.observeTo index =
      { s with
        carry :=
          ((s.trace.drop s.observed).take
            (min index s.trace.length - s.observed)).foldl
              Carry.observe s.carry
        observed :=
          max s.observed (min index s.trace.length) } := by
  unfold observeTo
  by_cases hMore : s.observed < min index s.trace.length
  · have hSum :
        s.observed + (min index s.trace.length - s.observed) =
          min index s.trace.length :=
      Nat.add_sub_cancel' (Nat.le_of_lt hMore)
    have hWithin :
        s.observed + (min index s.trace.length - s.observed) ≤
          s.trace.length := by
      rw [hSum]
      exact Nat.min_le_right _ _
    rw [observeMore_eq hWithin, hSum,
      Nat.max_eq_right (Nat.le_of_lt hMore)]
  · rw [Nat.sub_eq_zero_of_le (Nat.not_lt.mp hMore),
      Nat.max_eq_left (Nat.not_lt.mp hMore)]
    rfl

/- Observing changes what is carried and nothing else. -/
theorem observeTo_eq
    (s : Session)
    (index : Nat) :
    s.observeTo index =
      { s with
        carry := (s.observeTo index).carry
        observed := (s.observeTo index).observed } := by
  rw [observeTo_eq_foldl]

/- Observing once more changes nothing. -/
theorem observeTo_observeTo
    (s : Session)
    (index : Nat) :
    (s.observeTo index).observeTo index =
      s.observeTo index := by
  have hObserved :
      min index (s.observeTo index).trace.length ≤
        (s.observeTo index).observed := by
    rw [observeTo_eq_foldl]
    exact Nat.le_max_right _ _
  rw [observeTo_loop, if_neg (Nat.not_lt.mpr hObserved)]

theorem view_snd (s : Session) :
    s.view.2 = s.observeTo s.playback.index :=
  rfl

/- A view is the same once more. -/
theorem view_view (s : Session) : s.view.2.view = s.view := by
  have hIndex : s.view.2.playback.index = s.playback.index := by
    rw [view_snd, observeTo_eq]
  have hObserved :
      s.view.2.observeTo s.playback.index = s.view.2 := by
    rw [view_snd, observeTo_observeTo]
  unfold view at hIndex hObserved ⊢
  dsimp only at hIndex hObserved ⊢
  rw [hIndex, hObserved]

------------------------------------------------------------
-- Orderly Requests
------------------------------------------------------------

/-
  The numbers of the requests with an answer yet to be read.
-/
def outstanding (s : Session) : List Nat :=
  s.requests.map Request.number ++
    s.answers.map Answer.number

/-
  No two answers yet to be read are to the same request,
  none is to a request that was never sent, and the session
  is pending exactly as long as the one to the latest
  request is among them.
-/
structure Orderly (s : Session) : Prop where
  distinct : s.outstanding.Nodup
  sent : ∀ number ∈ s.outstanding, number ≤ s.requestNumber
  pending_iff :
    s.pending = true ↔ s.requestNumber ∈ s.outstanding

namespace Orderly

theorem new : Session.new.Orderly where
  distinct := List.nodup_nil
  sent := nofun
  pending_iff := by simp [Session.new, outstanding]

/-
  A session is pending while the answer to its latest
  request is in the queue.
-/
theorem pending_of_queued
    {s : Session}
    {answer : Answer}
    (hOrderly : s.Orderly)
    (hMem : answer ∈ s.answers)
    (hLatest : answer.number = s.requestNumber) :
    s.pending = true := by
  apply hOrderly.pending_iff.mpr
  rw [← hLatest]
  exact List.mem_append_right _ (List.mem_map_of_mem hMem)

/-
  Requests stay orderly when the same ones are outstanding
  in another order.
-/
theorem of_perm
    {s t : Session}
    (hOrderly : s.Orderly)
    (hPerm : t.outstanding.Perm s.outstanding)
    (hNumber : t.requestNumber = s.requestNumber)
    (hPending : t.pending = s.pending) : t.Orderly where
  distinct := hPerm.nodup_iff.mpr hOrderly.distinct
  sent := by
    intro number hMem
    rw [hNumber]
    exact hOrderly.sent number (hPerm.mem_iff.mp hMem)
  pending_iff := by
    rw [hNumber, hPending, hPerm.mem_iff]
    exact hOrderly.pending_iff

/- The number of the next request is not outstanding. -/
theorem fresh
    {s : Session}
    (hOrderly : s.Orderly) :
    s.requestNumber + 1 ∉ s.outstanding :=
  fun hMem => Nat.not_succ_le_self _ (hOrderly.sent _ hMem)

/-
  Every outstanding number is below that of the next
  request.
-/
theorem sent_next
    {s : Session}
    (hOrderly : s.Orderly) :
    ∀ number ∈ s.outstanding, number ≤ s.requestNumber + 1 :=
  fun number hMem => Nat.le_succ_of_le (hOrderly.sent number hMem)

/-
  Sending a request puts its number among the outstanding.
-/
theorem load
    {s : Session}
    (hOrderly : s.Orderly)
    (source : String) : (s.load source).Orderly := by
  have hPerm :
      (s.load source).outstanding.Perm
        ((s.requestNumber + 1) :: s.outstanding) := by
    simp only [outstanding, Session.load, Session.begin,
      Session.clear, List.map_append, List.map_cons,
      List.map_nil, List.append_assoc, List.singleton_append]
    exact List.perm_middle
  constructor
  · rw [hPerm.nodup_iff, List.nodup_cons]
    exact ⟨hOrderly.fresh, hOrderly.distinct⟩
  · intro number hMem
    rcases List.mem_cons.mp (hPerm.mem_iff.mp hMem) with
      rfl | hOld
    · exact Nat.le_refl _
    · exact hOrderly.sent_next number hOld
  · have hMem : s.requestNumber + 1 ∈
        (s.load source).outstanding :=
      hPerm.mem_iff.mpr List.mem_cons_self
    exact ⟨fun _ => hMem, fun _ => rfl⟩

/-
  A request that is answered at once is never outstanding.
-/
theorem loadNow
    {s : Session}
    (hOrderly : s.Orderly)
    (tracer : Tracer)
    (source : String) :
    (s.loadNow tracer source).2.Orderly := by
  rw [Session.loadNow, apply_snd]
  exact
    ⟨hOrderly.distinct, hOrderly.sent_next,
      ⟨nofun, fun hMem => absurd hMem hOrderly.fresh⟩⟩

/-
  An answer that arrives moves from one list to the other.
-/
theorem arrive
    {s : Session}
    (hOrderly : s.Orderly)
    {request : Request}
    (hMem : request ∈ s.requests)
    (result : Except TracerError Reply) :
    (s.arrive request.number result).Orderly := by
  have hNodup : (s.requests.map Request.number).Nodup :=
    (List.nodup_append.mp hOrderly.distinct).1
  have hErase :
      (s.requests.filter fun r =>
          r.number ≠ request.number).map Request.number =
        (s.requests.map Request.number).erase
          request.number := by
    rw [hNodup.erase_eq_filter, List.filter_map]
    refine congrArg _ (List.filter_congr fun r _ => ?_)
    rw [Bool.eq_iff_iff]
    simp
  have hBack :
      (request.number ::
          (s.requests.map Request.number).erase
            request.number).Perm
        (s.requests.map Request.number) :=
    (List.perm_cons_erase (List.mem_map_of_mem hMem)).symm
  have hOutstanding :
      (s.arrive request.number result).outstanding =
        (s.requests.map Request.number).erase
            request.number ++
          (s.answers.map Answer.number ++
            [request.number]) := by
    rw [← hErase]
    simp [outstanding, Session.arrive]
  have hPerm :
      (s.arrive request.number result).outstanding.Perm
        s.outstanding := by
    rw [hOutstanding, ← List.append_assoc]
    exact (List.perm_append_singleton _ _).trans
      (hBack.append_right _)
  exact hOrderly.of_perm hPerm rfl rfl

/- Reading an answer takes its number out. -/
theorem readNext
    {s : Session}
    (hOrderly : s.Orderly) : s.readNext.2.Orderly := by
  cases hQueue : s.answers with
  | nil =>
      rwa [Session.readNext, hQueue]
  | cons answer rest =>
      have hPerm :
          s.outstanding.Perm
            (answer.number ::
              { s with answers := rest }.outstanding) := by
        simp only [outstanding, hQueue, List.map_cons]
        exact List.perm_middle
      have hNodup :=
        List.nodup_cons.mp
          (hPerm.nodup_iff.mp hOrderly.distinct)
      have hSent :
          ∀ number ∈ { s with answers := rest }.outstanding,
            number ≤ s.requestNumber :=
        fun number hMem =>
          hOrderly.sent number
            (hPerm.mem_iff.mpr (List.mem_cons_of_mem _ hMem))
      rcases readNext_cases hQueue with
        ⟨hOld, hRead⟩ | ⟨hLatest, hRead⟩
      · rw [hRead]
        refine ⟨hNodup.2, hSent, ?_⟩
        rw [hOrderly.pending_iff, hPerm.mem_iff,
          List.mem_cons]
        exact or_iff_right (Ne.symm hOld)
      · rw [hRead, apply_snd]
        refine ⟨hNodup.2, hSent, nofun, fun hMem => ?_⟩
        exact absurd (hLatest ▸ hMem) hNodup.1

/- Every step keeps the requests orderly. -/
theorem step
    {s t : Session}
    {o : Occurrence}
    (hOrderly : s.Orderly)
    (hStep : Step s o t) : t.Orderly := by
  cases hStep with
  | load tracer source => exact hOrderly.load source
  | loadNow tracer source =>
      exact hOrderly.loadNow tracer source
  | rerun tracer =>
      unfold rerun
      split
      case h_1 source _ => exact hOrderly.load source
      case h_2 => exact hOrderly
  | arrive tracer number request hFind =>
      have hNumber : request.number = number := by
        simpa using List.find?_some hFind
      rw [← hNumber]
      exact
        hOrderly.arrive (List.mem_of_find?_eq_some hFind) _
  | stray tracer number hFind => exact hOrderly
  | poll tracer =>
      exact poll_preserves (fun _ h => h.readNext) hOrderly
  | wait tracer =>
      exact wait_preserves (fun _ h => h.readNext) hOrderly
  | control tracer event control moved p hControl hApply =>
      exact hOrderly.of_perm (List.Perm.refl _) rfl rfl
  | refused tracer event control hControl => exact hOrderly
  | view tracer =>
      rw [view_snd, observeTo_eq]
      exact hOrderly.of_perm (List.Perm.refl _) rfl rfl

end Orderly

end Session

end TracePlayer
