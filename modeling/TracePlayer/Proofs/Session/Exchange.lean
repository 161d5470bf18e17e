import Mathlib.Data.List.Nodup
import TracePlayer.Proofs.Session.Applied

/-
  This file proves which requests and answers count,
  whatever the order in which answers arrive. A session is
  kept with a record of all that was exchanged with the
  tracer: every request that was issued, every reply, and
  every answer that was applied.

  Main declarations:
    * `Exchange`, `Exchange.next?`, `Exchange.Reachable`
    * `Exchange.latest?`, `Exchange.inFlight`
    * `Exchange.Sound`, `Exchange.Sound.next`
    * `Exchange.Faithful`, `Exchange.Reachable.faithful`
-/

namespace TracePlayer

open Session

/- One more answer with a number of its own. -/
theorem nodup_numbers_concat
    {answers : List Answer}
    {answer : Answer}
    (hNodup : (answers.map Answer.number).Nodup)
    (hNew : answer.number ∉ answers.map Answer.number) :
    ((answers ++ [answer]).map Answer.number).Nodup := by
  rw [List.map_append, List.map_singleton,
    ← List.concat_eq_append, List.nodup_concat]
  exact ⟨hNew, hNodup⟩

------------------------------------------------------------
-- Records
------------------------------------------------------------

/-
  A request that was issued: in the background, to be
  answered later, or answered at once.
-/
structure Issue where
  request : Request
  background : Bool

/-
  A session with all that was exchanged: the requests in the
  order of their issue, the replies in the order of their
  arrival, and the answers in the order of their
  application.
-/
structure Exchange where
  session : Session
  issued : List Issue
  replies : List Answer
  applied : List Answer

namespace Exchange

/- Nothing has been exchanged. -/
def start : Exchange :=
  { session := Session.new
    issued := []
    replies := []
    applied := [] }

/- The request that was issued last. -/
def latest? (x : Exchange) : Option Issue :=
  x.issued.getLast?

/- The requests in the background that have no reply yet. -/
def inFlight (x : Exchange) : List Request :=
  (x.issued.filter fun issue =>
    issue.background = true ∧
      issue.request.number ∉ x.replies.map Answer.number).map
    Issue.request

/- A new request is in flight if it is in the background. -/
theorem inFlight_issued
    (x : Exchange)
    (issue : Issue)
    (hFresh :
      issue.request.number ∉ x.replies.map Answer.number) :
    { x with issued := x.issued ++ [issue] }.inFlight =
      x.inFlight ++
        if issue.background then [issue.request] else [] := by
  simp only [inFlight, List.filter_append, List.map_append]
  congr 1
  by_cases hBackground : issue.background = true
  · have hBoth :
        issue.background = true ∧
          issue.request.number ∉
            x.replies.map Answer.number :=
      ⟨hBackground, hFresh⟩
    rw [if_pos hBackground, List.filter_cons,
      if_pos (decide_eq_true hBoth)]
    rfl
  · rw [if_neg hBackground,
      List.filter_cons_of_neg (by simp [hBackground])]
    rfl

/- A reply takes its request from those in flight. -/
theorem inFlight_replied
    (x : Exchange)
    (reply : Answer) :
    { x with replies := x.replies ++ [reply] }.inFlight =
      x.inFlight.filter fun r => r.number ≠ reply.number := by
  simp only [inFlight, List.filter_map, List.filter_filter]
  refine congrArg _ (List.filter_congr fun issue _ => ?_)
  rw [Bool.eq_iff_iff]
  simp
  tauto

------------------------------------------------------------
-- Events
------------------------------------------------------------

/- The next request, for a source. -/
def issue
    (x : Exchange)
    (source : String)
    (background : Bool) : Issue :=
  ⟨⟨x.issued.length + 1, source⟩, background⟩

/- The requests that an event issues. -/
def issuedBy (x : Exchange) : Event → List Issue
| .load source => [x.issue source true]
| .loadNow source => [x.issue source false]
| .rerun =>
    match x.latest? with
    | some last => [x.issue last.request.source true]
    | none => []
| _ => []

/-
  The replies that an event brings: that to a request that
  is answered at once, or one to a request in flight.
-/
def repliesBy
    (x : Exchange)
    (o : Occurrence) : List Answer :=
  match o.event with
  | .loadNow source =>
      [⟨x.issued.length + 1, o.tracer source⟩]
  | .arrive number =>
      match x.inFlight.find? fun r => r.number = number with
      | some request => [⟨number, o.tracer request.source⟩]
      | none => []
  | _ => []

/- Record an event, unless it ends the run. -/
def next?
    (x : Exchange)
    (o : Occurrence) : Option Exchange :=
  (x.session.react o).2.map fun t =>
    { session := t
      issued := x.issued ++ x.issuedBy o.event
      replies := x.replies ++ x.repliesBy o
      applied := x.applied ++ x.session.appliedBy o }

/- A control exchanges nothing with the tracer. -/
theorem quiet_of_control?
    (x : Exchange)
    {event : Event}
    {control : Playback.Control}
    (hControl : event.control? = some control)
    (tracer : Tracer) :
    x.issuedBy event = [] ∧
      x.repliesBy ⟨tracer, event⟩ = [] ∧
      x.session.appliedBy ⟨tracer, event⟩ = [] := by
  have hApplied :=
    x.session.appliedBy_of_control? hControl tracer
  cases event with
  | load _ | loadNow _ | rerun | arrive _ => cases hControl
  | poll | wait | view => cases hControl
  | play _ | pause | toggle _ => exact ⟨rfl, rfl, hApplied⟩
  | step _ | seek _ | seekEnd => exact ⟨rfl, rfl, hApplied⟩
  | setSpeed _ _ | tick _ => exact ⟨rfl, rfl, hApplied⟩

/- Record events one after the other. -/
def run? (x : Exchange) : List Occurrence → Option Exchange
| [] => some x
| o :: rest => (x.next? o).bind fun y => y.run? rest

/- The records of all runs. -/
def Reachable (x : Exchange) : Prop :=
  ∃ history, start.run? history = some x

/- What every event keeps holds of every record. -/
theorem Reachable.induction
    {P : Exchange → Prop}
    (hStart : P start)
    (hNext :
      ∀ (x y : Exchange) (o : Occurrence),
        P x → x.next? o = some y → P y)
    {x : Exchange}
    (hReach : x.Reachable) : P x := by
  have hRun :
      ∀ (history : List Occurrence) (y : Exchange),
        P y → y.run? history = some x → P x := by
    intro history
    induction history with
    | nil =>
        intro y hBefore hRun
        cases hRun
        exact hBefore
    | cons o rest ih =>
        intro y hBefore hRun
        rcases Option.bind_eq_some_iff.mp hRun with
          ⟨z, hFirst, hRest⟩
        exact ih z (hNext y z o hBefore hFirst) hRest
  rcases hReach with ⟨history, hHistory⟩
  exact hRun history start hStart hHistory

------------------------------------------------------------
-- Sound Records
------------------------------------------------------------

/-
  The session fits the record. Requests are numbered from
  one on, and the session has the number and the source of
  the latest; the requests under way are those in flight.
  Every request has one reply at most, and every answer in
  the queue or applied is such a reply, applied once. The
  session waits as long as the latest request is in the
  background and not applied, and has only frames from the
  reply to it.
-/
structure Sound (x : Exchange) : Prop where
  orderly : x.session.Orderly
  number_eq : x.session.requestNumber = x.issued.length
  numbered :
    x.issued.map (fun issue => issue.request.number) =
      List.range' 1 x.issued.length
  source_eq :
    x.session.source =
      x.latest?.map fun last => last.request.source
  requests_eq : x.session.requests = x.inFlight
  queued : x.session.answers ⊆ x.replies
  replies_issued :
    ∀ reply ∈ x.replies, reply.number ≤ x.issued.length
  replies_distinct : (x.replies.map Answer.number).Nodup
  applied_replied : x.applied ⊆ x.replies
  applied_distinct : (x.applied.map Answer.number).Nodup
  pending_iff :
    x.session.pending = true ↔
      ∃ last, x.latest? = some last ∧
        last.background = true ∧
        last.request.number ∉ x.applied.map Answer.number
  loaded :
    x.session.trace ≠ [] →
      ∃ last reply, x.latest? = some last ∧
        ⟨last.request.number, .ok reply⟩ ∈ x.replies ∧
        x.session.trace = reply.frames

namespace Sound

variable {x y : Exchange}

theorem start : Exchange.start.Sound where
  orderly := Orderly.new
  number_eq := rfl
  numbered := rfl
  source_eq := rfl
  requests_eq := rfl
  queued := List.nil_subset _
  replies_issued := nofun
  replies_distinct := List.nodup_nil
  applied_replied := List.nil_subset _
  applied_distinct := List.nodup_nil
  pending_iff := by simp [Exchange.start, new, latest?]
  loaded := fun hTrace => absurd rfl hTrace

/- The number of a request is at most that of the latest. -/
theorem issued_le
    (hSound : x.Sound)
    {issue : Issue}
    (hMem : issue ∈ x.issued) :
    issue.request.number ≤ x.issued.length := by
  have hNumber :
      issue.request.number ∈ List.range' 1 x.issued.length := by
    rw [← hSound.numbered]
    exact List.mem_map_of_mem
      (f := fun i : Issue => i.request.number) hMem
  have hRange := List.mem_range'_1.mp hNumber
  omega

theorem inFlight_le
    (hSound : x.Sound)
    {request : Request}
    (hMem : request ∈ x.inFlight) :
    request.number ≤ x.issued.length := by
  rcases List.mem_map.mp hMem with ⟨issue, hIssue, rfl⟩
  exact hSound.issued_le (List.mem_of_mem_filter hIssue)

/- The latest request has the number of the session. -/
theorem latest_number
    (hSound : x.Sound)
    {last : Issue}
    (hLast : x.latest? = some last) :
    last.request.number = x.session.requestNumber := by
  have hNumber :
      (x.issued.map fun issue =>
          issue.request.number).getLast? =
        some last.request.number := by
    rw [List.getLast?_map, ← latest?, hLast]
    rfl
  rw [hSound.numbered, List.getLast?_range'] at hNumber
  rw [hSound.number_eq]
  split at hNumber
  · cases hNumber
  · have hEq := Option.some.inj hNumber
    omega

/- The number of the next request has no reply yet. -/
theorem fresh
    (hSound : x.Sound) :
    x.issued.length + 1 ∉ x.replies.map Answer.number := by
  intro hMem
  rcases List.mem_map.mp hMem with ⟨reply, hReply, hNumber⟩
  have hLe := hSound.replies_issued reply hReply
  rw [hNumber] at hLe
  exact Nat.not_succ_le_self _ hLe

/- An answer without a reply is not applied. -/
theorem not_applied
    (hSound : x.Sound)
    {number : Nat}
    (hNumber : number ∉ x.replies.map Answer.number) :
    number ∉ x.applied.map Answer.number :=
  fun hMem =>
    hNumber (List.map_subset _ hSound.applied_replied hMem)

/- The numbers of the requests, with one more. -/
theorem numbered_concat
    (hSound : x.Sound)
    (source : String)
    (background : Bool) :
    (x.issued ++ [x.issue source background]).map
        (fun issue => issue.request.number) =
      List.range' 1
        (x.issued ++ [x.issue source background]).length := by
  rw [List.map_append, hSound.numbered, List.length_append,
    List.length_singleton, List.range'_concat, Nat.one_mul,
    Nat.add_comm 1]
  rfl

/-
  Replies to earlier requests are within one more request.
-/
theorem replies_issued_concat
    (hSound : x.Sound)
    (issue : Issue) :
    ∀ reply ∈ x.replies,
      reply.number ≤ (x.issued ++ [issue]).length := by
  intro reply hMem
  rw [List.length_append]
  exact Nat.le_add_right_of_le
    (hSound.replies_issued reply hMem)

/-
  A session may change in whatever the record does not speak
  of, and drop answers from its queue.
-/
theorem of_same
    {t : Session}
    (hSound : x.Sound)
    (hOrderly : t.Orderly)
    (hNumber : t.requestNumber = x.session.requestNumber)
    (hSource : t.source = x.session.source)
    (hRequests : t.requests = x.session.requests)
    (hAnswers : t.answers ⊆ x.session.answers)
    (hPending : t.pending = x.session.pending)
    (hTrace : t.trace = x.session.trace) :
    { x with session := t }.Sound where
  orderly := hOrderly
  number_eq := hNumber.trans hSound.number_eq
  numbered := hSound.numbered
  source_eq := hSource.trans hSound.source_eq
  requests_eq := hRequests.trans hSound.requests_eq
  queued := fun _ hMem => hSound.queued (hAnswers hMem)
  replies_issued := hSound.replies_issued
  replies_distinct := hSound.replies_distinct
  applied_replied := hSound.applied_replied
  applied_distinct := hSound.applied_distinct
  pending_iff := by
    simp only [hPending]
    exact hSound.pending_iff
  loaded := by
    simp only [hTrace]
    exact hSound.loaded

/- A request in the background is put in flight. -/
theorem load
    (hSound : x.Sound)
    (source : String) :
    { x with
      session := x.session.load source
      issued := x.issued ++ [x.issue source true] }.Sound where
  orderly := hSound.orderly.load source
  number_eq := by
    rw [List.length_append, ← hSound.number_eq]
    rfl
  numbered := hSound.numbered_concat source true
  source_eq := by
    simp [latest?, issue, Session.load, Session.begin]
  requests_eq := by
    have hFlight :=
      x.inFlight_issued (x.issue source true) hSound.fresh
    refine Eq.trans ?_ hFlight.symm
    rw [← hSound.requests_eq, issue, ← hSound.number_eq]
    rfl
  queued := hSound.queued
  replies_issued := hSound.replies_issued_concat _
  replies_distinct := hSound.replies_distinct
  applied_replied := hSound.applied_replied
  applied_distinct := hSound.applied_distinct
  pending_iff := by
    refine ⟨fun _ => ⟨x.issue source true, ?_, rfl, ?_⟩,
      fun _ => rfl⟩
    · simp [latest?]
    · exact hSound.not_applied hSound.fresh
  loaded := fun hTrace => absurd rfl hTrace

/-
  A request that is answered at once brings its reply, and
  the answer is applied.
-/
theorem loadNow
    (hSound : x.Sound)
    (tracer : Tracer)
    (source : String) :
    Sound
      { session := (x.session.loadNow tracer source).2
        issued := x.issued ++ [x.issue source false]
        replies := x.replies ++
          [⟨x.issued.length + 1, tracer source⟩]
        applied := x.applied ++
          [⟨x.session.requestNumber + 1, tracer source⟩] } := by
  have hApplied := hSound.not_applied hSound.fresh
  rw [Session.loadNow, apply_snd]
  constructor
  case orderly =>
      have hOrderly := hSound.orderly.loadNow tracer source
      rwa [Session.loadNow, apply_snd] at hOrderly
  case number_eq =>
      rw [List.length_append, ← hSound.number_eq]
      rfl
  case numbered => exact hSound.numbered_concat source false
  case source_eq =>
      simp [latest?, issue, Session.begin]
  case requests_eq =>
      have hIssued :=
        x.inFlight_issued (x.issue source false) hSound.fresh
      have hReplied :=
        inFlight_replied
          { x with issued := x.issued ++ [x.issue source false] }
          ⟨x.issued.length + 1, tracer source⟩
      refine Eq.trans ?_ hReplied.symm
      rw [hIssued, if_neg (by simp [issue]),
        List.append_nil, List.filter_eq_self.mpr]
      · exact hSound.requests_eq
      · intro request hMem
        exact decide_eq_true
          (Nat.ne_of_lt
            (Nat.lt_succ_of_le (hSound.inFlight_le hMem)))
  case queued =>
      exact
        List.subset_append_of_subset_left _ hSound.queued
  case replies_issued =>
      intro reply hMem
      rcases List.mem_append.mp hMem with hOld | hNew
      · exact hSound.replies_issued_concat _ reply hOld
      · rw [List.mem_singleton.mp hNew, List.length_append]
        exact Nat.le_refl _
  case replies_distinct =>
      exact nodup_numbers_concat hSound.replies_distinct
        hSound.fresh
  case applied_replied =>
      rw [hSound.number_eq]
      intro answer hMem
      rcases List.mem_append.mp hMem with hOld | hNew
      · exact List.mem_append_left _
          (hSound.applied_replied hOld)
      · exact List.mem_append_right _ hNew
  case applied_distinct =>
      rw [hSound.number_eq]
      exact nodup_numbers_concat hSound.applied_distinct
        hApplied
  case pending_iff =>
      refine ⟨Bool.noConfusion, fun hLast => ?_⟩
      rcases hLast with ⟨last, hLast, hBackground, _⟩
      simp only [latest?, List.getLast?_concat,
        Option.some.injEq] at hLast
      rw [← hLast] at hBackground
      cases hBackground
  case loaded =>
      intro hTrace
      cases hResult : tracer source with
      | ok reply =>
          refine ⟨x.issue source false, reply, ?_, ?_, rfl⟩
          · simp [latest?]
          · simp [issue]
      | error error =>
          simp [hResult, Reply.ofResult,
            Reply.empty] at hTrace

/- A reply to a request in flight goes to the queue. -/
theorem arrive
    (hSound : x.Sound)
    {request : Request}
    (hMem : request ∈ x.inFlight)
    (result : Except TracerError Reply) :
    Sound
      { x with
        session := x.session.arrive request.number result
        replies := x.replies ++
          [⟨request.number, result⟩] } where
  orderly := by
    apply hSound.orderly.arrive
    rwa [hSound.requests_eq]
  number_eq := hSound.number_eq
  numbered := hSound.numbered
  source_eq := hSound.source_eq
  requests_eq := by
    have hFlight :=
      x.inFlight_replied ⟨request.number, result⟩
    refine Eq.trans ?_ hFlight.symm
    rw [← hSound.requests_eq]
    rfl
  queued := by
    intro answer hAnswer
    rcases List.mem_append.mp hAnswer with hOld | hNew
    · exact List.mem_append_left _ (hSound.queued hOld)
    · exact List.mem_append_right _ hNew
  replies_issued := by
    intro reply hReply
    rcases List.mem_append.mp hReply with hOld | hNew
    · exact hSound.replies_issued reply hOld
    · rw [List.mem_singleton.mp hNew]
      exact hSound.inFlight_le hMem
  replies_distinct := by
    have hFresh :
        request.number ∉ x.replies.map Answer.number := by
      rcases List.mem_map.mp hMem with ⟨issue, hIssue, rfl⟩
      exact
        (of_decide_eq_true (List.mem_filter.mp hIssue).2).2
    exact
      nodup_numbers_concat hSound.replies_distinct hFresh
  applied_replied :=
    List.subset_append_of_subset_left _ hSound.applied_replied
  applied_distinct := hSound.applied_distinct
  pending_iff := hSound.pending_iff
  loaded := by
    intro hTrace
    rcases hSound.loaded hTrace with
      ⟨last, reply, hLast, hReply, hFrames⟩
    exact
      ⟨last, reply, hLast, List.mem_append_left _ hReply,
        hFrames⟩

/-
  While the answer to the latest request is in the queue,
  that request is in the background and not applied.
-/
theorem latest_of_queued
    (hSound : x.Sound)
    {answer : Answer}
    (hMem : answer ∈ x.session.answers)
    (hLatest : answer.number = x.session.requestNumber) :
    ∃ last, x.latest? = some last ∧
      answer.number = last.request.number ∧
      answer.number ∉ x.applied.map Answer.number := by
  have hPending : x.session.pending = true :=
    hSound.orderly.pending_of_queued hMem hLatest
  rcases hSound.pending_iff.mp hPending with
    ⟨last, hLast, _, hNew⟩
  have hNumber : answer.number = last.request.number := by
    rw [hLatest, hSound.latest_number hLast]
  rw [← hNumber] at hNew
  exact ⟨last, hLast, hNumber, hNew⟩

/- The answer to the latest request is applied. -/
theorem read
    (hSound : x.Sound)
    {answer : Answer}
    {rest : List Answer}
    (hMem : answer ∈ x.session.answers)
    (hLatest : answer.number = x.session.requestNumber)
    (hRest : rest ⊆ x.session.answers)
    (hOrderly :
      ({ x.session with answers := rest }.apply
        answer.result).2.Orderly) :
    { x with
      session :=
        ({ x.session with answers := rest }.apply
          answer.result).2
      applied := x.applied ++ [answer] }.Sound := by
  rcases hSound.latest_of_queued hMem hLatest with
    ⟨last, hLast, hNumber, hNew⟩
  have hReply : answer ∈ x.replies := hSound.queued hMem
  rw [apply_snd] at hOrderly ⊢
  constructor
  case orderly => exact hOrderly
  case number_eq => exact hSound.number_eq
  case numbered => exact hSound.numbered
  case source_eq => exact hSound.source_eq
  case requests_eq => exact hSound.requests_eq
  case queued =>
      exact fun _ hOther => hSound.queued (hRest hOther)
  case replies_issued => exact hSound.replies_issued
  case replies_distinct => exact hSound.replies_distinct
  case applied_replied =>
      intro other hOther
      rcases List.mem_append.mp hOther with hOld | hSame
      · exact hSound.applied_replied hOld
      · rwa [List.mem_singleton.mp hSame]
  case applied_distinct =>
      exact
        nodup_numbers_concat hSound.applied_distinct hNew
  case pending_iff =>
      refine ⟨Bool.noConfusion, fun hPending => ?_⟩
      rcases hPending with ⟨other, hOther, _, hNot⟩
      have hSame : last = other :=
        Option.some.inj (hLast.symm.trans hOther)
      refine absurd ?_ hNot
      rw [← hSame, ← hNumber]
      simp
  case loaded =>
      intro hTrace
      cases hResult : answer.result with
      | ok reply =>
          refine ⟨last, reply, hLast, ?_, rfl⟩
          rwa [← hNumber, ← hResult]
      | error error =>
          simp [hResult, Reply.ofResult,
            Reply.empty] at hTrace

/- Every event keeps a record sound. -/
theorem next
    {o : Occurrence}
    (hSound : x.Sound)
    (hNext : x.next? o = some y) : y.Sound := by
  rcases Option.map_eq_some_iff.mp hNext with
    ⟨t, hReact, rfl⟩
  have hOrderly : t.Orderly :=
    hSound.orderly.step (step_of_react hReact)
  -- A poll and a wait apply at most one answer, in one way.
  by_cases hRead : o.event = .poll ∨ o.event = .wait
  · have hIssued : x.issuedBy o.event = [] := by
      rcases hRead with hRead | hRead <;> rw [hRead] <;> rfl
    have hReplies : x.repliesBy o = [] := by
      rcases hRead with hRead | hRead <;>
        simp only [repliesBy, hRead]
    rw [hIssued, hReplies, List.append_nil, List.append_nil]
    rcases hSound.orderly.read_cases hRead with
      ⟨rest, hRest, ⟨hNone, hSame⟩ |
        ⟨answer, hMem, hLatest, hApplied, hSame⟩⟩
    · rw [hSame] at hReact
      cases hReact
      rw [hNone, List.append_nil]
      exact
        hSound.of_same hOrderly rfl rfl rfl hRest rfl rfl
    · rw [hSame] at hReact
      cases hReact
      rw [hApplied]
      exact hSound.read hMem hLatest hRest hOrderly
  · have hStep := step_of_react hReact
    cases hStep with
    | load tracer source =>
        simp only [repliesBy, appliedBy, List.append_nil]
        exact hSound.load source
    | loadNow tracer source =>
        exact hSound.loadNow tracer source
    | rerun tracer =>
        simp only [repliesBy, appliedBy, List.append_nil]
        have hSource := hSound.source_eq
        cases hLast : x.latest? with
        | none =>
            rw [hLast] at hSource
            simp only [issuedBy, hLast, List.append_nil]
            simp only [rerun, hSource, Option.map_none]
            exact hSound
        | some last =>
            rw [hLast] at hSource
            simp only [issuedBy, hLast]
            simp only [rerun, hSource, Option.map_some]
            exact hSound.load last.request.source
    | arrive tracer number request hFind =>
        have hNumber : request.number = number := by
          simpa using List.find?_some hFind
        rw [hSound.requests_eq] at hFind
        simp only [repliesBy, hFind, appliedBy, issuedBy,
          List.append_nil]
        rw [← hNumber]
        exact
          hSound.arrive (List.mem_of_find?_eq_some hFind) _
    | stray tracer number hFind =>
        rw [hSound.requests_eq] at hFind
        simp only [repliesBy, hFind, appliedBy, issuedBy,
          List.append_nil]
        exact hSound
    | poll tracer => exact absurd (Or.inl rfl) hRead
    | wait tracer => exact absurd (Or.inr rfl) hRead
    | control tracer event control moved p hControl hApply =>
        rcases x.quiet_of_control? hControl tracer with
          ⟨hIssued, hReplies, hApplied⟩
        rw [hIssued, hReplies, hApplied]
        simp only [List.append_nil]
        exact hSound.of_same hOrderly rfl rfl rfl
          (List.Subset.refl _) rfl rfl
    | refused tracer event control hControl =>
        rcases x.quiet_of_control? hControl tracer with
          ⟨hIssued, hReplies, hApplied⟩
        rw [hIssued, hReplies, hApplied]
        simp only [List.append_nil]
        exact hSound
    | view tracer =>
        simp only [repliesBy, appliedBy, issuedBy,
          List.append_nil]
        rw [view_snd, observeTo_eq] at hOrderly ⊢
        exact hSound.of_same hOrderly rfl rfl rfl
          (List.Subset.refl _) rfl rfl

end Sound

theorem Reachable.sound
    {x : Exchange}
    (hReach : x.Reachable) : x.Sound :=
  hReach.induction Sound.start
    fun _ _ _ hSound hNext => hSound.next hNext

------------------------------------------------------------
-- Faithful Records
------------------------------------------------------------

/-
  A session never mixes up its requests. Those under way are
  those in flight. What an event applies is the reply to the
  request that is then the latest, and no reply is applied
  twice; the reply to an older request is only taken from
  the queue. The session is pending as long as its latest
  request is in the background and not applied. A poll or
  wait has one outcome at most, that of the latest request;
  and the frames are those of the only reply to it.
-/
structure Faithful (x : Exchange) : Prop where
  under_way : x.session.requests = x.inFlight
  applied_latest :
    ∀ (o : Occurrence) (y : Exchange),
      x.next? o = some y →
      ∀ answer ∈ x.session.appliedBy o,
        answer ∈ y.replies ∧
        ∃ last, y.latest? = some last ∧
          answer.number = last.request.number
  applied_once : (x.applied.map Answer.number).Nodup
  outdated_dropped :
    ∀ answer ∈ x.session.answers,
      (∀ last, x.latest? = some last →
        answer.number ≠ last.request.number) →
      ∀ rest,
        { x.session with answers := rest }.accept answer =
          (none, { x.session with answers := rest })
  pending_iff :
    x.session.pending = true ↔
      ∃ last, x.latest? = some last ∧
        last.background = true ∧
        last.request.number ∉ x.applied.map Answer.number
  outcome_latest :
    ∀ o : Occurrence, o.event = .poll ∨ o.event = .wait →
      ∃ rest, rest ⊆ x.session.answers ∧
        (x.session.appliedBy o = [] ∧
            x.session.react o =
              (.ok (.outcome none),
                some { x.session with answers := rest }) ∨
          ∃ answer last,
            x.session.appliedBy o = [answer] ∧
            x.latest? = some last ∧
            answer.number = last.request.number ∧
            x.session.react o =
              (.ok (.outcome (some
                  (LoadOutcome.ofResult answer.result))),
                some ({ x.session with answers := rest }.apply
                  answer.result).2))
  trace_latest :
    x.session.trace ≠ [] →
      ∃ last reply, x.latest? = some last ∧
        x.session.source = some last.request.source ∧
        x.session.trace = reply.frames ∧
        ⟨last.request.number, .ok reply⟩ ∈ x.replies ∧
        ∀ other ∈ x.replies,
          other.number = last.request.number →
          other.result = .ok reply

namespace Sound

variable {x y : Exchange}

/-
  What an event applies is the reply to the latest request.
-/
theorem applied_latest
    {o : Occurrence}
    {answer : Answer}
    (hSound : x.Sound)
    (hNext : x.next? o = some y)
    (hApplied : answer ∈ x.session.appliedBy o) :
    answer ∈ y.replies ∧
      ∃ last, y.latest? = some last ∧
        answer.number = last.request.number := by
  have hReplied : answer ∈ y.replies := by
    apply (hSound.next hNext).applied_replied
    rcases Option.map_eq_some_iff.mp hNext with ⟨t, _, rfl⟩
    exact List.mem_append_right _ hApplied
  refine ⟨hReplied, ?_⟩
  rcases Option.map_eq_some_iff.mp hNext with ⟨t, _, rfl⟩
  rcases hSound.orderly.applied_cases o with
    ⟨hNone, _⟩ | ⟨other, u, hOne, hAwaits, _⟩
  · rw [hNone] at hApplied
    cases hApplied
  · rw [hOne, List.mem_singleton] at hApplied
    subst hApplied
    cases hAwaits with
    | now source hEvent =>
        refine ⟨x.issue source false, ?_, ?_⟩
        · simp [latest?, issuedBy, hEvent]
        · rw [hSound.number_eq]
          rfl
    | queued _ rest hRead hMem hLatest hRest =>
        rcases hSound.latest_of_queued hMem hLatest with
          ⟨last, hLast, hNumber, _⟩
        refine ⟨last, ?_, hNumber⟩
        rcases hRead with hRead | hRead <;>
          simpa [latest?, issuedBy, hRead] using hLast

/- Of replies to one request there is only one. -/
theorem reply_unique
    {reply other : Answer}
    (hSound : x.Sound)
    (hReply : reply ∈ x.replies)
    (hOther : other ∈ x.replies)
    (hNumber : other.number = reply.number) :
    other = reply :=
  List.inj_on_of_nodup_map hSound.replies_distinct
    hOther hReply hNumber

end Sound

/-
  Whatever the order of requests, arrivals, polls, waits and
  controls, the session stays faithful.
-/
theorem Reachable.faithful
    {x : Exchange}
    (hReach : x.Reachable) : x.Faithful := by
  have hSound := hReach.sound
  constructor
  case under_way => exact hSound.requests_eq
  case applied_latest =>
      intro o y hNext answer hApplied
      exact hSound.applied_latest hNext hApplied
  case applied_once => exact hSound.applied_distinct
  case outdated_dropped =>
      intro answer hMem hOld rest
      have hOutdated :
          answer.number ≠ x.session.requestNumber := by
        intro hLatest
        rcases hSound.latest_of_queued hMem hLatest with
          ⟨last, hLast, hNumber, _⟩
        exact hOld last hLast hNumber
      rw [accept, if_neg hOutdated]
  case pending_iff => exact hSound.pending_iff
  case outcome_latest =>
      intro o hRead
      rcases hSound.orderly.read_cases hRead with
        ⟨rest, hRest, hNone |
          ⟨answer, hMem, hLatest, hApplied, hReact⟩⟩
      · exact ⟨rest, hRest, Or.inl hNone⟩
      · rcases hSound.latest_of_queued hMem hLatest with
          ⟨last, hLast, hNumber, _⟩
        exact ⟨rest, hRest, Or.inr
          ⟨answer, last, hApplied, hLast, hNumber, hReact⟩⟩
  case trace_latest =>
      intro hTrace
      rcases hSound.loaded hTrace with
        ⟨last, reply, hLast, hReply, hFrames⟩
      refine ⟨last, reply, hLast, ?_, hFrames, hReply, ?_⟩
      · rw [hSound.source_eq, hLast]
        rfl
      · intro other hOther hNumber
        rw [hSound.reply_unique hReply hOther hNumber]

/-
  Two requests that are answered in the other order: the
  reply to the first comes late and is dropped.
-/
theorem faithful_after_late_reply :
    ∃ x : Exchange, x.Reachable ∧ x.Faithful ∧
      x.replies.map Answer.number = [2, 1] ∧
      x.applied.map Answer.number = [2] ∧
      x.session.source = some "b" ∧
      x.session.trace.length = 1 := by
  let result : Except TracerError Reply :=
    .ok ⟨[Frame.empty], none⟩
  let tracer : Tracer := fun _ => result
  let sent : Session := (new.load "a").load "b"
  let x : Exchange :=
    { session :=
        ((sent.arrive 2 result).arrive 1 result).wait.2.poll.2
      issued := [⟨⟨1, "a"⟩, true⟩, ⟨⟨2, "b"⟩, true⟩]
      replies := [⟨2, result⟩, ⟨1, result⟩]
      applied := [⟨2, result⟩] }
  have hReach : x.Reachable :=
    ⟨[⟨tracer, .load "a"⟩, ⟨tracer, .load "b"⟩,
      ⟨tracer, .arrive 2⟩, ⟨tracer, .arrive 1⟩,
      ⟨tracer, .wait⟩, ⟨tracer, .poll⟩], rfl⟩
  exact ⟨x, hReach, hReach.faithful, rfl, rfl, rfl, rfl⟩

end Exchange

end TracePlayer
