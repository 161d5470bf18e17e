import TracePlayer.Proofs.Playback.Controls
import TracePlayer.Session

/-
  This file defines runs of a session: events one after the
  other, each with the tracer as it is at that time. A
  refused speed leaves the session as it is, and a deadline
  that cannot be represented ends the run.

  Main declarations:
    * `Session.Occurrence`
    * `Session.react`, `Session.run`
    * `Session.Reachable`
    * `Session.Event.control?`, `Session.Event.Navigates`
    * `Session.Step`, `Session.step_of_react`
    * `Session.run_preserves`, `Session.Reachable.induction`
-/

namespace TracePlayer

namespace Session

------------------------------------------------------------
-- Runs
------------------------------------------------------------

/-
  An event with the tracer at that time: a tracer need not
  answer the same source in the same way twice.
-/
structure Occurrence where
  tracer : Tracer
  event : Event

/- What a session says to an event. -/
abbrev Response :=
  Except PlaybackError Report

/-
  What a session says to an event, and the session after it,
  unless there is none.
-/
def react
    (s : Session)
    (o : Occurrence) : Response × Option Session :=
  match s.handle o.tracer o.event with
  | .ok (report, t) => (.ok report, some t)
  | .error (.invalidSpeed speed) =>
      (.error (.invalidSpeed speed), some s)
  | .error .timeOverflow => (.error .timeOverflow, none)

/-
  What a session says to events one after the other, and the
  session after the last, unless the run ended before.
-/
def run
    (s : Session) :
    List Occurrence → List Response × Option Session
| [] => ([], some s)
| o :: rest =>
    match s.react o with
    | (response, some t) =>
        let (responses, last) := t.run rest
        (response :: responses, last)
    | (response, none) => ([response], none)

/- The sessions that some run of a new session leads to. -/
def Reachable (t : Session) : Prop :=
  ∃ history, (new.run history).2 = some t

/- A run goes on after its first event. -/
theorem run_cons
    {s t : Session}
    {o : Occurrence}
    (hReact : (s.react o).2 = some t)
    (rest : List Occurrence) :
    s.run (o :: rest) =
      ((s.react o).1 :: (t.run rest).1, (t.run rest).2) := by
  rw [run]
  split
  case h_1 response u hPair =>
      simp only [hPair, Option.some.injEq] at hReact
      subst hReact
      rw [hPair]
  case h_2 response hPair =>
      simp [hPair] at hReact

/- A run ends with an event that leaves no session. -/
theorem run_cons_of_none
    {s : Session}
    {o : Occurrence}
    (hReact : (s.react o).2 = none)
    (rest : List Occurrence) :
    s.run (o :: rest) = ([(s.react o).1], none) := by
  rw [run]
  split
  case h_1 response u hPair =>
      simp [hPair] at hReact
  case h_2 response hPair =>
      rw [hPair]

/- The session after the first event of a run. -/
theorem exists_of_run_cons
    {s t : Session}
    {o : Occurrence}
    {rest : List Occurrence}
    (hRun : (s.run (o :: rest)).2 = some t) :
    ∃ u, (s.react o).2 = some u ∧
      (u.run rest).2 = some t := by
  cases hReact : (s.react o).2 with
  | none =>
      rw [run_cons_of_none hReact] at hRun
      cases hRun
  | some u =>
      rw [run_cons hReact] at hRun
      exact ⟨u, rfl, hRun⟩

/- What every event of a run keeps, the run keeps. -/
theorem run_preserves
    {P : Session → Prop}
    {s t : Session}
    {history : List Occurrence}
    (hStep :
      ∀ (u v : Session), ∀ o ∈ history,
        P u → (u.react o).2 = some v → P v)
    (hRun : (s.run history).2 = some t)
    (hStart : P s) : P t := by
  induction history generalizing s with
  | nil =>
      cases hRun
      exact hStart
  | cons o rest ih =>
      rcases exists_of_run_cons hRun with ⟨u, hReact, hRest⟩
      have hNext : P u :=
        hStep s u o List.mem_cons_self hStart hReact
      exact ih
        (fun u v o hMem =>
          hStep u v o (List.mem_cons_of_mem _ hMem))
        hRest hNext

/- A run goes on where the one before it ended. -/
theorem run_append
    {s t : Session}
    {history : List Occurrence}
    (hRun : (s.run history).2 = some t)
    (later : List Occurrence) :
    (s.run (history ++ later)).2 = (t.run later).2 := by
  induction history generalizing s with
  | nil =>
      cases hRun
      rfl
  | cons o rest ih =>
      rcases exists_of_run_cons hRun with ⟨u, hReact, hRest⟩
      rw [List.cons_append, run_cons hReact]
      exact ih hRest

/- A run of a reachable session leads to a reachable one. -/
theorem Reachable.run
    {s t : Session}
    {history : List Occurrence}
    (hReach : s.Reachable)
    (hRun : (s.run history).2 = some t) : t.Reachable := by
  rcases hReach with ⟨before, hBefore⟩
  exact
    ⟨before ++ history, (run_append hBefore _).trans hRun⟩

/-
  What every event keeps holds of every reachable session.
-/
theorem Reachable.induction
    {P : Session → Prop}
    (hNew : P new)
    (hStep :
      ∀ (s t : Session) (o : Occurrence),
        P s → (s.react o).2 = some t → P t)
    {t : Session}
    (hReach : t.Reachable) : P t := by
  rcases hReach with ⟨history, hRun⟩
  exact run_preserves (fun u v o _ => hStep u v o) hRun hNew

------------------------------------------------------------
-- Navigation
------------------------------------------------------------

namespace Event

/-
  What an event does to the playback, if it is a control.
-/
def control? : Event → Option Playback.Control
| play now => some (.play now)
| pause => some .pause
| toggle now => some (.toggle now)
| step delta => some (.step delta)
| seek index => some (.seek index)
| seekEnd => some (.seek wordMax)
| setSpeed speed now => some (.setSpeed speed now)
| tick now => some (.tick now)
| load _ | loadNow _ | rerun | arrive _ | poll | wait => none
| view => none

/- The controls and views: everything but loading. -/
def Navigates (event : Event) : Prop :=
  event.control?.isSome = true ∨ event = .view

instance (event : Event) : Decidable event.Navigates := by
  unfold Navigates
  infer_instance

/- What a control reports. -/
def reportOf (moved : Bool) : Event → Report
| tick _ => .flag moved
| _ => .done

/- A control of a session never loads. -/
theorem loads_of_control?
    {event : Event}
    {control : Playback.Control}
    (hControl : event.control? = some control) :
    control.loads = false := by
  cases event <;> cases hControl <;> rfl

end Event

/- A control acts on the playback and on nothing else. -/
theorem handle_of_control?
    {event : Event}
    {control : Playback.Control}
    (hControl : event.control? = some control)
    (tracer : Tracer)
    (s : Session) :
    s.handle tracer event =
      (s.playback.apply control).map fun (moved, p) =>
        (event.reportOf moved, s.withPlayback p) := by
  cases event with
  | play now =>
      cases hControl
      simp only [handle, Session.play, Playback.apply]
      cases s.playback.play now <;> rfl
  | pause =>
      cases hControl
      rfl
  | toggle now =>
      cases hControl
      simp only [handle, Session.toggle, Playback.apply]
      cases s.playback.toggle now <;> rfl
  | step delta =>
      cases hControl
      rfl
  | seek index =>
      cases hControl
      rfl
  | seekEnd =>
      cases hControl
      rfl
  | setSpeed speed now =>
      cases hControl
      simp only [handle, Session.setSpeed, Playback.apply]
      cases s.playback.setSpeed speed now <;> rfl
  | tick now =>
      cases hControl
      simp only [handle, Session.tick, Playback.apply]
      cases s.playback.tick now <;> rfl
  | load _ | loadNow _ | rerun | arrive _ => cases hControl
  | poll | wait | view => cases hControl

------------------------------------------------------------
-- Steps
------------------------------------------------------------

/-
  All that one event can do to a session. A stray arrival is
  one for which no request is under way.
-/
inductive Step (s : Session) : Occurrence → Session → Prop where
| load (tracer : Tracer) (source : String) :
    Step s ⟨tracer, .load source⟩ (s.load source)
| loadNow (tracer : Tracer) (source : String) :
    Step s ⟨tracer, .loadNow source⟩
      (s.loadNow tracer source).2
| rerun (tracer : Tracer) :
    Step s ⟨tracer, .rerun⟩ s.rerun.2
| arrive
    (tracer : Tracer)
    (number : Nat)
    (request : Request)
    (hFind :
      s.requests.find? (fun r => r.number = number) =
        some request) :
    Step s ⟨tracer, .arrive number⟩
      (s.arrive number (tracer request.source))
| stray
    (tracer : Tracer)
    (number : Nat)
    (hFind :
      s.requests.find? (fun r => r.number = number) = none) :
    Step s ⟨tracer, .arrive number⟩ s
| poll (tracer : Tracer) :
    Step s ⟨tracer, .poll⟩ s.poll.2
| wait (tracer : Tracer) :
    Step s ⟨tracer, .wait⟩ s.wait.2
| control
    (tracer : Tracer)
    (event : Event)
    (control : Playback.Control)
    (moved : Bool)
    (p : Playback)
    (hControl : event.control? = some control)
    (hApply : s.playback.apply control = .ok (moved, p)) :
    Step s ⟨tracer, event⟩ (s.withPlayback p)
| refused
    (tracer : Tracer)
    (event : Event)
    (control : Playback.Control)
    (hControl : event.control? = some control) :
    Step s ⟨tracer, event⟩ s
| view (tracer : Tracer) :
    Step s ⟨tracer, .view⟩ s.view.2

/- A control that has an answer is a step. -/
theorem step_of_control
    {s t : Session}
    {o : Occurrence}
    {control : Playback.Control}
    (hControl : o.event.control? = some control)
    (hReact : (s.react o).2 = some t) : Step s o t := by
  rw [react, handle_of_control? hControl] at hReact
  cases hApply : s.playback.apply control with
  | error error =>
      rw [hApply] at hReact
      cases error with
      | invalidSpeed speed =>
          cases hReact
          exact
            Step.refused o.tracer o.event control hControl
      | timeOverflow => cases hReact
  | ok result =>
      rw [hApply] at hReact
      cases hReact
      exact Step.control o.tracer o.event control
        result.1 result.2 hControl hApply

/- Whatever a session does is a step. -/
theorem step_of_react
    {s t : Session}
    {o : Occurrence}
    (hReact : (s.react o).2 = some t) : Step s o t := by
  cases hControl : o.event.control? with
  | some control => exact step_of_control hControl hReact
  | none =>
      obtain ⟨tracer, event⟩ := o
      cases event with
      | load source =>
          cases hReact
          exact Step.load tracer source
      | loadNow source =>
          cases hReact
          exact Step.loadNow tracer source
      | rerun =>
          cases hReact
          exact Step.rerun tracer
      | arrive number =>
          simp only [react, handle] at hReact
          cases hFind :
              s.requests.find? fun r => r.number = number with
          | none =>
              rw [hFind] at hReact
              cases hReact
              exact Step.stray tracer number hFind
          | some request =>
              rw [hFind] at hReact
              cases hReact
              exact Step.arrive tracer number request hFind
      | poll =>
          cases hReact
          exact Step.poll tracer
      | wait =>
          cases hReact
          exact Step.wait tracer
      | view =>
          cases hReact
          exact Step.view tracer
      | play _ | pause | toggle _ | step _ => cases hControl
      | seek _ | seekEnd | setSpeed _ _ => cases hControl
      | tick _ => cases hControl

end Session

end TracePlayer
