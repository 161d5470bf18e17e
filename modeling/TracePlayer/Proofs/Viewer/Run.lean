import TracePlayer.Proofs.Result
import TracePlayer.Proofs.Session.Answers
import TracePlayer.Viewer.Run

/-
  This file defines runs of a viewer: it is drawn, answers of
  the tracer arrive and are read, time passes, and keys are
  pressed, in any order. A run stops at a time after the last
  one, or at a view that cannot be drawn. The loop that draws
  a viewer on a terminal is such a run.

  Main declarations:
    * `Viewer.Event`, `Viewer.Event.Early`
    * `Viewer.draw`, `Viewer.drawable_settle`
    * `Viewer.handle`, `Viewer.run`
    * `Viewer.run_preserves`
    * `Viewer.FindsDrawable`, `Viewer.findsDrawable_iff`
    * `Viewer.exists_run`
    * `Display.round`, `Display.exists_rounds`
-/

namespace TracePlayer

namespace Viewer

variable {v w : Viewer}

------------------------------------------------------------
-- Events
------------------------------------------------------------

/-
  Everything that can happen to a viewer. A request is
  answered, or fails, by an arriving result; nothing is
  assumed of the results or of their order.
-/
inductive Event where
| draw (width height : Nat)
| arrive (number : Nat) (result : Except TracerError Reply)
| takeAnswers
| advance (now : Nat)
| press (now : Nat) (key : Key)

namespace Event

/- The time of an event, if it reads the clock. -/
def time? : Event → Option Nat
| advance now | press now _ => some now
| draw _ _ | arrive _ _ | takeAnswers => none

/- An event two seconds before the last time that there is. -/
def Early (event : Event) : Prop :=
  ∀ now,
    event.time? = some now → now + 2 * second < timeLimit

instance (event : Event) : Decidable event.Early :=
  match hTime : event.time? with
  | none => isTrue (by simp [Early, hTime])
  | some now =>
      decidable_of_iff (now + 2 * second < timeLimit)
        (by simp [Early, hTime])

/- Whether an event draws the viewer. -/
def draws : Event → Bool
| draw _ _ => true
| arrive _ _ | takeAnswers | advance _ | press _ _ => false

end Event

/-
  What stops a viewer: a failure of its playback, or a view
  that cannot be drawn.
-/
inductive Failure where
| playback (error : PlaybackError)
| undrawable

/- Draw a viewer: settle it, and then show it if possible. -/
def draw
    (v : Viewer)
    (width height : Nat) : Except Failure Viewer :=
  let settled := v.settle width height
  if settled.drawable then .ok settled else .error .undrawable

/- What an event does. -/
def handle
    (v : Viewer) : Event → Except Failure Viewer
| .draw width height => v.draw width height
| .arrive number result =>
    .ok { v with session := v.session.arrive number result }
| .takeAnswers => .ok v.takeAnswers
| .advance now => (v.advance now).mapError .playback
| .press now key => (v.press now key).mapError .playback

/- A settled viewer shows the view that it showed before. -/
theorem drawable_settle
    (v : Viewer)
    (width height : Nat) :
    (v.settle width height).drawable = v.drawable := by
  have hView :
      (v.settle width height).session.view = v.session.view :=
    v.session.view_view
  unfold drawable structuresPane
  rw [hView]
  rfl

/- Drawing settles a viewer with a view that can be drawn. -/
theorem handle_draw_eq_ok_iff
    {width height : Nat} :
    v.handle (.draw width height) = .ok w ↔
      v.drawable = true ∧ w = v.settle width height := by
  unfold handle draw
  dsimp only
  rw [drawable_settle]
  cases v.drawable with
  | true =>
      rw [if_pos rfl, Except.ok.injEq, eq_comm]
      exact (and_iff_right rfl).symm
  | false =>
      exact iff_of_false nofun fun hBoth => nomatch hBoth.1

/- An event stops at a view that it draws and that cannot be. -/
theorem handle_eq_undrawable_iff
    {event : Event} :
    v.handle event = .error .undrawable ↔
      event.draws = true ∧ v.drawable = false := by
  cases event with
  | draw width height =>
      unfold handle draw
      dsimp only
      rw [drawable_settle]
      cases v.drawable with
      | true =>
          exact iff_of_false nofun fun hBoth => nomatch hBoth.2
      | false => exact iff_of_true rfl ⟨rfl, rfl⟩
  | arrive | takeAnswers => exact iff_of_false nofun nofun
  | advance | press =>
      refine iff_of_false (fun hStop => ?_) nofun
      rcases mapError_eq_error_iff.mp hStop with ⟨_, _, hCause⟩
      cases hCause

------------------------------------------------------------
-- Runs
------------------------------------------------------------

/- Events one after the other. -/
def run
    (v : Viewer) : List Event → Except Failure Viewer
| [] => .ok v
| event :: rest => v.handle event >>= fun w => w.run rest

/- A run goes on after its first event. -/
theorem run_cons
    {event : Event}
    (hHandle : v.handle event = .ok w)
    (rest : List Event) :
    v.run (event :: rest) = w.run rest := by
  rw [run, hHandle]
  rfl

/- What every event of a run keeps, the run keeps. -/
theorem run_preserves
    {P : Viewer → Prop}
    {events : List Event}
    (hStep :
      ∀ (u t : Viewer), ∀ event ∈ events,
        P u → u.handle event = .ok t → P t)
    (hRun : v.run events = .ok w)
    (hStart : P v) : P w := by
  induction events generalizing v with
  | nil =>
      cases hRun
      exact hStart
  | cons event rest ih =>
      rcases exists_of_bind_eq_ok hRun with ⟨u, hHandle, hRest⟩
      have hNext : P u :=
        hStep v u event List.mem_cons_self hStart hHandle
      exact ih
        (fun u t event hMem =>
          hStep u t event (List.mem_cons_of_mem _ hMem))
        hRest hNext

------------------------------------------------------------
-- Drawing in Runs
------------------------------------------------------------

/- Every drawing of a run finds a view that can be drawn. -/
def FindsDrawable
    (v : Viewer) : List Event → Prop
| [] => True
| event :: rest =>
    (event.draws = true → v.drawable = true) ∧
      ∀ w, v.handle event = .ok w → w.FindsDrawable rest

/- A run stops at a drawing unless all of them find one. -/
theorem findsDrawable_iff
    {events : List Event} :
    v.FindsDrawable events ↔
      v.run events ≠ .error .undrawable := by
  induction events generalizing v with
  | nil => exact iff_of_true trivial nofun
  | cons event rest ih =>
      unfold FindsDrawable
      cases hHandle : v.handle event with
      | error failure =>
          have hRun :
              v.run (event :: rest) = .error failure := by
            rw [run, hHandle]
            rfl
          rw [hRun, ← hHandle, ne_eq, handle_eq_undrawable_iff]
          simp [hHandle]
      | ok w =>
          have hDraws :
              event.draws = true → v.drawable = true := by
            intro hDraws
            cases hShown : v.drawable with
            | true => rfl
            | false =>
                have hStop :=
                  handle_eq_undrawable_iff.mpr ⟨hDraws, hShown⟩
                rw [hHandle] at hStop
                cases hStop
          rw [run_cons hHandle, ← ih]
          constructor
          · rintro ⟨_, hRest⟩
            exact hRest w rfl
          · intro hRest
            refine ⟨hDraws, ?_⟩
            rintro _ ⟨⟩
            exact hRest

/- A run to its end has not stopped at a drawing. -/
theorem findsDrawable_of_run
    {events : List Event}
    (hRun : v.run events = .ok w) : v.FindsDrawable events := by
  rw [findsDrawable_iff, hRun]
  nofun

/- A run in which nothing is drawn finds no view at all. -/
theorem findsDrawable_of_not_draws
    {events : List Event}
    (hNone : ∀ event ∈ events, event.draws = false) :
    v.FindsDrawable events := by
  induction events generalizing v with
  | nil => trivial
  | cons event rest ih =>
      rw [List.forall_mem_cons] at hNone
      refine ⟨fun hDraws => ?_, fun w _ => ih hNone.2⟩
      rw [hNone.1] at hDraws
      cases hDraws

/-
  If a view can be drawn wherever the events lead, none of
  them stops at a drawing.
-/
theorem findsDrawable_of_preserves
    {P : Viewer → Prop}
    {events : List Event}
    (hStep :
      ∀ (u t : Viewer), ∀ event ∈ events,
        P u → u.handle event = .ok t → P t)
    (hDrawable : ∀ u, P u → u.drawable = true)
    (hStart : P v) : v.FindsDrawable events := by
  induction events generalizing v with
  | nil => trivial
  | cons event rest ih =>
      refine ⟨fun _ => hDrawable v hStart, ?_⟩
      intro w hHandle
      exact ih
        (fun u t event hMem =>
          hStep u t event (List.mem_cons_of_mem _ hMem))
        (hStep v w event List.mem_cons_self hStart hHandle)

/-
  A run ends well when every event does that finds what the
  events before it keep, and a view that can be drawn.
-/
theorem exists_run
    {P : Viewer → Prop}
    {events : List Event}
    (hStep :
      ∀ (u : Viewer), ∀ event ∈ events,
        P u → (event.draws = true → u.drawable = true) →
          ∃ t, u.handle event = .ok t ∧ P t)
    (hDrawable : v.FindsDrawable events)
    (hStart : P v) : ∃ w, v.run events = .ok w := by
  induction events generalizing v with
  | nil => exact ⟨v, rfl⟩
  | cons event rest ih =>
      rcases hStep v event List.mem_cons_self hStart
          hDrawable.1 with
        ⟨u, hHandle, hNext⟩
      rw [run_cons hHandle]
      exact ih
        (fun u event hMem =>
          hStep u event (List.mem_cons_of_mem _ hMem))
        (hDrawable.2 u hHandle) hNext

end Viewer

------------------------------------------------------------
-- Displays
------------------------------------------------------------

namespace Display

/-
  The events of a round in which a key is handled: a drawing,
  the answers, the time that passes, and the key.
-/
def round
    (width height now : Nat)
    (key : Key) : List Viewer.Event :=
  [ .draw width height, .takeAnswers, .advance now,
    .press now key ]

/- Drawing does not change the size of a terminal. -/
theorem size_draw (d : Display) :
    d.draw.terminal.width = d.terminal.width ∧
      d.draw.terminal.height = d.terminal.height := by
  unfold draw
  dsimp only
  split <;> exact ⟨rfl, rfl⟩

/-
  The loop of a display runs its viewer through one round for
  each key that it reads, and draws it at last. It leaves keys
  unread only if the viewer is quitting or cannot be drawn.
-/
theorem exists_rounds
    {now : Nat}
    {d e : Display}
    {keys left : List Key}
    (hRun : Display.run now d keys = .ok (e, left)) :
    ∃ read w,
      keys = read ++ left ∧
        d.viewer.run
            (read.flatMap
              (round d.terminal.width d.terminal.height now)) =
          .ok w ∧
        e.viewer =
          w.settle d.terminal.width d.terminal.height ∧
        (left ≠ [] →
          e.viewer.quitting = true ∨
            e.viewer.drawable = false) := by
  induction keys generalizing d with
  | nil =>
      cases hRun
      exact ⟨[], d.viewer, rfl, rfl, rfl, fun h => absurd rfl h⟩
  | cons key rest ih =>
      unfold Display.run at hRun
      dsimp only at hRun
      split at hRun
      case isTrue hStops =>
          cases hRun
          refine ⟨[], d.viewer, rfl, rfl, rfl, fun _ => ?_⟩
          rwa [Bool.or_eq_true, Bool.not_eq_true'] at hStops
      case isFalse hGoesOn =>
          rw [Bool.or_eq_true, Bool.not_eq_true', not_or,
            Bool.not_eq_false] at hGoesOn
          rcases exists_of_bind_eq_ok hRun with
            ⟨u, hRefresh, hPressed⟩
          rcases exists_of_bind_eq_ok hPressed with
            ⟨t, hPress, hLater⟩
          rcases ih hLater with
            ⟨read, w, rfl, hRest, hLast, hLeft⟩
          -- The later rounds draw on a terminal of the same size.
          dsimp only at hRest hLast
          rw [d.size_draw.1, d.size_draw.2] at hRest hLast
          have hDrawable : d.viewer.drawable = true :=
            (d.viewer.drawable_settle _ _).symm.trans hGoesOn.2
          have hShown :
              d.viewer.handle
                  (.draw d.terminal.width d.terminal.height) =
                .ok d.draw.viewer :=
            Viewer.handle_draw_eq_ok_iff.mpr ⟨hDrawable, rfl⟩
          have hAdvance :
              d.draw.viewer.takeAnswers.handle (.advance now) =
                .ok u :=
            mapError_eq_ok_iff.mpr hRefresh
          have hKey : u.handle (.press now key) = .ok t :=
            mapError_eq_ok_iff.mpr hPress
          refine ⟨key :: read, w, rfl, ?_, hLast, hLeft⟩
          rw [List.flatMap_cons, round, List.cons_append,
            Viewer.run_cons hShown, List.cons_append,
            Viewer.run_cons rfl, List.cons_append,
            Viewer.run_cons hAdvance, List.cons_append,
            Viewer.run_cons hKey]
          exact hRest

end Display

end TracePlayer
