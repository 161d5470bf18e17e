import TracePlayer.Proofs.Session.Answers
import TracePlayer.Proofs.Viewer.Run

/-
  This file proves that drawing has no influence on a viewer:
  it observes frames and scrolls the panes, and no event looks
  at that, so that a run has the same effect when nothing is
  drawn in it, unless it meets a view that cannot be drawn.

  Main declarations:
    * `Session.unobserved`, `Session.poll_of_unobserved_eq`
    * `Viewer.undrawn`, `Viewer.exists_of_draws`
    * `Viewer.map_undrawn_press`, `Viewer.map_undrawn_handle`
    * `Viewer.map_undrawn_run`
-/

namespace TracePlayer

------------------------------------------------------------
-- Observing and Drawing
------------------------------------------------------------

namespace Session

variable {s t : Session}

/- A session of which no frame was observed yet. -/
def unobserved (s : Session) : Session :=
  { s with carry := Carry.empty, observed := 0 }

/- A view only observes. -/
theorem unobserved_view (s : Session) :
    s.view.2.unobserved = s.unobserved := by
  rw [view_snd, observeTo_eq]
  rfl

/- A result is applied to the same effect. -/
theorem apply_of_unobserved_eq
    (hSame : s.unobserved = t.unobserved)
    (result : Except TracerError Reply) :
    s.apply result = t.apply result := by
  have hApply (u : Session) :
      u.unobserved.apply result = u.apply result :=
    rfl
  rw [← hApply s, ← hApply t, hSame]

/- Answers are read to the same effect. -/
theorem acceptAll_of_unobserved_eq
    (hSame : s.unobserved = t.unobserved)
    (outcome : Option LoadOutcome)
    (answers : List Answer) :
    (s.acceptAll outcome answers).1 =
        (t.acceptAll outcome answers).1 ∧
      (s.acceptAll outcome answers).2.unobserved =
        (t.acceptAll outcome answers).2.unobserved := by
  induction answers generalizing s t outcome with
  | nil => exact ⟨rfl, hSame⟩
  | cons answer rest ih =>
      have hNumber : s.requestNumber = t.requestNumber := by
        change s.unobserved.requestNumber = _
        rw [hSame]
        rfl
      unfold acceptAll accept
      rw [hNumber, apply_of_unobserved_eq hSame]
      by_cases hLatest : answer.number = t.requestNumber
      · rw [if_pos hLatest, if_pos hLatest]
        exact ih rfl _
      · rw [if_neg hLatest, if_neg hLatest]
        exact ih hSame _

/- A poll does not depend on what was observed. -/
theorem poll_of_unobserved_eq
    (hSame : s.unobserved = t.unobserved) :
    s.poll.1 = t.poll.1 ∧
      s.poll.2.unobserved = t.poll.2.unobserved := by
  have hAnswers : s.answers = t.answers := by
    change s.unobserved.answers = _
    rw [hSame]
    rfl
  have hRead :
      { s with answers := [] }.unobserved =
        { t with answers := [] }.unobserved :=
    congrArg (fun u => { u with answers := [] }) hSame
  unfold poll
  rw [hAnswers]
  exact acceptAll_of_unobserved_eq hRead none t.answers

end Session

namespace Viewer

variable {v w u t : Viewer}
variable {event : Event}
variable {now : Nat}
variable {key : Key}

/-
  A viewer without all that drawing changes: what is carried
  in its session, and how far its panes are scrolled.
-/
def undrawn (v : Viewer) : Viewer :=
  { v with
    session := v.session.unobserved
    sourceScroll := SourceScroll.start
    structuresScroll := 0 }

/- Settling changes nothing else. -/
theorem undrawn_settle
    (v : Viewer)
    (width height : Nat) :
    (v.settle width height).undrawn = v.undrawn := by
  unfold undrawn settle
  dsimp only
  rw [Session.unobserved_view]

/- Nor does a drawing of a view that can be drawn. -/
theorem exists_of_draws
    (hDraws : event.draws = true)
    (hDrawable : v.drawable = true) :
    ∃ w, v.handle event = .ok w ∧ w.undrawn = v.undrawn := by
  cases event with
  | draw width height =>
      exact
        ⟨_, handle_draw_eq_ok_iff.mpr ⟨hDrawable, rfl⟩,
          undrawn_settle v width height⟩
  | arrive | takeAnswers | advance | press => cases hDraws

/- Moving forward does not look at the drawing. -/
theorem undrawn_moveForward (v : Viewer) :
    v.undrawn.moveForward.undrawn = v.moveForward.undrawn := by
  unfold moveForward
  rw [apply_ite undrawn, apply_ite undrawn]
  rfl

theorem undrawn_moveBack (v : Viewer) :
    v.undrawn.moveBack.undrawn = v.moveBack.undrawn := by
  unfold moveBack
  rw [apply_ite undrawn, apply_ite undrawn]
  rfl

theorem undrawn_restart (v : Viewer) :
    v.undrawn.restart.undrawn = v.restart.undrawn := by
  unfold restart
  rw [apply_ite undrawn, apply_ite undrawn]
  rfl

/- Scrolling is undone by drawing, but does not look at it. -/
theorem undrawn_scrollUp (v : Viewer) :
    v.undrawn.scrollUp.undrawn = v.scrollUp.undrawn := by
  unfold scrollUp undrawn
  cases v.focus <;> rfl

theorem undrawn_scrollDown (v : Viewer) :
    v.undrawn.scrollDown.undrawn = v.scrollDown.undrawn := by
  unfold scrollDown undrawn
  cases v.focus <;> rfl

/- The keys for the speed do not look at the drawing. -/
theorem map_undrawn_changeSpeed
    (v : Viewer)
    (now : Nat)
    (steps : Int) :
    (v.undrawn.changeSpeed now steps).map undrawn =
      (v.changeSpeed now steps).map undrawn := by
  unfold changeSpeed Session.setSpeed
  dsimp only [undrawn, Session.unobserved]
  cases v.session.playback.setSpeed
      (adjustSpeed v.session.playback.speed steps) now with
  | ok p => rfl
  | error error => cases error <;> rfl

/- Nor does the key that plays. -/
theorem map_undrawn_togglePlay
    (v : Viewer)
    (now : Nat) :
    (v.undrawn.togglePlay now).map undrawn =
      (v.togglePlay now).map undrawn := by
  unfold togglePlay Session.toggle
  dsimp only [undrawn, Session.unobserved]
  cases v.session.playback.toggle now <;> rfl

/- No key looks at the drawing. -/
theorem map_undrawn_press
    (v : Viewer)
    (now : Nat)
    (key : Key) :
    (v.undrawn.press now key).map undrawn =
      (v.press now key).map undrawn := by
  cases key with
  | char c =>
      unfold press pressChar
      dsimp only
      split
      · rfl
      split
      · exact map_undrawn_togglePlay v now
      split
      · exact map_undrawn_changeSpeed v now 1
      split
      · exact map_undrawn_changeSpeed v now (-1)
      split
      · exact congrArg Except.ok (undrawn_restart v)
      · rfl
  | left => exact congrArg Except.ok (undrawn_moveBack v)
  | right => exact congrArg Except.ok (undrawn_moveForward v)
  | up => exact congrArg Except.ok (undrawn_scrollUp v)
  | down => exact congrArg Except.ok (undrawn_scrollDown v)
  | home | last | enter | backspace => rfl
  | tab | other => rfl

/- Answers are read to the same effect, drawn or not. -/
theorem undrawn_takeAnswers (v : Viewer) :
    v.undrawn.takeAnswers.undrawn = v.takeAnswers.undrawn := by
  have hSame :
      v.undrawn.session.unobserved = v.session.unobserved :=
    rfl
  rcases Session.poll_of_unobserved_eq hSame with
    ⟨hOutcome, hSession⟩
  unfold takeAnswers
  dsimp only
  rw [hOutcome]
  cases v.session.poll.1 with
  | none =>
      unfold undrawn at hSession ⊢
      dsimp only
      rw [hSession]
  | some outcome =>
      unfold undrawn at hSession ⊢
      dsimp only [takeOutcome, rewind, say]
      rw [hSession]

/- Time passes to the same effect. -/
theorem map_undrawn_advance
    (v : Viewer)
    (now : Nat) :
    (v.undrawn.advance now).map undrawn =
      (v.advance now).map undrawn := by
  unfold advance Session.tick
  dsimp only [undrawn, Session.unobserved]
  cases v.session.playback.tick now with
  | error error => rfl
  | ok result =>
      rcases result with ⟨moved, p⟩
      cases moved <;> rfl

/- No other event looks at the drawing. -/
theorem map_undrawn_handle
    (hNot : event.draws = false)
    (v : Viewer) :
    (v.undrawn.handle event).map undrawn =
      (v.handle event).map undrawn := by
  cases event with
  | draw => cases hNot
  | arrive number result => rfl
  | takeAnswers => exact congrArg Except.ok (undrawn_takeAnswers v)
  | advance now =>
      rw [handle, handle, map_mapError, map_mapError,
        map_undrawn_advance]
  | press now key =>
      rw [handle, handle, map_mapError, map_mapError,
        map_undrawn_press]

/-
  Events that do not stop at a drawing have the same effect
  when no drawing is left.
-/
theorem map_undrawn_run
    (hSame : v.undrawn = w.undrawn)
    {events : List Event}
    (hDrawable : v.FindsDrawable events) :
    (v.run events).map undrawn =
      (w.run (events.filter fun event =>
        !event.draws)).map undrawn := by
  induction events generalizing v w with
  | nil => exact congrArg Except.ok hSame
  | cons event rest ih =>
      cases hDraws : event.draws with
      | true =>
          rcases exists_of_draws hDraws (hDrawable.1 hDraws) with
            ⟨u, hHandle, hDrawn⟩
          rw [List.filter_cons_of_neg (by simp [hDraws]),
            run_cons hHandle]
          exact ih (hDrawn.trans hSame) (hDrawable.2 u hHandle)
      | false =>
          have hStep :
              (v.handle event).map undrawn =
                (w.handle event).map undrawn := by
            rw [← map_undrawn_handle hDraws, hSame,
              map_undrawn_handle hDraws]
          rw [List.filter_cons_of_pos (by simp [hDraws])]
          rcases cases_of_map_eq_map hStep with
            ⟨error, hFirst, hSecond⟩ |
              ⟨u, t, hFirst, hSecond, hNext⟩
          · rw [run, run, hFirst, hSecond]
            rfl
          · rw [run_cons hFirst, run_cons hSecond]
            exact ih hNext (hDrawable.2 u hFirst)

end Viewer

end TracePlayer
