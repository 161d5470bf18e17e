import TracePlayer.Proofs.Viewer.Speed

/-
  This file proves that the time of a key matters to nothing
  but the time of the next advance: keys in the same order
  lead to the same viewer, whenever they are pressed.

  Main declarations:
    * `Playback.undated`, `Playback.toggled`
    * `Playback.undated_of_toggle`, `undated_of_setSpeed`
    * `Viewer.undated`, `Viewer.exists_act`
    * `Viewer.keysOf`, `Viewer.undated_of_presses`
-/

namespace TracePlayer

------------------------------------------------------------
-- Times of Keys
------------------------------------------------------------

namespace Playback

variable {p q : Playback}
variable {now : Nat}

/- A playback without the time of its next advance. -/
def undated (p : Playback) : Playback :=
  { p with deadline := p.deadline.map fun _ => 0 }

/- The other state, when there is something to play. -/
def toggled (p : Playback) : Playback :=
  match p.state with
  | .playing => { p with state := .paused, deadline := none }
  | .ready | .paused =>
      { p with state := .playing, deadline := some 0 }
  | .stopped => p

/- The time of a toggle matters to the next advance only. -/
theorem undated_of_toggle
    (hToggle : p.toggle now = .ok q) :
    q.undated = p.undated.toggled := by
  unfold toggle at hToggle
  unfold toggled
  have hState : p.undated.state = p.state := rfl
  rw [hState]
  cases hPlay : p.state with
  | playing =>
      simp only [isPlaying, hPlay, decide_true, if_true,
        pause, Except.ok.injEq] at hToggle
      rw [← hToggle]
      rfl
  | ready | paused =>
      simp only [isPlaying, hPlay, reduceCtorEq, decide_false,
        Bool.false_eq_true, if_false, play] at hToggle
      rcases exists_of_map_eq_ok hToggle with ⟨due, _, rfl⟩
      rfl
  | stopped =>
      simp only [isPlaying, hPlay, reduceCtorEq, decide_false,
        Bool.false_eq_true, if_false, play,
        Except.ok.injEq] at hToggle
      rw [hToggle]

/- The time of a new speed matters to the next advance only. -/
theorem undated_of_setSpeed
    {speed : Binary64}
    (hSet : p.setSpeed speed now = .ok q) :
    q.undated = { p.undated with speed := speed } := by
  rcases (setSpeed_cases hSet).2 with
    ⟨_, rfl⟩ | ⟨hDue, due, _, rfl⟩
  · rfl
  · rcases Option.isSome_iff_exists.mp hDue with ⟨old, hOld⟩
    unfold undated
    rw [hOld]
    rfl

end Playback

namespace Viewer

variable {v w u t : Viewer}
variable {now : Nat}

/- A viewer without the time of the next advance. -/
def undated (v : Viewer) : Viewer :=
  { v with
    session :=
      v.session.withPlayback v.session.playback.undated }

theorem undated_moveForward (v : Viewer) :
    v.moveForward.undated = v.undated.moveForward := by
  unfold moveForward
  rw [apply_ite undated]
  rfl

theorem undated_moveBack (v : Viewer) :
    v.moveBack.undated = v.undated.moveBack := by
  unfold moveBack
  rw [apply_ite undated]
  rfl

theorem undated_restart (v : Viewer) :
    v.restart.undated = v.undated.restart := by
  unfold restart
  rw [apply_ite undated]
  rfl

theorem undated_scrollUp (v : Viewer) :
    v.scrollUp.undated = v.undated.scrollUp := by
  unfold scrollUp undated
  cases v.focus <;> rfl

theorem undated_scrollDown (v : Viewer) :
    v.scrollDown.undated = v.undated.scrollDown := by
  unfold scrollDown undated
  cases v.focus <;> rfl

/- The other state of the playback, and what is said of it. -/
def togglesPlay (v : Viewer) : Viewer :=
  { v with
    session :=
      v.session.withPlayback v.session.playback.toggled }.say
    (if v.session.playback.toggled.isPlaying then "Playing..."
      else "Paused")

theorem undated_of_togglePlay
    (hToggle : v.togglePlay now = .ok w) :
    w.undated = v.undated.togglesPlay := by
  rcases exists_of_map_eq_ok hToggle with
    ⟨session, hSession, rfl⟩
  rcases exists_of_map_eq_ok hSession with ⟨p, hPlayback, rfl⟩
  have hShape :
      ({ v with session := v.session.withPlayback p }.say
          (if p.isPlaying then "Playing..."
            else "Paused")).undated =
        { v with
          session := v.session.withPlayback p.undated }.say
          (if p.undated.isPlaying then "Playing..."
            else "Paused") :=
    rfl
  refine hShape.trans ?_
  rw [Playback.undated_of_toggle hPlayback]
  rfl

/- The next speed on the scale, or what is said against it. -/
def changesSpeed
    (v : Viewer)
    (steps : Int) : Viewer :=
  let speed := adjustSpeed v.session.playback.speed steps
  if Playback.acceptsSpeed speed then
    { v with
      session :=
        v.session.withPlayback
          { v.session.playback with speed := speed } }.say
      ("Speed " ++ speed.write Binary64.plain ++ "x")
  else
    v.say (PlaybackError.invalidSpeed speed).message

/- A refusal names the speed that is not accepted. -/
theorem refused_of_setSpeed
    {s : Session}
    {speed refused : Binary64}
    (hRefused :
      s.setSpeed speed now = .error (.invalidSpeed refused)) :
    Playback.acceptsSpeed speed = false ∧ refused = speed := by
  cases hAccepts : Playback.acceptsSpeed speed with
  | true =>
      exact absurd hRefused
        (setSpeed_ne_invalidSpeed hAccepts refused)
  | false =>
      have hSet :
          s.setSpeed speed now =
            .error (.invalidSpeed speed) := by
        unfold Session.setSpeed Playback.setSpeed
        rw [hAccepts]
        rfl
      rw [hSet] at hRefused
      cases hRefused
      exact ⟨rfl, rfl⟩

theorem undated_of_changeSpeed
    {steps : Int}
    (hChange : v.changeSpeed now steps = .ok w) :
    w.undated = v.undated.changesSpeed steps := by
  have hSpeed :
      v.undated.session.playback.speed =
        v.session.playback.speed :=
    rfl
  unfold changeSpeed at hChange
  unfold changesSpeed
  dsimp only at hChange ⊢
  rw [hSpeed]
  split at hChange
  case h_1 session hSession =>
      rcases exists_of_map_eq_ok hSession with
        ⟨p, hPlayback, rfl⟩
      have hUndated := Playback.undated_of_setSpeed hPlayback
      cases hChange
      rw [if_pos (Playback.setSpeed_cases hPlayback).1]
      unfold undated say Session.withPlayback
      dsimp only
      rw [hUndated]
  case h_2 refused hRefused =>
      rcases refused_of_setSpeed hRefused with
        ⟨hAccepts, rfl⟩
      cases hChange
      rw [if_neg (by simp [hAccepts])]
      rfl
  case h_3 => cases hChange

/-
  What a key does to a viewer, apart from the time of the next
  advance, does not depend on the time of the key.
-/
theorem exists_act (key : Key) :
    ∃ act : Viewer → Viewer,
      ∀ {v w : Viewer} {now : Nat},
        v.press now key = .ok w →
          w.undated = act v.undated := by
  cases key with
  | char c =>
      unfold press pressChar
      dsimp only
      split
      · refine ⟨fun v => { v with quitting := true }, ?_⟩
        rintro v _ now ⟨⟩
        rfl
      split
      · exact ⟨togglesPlay, undated_of_togglePlay⟩
      split
      · exact ⟨fun v => v.changesSpeed 1,
          undated_of_changeSpeed⟩
      split
      · exact ⟨fun v => v.changesSpeed (-1),
          undated_of_changeSpeed⟩
      split
      · refine ⟨restart, ?_⟩
        rintro v _ now ⟨⟩
        exact undated_restart v
      · refine ⟨id, ?_⟩
        rintro v _ now ⟨⟩
        rfl
  | left =>
      refine ⟨moveBack, ?_⟩
      rintro v _ now ⟨⟩
      exact undated_moveBack v
  | right =>
      refine ⟨moveForward, ?_⟩
      rintro v _ now ⟨⟩
      exact undated_moveForward v
  | up =>
      refine ⟨scrollUp, ?_⟩
      rintro v _ now ⟨⟩
      exact undated_scrollUp v
  | down =>
      refine ⟨scrollDown, ?_⟩
      rintro v _ now ⟨⟩
      exact undated_scrollDown v
  | home | backspace =>
      refine ⟨moveToStart, ?_⟩
      rintro v _ now ⟨⟩
      rfl
  | last | enter =>
      refine ⟨moveToEnd, ?_⟩
      rintro v _ now ⟨⟩
      rfl
  | tab =>
      refine ⟨fun v => { v with focus := v.focus.other }, ?_⟩
      rintro v _ now ⟨⟩
      rfl
  | other =>
      refine ⟨id, ?_⟩
      rintro v _ now ⟨⟩
      rfl

/- The time and the key of an event, if it presses one. -/
def Event.press? : Event → Option (Nat × Key)
| press now key => some (now, key)
| draw _ _ | arrive _ _ | takeAnswers | advance _ => none

/- The keys that are pressed in a run, in their order. -/
def keysOf (events : List Event) : List Key :=
  (events.filterMap Event.press?).map Prod.snd

/-
  Keys in the same order have the same effect, apart from the
  time of the next advance, whenever they are pressed.
-/
theorem undated_of_presses
    {presses others : List (Nat × Key)}
    (hKeys : presses.map Prod.snd = others.map Prod.snd)
    (hSame : v.undated = u.undated)
    (hFirst :
      v.run (presses.map fun (now, key) => .press now key) =
        .ok w)
    (hSecond :
      u.run (others.map fun (now, key) => .press now key) =
        .ok t) :
    w.undated = t.undated := by
  induction presses generalizing others v u with
  | nil =>
      cases others with
      | nil =>
          cases hFirst
          cases hSecond
          exact hSame
      | cons => cases hKeys
  | cons press rest ih =>
      cases others with
      | nil => cases hKeys
      | cons other later =>
          rcases press with ⟨now, key⟩
          rcases other with ⟨time, otherKey⟩
          rcases List.cons_eq_cons.mp hKeys with ⟨hKey, hRest⟩
          dsimp only at hKey
          subst hKey
          rcases exists_of_bind_eq_ok hFirst with
            ⟨x, hPress, hFirstRest⟩
          rcases exists_of_bind_eq_ok hSecond with
            ⟨y, hOther, hSecondRest⟩
          rcases exists_act key with ⟨act, hAct⟩
          have hNext : x.undated = y.undated := by
            rw [hAct (mapError_eq_ok_iff.mp hPress),
              hAct (mapError_eq_ok_iff.mp hOther), hSame]
          exact ih hRest hNext hFirstRest hSecondRest

end Viewer

end TracePlayer
