import TracePlayer.Program
import TracePlayer.Proofs.Session.Restart
import TracePlayer.Proofs.Settings.Speed
import TracePlayer.Proofs.Viewer.Run

/-
  This file proves that the speed of a viewer stays on the
  scale from the command line on: only the keys for the speed
  change it, what they set is accepted, and nobody is ever
  told of a refused speed.

  Main declarations:
    * `Viewer.Event.speedAfter`, `Viewer.Event.halvesAfter`
    * `Viewer.GoesOn`, `Viewer.goesOn_handle`
    * `Viewer.exists_handle`
    * `Viewer.SteadyAfter`, `Viewer.GoesOn.steadyAfter`
    * `Display.exists_run_of_early`
    * `Settings.display_steady`, `Settings.viewer_steady`
-/

namespace TracePlayer

namespace Viewer

open Playback

variable {v w : Viewer}
variable {event : Event}
variable {now : Nat}

------------------------------------------------------------
-- Keys for the Speed
------------------------------------------------------------

/- The speed at which a viewer plays. -/
def speed (v : Viewer) : Binary64 :=
  v.session.playback.speed

/- The speed after a key. -/
def speedAfterKey
    (speed : Binary64) : Key → Binary64
| .char c =>
    if c = '+' ∨ c = '=' then adjustSpeed speed 1
    else if c = '-' ∨ c = '_' then adjustSpeed speed (-1)
    else speed
| _ => speed

/- The number of halves after a key. -/
def halvesAfterKey
    (n : Int) : Key → Int
| .char c =>
    if c = '+' ∨ c = '=' then min (n + 1) 10
    else if c = '-' ∨ c = '_' then max (n - 1) 1
    else n
| _ => n

namespace Event

/- The speed after an event: only keys change it. -/
def speedAfter
    (speed : Binary64) : Event → Binary64
| press _ key => speedAfterKey speed key
| draw _ _ | arrive _ _ | takeAnswers | advance _ => speed

/- The number of halves after an event. -/
def halvesAfter
    (n : Int) : Event → Int
| press _ key => halvesAfterKey n key
| draw _ _ | arrive _ _ | takeAnswers | advance _ => n

/- An event keeps the speed on the scale. -/
theorem onScale_speedAfter
    {speed : Binary64}
    (hScale : onScale speed = true)
    (event : Event) :
    onScale (event.speedAfter speed) = true := by
  cases event with
  | draw | arrive | takeAnswers | advance => exact hScale
  | press now key =>
      cases key with
      | char c =>
          unfold speedAfter speedAfterKey
          dsimp only
          by_cases hUp : c = '+' ∨ c = '='
          · rw [if_pos hUp]
            exact onScale_adjustSpeed hScale 1
          · rw [if_neg hUp]
            by_cases hDown : c = '-' ∨ c = '_'
            · rw [if_pos hDown]
              exact onScale_adjustSpeed hScale (-1)
            · rw [if_neg hDown]
              exact hScale
      | left | right | up | down => exact hScale
      | home | last | enter | backspace => exact hScale
      | tab | other => exact hScale

/- An event keeps the speed a number of halves. -/
theorem isHalves_speedAfter
    {speed : Binary64}
    {n : Int}
    (hHalves : IsHalves speed n)
    (hScale : onScale speed = true)
    (event : Event) :
    IsHalves (event.speedAfter speed) (event.halvesAfter n) := by
  cases event with
  | draw | arrive | takeAnswers | advance => exact hHalves
  | press now key =>
      cases key with
      | char c =>
          unfold speedAfter halvesAfter
          unfold speedAfterKey halvesAfterKey
          dsimp only
          by_cases hUp : c = '+' ∨ c = '='
          · rw [if_pos hUp, if_pos hUp]
            exact hHalves.faster hScale
          · rw [if_neg hUp, if_neg hUp]
            by_cases hDown : c = '-' ∨ c = '_'
            · rw [if_pos hDown, if_pos hDown]
              exact hHalves.slower hScale
            · rw [if_neg hDown, if_neg hDown]
              exact hHalves
      | left | right | up | down => exact hHalves
      | home | last | enter | backspace => exact hHalves
      | tab | other => exact hHalves

end Event

------------------------------------------------------------
-- Refusals
------------------------------------------------------------

/- A text that tells of no refused speed. -/
def TellsNoRefusal (text : String) : Prop :=
  ∀ speed, text ≠ (PlaybackError.invalidSpeed speed).message

/- Only a text with that first letter tells of a refusal. -/
theorem tellsNoRefusal_of_head
    {text : String}
    (hHead : text.toList.head? ≠ some 'I') :
    TellsNoRefusal text := by
  intro speed hText
  have hMessage :
      (PlaybackError.invalidSpeed speed).message =
        "Invalid playback speed " ++
          speed.write Binary64.plain ++
          ": must be greater than 0" :=
    rfl
  apply hHead
  rw [hText, hMessage]
  generalize speed.write Binary64.plain = shown
  rw [String.toList_append, String.toList_append]
  simp

/- What is said of a speed that is set. -/
theorem tellsNoRefusal_speed (shown : String) :
    TellsNoRefusal ("Speed " ++ shown ++ "x") := by
  apply tellsNoRefusal_of_head
  rw [String.toList_append, String.toList_append]
  simp

/- What is said of an outcome tells of no refusal. -/
theorem tellsNoRefusal_outcomeText (outcome : LoadOutcome) :
    TellsNoRefusal (outcomeText outcome) := by
  apply tellsNoRefusal_of_head
  cases outcome with
  | loaded frames => simp [outcomeText, String.toList_append]
  | empty => simp [outcomeText]
  | failed error => simp [outcomeText]

------------------------------------------------------------
-- Steps
------------------------------------------------------------

/-
  A viewer that goes on at a speed and says nothing new of a
  refusal.
-/
structure GoesOn
    (v : Viewer)
    (speed : Binary64)
    (w : Viewer) : Prop where
  speed_eq : w.speed = speed
  message :
    TellsNoRefusal v.message → TellsNoRefusal w.message

namespace GoesOn

theorem refl (v : Viewer) : v.GoesOn v.speed v :=
  ⟨rfl, id⟩

/- It goes on from where it came. -/
theorem trans
    {u : Viewer}
    {first speed : Binary64}
    (hFirst : v.GoesOn first u)
    (hNext : u.GoesOn speed w) : v.GoesOn speed w :=
  ⟨hNext.speed_eq, fun hTold =>
    hNext.message (hFirst.message hTold)⟩

/- A viewer that says something else. -/
theorem of_head
    {speed : Binary64}
    (hSpeed : w.speed = speed)
    (hHead : w.message.toList.head? ≠ some 'I') :
    v.GoesOn speed w :=
  ⟨hSpeed, fun _ => tellsNoRefusal_of_head hHead⟩

end GoesOn

theorem goesOn_moveForward (v : Viewer) :
    v.GoesOn v.speed v.moveForward := by
  unfold moveForward
  split
  case isTrue => exact .of_head rfl (by simp [say])
  case isFalse => exact .of_head rfl (by simp [jump, say])

theorem goesOn_moveBack (v : Viewer) :
    v.GoesOn v.speed v.moveBack := by
  unfold moveBack
  split
  case isTrue => exact .of_head rfl (by simp [say])
  case isFalse => exact .of_head rfl (by simp [jump, say])

theorem goesOn_restart (v : Viewer) :
    v.GoesOn v.speed v.restart := by
  unfold restart
  split
  case isTrue => exact .refl v
  case isFalse => exact .of_head rfl (by simp [start, say])

theorem goesOn_scrollUp (v : Viewer) :
    v.GoesOn v.speed v.scrollUp := by
  unfold scrollUp
  split <;> exact ⟨rfl, id⟩

theorem goesOn_scrollDown (v : Viewer) :
    v.GoesOn v.speed v.scrollDown := by
  unfold scrollDown
  split <;> exact ⟨rfl, id⟩

theorem goesOn_takeAnswers (v : Viewer) :
    v.GoesOn v.speed v.takeAnswers := by
  have hSpeed := v.session.speed_poll
  unfold takeAnswers
  dsimp only
  split
  case h_1 outcome hOutcome =>
      exact
        ⟨hSpeed, fun _ => tellsNoRefusal_outcomeText outcome⟩
  case h_2 => exact ⟨hSpeed, id⟩

theorem goesOn_settle
    (v : Viewer)
    (width height : Nat) :
    v.GoesOn v.speed (v.settle width height) :=
  ⟨v.session.speed_view, id⟩

/- Time changes the frame, not the speed. -/
theorem goesOn_advance
    (hAdvance : v.advance now = .ok w) : v.GoesOn v.speed w := by
  rcases exists_of_map_eq_ok hAdvance with
    ⟨⟨moved, session⟩, hTick, rfl⟩
  rcases exists_of_map_eq_ok hTick with
    ⟨⟨moved, p⟩, hPlayback, hSession⟩
  cases hSession
  have hApply :
      v.session.playback.apply (.tick now) = .ok (moved, p) :=
    hPlayback
  have hSpeed : p.speed = v.speed :=
    (length_speed_apply hApply).2
  dsimp only
  split
  case isTrue => exact .of_head hSpeed (by simp [jump, say])
  case isFalse => exact ⟨hSpeed, id⟩

theorem goesOn_togglePlay
    (hToggle : v.togglePlay now = .ok w) : v.GoesOn v.speed w := by
  rcases exists_of_map_eq_ok hToggle with
    ⟨session, hSession, rfl⟩
  rcases exists_of_map_eq_ok hSession with
    ⟨p, hPlayback, rfl⟩
  have hApply :
      v.session.playback.apply (.toggle now) = .ok (false, p) := by
    rw [apply, hPlayback]
    rfl
  refine .of_head (length_speed_apply hApply).2 ?_
  unfold say
  dsimp only
  split <;> simp

/- A session refuses no speed that its playback accepts. -/
theorem setSpeed_ne_invalidSpeed
    {s : Session}
    {speed : Binary64}
    (hAccepts : acceptsSpeed speed = true)
    (refused : Binary64) :
    s.setSpeed speed now ≠ .error (.invalidSpeed refused) := by
  intro hRefused
  unfold Session.setSpeed at hRefused
  cases hPlayback : s.playback.setSpeed speed now with
  | ok p =>
      rw [hPlayback] at hRefused
      cases hRefused
  | error error =>
      rw [hPlayback] at hRefused
      cases hRefused
      exact Playback.setSpeed_ne_invalidSpeed hAccepts _ hPlayback

/-
  A key for the speed sets a speed on the scale, so that it is
  not refused.
-/
theorem goesOn_changeSpeed
    {steps : Int}
    (hScale : onScale v.speed = true)
    (hChange : v.changeSpeed now steps = .ok w) :
    v.GoesOn (adjustSpeed v.speed steps) w := by
  have hAccepts :=
    acceptsSpeed_of_onScale (onScale_adjustSpeed hScale steps)
  unfold changeSpeed at hChange
  dsimp only at hChange
  split at hChange
  case h_1 session hSession =>
      rcases exists_of_map_eq_ok hSession with
        ⟨p, hPlayback, rfl⟩
      cases hChange
      constructor
      · rcases (setSpeed_cases hPlayback).2 with
          ⟨_, rfl⟩ | ⟨_, _, _, rfl⟩
        · rfl
        · rfl
      · exact fun _ => tellsNoRefusal_speed _
  case h_2 refused hRefused =>
      exact absurd hRefused
        (setSpeed_ne_invalidSpeed hAccepts refused)
  case h_3 => cases hChange

/- Of the keys only those for the speed change it. -/
theorem goesOn_pressChar
    {c : Char}
    (hScale : onScale v.speed = true)
    (hPress : v.pressChar now c = .ok w) :
    v.GoesOn (speedAfterKey v.speed (.char c)) w := by
  unfold pressChar at hPress
  unfold speedAfterKey
  dsimp only
  by_cases hUp : c = '+' ∨ c = '='
  · have hOther : ¬ (c = 'q' ∨ c = 'Q') ∧ c ≠ ' ' := by
      rcases hUp with rfl | rfl <;> decide
    rw [if_pos hUp]
    rw [if_neg hOther.1, if_neg hOther.2, if_pos hUp] at hPress
    exact goesOn_changeSpeed hScale hPress
  · rw [if_neg hUp] at hPress ⊢
    by_cases hDown : c = '-' ∨ c = '_'
    · have hOther : ¬ (c = 'q' ∨ c = 'Q') ∧ c ≠ ' ' := by
        rcases hDown with rfl | rfl <;> decide
      rw [if_pos hDown]
      rw [if_neg hOther.1, if_neg hOther.2,
        if_pos hDown] at hPress
      exact goesOn_changeSpeed hScale hPress
    · rw [if_neg hDown] at hPress ⊢
      split at hPress
      case isTrue =>
          cases hPress
          exact ⟨rfl, id⟩
      case isFalse =>
          split at hPress
          case isTrue => exact goesOn_togglePlay hPress
          case isFalse =>
              split at hPress
              case isTrue =>
                  cases hPress
                  exact goesOn_restart v
              case isFalse =>
                  cases hPress
                  exact .refl v

theorem goesOn_press
    {key : Key}
    (hScale : onScale v.speed = true)
    (hPress : v.press now key = .ok w) :
    v.GoesOn (speedAfterKey v.speed key) w := by
  cases key with
  | char c => exact goesOn_pressChar hScale hPress
  | left =>
      cases hPress
      exact goesOn_moveBack v
  | right =>
      cases hPress
      exact goesOn_moveForward v
  | up =>
      cases hPress
      exact goesOn_scrollUp v
  | down =>
      cases hPress
      exact goesOn_scrollDown v
  | home | backspace =>
      cases hPress
      exact .of_head rfl (by simp [moveToStart, jump, say])
  | last | enter =>
      cases hPress
      exact .of_head rfl (by simp [moveToEnd, jump, say])
  | tab =>
      cases hPress
      exact ⟨rfl, id⟩
  | other =>
      cases hPress
      exact .refl v

/- Of all events only keys for the speed change it. -/
theorem goesOn_handle
    (hScale : onScale v.speed = true)
    (hHandle : v.handle event = .ok w) :
    v.GoesOn (event.speedAfter v.speed) w := by
  cases event with
  | draw width height =>
      rw [(handle_draw_eq_ok_iff.mp hHandle).2]
      exact goesOn_settle v width height
  | arrive number result =>
      cases hHandle
      exact ⟨rfl, id⟩
  | takeAnswers =>
      cases hHandle
      exact goesOn_takeAnswers v
  | advance now =>
      exact goesOn_advance (mapError_eq_ok_iff.mp hHandle)
  | press now key =>
      exact goesOn_press hScale (mapError_eq_ok_iff.mp hHandle)

------------------------------------------------------------
-- Events in Time
------------------------------------------------------------

/- A speed on the scale can be set in time. -/
theorem exists_setSpeed
    {s : Session}
    {speed : Binary64}
    (hScale : onScale speed = true)
    (hEarly : now + 2 * second < timeLimit) :
    ∃ t, s.setSpeed speed now = .ok t := by
  apply exists_map_eq_ok
  rcases exists_apply_of_onScale s.playback
      (.setSpeed speed now) hScale
      (fun _ hTime => Option.some.inj hTime ▸ hEarly) with
    ⟨moved, q, hApply⟩
  rcases exists_of_map_eq_ok hApply with ⟨r, hSet, _⟩
  exact ⟨r, hSet⟩

theorem exists_togglePlay
    (hScale : onScale v.speed = true)
    (hEarly : now + 2 * second < timeLimit) :
    ∃ w, v.togglePlay now = .ok w := by
  apply exists_map_eq_ok
  apply exists_map_eq_ok
  rcases exists_apply_of_onScale v.session.playback
      (.toggle now) hScale
      (fun _ hTime => Option.some.inj hTime ▸ hEarly) with
    ⟨moved, q, hApply⟩
  rcases exists_of_map_eq_ok hApply with ⟨r, hToggle, _⟩
  exact ⟨r, hToggle⟩

theorem exists_advance
    (hScale : onScale v.speed = true)
    (hEarly : now + 2 * second < timeLimit) :
    ∃ w, v.advance now = .ok w := by
  apply exists_map_eq_ok
  apply exists_map_eq_ok
  rcases exists_apply_of_onScale v.session.playback
      (.tick now) hScale
      (fun _ hTime => Option.some.inj hTime ▸ hEarly) with
    ⟨moved, q, hTick⟩
  exact ⟨_, hTick⟩

theorem exists_changeSpeed
    (hScale : onScale v.speed = true)
    (hEarly : now + 2 * second < timeLimit)
    (steps : Int) :
    ∃ w, v.changeSpeed now steps = .ok w := by
  rcases exists_setSpeed (s := v.session)
      (onScale_adjustSpeed hScale steps) hEarly with
    ⟨session, hSession⟩
  have hSet :
      v.session.setSpeed
          (adjustSpeed v.session.playback.speed steps) now =
        .ok session :=
    hSession
  unfold changeSpeed
  dsimp only
  rw [hSet]
  exact ⟨_, rfl⟩

theorem exists_press
    (hScale : onScale v.speed = true)
    (hEarly : now + 2 * second < timeLimit)
    (key : Key) : ∃ w, v.press now key = .ok w := by
  cases key with
  | char c =>
      unfold press pressChar
      dsimp only
      repeat' split
      · exact ⟨_, rfl⟩
      · exact exists_togglePlay hScale hEarly
      · exact exists_changeSpeed hScale hEarly 1
      · exact exists_changeSpeed hScale hEarly (-1)
      · exact ⟨_, rfl⟩
      · exact ⟨_, rfl⟩
  | left | right | up | down => exact ⟨_, rfl⟩
  | home | last | enter | backspace => exact ⟨_, rfl⟩
  | tab | other => exact ⟨_, rfl⟩

/-
  An early event at a speed on the scale works, if it does not
  draw a view that cannot be drawn.
-/
theorem exists_handle
    (hScale : onScale v.speed = true)
    (hEarly : event.Early)
    (hDrawable : event.draws = true → v.drawable = true) :
    ∃ w, v.handle event = .ok w := by
  cases event with
  | draw width height =>
      exact
        ⟨_, handle_draw_eq_ok_iff.mpr ⟨hDrawable rfl, rfl⟩⟩
  | arrive number result => exact ⟨_, rfl⟩
  | takeAnswers => exact ⟨_, rfl⟩
  | advance now =>
      rcases exists_advance hScale (hEarly now rfl) with
        ⟨w, hAdvance⟩
      exact ⟨w, mapError_eq_ok_iff.mpr hAdvance⟩
  | press now key =>
      rcases exists_press hScale (hEarly now rfl) key with
        ⟨w, hPress⟩
      exact ⟨w, mapError_eq_ok_iff.mpr hPress⟩

------------------------------------------------------------
-- Runs
------------------------------------------------------------

variable {events : List Event}

/- After a run the speed is what the keys for it made of it. -/
theorem goesOn_run
    (hScale : onScale v.speed = true)
    (hRun : v.run events = .ok w) :
    v.GoesOn (events.foldl Event.speedAfter v.speed) w := by
  induction events generalizing v with
  | nil =>
      cases hRun
      exact .refl _
  | cons event rest ih =>
      rcases exists_of_bind_eq_ok hRun with ⟨u, hHandle, hRest⟩
      have hStep := goesOn_handle hScale hHandle
      have hNext : onScale u.speed = true := by
        rw [hStep.speed_eq]
        exact event.onScale_speedAfter hScale
      have hLater := ih hNext hRest
      rw [hStep.speed_eq] at hLater
      exact hStep.trans hLater

/-
  Events in time, at a speed on the scale, form a run, if none
  of them stops at a drawing.
-/
theorem exists_run_of_early
    (hScale : onScale v.speed = true)
    (hEarly : ∀ event ∈ events, event.Early)
    (hDrawable : v.FindsDrawable events) :
    ∃ w, v.run events = .ok w := by
  refine exists_run (P := fun u => onScale u.speed = true) ?_
    hDrawable hScale
  intro u event hMem hScale hShown
  rcases exists_handle hScale (hEarly event hMem) hShown with
    ⟨t, hHandle⟩
  refine ⟨t, hHandle, ?_⟩
  rw [(goesOn_handle hScale hHandle).speed_eq]
  exact event.onScale_speedAfter hScale

/- Events keep a speed on the scale. -/
theorem onScale_foldl
    {speed : Binary64}
    (hScale : onScale speed = true)
    (events : List Event) :
    onScale (events.foldl Event.speedAfter speed) = true := by
  induction events generalizing speed with
  | nil => exact hScale
  | cons event rest ih =>
      exact ih (event.onScale_speedAfter hScale)

/- Events keep a speed a number of halves. -/
theorem isHalves_foldl
    {speed : Binary64}
    {n : Int}
    (hHalves : IsHalves speed n)
    (hScale : onScale speed = true)
    (events : List Event) :
    IsHalves (events.foldl Event.speedAfter speed)
      (events.foldl Event.halvesAfter n) := by
  induction events generalizing speed n with
  | nil => exact hHalves
  | cons event rest ih =>
      exact ih (event.isHalves_speedAfter hHalves hScale)
        (event.onScale_speedAfter hScale)

/-
  What is known of a viewer that began at a speed, after some
  events: its speed is on the scale and what the keys for it
  made of the first, exactly so between halves; whatever key
  comes next, the speed it sets is not refused and can be set
  in time; and nobody is told of a refused speed.
-/
structure SteadyAfter
    (first : Binary64)
    (events : List Event)
    (v : Viewer) : Prop where
  onScale : onScale v.speed = true
  speed_eq : v.speed = events.foldl Event.speedAfter first
  halves :
    ∀ n, IsHalves first n →
      IsHalves v.speed (events.foldl Event.halvesAfter n)
  accepted :
    ∀ steps now,
      now + 2 * second < timeLimit →
        ∃ session,
          v.session.setSpeed (adjustSpeed v.speed steps) now =
            .ok session
  notRefused :
    ∀ steps now refused,
      v.session.setSpeed (adjustSpeed v.speed steps) now ≠
        .error (.invalidSpeed refused)
  message : TellsNoRefusal v.message

/- A viewer that goes on, on the scale, is steady. -/
theorem GoesOn.steadyAfter
    (hGoes : v.GoesOn (events.foldl Event.speedAfter v.speed) w)
    (hScale : TracePlayer.onScale v.speed = true)
    (hTold : TellsNoRefusal v.message) :
    w.SteadyAfter v.speed events := by
  have hNow : TracePlayer.onScale w.speed = true := by
    rw [hGoes.speed_eq]
    exact onScale_foldl hScale events
  constructor
  case onScale => exact hNow
  case speed_eq => exact hGoes.speed_eq
  case halves =>
    intro n hHalves
    rw [hGoes.speed_eq]
    exact isHalves_foldl hHalves hScale events
  case accepted =>
    intro steps now hEarly
    exact exists_setSpeed (onScale_adjustSpeed hNow steps) hEarly
  case notRefused =>
    intro steps now refused
    exact setSpeed_ne_invalidSpeed
      (acceptsSpeed_of_onScale (onScale_adjustSpeed hNow steps))
      refused
  case message => exact hGoes.message hTold

end Viewer

/- The loop of a display does not fail in time. -/
theorem Display.exists_run_of_early
    {d : Display}
    {now : Nat}
    (hScale : onScale d.viewer.speed = true)
    (hEarly : now + 2 * second < timeLimit)
    (keys : List Key) :
    ∃ e left, Display.run now d keys = .ok (e, left) := by
  induction keys generalizing d with
  | nil => exact ⟨_, _, rfl⟩
  | cons key rest ih =>
      unfold Display.run
      dsimp only
      split
      case isTrue => exact ⟨_, _, rfl⟩
      case isFalse =>
          have hSpeed :
              d.draw.viewer.takeAnswers.speed =
                d.viewer.speed :=
            (Viewer.goesOn_takeAnswers _).speed_eq.trans
              (d.viewer.goesOn_settle _ _).speed_eq
          have hAnswered :
              onScale d.draw.viewer.takeAnswers.speed = true := by
            rw [hSpeed]
            exact hScale
          rcases Viewer.exists_advance hAnswered hEarly with
            ⟨u, hAdvance⟩
          have hAdvanced : onScale u.speed = true := by
            rw [(Viewer.goesOn_advance hAdvance).speed_eq]
            exact hAnswered
          rcases Viewer.exists_press hAdvanced hEarly key with
            ⟨t, hPress⟩
          have hPressed : onScale t.speed = true := by
            rw [(Viewer.goesOn_press hAdvanced hPress).speed_eq]
            exact
              (Viewer.Event.press now key).onScale_speedAfter
                hAdvanced
          rcases ih (d := ⟨t, d.draw.terminal⟩) hPressed with
            ⟨e, left, hLater⟩
          exact
            ⟨e, left,
              bind_eq_ok_iff.mpr
                ⟨u, hAdvance,
                  bind_eq_ok_iff.mpr ⟨t, hPress, hLater⟩⟩⟩

------------------------------------------------------------
-- From the Command Line
------------------------------------------------------------

namespace Settings

variable {address : Option String}
variable {arguments : Arguments}
variable {settings : Settings}

/- The new session of a run, at the speed of the settings. -/
def session (settings : Settings) : Session :=
  Session.new.withPlayback
    { Playback.new with speed := settings.speed }

/- The viewer that a run opens, with its request on the way. -/
def viewer
    (settings : Settings)
    (source : String) : Viewer :=
  (Viewer.new settings.session source).start

/- A new session takes the speed of checked settings. -/
theorem setSpeed_new
    (hScale : onScale settings.speed = true)
    (now : Nat) :
    Session.new.setSpeed settings.speed now =
      .ok settings.session := by
  unfold Session.setSpeed Playback.setSpeed
  rw [if_pos (acceptsSpeed_of_onScale hScale)]
  rfl

/- The viewer begins at that speed and has told of no refusal. -/
theorem start_viewer
    (hScale : onScale settings.speed = true)
    (source : String) :
    onScale (settings.viewer source).speed = true ∧
      Viewer.TellsNoRefusal (settings.viewer source).message := by
  constructor
  · have hFirst :
        (settings.viewer source).speed = settings.speed :=
      rfl
    rw [hFirst]
    exact hScale
  · exact Viewer.tellsNoRefusal_of_head
      (by simp [viewer, Viewer.start, Viewer.say])

/-
  On a display the viewer handles all keys in time, unless it
  quits or cannot be drawn, and is steady after the rounds for
  those that it has read.
-/
theorem display_steady
    (hScale : onScale settings.speed = true)
    {now : Nat}
    (hEarly : now + 2 * second < timeLimit)
    (source : String)
    (terminal : Terminal)
    (keys : List Key) :
    ∃ last read left,
      Display.run now ⟨settings.viewer source, terminal⟩ keys =
          .ok (last, left) ∧
        keys = read ++ left ∧
        (left ≠ [] →
          last.viewer.quitting = true ∨
            last.viewer.drawable = false) ∧
        last.viewer.SteadyAfter settings.speed
          (read.flatMap
            (Display.round terminal.width terminal.height
              now)) := by
  rcases start_viewer hScale source with ⟨hStart, hTold⟩
  rcases Display.exists_run_of_early
      (d := ⟨settings.viewer source, terminal⟩) hStart hEarly
      keys with
    ⟨last, left, hRun⟩
  rcases Display.exists_rounds hRun with
    ⟨read, w, hKeys, hRounds, hLast, hLeft⟩
  refine ⟨last, read, left, hRun, hKeys, hLeft, ?_⟩
  have hGoes := Viewer.goesOn_run hStart hRounds
  have hSettled :=
    w.goesOn_settle terminal.width terminal.height
  rw [hGoes.speed_eq] at hSettled
  rw [hLast]
  exact (hGoes.trans hSettled).steadyAfter hStart hTold

/-
  The speed of checked settings stays on the scale: the new
  session takes it, so that the program dumps or opens its
  viewer, whatever it runs in; every event of that viewer
  works in time, unless it draws a view that cannot be drawn,
  and the viewer is steady after all of them.
-/
theorem viewer_steady
    (hSettings :
      ofArguments address arguments = .ok settings)
    (source : String) :
    (∀ now,
      Session.new.setSpeed settings.speed now =
        .ok settings.session) ∧
      (∀ (m : Type → Type) [Monad m]
        (world : Surroundings m)
        (filter : LogFilter),
        Program.runSource world filter settings source = do
          Program.log world settings filter
            (LogMessage.opening settings)
          if settings.dump then
            Program.dump world filter settings
              settings.session source
          else
            pure (.opened (settings.viewer source))) ∧
      ∀ events,
        ((∀ event ∈ events, event.Early) →
          (settings.viewer source).FindsDrawable events →
            ∃ v, (settings.viewer source).run events = .ok v) ∧
        ∀ v, (settings.viewer source).run events = .ok v →
          v.SteadyAfter settings.speed events := by
  have hScale := onScale_of_ofArguments hSettings
  have hFirst :
      (settings.viewer source).speed = settings.speed :=
    rfl
  rcases start_viewer hScale source with ⟨hStart, hTold⟩
  refine ⟨setSpeed_new hScale, ?_, ?_⟩
  · intro m _ world filter
    rw [Program.runSource, setSpeed_new hScale]
    rfl
  · intro events
    constructor
    · intro hEarly hDrawable
      exact Viewer.exists_run_of_early hStart hEarly hDrawable
    · intro v hRun
      rw [← hFirst]
      exact
        (Viewer.goesOn_run hStart hRun).steadyAfter hStart hTold

/-
  From four and a half, two steps up reach five and stay
  there; a step down while the trace plays leads back.
-/
theorem viewer_steady_at_top :
    ofArguments none
        { Arguments.empty with
          file := some "main.py"
          traceFile := some "trace.json"
          speed := some (halves 9) } =
      .ok ⟨"main.py", .file "trace.json", halves 9,
        none, false⟩ ∧
      ∃ v,
        (viewer ⟨"main.py", .file "trace.json", halves 9,
          none, false⟩ "x = 1").run
            [.draw 80 24, .press 0 (.char '+'),
              .press 0 (.char '='),
              .arrive 1 (.ok ⟨[.empty, .empty], none⟩),
              .takeAnswers, .press 0 (.char ' '),
              .advance second, .press second (.char '-')] =
          .ok v ∧
          IsHalves v.speed 9 ∧ onScale v.speed = true := by
  have hSettings :
      ofArguments none
          { Arguments.empty with
            file := some "main.py"
            traceFile := some "trace.json"
            speed := some (halves 9) } =
        .ok ⟨"main.py", .file "trace.json", halves 9,
          none, false⟩ := by
    decide +kernel
  rcases viewer_steady hSettings "x = 1" with ⟨_, _, hEvents⟩
  rcases hEvents
      [.draw 80 24, .press 0 (.char '+'), .press 0 (.char '='),
        .arrive 1 (.ok ⟨[.empty, .empty], none⟩),
        .takeAnswers, .press 0 (.char ' '), .advance second,
        .press second (.char '-')] with ⟨hRuns, hAfter⟩
  have hDrawn :
      ∀ event ∈
          [Viewer.Event.press 0 (.char '+'),
            .press 0 (.char '='),
            .arrive 1 (.ok ⟨[.empty, .empty], none⟩),
            .takeAnswers, .press 0 (.char ' '),
            .advance second, .press second (.char '-')],
        event.draws = false := by
    simp [Viewer.Event.draws]
  rcases hRuns (by decide)
      ⟨fun _ => rfl, fun _ _ =>
        Viewer.findsDrawable_of_not_draws hDrawn⟩ with
    ⟨v, hRun⟩
  have hSteady := hAfter v hRun
  dsimp only at hSteady
  have hFirst : IsHalves (halves 9) (9 : Nat) :=
    isHalves_halves 9 (by decide)
  have hHalves : IsHalves v.speed 9 := by
    simpa [Viewer.Event.halvesAfter, Viewer.halvesAfterKey]
      using hSteady.halves (9 : Nat) hFirst
  exact ⟨hSettings, v, hRun, hHalves, hSteady.onScale⟩

end Settings

end TracePlayer
