import TracePlayer.Playback
import TracePlayer.Proofs.Result

/-
  This file proves what each control does to a playback and
  what all controls keep.

  Main declarations:
    * `Playback.play_cases`, `pause_cases`, `toggle_cases`
    * `Playback.setSpeed_cases`, `tick_cases`
    * `Playback.Sound`
    * `Playback.Sound.apply`
    * `Playback.length_speed_apply`
-/

namespace TracePlayer

namespace Playback

------------------------------------------------------------
-- What Controls Do
------------------------------------------------------------

/- Loading keeps nothing but the speed. -/
theorem load_eq_of_speed_eq
    {p q : Playback}
    (hSpeed : p.speed = q.speed)
    (length : Nat) :
    p.load length = q.load length := by
  simp [load, hSpeed]

/-
  Playing changes nothing, or it starts a playback that is
  ready or paused and sets the deadline.
-/
theorem play_cases
    {p q : Playback}
    {now : Nat}
    (hPlay : p.play now = .ok q) :
    q = p ∨
      (p.state = .ready ∨ p.state = .paused) ∧
        ∃ due, p.nextDeadline now = .ok due ∧
          q = { p with
            state := .playing
            deadline := some due } := by
  cases hState : p.state with
  | stopped =>
      simp only [play, hState, Except.ok.injEq] at hPlay
      exact Or.inl hPlay.symm
  | ready =>
      simp only [play, hState] at hPlay
      exact Or.inr ⟨Or.inl rfl, exists_of_map_eq_ok hPlay⟩
  | playing =>
      simp only [play, hState, Except.ok.injEq] at hPlay
      exact Or.inl hPlay.symm
  | paused =>
      simp only [play, hState] at hPlay
      exact Or.inr ⟨Or.inr rfl, exists_of_map_eq_ok hPlay⟩

/-
  Pausing changes nothing, or it stops a playback that is
  playing and drops the deadline.
-/
theorem pause_cases (p : Playback) :
    p.pause = p ∨
      p.state = .playing ∧
        p.pause =
          { p with state := .paused, deadline := none } := by
  by_cases hPlaying : p.state = .playing
  · exact Or.inr
      ⟨hPlaying, by simp [pause, isPlaying, hPlaying]⟩
  · exact Or.inl (by simp [pause, isPlaying, hPlaying])

/- Toggling plays or pauses. -/
theorem toggle_cases
    {p q : Playback}
    {now : Nat}
    (hToggle : p.toggle now = .ok q) :
    q = p.pause ∨ p.play now = .ok q := by
  unfold toggle at hToggle
  split at hToggle
  · exact Or.inl (Except.ok.inj hToggle).symm
  · exact Or.inr hToggle

/-
  A changed speed is an accepted one, and a deadline that is
  there is set anew.
-/
theorem setSpeed_cases
    {p q : Playback}
    {speed : Binary64}
    {now : Nat}
    (hSet : p.setSpeed speed now = .ok q) :
    acceptsSpeed speed = true ∧
      (p.deadline = none ∧ q = { p with speed := speed } ∨
        p.deadline.isSome = true ∧
          ∃ due,
            { p with speed := speed }.nextDeadline now =
              .ok due ∧
            q = { p with
              speed := speed
              deadline := some due }) := by
  unfold setSpeed at hSet
  split at hSet
  case isTrue hAccepts =>
      refine ⟨hAccepts, ?_⟩
      dsimp only at hSet
      split at hSet
      case h_1 old hDeadline =>
          exact Or.inr
            ⟨by simp [hDeadline], exists_of_map_eq_ok hSet⟩
      case h_2 hDeadline =>
          exact
            Or.inl ⟨hDeadline, (Except.ok.inj hSet).symm⟩
  case isFalse => cases hSet

/-
  A tick changes nothing, or it is due, moves to the next
  frame if there is one, and sets the next deadline.
-/
theorem tick_cases
    {p q : Playback}
    {now : Nat}
    {moved : Bool}
    (hTick : p.tick now = .ok (moved, q)) :
    moved = false ∧ q = p ∨
      ∃ due next,
        p.deadline = some due ∧ due ≤ now ∧
        p.nextDeadline now = .ok next ∧
        moved =
          decide (min (p.index + 1) p.lastIndex ≠ p.index) ∧
        q = { p with
          index := min (p.index + 1) p.lastIndex
          deadline := some next } := by
  unfold tick at hTick
  split at hTick
  case h_1 =>
      cases hTick
      exact Or.inl ⟨rfl, rfl⟩
  case h_2 due hDeadline =>
      split at hTick
      case isTrue =>
          cases hTick
          exact Or.inl ⟨rfl, rfl⟩
      case isFalse hDue =>
          rcases exists_of_map_eq_ok hTick with
            ⟨next, hNext, hResult⟩
          cases hResult
          exact Or.inr ⟨due, next, hDeadline,
            Nat.not_lt.mp hDue, hNext, rfl, rfl⟩

/- The result of a control that reports no move. -/
theorem eq_ok_of_map_pair
    {result : Except PlaybackError Playback}
    {q : Playback}
    {moved : Bool}
    (hMap :
      result.map (fun q => (false, q)) = .ok (moved, q)) :
    result = .ok q := by
  rcases exists_of_map_eq_ok hMap with ⟨r, hResult, hPair⟩
  cases hPair
  exact hResult

------------------------------------------------------------
-- Sound Playbacks
------------------------------------------------------------

/-
  The index is in the trace, and a playback is stopped
  exactly when it has nothing to play.
-/
structure Sound (p : Playback) : Prop where
  index_le : p.index ≤ p.lastIndex
  stopped_iff : p.state = .stopped ↔ p.length = 0

theorem sound_load
    (p : Playback)
    (length : Nat) : (p.load length).Sound where
  index_le := Nat.zero_le _
  stopped_iff := by
    by_cases hLength : length = 0 <;> simp [load, hLength]

theorem sound_new : new.Sound where
  index_le := Nat.le_refl _
  stopped_iff := by simp [new]

namespace Sound

variable {p q : Playback}
variable {now : Nat}

/- A playback that is not stopped has something to play. -/
theorem length_ne_zero
    (hSound : p.Sound)
    (hState : p.state ≠ .stopped) : p.length ≠ 0 :=
  fun hZero => hState (hSound.stopped_iff.mpr hZero)

theorem seek
    (hSound : p.Sound)
    (index : Nat) : (p.seek index).Sound where
  index_le := Nat.min_le_right _ _
  stopped_iff := hSound.stopped_iff

theorem play
    (hSound : p.Sound)
    (hPlay : p.play now = .ok q) : q.Sound := by
  rcases play_cases hPlay with rfl | ⟨hState, due, _, rfl⟩
  · exact hSound
  · have hLength : p.length ≠ 0 := by
      apply hSound.length_ne_zero
      rcases hState with hState | hState <;> simp [hState]
    exact ⟨hSound.index_le, by simp [hLength]⟩

theorem pause
    (hSound : p.Sound) : p.pause.Sound := by
  rcases pause_cases p with hSame | ⟨hPlaying, hPaused⟩
  · rwa [hSame]
  · have hLength : p.length ≠ 0 :=
      hSound.length_ne_zero (by simp [hPlaying])
    rw [hPaused]
    exact ⟨hSound.index_le, by simp [hLength]⟩

theorem setSpeed
    {speed : Binary64}
    (hSound : p.Sound)
    (hSet : p.setSpeed speed now = .ok q) : q.Sound := by
  rcases setSpeed_cases hSet with
    ⟨_, ⟨_, rfl⟩ | ⟨_, due, _, rfl⟩⟩
  · exact ⟨hSound.index_le, hSound.stopped_iff⟩
  · exact ⟨hSound.index_le, hSound.stopped_iff⟩

theorem tick
    {moved : Bool}
    (hSound : p.Sound)
    (hTick : p.tick now = .ok (moved, q)) : q.Sound := by
  rcases tick_cases hTick with
    ⟨_, rfl⟩ | ⟨due, next, _, _, _, _, rfl⟩
  · exact hSound
  · exact ⟨Nat.min_le_right _ _, hSound.stopped_iff⟩

/- Every control keeps a playback sound. -/
theorem apply
    {control : Control}
    {moved : Bool}
    (hSound : p.Sound)
    (hApply : p.apply control = .ok (moved, q)) :
    q.Sound := by
  cases control with
  | load length =>
      cases hApply
      exact sound_load p length
  | reset =>
      cases hApply
      exact sound_load p 0
  | play now => exact hSound.play (eq_ok_of_map_pair hApply)
  | pause =>
      cases hApply
      exact hSound.pause
  | toggle now =>
      rcases toggle_cases (eq_ok_of_map_pair hApply) with
        rfl | hPlay
      · exact hSound.pause
      · exact hSound.play hPlay
  | step delta =>
      cases hApply
      exact hSound.seek _
  | seek index =>
      cases hApply
      exact hSound.seek index
  | setSpeed speed now =>
      exact hSound.setSpeed (eq_ok_of_map_pair hApply)
  | tick now => exact hSound.tick hApply

end Sound

------------------------------------------------------------
-- What Controls Keep
------------------------------------------------------------

/- Whether a control starts over on a trace. -/
def Control.loads : Control → Bool
| load _ | reset => true
| play _ | pause | toggle _ | step _ | seek _ => false
| setSpeed _ _ | tick _ => false

/- The speed that a control sets, if it sets one. -/
def Control.speed? : Control → Option Binary64
| setSpeed speed _ => some speed
| load _ | reset | play _ | pause | toggle _ => none
| step _ | seek _ | tick _ => none

/- Pausing keeps the length and the speed. -/
theorem length_speed_pause (p : Playback) :
    p.pause.length = p.length ∧ p.pause.speed =
      p.speed := by
  rcases pause_cases p with hSame | ⟨_, hPaused⟩
  · rw [hSame]
    exact ⟨rfl, rfl⟩
  · rw [hPaused]
    exact ⟨rfl, rfl⟩

/- Playing keeps the length and the speed. -/
theorem length_speed_play
    {p q : Playback}
    {now : Nat}
    (hPlay : p.play now = .ok q) :
    q.length = p.length ∧ q.speed = p.speed := by
  rcases play_cases hPlay with rfl | ⟨_, due, _, rfl⟩
  · exact ⟨rfl, rfl⟩
  · exact ⟨rfl, rfl⟩

/-
  The length changes only by loading, the speed only by
  being set.
-/
theorem length_speed_apply
    {p q : Playback}
    {control : Control}
    {moved : Bool}
    (hApply : p.apply control = .ok (moved, q)) :
    (control.loads = false → q.length = p.length) ∧
      q.speed = control.speed?.getD p.speed := by
  have hPause := p.length_speed_pause
  cases control with
  | load length =>
      cases hApply
      exact ⟨nofun, rfl⟩
  | reset =>
      cases hApply
      exact ⟨nofun, rfl⟩
  | play now =>
      rcases length_speed_play (eq_ok_of_map_pair hApply) with
        ⟨hLength, hSpeed⟩
      exact ⟨fun _ => hLength, hSpeed⟩
  | pause =>
      cases hApply
      exact ⟨fun _ => hPause.1, hPause.2⟩
  | toggle now =>
      rcases toggle_cases (eq_ok_of_map_pair hApply) with
        rfl | hPlay
      · exact ⟨fun _ => hPause.1, hPause.2⟩
      · rcases length_speed_play hPlay with ⟨hLength, hSpeed⟩
        exact ⟨fun _ => hLength, hSpeed⟩
  | step delta =>
      cases hApply
      exact ⟨fun _ => rfl, rfl⟩
  | seek index =>
      cases hApply
      exact ⟨fun _ => rfl, rfl⟩
  | setSpeed speed now =>
      rcases setSpeed_cases (eq_ok_of_map_pair hApply) with
        ⟨_, ⟨_, rfl⟩ | ⟨_, due, _, rfl⟩⟩
      · exact ⟨fun _ => rfl, rfl⟩
      · exact ⟨fun _ => rfl, rfl⟩
  | tick now =>
      rcases tick_cases hApply with
        ⟨_, rfl⟩ | ⟨due, next, _, _, _, _, rfl⟩
      · exact ⟨fun _ => rfl, rfl⟩
      · exact ⟨fun _ => rfl, rfl⟩

end Playback

end TracePlayer
