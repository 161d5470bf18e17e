import TracePlayer.Proofs.Playback.Controls
import TracePlayer.Proofs.Result

/-
  This file proves how a playback moves through its states,
  and where its deadline comes from: while playing, and only
  then, it is one interval at the current speed after the last
  time at which playback started, the speed was changed, or a
  tick was due.

  Main declarations:
    * `Playback.after?`, `Playback.setsFrom?`
    * `Playback.Reached`
    * `Playback.EndsOrKeeps`
    * `Playback.apply_of_setsFrom`, `apply_of_not_setsFrom`
    * `Playback.Timely`, `Playback.Timely.after`
    * `Playback.Reached.timely_and_lawful`
-/

namespace TracePlayer

namespace Playback

variable {p q : Playback}
variable {control : Control}
variable {now : Nat}

------------------------------------------------------------
-- Deadlines
------------------------------------------------------------

/- A deadline lies one interval ahead, if that is a time. -/
theorem nextDeadline_eq_ok_iff
    {due : Nat} :
    p.nextDeadline now = .ok due ↔
      ∃ interval,
        p.interval? = some interval ∧
        due = now + interval ∧
        due < timeLimit := by
  unfold nextDeadline
  cases p.interval? with
  | none => simp
  | some interval =>
      by_cases hTime : now + interval < timeLimit
      · simp only [if_pos hTime, Except.ok.injEq,
          Option.some.injEq, exists_eq_left']
        exact
          ⟨fun hDue => ⟨hDue.symm, hDue ▸ hTime⟩,
            fun hDue => hDue.1.symm⟩
      · simp only [if_neg hTime, reduceCtorEq,
          Option.some.injEq, exists_eq_left', false_iff]
        rintro ⟨rfl, hDue⟩
        exact hTime hDue

/- A deadline that cannot be set lies too far ahead. -/
theorem nextDeadline_cases
    (p : Playback)
    (now : Nat) :
    (∃ due, p.nextDeadline now = .ok due) ∨
      p.nextDeadline now = .error .timeOverflow := by
  unfold nextDeadline
  split
  · split
    · exact Or.inl ⟨_, rfl⟩
    · exact Or.inr rfl
  · exact Or.inr rfl

/- No time is left when the deadline is not ahead. -/
theorem untilTick?_eq_zero_iff :
    p.untilTick? now = some 0 ↔
      ∃ due, p.deadline = some due ∧ due ≤ now := by
  cases hDeadline : p.deadline with
  | none => simp [untilTick?, hDeadline]
  | some due => simp [untilTick?, hDeadline, Nat.sub_eq_zero_iff_le]

------------------------------------------------------------
-- Runs
------------------------------------------------------------

/-
  The playback after a control: a refused speed changes
  nothing, and there is none after a deadline that cannot be
  represented.
-/
def after?
    (p : Playback)
    (control : Control) : Option Playback :=
  match p.apply control with
  | .ok (_, q) => some q
  | .error (.invalidSpeed _) => some p
  | .error .timeOverflow => none

/-
  The time from which a control counts, if it sets the
  deadline: playback starts, an accepted speed is set while
  playing, or a tick is due.
-/
def setsFrom?
    (p : Playback) : Control → Option Nat
| .play now | .toggle now =>
    if p.state = .ready ∨ p.state = .paused then some now
    else none
| .setSpeed speed now =>
    if acceptsSpeed speed = true ∧ p.state = .playing then
      some now
    else
      none
| .tick now =>
    if p.untilTick? now = some 0 then some now else none
| .load _ | .reset | .pause | .step _ | .seek _ => none

/-
  Whether the numbers of a control are machine words; a step
  is a word with a sign.
-/
def Control.InWords : Control → Prop
| load length => length ≤ wordMax
| step delta =>
    -0x8000000000000000 ≤ delta ∧ delta < 0x8000000000000000
| seek index => index ≤ wordMax
| reset | play _ | pause | toggle _ => True
| setSpeed _ _ | tick _ => True

/-
  The playbacks that controls lead to, one after the other,
  each with the last time from which a deadline was counted.
-/
inductive Reached : Playback → Option Nat → Prop where
| new : Reached new none
| next
    {p q : Playback}
    {control : Control}
    {last : Option Nat} :
    Reached p last →
    control.InWords →
    p.after? control = some q →
    Reached q ((p.setsFrom? control).or last)

/- What follows a control is its result, or a refused speed. -/
theorem after?_eq_some_iff :
    p.after? control = some q ↔
      (∃ moved, p.apply control = .ok (moved, q)) ∨
        (∃ speed,
          p.apply control = .error (.invalidSpeed speed)) ∧
        q = p := by
  unfold after?
  rcases hApply : p.apply control with
    (speed | _) | ⟨moved, r⟩
  · simp [eq_comm]
  · simp
  · simp [eq_comm]

------------------------------------------------------------
-- Controls That Set the Deadline
------------------------------------------------------------

/- A deadline is there exactly while playing. -/
def Armed (p : Playback) : Prop :=
  p.deadline.isSome = true ↔ p.state = .playing

/- Playback that is ready or paused is started. -/
theorem play_of_idle
    (hIdle : p.state = .ready ∨ p.state = .paused) :
    p.play now =
      (p.nextDeadline now).map fun due =>
        { p with state := .playing, deadline := some due } := by
  unfold play
  rcases hIdle with hReady | hPaused
  · rw [hReady]
  · rw [hPaused]

/- Playback that plays, or is stopped, is not started. -/
theorem play_of_not_idle
    (hBusy : ¬ (p.state = .ready ∨ p.state = .paused)) :
    p.play now = .ok p := by
  rw [not_or] at hBusy
  unfold play
  split
  case h_1 hReady => exact absurd hReady hBusy.1
  case h_2 hPaused => exact absurd hPaused hBusy.2
  case h_3 => rfl
  case h_4 => rfl

/- A control that sets the deadline plays from then on. -/
theorem apply_of_setsFrom
    (hArmed : p.Armed)
    (hSets : p.setsFrom? control = some now) :
    let speed := control.speed?.getD p.speed
    ∃ moved index, p.apply control =
      (nextDeadline { p with speed := speed } now).map
        fun due =>
          (moved,
            { p with
              index := index
              speed := speed
              state := .playing
              deadline := some due }) := by
  intro speed
  cases control with
  | play time =>
      simp only [setsFrom?, Option.ite_none_right_eq_some,
        Option.some.injEq] at hSets
      rcases hSets with ⟨hIdle, rfl⟩
      refine ⟨false, p.index, ?_⟩
      rw [apply, play_of_idle hIdle, map_map_except]
      rfl
  | toggle time =>
      simp only [setsFrom?, Option.ite_none_right_eq_some,
        Option.some.injEq] at hSets
      rcases hSets with ⟨hIdle, rfl⟩
      have hNot : p.isPlaying = false := by
        rcases hIdle with hReady | hPaused
        · simp [isPlaying, hReady]
        · simp [isPlaying, hPaused]
      refine ⟨false, p.index, ?_⟩
      rw [apply, toggle, hNot, if_neg Bool.false_ne_true,
        play_of_idle hIdle, map_map_except]
      rfl
  | setSpeed newSpeed time =>
      simp only [setsFrom?, Option.ite_none_right_eq_some,
        Option.some.injEq] at hSets
      rcases hSets with ⟨⟨hAccepts, hPlaying⟩, rfl⟩
      obtain ⟨due, hDue⟩ :=
        Option.isSome_iff_exists.mp (hArmed.mpr hPlaying)
      refine ⟨false, p.index, ?_⟩
      rw [apply, setSpeed, if_pos hAccepts, hDue]
      dsimp only
      rw [map_map_except, ← hPlaying]
      rfl
  | tick time =>
      simp only [setsFrom?, Option.ite_none_right_eq_some,
        Option.some.injEq] at hSets
      rcases hSets with ⟨hZero, rfl⟩
      rcases untilTick?_eq_zero_iff.mp hZero with
        ⟨due, hDue, hPast⟩
      have hPlaying : p.state = .playing :=
        hArmed.mp (by rw [hDue]; rfl)
      have hSpeed : { p with speed := speed } = p := rfl
      refine
        ⟨decide (min (p.index + 1) p.lastIndex ≠ p.index),
          min (p.index + 1) p.lastIndex, ?_⟩
      rw [hSpeed, apply, tick, hDue]
      dsimp only
      rw [if_neg (Nat.not_lt.mpr hPast), ← hPlaying]
      rfl
  | load | reset | pause | step | seek => cases hSets

/-
  Playing has ended, or the state is kept, and with it the
  deadline and the speed.
-/
def EndsOrKeeps (p q : Playback) : Prop :=
  q.deadline = none ∧ q.state ≠ .playing ∨
    q.deadline = p.deadline ∧ q.state = p.state ∧
      q.speed = p.speed

theorem endsOrKeeps_self (p : Playback) : p.EndsOrKeeps p :=
  Or.inr ⟨rfl, rfl, rfl⟩

theorem endsOrKeeps_load
    (p : Playback)
    (length : Nat) : p.EndsOrKeeps (p.load length) := by
  by_cases hZero : length = 0 <;>
    simp [EndsOrKeeps, load, hZero]

theorem endsOrKeeps_pause (p : Playback) :
    p.EndsOrKeeps p.pause := by
  rcases pause_cases p with hSame | ⟨_, hPaused⟩
  · rw [hSame]
    exact endsOrKeeps_self p
  · rw [hPaused]
    exact Or.inl ⟨rfl, nofun⟩

/- Toggling without starting pauses or changes nothing. -/
theorem exists_toggle_of_not_idle
    (hBusy : ¬ (p.state = .ready ∨ p.state = .paused)) :
    ∃ q, p.toggle now = .ok q ∧ p.EndsOrKeeps q := by
  cases hPlaying : p.isPlaying with
  | true =>
      exact ⟨p.pause, by simp [toggle, hPlaying],
        endsOrKeeps_pause p⟩
  | false =>
      refine ⟨p, ?_, endsOrKeeps_self p⟩
      rw [toggle, hPlaying, if_neg Bool.false_ne_true,
        play_of_not_idle hBusy]

/- A tick that is not due changes nothing. -/
theorem tick_of_not_due
    (hLeft : p.untilTick? now ≠ some 0) :
    p.tick now = .ok (false, p) := by
  rw [tick]
  split
  · rfl
  · rename_i due hDue
    have hAhead : now < due :=
      Nat.lt_of_not_le fun hPast =>
        hLeft
          (untilTick?_eq_zero_iff.mpr ⟨due, hDue, hPast⟩)
    rw [if_pos hAhead]

/-
  A control that does not set the deadline is a refused speed,
  ends playing, or keeps the state, the deadline and the
  speed.
-/
theorem apply_of_not_setsFrom
    (hArmed : p.Armed)
    (hSets : p.setsFrom? control = none) :
    (∃ speed now,
      control = .setSpeed speed now ∧
      acceptsSpeed speed = false ∧
      p.apply control = .error (.invalidSpeed speed)) ∨
    ∃ q, p.apply control = .ok (false, q) ∧
      p.EndsOrKeeps q := by
  cases control with
  | load length =>
      exact Or.inr ⟨_, rfl, endsOrKeeps_load p length⟩
  | reset => exact Or.inr ⟨_, rfl, endsOrKeeps_load p 0⟩
  | play time =>
      have hBusy : ¬ (p.state = .ready ∨ p.state = .paused) := by
        simpa [setsFrom?] using hSets
      refine Or.inr ⟨p, ?_, endsOrKeeps_self p⟩
      rw [apply, play_of_not_idle hBusy]
      rfl
  | pause => exact Or.inr ⟨_, rfl, endsOrKeeps_pause p⟩
  | toggle time =>
      have hBusy : ¬ (p.state = .ready ∨ p.state = .paused) := by
        simpa [setsFrom?] using hSets
      rcases exists_toggle_of_not_idle hBusy with
        ⟨q, hToggle, hKeeps⟩
      refine Or.inr ⟨q, ?_, hKeeps⟩
      rw [apply, hToggle]
      rfl
  | step delta =>
      exact Or.inr ⟨_, rfl, Or.inr ⟨rfl, rfl, rfl⟩⟩
  | seek index =>
      exact Or.inr ⟨_, rfl, Or.inr ⟨rfl, rfl, rfl⟩⟩
  | setSpeed speed time =>
      cases hAccepts : acceptsSpeed speed with
      | false =>
          refine Or.inl ⟨speed, time, rfl, hAccepts, ?_⟩
          rw [apply, setSpeed, hAccepts,
            if_neg Bool.false_ne_true]
          rfl
      | true =>
          have hIdle : p.state ≠ .playing := by
            simpa [setsFrom?, hAccepts] using hSets
          have hDeadline : p.deadline = none :=
            Option.not_isSome_iff_eq_none.mp
              (mt hArmed.mp hIdle)
          refine
            Or.inr ⟨{ p with speed := speed }, ?_,
              Or.inl ⟨hDeadline, hIdle⟩⟩
          rw [apply, setSpeed, hAccepts, if_pos rfl, hDeadline]
          rfl
  | tick time =>
      have hLeft : p.untilTick? time ≠ some 0 := by
        simpa [setsFrom?] using hSets
      exact
        Or.inr ⟨p, tick_of_not_due hLeft, endsOrKeeps_self p⟩

/- A refused control does not set the deadline. -/
theorem setsFrom?_of_refused
    {speed : Binary64}
    (hArmed : p.Armed)
    (hRefused : p.apply control = .error (.invalidSpeed speed)) :
    p.setsFrom? control = none := by
  rw [Option.eq_none_iff_forall_ne_some]
  intro now hSets
  rcases apply_of_setsFrom hArmed hSets with
    ⟨moved, index, hResult⟩
  rw [hResult] at hRefused
  rcases nextDeadline_cases
      { p with speed := control.speed?.getD p.speed } now with
    ⟨due, hNext⟩ | hOver
  · rw [hNext] at hRefused
    cases hRefused
  · rw [hOver] at hRefused
    cases hRefused

------------------------------------------------------------
-- What Runs Keep
------------------------------------------------------------

/-
  A playback in good order: its numbers are machine words, the
  index and the one after it among them; it is stopped when it
  has nothing to play; and its deadline, which is there while
  it plays, is one interval at its speed after the last time
  from which a deadline was counted.
-/
structure Timely
    (p : Playback)
    (last : Option Nat) : Prop where
  index_le : p.index ≤ max p.length 1 - 1
  length_le : p.length ≤ wordMax
  next_le : p.index + 1 ≤ wordMax
  stopped_iff : p.state = .stopped ↔ p.length = 0
  armed_iff : p.deadline.isSome = true ↔ p.state = .playing
  deadline_eq :
    ∀ due, p.deadline = some due →
      ∃ time interval,
        last = some time ∧
        p.interval? = some interval ∧
        due = time + interval

namespace Timely

variable {last : Option Nat}

theorem sound
    (hTimely : p.Timely last) : p.Sound where
  index_le := by
    have hIndex := hTimely.index_le
    unfold lastIndex
    omega
  stopped_iff := hTimely.stopped_iff

/- A sound playback is timely when its deadline is. -/
theorem of_sound
    (hSound : p.Sound)
    (hLength : p.length ≤ wordMax)
    (hArmed : p.Armed)
    (hDeadline :
      ∀ due, p.deadline = some due →
        ∃ time interval,
          last = some time ∧
          p.interval? = some interval ∧
          due = time + interval) :
    p.Timely last where
  index_le := by
    have hIndex := hSound.index_le
    unfold lastIndex at hIndex
    omega
  length_le := hLength
  next_le := by
    have hIndex := hSound.index_le
    unfold lastIndex at hIndex
    unfold wordMax at hLength ⊢
    omega
  stopped_iff := hSound.stopped_iff
  armed_iff := hArmed
  deadline_eq := hDeadline

theorem new : Playback.new.Timely none :=
  of_sound sound_new (Nat.zero_le _) (by simp [Armed, Playback.new])
    nofun

/- The length is still a word after a control of words. -/
theorem length_apply
    {moved : Bool}
    (hTimely : p.Timely last)
    (hWords : control.InWords)
    (hApply : p.apply control = .ok (moved, q)) :
    q.length ≤ wordMax := by
  have hKeeps := (length_speed_apply hApply).1
  cases control with
  | load length =>
      cases hApply
      exact hWords
  | reset =>
      cases hApply
      exact Nat.zero_le _
  | play | pause | toggle | step | seek | setSpeed | tick =>
      rw [hKeeps rfl]
      exact hTimely.length_le

/- Every control of words keeps a playback timely. -/
theorem after
    (hTimely : p.Timely last)
    (hWords : control.InWords)
    (hAfter : p.after? control = some q) :
    q.Timely ((p.setsFrom? control).or last) := by
  rcases after?_eq_some_iff.mp hAfter with
    ⟨moved, hApply⟩ | ⟨⟨speed, hRefused⟩, hSame⟩
  · have hSound := hTimely.sound.apply hApply
    have hLength := hTimely.length_apply hWords hApply
    cases hSets : p.setsFrom? control with
    | some now =>
        rcases apply_of_setsFrom hTimely.armed_iff hSets with
          ⟨own, index, hResult⟩
        rw [hResult] at hApply
        rcases exists_of_map_eq_ok hApply with
          ⟨due, hNext, hPair⟩
        rcases nextDeadline_eq_ok_iff.mp hNext with
          ⟨interval, hInterval, hDue, _⟩
        cases hPair
        refine of_sound hSound hLength (iff_of_true rfl rfl) ?_
        rintro _ ⟨⟩
        exact ⟨now, interval, rfl, hInterval, hDue⟩
    | none =>
        rw [Option.none_or]
        rcases apply_of_not_setsFrom hTimely.armed_iff hSets with
          ⟨_, _, _, _, hRefused⟩ | ⟨r, hResult, hCases⟩
        · rw [hRefused] at hApply
          cases hApply
        · cases hResult.symm.trans hApply
          rcases hCases with
            ⟨hNone, hIdle⟩ | ⟨hDeadline, hState, hSpeed⟩
          · refine of_sound hSound hLength ?_ ?_
            · exact iff_of_false (by simp [hNone]) hIdle
            · rw [hNone]
              nofun
          · refine of_sound hSound hLength ?_ ?_
            · rw [Armed, hDeadline, hState]
              exact hTimely.armed_iff
            · intro due hDue
              rw [interval?, hSpeed]
              exact hTimely.deadline_eq due (hDeadline ▸ hDue)
  · rw [setsFrom?_of_refused hTimely.armed_iff hRefused,
      Option.none_or, hSame]
    exact hTimely

end Timely

/- Every playback that controls lead to is timely. -/
theorem Reached.timely
    {last : Option Nat}
    (hReached : Reached p last) : p.Timely last := by
  induction hReached with
  | new => exact Timely.new
  | next _ hWords hAfter ih => exact ih.after hWords hAfter

------------------------------------------------------------
-- What Single Controls Keep
------------------------------------------------------------

/- Whether a control moves, changes the speed, or ticks. -/
def Control.keepsState : Control → Bool
| step _ | seek _ | setSpeed _ _ | tick _ => true
| load _ | reset | play _ | pause | toggle _ => false

/- Moving, a new speed and a tick keep the state. -/
theorem state_of_keepsState
    (hKeeps : control.keepsState = true)
    (hAfter : p.after? control = some q) :
    q.state = p.state := by
  rcases after?_eq_some_iff.mp hAfter with
    ⟨moved, hApply⟩ | ⟨_, rfl⟩
  · cases control with
    | step delta =>
        cases hApply
        rfl
    | seek index =>
        cases hApply
        rfl
    | setSpeed speed now =>
        rcases setSpeed_cases (eq_ok_of_map_pair hApply) with
          ⟨_, ⟨_, rfl⟩ | ⟨_, due, _, rfl⟩⟩
        · rfl
        · rfl
    | tick now =>
        rcases tick_cases hApply with
          ⟨_, rfl⟩ | ⟨due, next, _, _, _, _, rfl⟩
        · rfl
        · rfl
    | load | reset | play | pause | toggle => cases hKeeps
  · rfl

/- A speed that is not accepted is refused, without effect. -/
theorem after?_of_refused
    {speed : Binary64}
    (hRefused : acceptsSpeed speed = false)
    (now : Nat) :
    p.setSpeed speed now = .error (.invalidSpeed speed) ∧
      p.after? (.setSpeed speed now) = some p := by
  have hSet :
      p.setSpeed speed now = .error (.invalidSpeed speed) := by
    rw [setSpeed, hRefused, if_neg Bool.false_ne_true]
  exact ⟨hSet, by simp [after?, apply, hSet, Except.map]⟩

/- Only an accepted speed changes the speed. -/
theorem exists_of_speed_ne
    (hAfter : p.after? control = some q)
    (hSpeed : q.speed ≠ p.speed) :
    ∃ now, control = .setSpeed q.speed now ∧
      acceptsSpeed q.speed = true := by
  rcases after?_eq_some_iff.mp hAfter with
    ⟨moved, hApply⟩ | ⟨_, rfl⟩
  · have hResult := (length_speed_apply hApply).2
    cases control with
    | setSpeed speed now =>
        have hAccepts :=
          (setSpeed_cases (eq_ok_of_map_pair hApply)).1
        have hSame : q.speed = speed := hResult
        exact ⟨now, by rw [hSame], by rw [hSame, hAccepts]⟩
    | load | reset | play | pause | toggle =>
        exact absurd hResult hSpeed
    | step | seek | tick => exact absurd hResult hSpeed
  · exact absurd rfl hSpeed

/- Playing once more does not set the deadline again. -/
theorem after?_play_of_playing
    (hPlaying : p.state = .playing)
    (now : Nat) :
    p.after? (.play now) = some p := by
  simp [after?, apply, play, hPlaying, Except.map]

------------------------------------------------------------
-- The State Machine
------------------------------------------------------------

/-
  Every playback that controls lead to has its index in the
  trace, is stopped exactly when the trace is empty, and has a
  deadline exactly while playing: one interval at the current
  speed after the last start, accepted speed or due tick. A
  move, a speed and a tick keep the state, a refused speed and
  playing once more change nothing, and only an accepted speed
  changes the speed.
-/
theorem Reached.timely_and_lawful
    {last : Option Nat}
    (hReached : Reached p last) :
    p.Timely last ∧
    (∀ control q,
      p.after? control = some q →
      (control.keepsState = true → q.state = p.state) ∧
      (q.speed ≠ p.speed →
        ∃ now, control = .setSpeed q.speed now ∧
          acceptsSpeed q.speed = true)) ∧
    (∀ speed now,
      acceptsSpeed speed = false →
        p.setSpeed speed now = .error (.invalidSpeed speed) ∧
          p.after? (.setSpeed speed now) = some p) ∧
    (p.state = .playing →
      ∀ now, p.after? (.play now) = some p) := by
  refine ⟨hReached.timely, ?_, ?_, ?_⟩
  · intro control q hAfter
    exact
      ⟨fun hKeeps => state_of_keepsState hKeeps hAfter,
        exists_of_speed_ne hAfter⟩
  · intro speed now hRefused
    exact after?_of_refused hRefused now
  · intro hPlaying now
    exact after?_play_of_playing hPlaying now

/-
  Started at zero, at double speed after 0.6 seconds, and at
  1.2 seconds ticked: the next deadline is half a second after
  the tick, which was the last to set one.
-/
theorem timely_and_lawful_after_tick :
    let double := Binary64.ofNat 2
    let p : Playback :=
      { length := 3
        index := 1
        speed := double
        state := .playing
        deadline := some 1700000000 }
    Reached p (some 1200000000) ∧
      p.interval? = some 500000000 ∧
      p.after? (.play 1500000000) = some p := by
  intro double p
  let loaded := Playback.new.load 3
  let started : Playback :=
    { loaded with
      state := .playing
      deadline := some 1000000000 }
  let doubled : Playback :=
    { started with
      speed := double
      deadline := some 1100000000 }
  have hWords : (Control.load 3).InWords := by
    change 3 ≤ wordMax
    decide
  have hLoaded : Reached loaded none :=
    Reached.new.next hWords rfl
  have hStarted : Reached started (some 0) := by
    have hAfter : loaded.after? (.play 0) = some started := by
      decide +kernel
    exact hLoaded.next (by trivial) hAfter
  have hDoubled : Reached doubled (some 600000000) := by
    have hAfter :
        started.after? (.setSpeed double 600000000) =
          some doubled := by
      decide +kernel
    have hSets :
        started.setsFrom? (.setSpeed double 600000000) =
          some 600000000 := by
      decide +kernel
    have hNext := hStarted.next (by trivial) hAfter
    rwa [hSets] at hNext
  have hReached : Reached p (some 1200000000) := by
    have hAfter : doubled.after? (.tick 1200000000) = some p := by
      decide +kernel
    exact hDoubled.next (by trivial) hAfter
  rcases hReached.timely_and_lawful with ⟨hTimely, _, _, hPlay⟩
  rcases hTimely.deadline_eq 1700000000 rfl with
    ⟨time, interval, hLast, hInterval, hDue⟩
  cases hLast
  have hHalf : interval = 500000000 := by omega
  exact ⟨hReached, hHalf ▸ hInterval, hPlay rfl 1500000000⟩

end Playback

end TracePlayer
