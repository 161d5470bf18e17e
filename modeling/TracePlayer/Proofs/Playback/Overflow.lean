import TracePlayer.Proofs.Playback.Deadline
import TracePlayer.Proofs.Playback.Interval

/-
  This file proves at which speeds a playback can be used with
  a day to come: at those whose interval is at most a day, and
  at no others. The speeds from 2^-16 on are among them; but
  2^-17 is not, and from 2^-64 down no duration can hold the
  interval, though every positive speed is accepted.

  Main declarations:
    * `Playback.apply_eq_timeOverflow_iff`
    * `Playback.WithinDay`
    * `Playback.Control.Admitted`, `Playback.run?`
    * `Playback.exists_run?_of_withinDay`
    * `Playback.withinDay_halved_iff`
    * `Playback.runs_iff_withinDay`
-/

namespace TracePlayer

namespace Playback

variable {p q : Playback}
variable {control : Control}
variable {now : Nat}
variable {speed : Binary64}

------------------------------------------------------------
-- Deadlines out of Reach
------------------------------------------------------------

/- No deadline can be set when every interval is too long. -/
theorem nextDeadline_eq_error_iff :
    p.nextDeadline now = .error .timeOverflow ↔
      ∀ interval,
        p.interval? = some interval →
          timeLimit ≤ now + interval := by
  unfold nextDeadline
  cases p.interval? with
  | none => simp
  | some interval =>
      by_cases hTime : now + interval < timeLimit
      · simp [if_pos hTime, Nat.not_le.mpr hTime]
      · simp [if_neg hTime, Nat.not_lt.mp hTime]

/-
  A control fails exactly when it sets a deadline and the
  interval at the speed it leaves is too long.
-/
theorem apply_eq_timeOverflow_iff
    (hArmed : p.Armed) :
    p.apply control = .error .timeOverflow ↔
      ∃ now,
        p.setsFrom? control = some now ∧
        ∀ interval,
          intervalOf? (control.speed?.getD p.speed) =
              some interval →
            timeLimit ≤ now + interval := by
  cases hSets : p.setsFrom? control with
  | none =>
      refine iff_of_false ?_ (by simp)
      rcases apply_of_not_setsFrom hArmed hSets with
        ⟨_, _, _, _, hRefused⟩ | ⟨_, hResult, _⟩
      · simp [hRefused]
      · simp [hResult]
  | some now =>
      rcases apply_of_setsFrom hArmed hSets with
        ⟨moved, index, hResult⟩
      rw [hResult]
      simp only [Option.some.injEq, exists_eq_left']
      generalize control.speed?.getD p.speed = speed
      have hIff :
          nextDeadline { p with speed := speed } now =
              .error .timeOverflow ↔
            ∀ interval,
              intervalOf? speed = some interval →
                timeLimit ≤ now + interval :=
        nextDeadline_eq_error_iff
      rw [← hIff]
      rcases nextDeadline_cases
          { p with speed := speed } now with
        ⟨due, hDue⟩ | hOver
      · simp [hDue, Except.map]
      · simp [hOver, Except.map]

/- There is no playback after a control that fails. -/
theorem after?_eq_none_iff :
    p.after? control = none ↔
      p.apply control = .error .timeOverflow := by
  unfold after?
  rcases p.apply control with (speed | _) | ⟨moved, r⟩
  · simp
  · simp
  · simp

------------------------------------------------------------
-- A Day to Come
------------------------------------------------------------

/- Nanoseconds in a day. -/
def day : Nat :=
  86400 * second

/- The time at which a control is used, if it reads the clock. -/
def Control.time? : Control → Option Nat
| play now | toggle now | tick now => some now
| setSpeed _ now => some now
| load _ | reset | pause | step _ | seek _ => none

/- A speed at which every frame is shown for a day at most. -/
def WithinDay (speed : Binary64) : Prop :=
  ∃ interval,
    intervalOf? speed = some interval ∧ interval ≤ day

instance (speed : Binary64) : Decidable (WithinDay speed) :=
  match hInterval : intervalOf? speed with
  | none => isFalse (by simp [WithinDay, hInterval])
  | some interval =>
      decidable_of_iff (interval ≤ day)
        (by simp [WithinDay, hInterval])

/-
  A control of machine words, used at a time with a day to
  come, whose speed is refused or among those allowed.
-/
structure Control.Admitted
    (control : Control)
    (allowed : Binary64 → Prop) : Prop where
  inWords : control.InWords
  early :
    ∀ now, control.time? = some now → now + day < timeLimit
  allowed :
    ∀ speed,
      control.speed? = some speed →
      acceptsSpeed speed = true → allowed speed

/- A control is early when its time is. -/
theorem Control.admitted_of_early
    {allowed : Binary64 → Prop}
    (hWords : control.InWords)
    (hTime : control.time? = some now)
    (hEarly : now + day < timeLimit)
    (hAllowed :
      ∀ speed, control.speed? = some speed → allowed speed) :
    control.Admitted allowed where
  inWords := hWords
  early := by
    rw [hTime]
    rintro _ ⟨⟩
    exact hEarly
  allowed := fun speed hSpeed _ => hAllowed speed hSpeed

/- A deadline is counted from the time of the control. -/
theorem time?_of_setsFrom
    (hSets : p.setsFrom? control = some now) :
    control.time? = some now := by
  cases control with
  | play | toggle | setSpeed | tick =>
      simp only [setsFrom?, Option.ite_none_right_eq_some] at hSets
      exact hSets.2
  | load | reset | pause | step | seek => cases hSets

/- Only an accepted speed is set with a deadline. -/
theorem acceptsSpeed_of_setsFrom
    (hSets : p.setsFrom? control = some now)
    (hSpeed : control.speed? = some speed) :
    acceptsSpeed speed = true := by
  cases control with
  | setSpeed newSpeed time =>
      cases hSpeed
      simp only [setsFrom?, Option.ite_none_right_eq_some] at hSets
      exact hSets.1.1
  | load | reset | play | pause | toggle => cases hSpeed
  | step | seek | tick => cases hSpeed

/-
  With a day to come, no control fails at speeds within a day,
  and the speed is within a day again.
-/
theorem exists_after?_of_withinDay
    (hArmed : p.Armed)
    (hSpeed : WithinDay p.speed)
    (hAdmitted : control.Admitted WithinDay) :
    ∃ q, p.after? control = some q ∧ WithinDay q.speed := by
  have hNone : p.after? control ≠ none := by
    rw [Ne, after?_eq_none_iff, apply_eq_timeOverflow_iff hArmed]
    rintro ⟨now, hSets, hOver⟩
    have hEarly := hAdmitted.early now (time?_of_setsFrom hSets)
    have hNext : WithinDay (control.speed?.getD p.speed) := by
      cases hNew : control.speed? with
      | none => exact hSpeed
      | some speed =>
          exact
            hAdmitted.allowed speed hNew
              (acceptsSpeed_of_setsFrom hSets hNew)
    rcases hNext with ⟨interval, hInterval, hDay⟩
    have hLate := hOver interval hInterval
    omega
  rcases Option.ne_none_iff_exists'.mp hNone with ⟨q, hAfter⟩
  refine ⟨q, hAfter, ?_⟩
  by_cases hSame : q.speed = p.speed
  · rw [hSame]
    exact hSpeed
  · rcases exists_of_speed_ne hAfter hSame with
      ⟨now, rfl, hAccepts⟩
    exact hAdmitted.allowed q.speed rfl hAccepts

------------------------------------------------------------
-- Runs
------------------------------------------------------------

/-
  The playback after controls, one after the other; there is
  none once a deadline could not be represented.
-/
def run?
    (p : Playback) : List Control → Option Playback
| [] => some p
| control :: rest =>
    (p.after? control).bind fun q => q.run? rest

/- Playback starts at one frame a second. -/
theorem withinDay_new : WithinDay new.speed :=
  ⟨second, by decide +kernel, by decide⟩

/- With a day to come, no run fails at speeds within a day. -/
theorem exists_run?_of_withinDay
    {last : Option Nat}
    {controls : List Control}
    (hTimely : p.Timely last)
    (hSpeed : WithinDay p.speed)
    (hControls :
      ∀ control ∈ controls, control.Admitted WithinDay) :
    ∃ q, p.run? controls = some q ∧ WithinDay q.speed := by
  induction controls generalizing p last with
  | nil => exact ⟨p, rfl, hSpeed⟩
  | cons control rest ih =>
      have hFirst := hControls control List.mem_cons_self
      rcases exists_after?_of_withinDay
          hTimely.armed_iff hSpeed hFirst with
        ⟨q, hAfter, hNext⟩
      rcases ih (hTimely.after hFirst.inWords hAfter) hNext
          (fun c hRest =>
            hControls c (List.mem_cons_of_mem _ hRest)) with
        ⟨r, hRun, hLast⟩
      refine ⟨r, ?_, hLast⟩
      rw [run?, hAfter]
      exact hRun

/- The latest time with a day to come. -/
def latest : Nat :=
  timeLimit - day - 1

/- Playing at a speed that is not within a day. -/
def slowly (speed : Binary64) : List Control :=
  [.load 1, .setSpeed speed 0, .play latest]

theorem admitted_of_mem_slowly
    {allowed : Binary64 → Prop}
    (hAllowed : allowed speed)
    (hControl : control ∈ slowly speed) :
    control.Admitted allowed := by
  simp only [slowly, List.mem_cons, List.not_mem_nil,
    or_false] at hControl
  rcases hControl with rfl | rfl | rfl
  · have hWord : (1 : Nat) ≤ wordMax := by decide
    exact ⟨hWord, nofun, nofun⟩
  · refine Control.admitted_of_early trivial rfl (by decide) ?_
    rintro _ ⟨⟩
    exact hAllowed
  · exact
      Control.admitted_of_early trivial rfl (by decide) nofun

/- With just a day to come, every longer interval is too long. -/
theorem run?_slowly
    (hAccepts : acceptsSpeed speed = true)
    (hLong : ¬ WithinDay speed) :
    new.run? (slowly speed) = none := by
  let p : Playback := { new.load 1 with speed := speed }
  have hSet :
      (new.load 1).after? (.setSpeed speed 0) = some p := by
    simp [after?, apply, setSpeed, hAccepts, load, p, Except.map]
  have hPlay : p.after? (.play latest) = none := by
    have hArmed : p.Armed := by simp [Armed, p, load]
    rw [after?_eq_none_iff, apply_eq_timeOverflow_iff hArmed]
    refine ⟨latest, rfl, ?_⟩
    intro interval hInterval
    have hDay : ¬ interval ≤ day :=
      fun hDay => hLong ⟨interval, hInterval, hDay⟩
    have hLatest : timeLimit = latest + day + 1 := by
      decide
    omega
  have hLoad : new.after? (.load 1) = some (new.load 1) := rfl
  rw [slowly, run?, hLoad]
  dsimp only [Option.bind_some]
  rw [run?, hSet]
  dsimp only [Option.bind_some]
  rw [run?, hPlay]
  rfl

------------------------------------------------------------
-- Powers of Two
------------------------------------------------------------

/- An accepted speed is finite and above zero. -/
theorem exists_of_acceptsSpeed
    (hAccepts : acceptsSpeed speed = true) :
    ∃ m h, speed = .finite false m h ∧ 0 < m := by
  cases speed with
  | nan => cases hAccepts
  | infinite => cases hAccepts
  | finite negative m h =>
      simp only [acceptsSpeed, Binary64.isFinite, Binary64.zero,
        Binary64.lt, Bool.true_and, decide_eq_true_eq] at hAccepts
      cases negative with
      | true =>
          simp only [Bool.false_eq_true, ↓reduceIte] at hAccepts
          omega
      | false =>
          simp only [Bool.false_eq_true, ↓reduceIte] at hAccepts
          exact ⟨m, h, rfl, by omega⟩

theorem acceptsSpeed_halved (k : Nat) :
    acceptsSpeed (.halved k) = true := by
  have hPos : 0 < Nat.pow 2 (1074 - k) := Nat.two_pow_pos _
  simp only [acceptsSpeed, Binary64.halved, Binary64.isFinite,
    Binary64.zero, Binary64.lt, Bool.true_and,
    decide_eq_true_eq, Bool.false_eq_true, ↓reduceIte]
  omega

/- Every accepted speed from 2^-16 on is within a day. -/
theorem withinDay_of_le
    (hAccepts : acceptsSpeed speed = true)
    (hSpeed : (Binary64.halved 16).le speed = true) :
    WithinDay speed := by
  rcases exists_of_acceptsSpeed hAccepts with ⟨m, h, rfl, _⟩
  have hBound : Nat.pow 2 (1074 - 16) ≤ m := by
    simp only [Binary64.halved, Binary64.le, Binary64.lt,
      Binary64.same, Bool.or_eq_true, Bool.and_eq_true,
      decide_eq_true_eq, Bool.false_eq_true, ↓reduceIte,
      beq_iff_eq] at hSpeed
    omega
  rcases intervalOf?_le (by decide : 16 ≤ 63) hBound with
    ⟨interval, hInterval, hShort⟩
  have hDay : Nat.pow 2 16 * second ≤ day := by
    decide
  exact ⟨interval, hInterval, Nat.le_trans hShort hDay⟩

/- Of the powers of two, those from 2^-16 on are within a day. -/
theorem withinDay_halved_iff
    {k : Nat}
    (hPower : k ≤ 1074) :
    WithinDay (.halved k) ↔ k ≤ 16 := by
  rw [WithinDay, intervalOf?_halved hPower]
  constructor
  · rintro ⟨interval, hInterval, hDay⟩
    rw [Option.ite_none_right_eq_some] at hInterval
    rcases hInterval with ⟨_, ⟨⟩⟩
    have hSeconds : Nat.pow 2 k ≤ 86400 :=
      Nat.le_of_mul_le_mul_right hDay (by decide)
    have hShort : Nat.pow 2 k < Nat.pow 2 17 :=
      Nat.lt_of_le_of_lt hSeconds (by decide)
    have hBelow : k < 17 :=
      (Nat.pow_lt_pow_iff_right Nat.one_lt_two).mp hShort
    omega
  · intro hShort
    refine ⟨_, if_pos (by omega), ?_⟩
    have hPow : Nat.pow 2 k ≤ Nat.pow 2 16 :=
      Nat.pow_le_pow_right (by decide) hShort
    have hSeconds : Nat.pow 2 k ≤ 86400 :=
      Nat.le_trans hPow (by decide)
    exact Nat.mul_le_mul_right second hSeconds

------------------------------------------------------------
-- Safe Speeds
------------------------------------------------------------

/-
  With a day to come, the runs at allowed speeds never fail,
  and always leave a speed with an interval, exactly when the
  accepted ones among those speeds are within a day. From
  2^-16 on all are; but the powers of two below, all of them
  accepted, are not.
-/
theorem runs_iff_withinDay
    (allowed : Binary64 → Prop) :
    ((∀ controls : List Control,
        (∀ control ∈ controls, control.Admitted allowed) →
          ∃ p,
            new.run? controls = some p ∧
              p.interval?.isSome = true) ↔
      ∀ speed,
        allowed speed →
        acceptsSpeed speed = true → WithinDay speed) ∧
    (∀ speed,
      acceptsSpeed speed = true →
      (Binary64.halved 16).le speed = true →
        WithinDay speed) ∧
    ∀ k, k ≤ 1074 →
      acceptsSpeed (.halved k) = true ∧
        (WithinDay (.halved k) ↔ k ≤ 16) := by
  refine ⟨⟨?_, ?_⟩, ?_, ?_⟩
  · intro hRuns speed hAllowed hAccepts
    apply Decidable.byContradiction
    intro hLong
    have hAdmitted :
        ∀ control ∈ slowly speed, control.Admitted allowed :=
      fun _ hControl => admitted_of_mem_slowly hAllowed hControl
    rcases hRuns (slowly speed) hAdmitted with ⟨p, hRun, _⟩
    rw [run?_slowly hAccepts hLong] at hRun
    cases hRun
  · intro hWithin controls hControls
    have hDay :
        ∀ control ∈ controls, control.Admitted WithinDay := by
      intro control hMem
      have hAdmitted := hControls control hMem
      exact
        ⟨hAdmitted.inWords, hAdmitted.early,
          fun speed hNew hAccepts =>
            hWithin speed (hAdmitted.allowed speed hNew hAccepts)
              hAccepts⟩
    rcases exists_run?_of_withinDay Timely.new withinDay_new
        hDay with
      ⟨p, hRun, interval, hInterval, _⟩
    exact ⟨p, hRun, by rw [interval?, hInterval]; rfl⟩
  · intro speed hAccepts hSpeed
    exact withinDay_of_le hAccepts hSpeed
  · intro k hPower
    exact ⟨acceptsSpeed_halved k, withinDay_halved_iff hPower⟩

/-
  Two frames at 2^-16 of the speed: the run to the second one
  does not fail, but at half that speed one of its kind would.
-/
theorem runs_withinDay_of_slow :
    let slow := Binary64.halved 16
    (∃ p,
      new.run?
          [.load 2, .setSpeed slow 0, .play 0,
            .tick (65536 * second)] = some p ∧
        p.interval?.isSome = true) ∧
      acceptsSpeed (.halved 17) = true ∧
      ¬ WithinDay (.halved 17) := by
  intro slow
  rcases runs_iff_withinDay (fun speed => speed = slow) with
    ⟨hRuns, hSafe, hPowers⟩
  rcases hPowers 17 (by decide) with ⟨hAccepts, hWithin⟩
  refine ⟨?_, hAccepts, mt hWithin.mp (by decide)⟩
  apply hRuns.mpr
  · rintro _ rfl hSlow
    exact hSafe slow hSlow (by decide +kernel)
  · intro control hControl
    simp only [List.mem_cons, List.not_mem_nil,
      or_false] at hControl
    rcases hControl with rfl | rfl | rfl | rfl
    · have hWord : (2 : Nat) ≤ wordMax := by decide
      exact ⟨hWord, nofun, nofun⟩
    · refine Control.admitted_of_early trivial rfl (by decide) ?_
      rintro _ ⟨⟩
      rfl
    · exact
        Control.admitted_of_early trivial rfl (by decide) nofun
    · exact
        Control.admitted_of_early trivial rfl (by decide) nofun

/-
  The speed 2^-64 is accepted, but has no interval, and the
  playback fails as soon as it is started.
-/
theorem accepted_speed_overflows :
    let slow := Binary64.halved 64
    let p : Playback := { new.load 2 with speed := slow }
    Reached p none ∧
      acceptsSpeed slow = true ∧
      (new.load 2).setSpeed slow 0 = .ok p ∧
      p.interval? = none ∧
      p.play 0 = .error .timeOverflow := by
  intro slow p
  have hWord : (Control.load 2).InWords := by
    change 2 ≤ wordMax
    decide
  have hLoaded : Reached (new.load 2) none :=
    Reached.new.next hWord rfl
  have hSet : (new.load 2).setSpeed slow 0 = .ok p := by
    decide +kernel
  have hAfter :
      (new.load 2).after? (.setSpeed slow 0) = some p := by
    decide +kernel
  have hSets :
      (new.load 2).setsFrom? (.setSpeed slow 0) = none := by
    decide +kernel
  have hReached : Reached p none := by
    have hNext := hLoaded.next (by trivial) hAfter
    rwa [hSets] at hNext
  exact
    ⟨hReached, by decide +kernel, hSet, by decide +kernel,
      by decide +kernel⟩

end Playback

end TracePlayer
