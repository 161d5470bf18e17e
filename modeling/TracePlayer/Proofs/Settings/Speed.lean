import TracePlayer.Proofs.Number.Order
import TracePlayer.Proofs.Playback.Overflow
import TracePlayer.Settings.Basic

/-
  This file proves that a speed on the scale stays on it
  however often it is adjusted, and that every playback
  accepts it. Between halves the steps of the scale are exact.

  Main declarations:
    * `exists_of_onScale`
    * `acceptsSpeed_of_onScale`, `intervalOf?_of_onScale`
    * `onScale_adjustSpeed`
    * `IsHalves`, `IsHalves.faster`, `IsHalves.slower`
    * `Settings.onScale_of_ofArguments`
-/

namespace TracePlayer

open Playback

variable {speed : Binary64}

------------------------------------------------------------
-- Speeds on the Scale
------------------------------------------------------------

/- The number of units in one half. -/
def halfUnits : Nat :=
  Nat.pow 2 (1074 - 1)

theorem halfUnits_pos : 0 < halfUnits := by
  decide +kernel

/- The slowest speed and the step are one half. -/
theorem exists_half :
    ∃ h, half = .finite false halfUnits h := by
  have hHalf : half = .halved 1 := by
    decide +kernel
  rw [hHalf]
  unfold Binary64.halved halfUnits
  exact ⟨_, rfl⟩

/- A speed on the scale is finite and at least one half. -/
theorem exists_of_onScale
    (hScale : onScale speed = true) :
    ∃ m h, speed = .finite false m h ∧ halfUnits ≤ m := by
  rcases Bool.and_eq_true_iff.mp hScale with ⟨hLow, hHigh⟩
  rcases exists_half with ⟨hHalf, hMin⟩
  have hFast : maxSpeed.isFinite = true := by
    decide +kernel
  rw [minSpeed, hMin] at hLow
  generalize maxSpeed = high at hHigh hFast
  have hPos := halfUnits_pos
  cases speed with
  | nan => cases hLow
  | infinite negative =>
      cases negative with
      | true => cases hLow
      | false =>
          cases high with
          | nan => cases hFast
          | infinite => cases hFast
          | finite => cases hHigh
  | finite negative m h =>
      have hOrder := Binary64.le_iff_of_finite.mp hLow
      cases negative with
      | true =>
          simp only [Bool.false_eq_true, ↓reduceIte] at hOrder
          omega
      | false =>
          simp only [Bool.false_eq_true, ↓reduceIte] at hOrder
          exact ⟨m, h, rfl, by omega⟩

/- Every playback accepts a speed on the scale. -/
theorem acceptsSpeed_of_onScale
    (hScale : onScale speed = true) :
    acceptsSpeed speed = true := by
  rcases exists_of_onScale hScale with ⟨m, h, rfl, hHalf⟩
  have hPos := halfUnits_pos
  simp only [acceptsSpeed, Binary64.isFinite, Binary64.zero,
    Binary64.lt, Bool.true_and, decide_eq_true_eq,
    Bool.false_eq_true, ↓reduceIte]
  omega

/- On the scale no frame is shown for more than two seconds. -/
theorem intervalOf?_of_onScale
    (hScale : onScale speed = true) :
    ∃ interval,
      intervalOf? speed = some interval ∧
        interval ≤ 2 * second := by
  rcases exists_of_onScale hScale with ⟨m, h, rfl, hHalf⟩
  unfold halfUnits at hHalf
  rcases intervalOf?_le (by decide : 1 ≤ 63) hHalf with
    ⟨interval, hInterval, hShort⟩
  exact ⟨interval, hInterval, hShort⟩

/- The ends of the scale are numbers, in their order. -/
theorem minSpeed_ne_nan : minSpeed ≠ .nan := by
  unfold minSpeed half
  exact Binary64.ofRatio_ne_nan _ _ _

theorem maxSpeed_ne_nan : maxSpeed ≠ .nan := by
  unfold maxSpeed Binary64.ofNat
  exact Binary64.ofRatio_ne_nan _ _ _

theorem minSpeed_le_maxSpeed : minSpeed.le maxSpeed = true := by
  decide +kernel

/- No distance on the scale is not a number. -/
theorem speedStep_mul_ne_nan (steps : Int) :
    speedStep.mul (.ofInt steps) ≠ .nan := by
  rcases exists_half with ⟨h, hHalf⟩
  rw [speedStep, hHalf]
  exact Binary64.mul_ne_nan (Nat.ne_of_gt halfUnits_pos)
    (Binary64.ofRatio_ne_nan _ _ _)

/- An adjusted speed is on the scale. -/
theorem onScale_adjustSpeed
    (hScale : onScale speed = true)
    (steps : Int) : onScale (adjustSpeed speed steps) = true := by
  have hSum :
      speed.add (speedStep.mul (.ofInt steps)) ≠ .nan := by
    rcases exists_of_onScale hScale with ⟨m, h, rfl, _⟩
    exact Binary64.add_ne_nan rfl (speedStep_mul_ne_nan steps)
  unfold onScale adjustSpeed
  rw [Binary64.le_clamp hSum minSpeed_ne_nan minSpeed_le_maxSpeed,
    Binary64.clamp_le hSum maxSpeed_ne_nan minSpeed_le_maxSpeed]
  rfl

------------------------------------------------------------
-- Playbacks on the Scale
------------------------------------------------------------

namespace Playback

variable {p : Playback}
variable {now : Nat}

/- On the scale the next deadline can be set. -/
theorem exists_nextDeadline_of_onScale
    (hScale : onScale p.speed = true)
    (hEarly : now + 2 * second < timeLimit) :
    ∃ due, p.nextDeadline now = .ok due := by
  rcases intervalOf?_of_onScale hScale with
    ⟨interval, hInterval, hShort⟩
  exact ⟨now + interval,
    nextDeadline_eq_ok_iff.mpr
      ⟨interval, hInterval, rfl, by omega⟩⟩

/- An accepted speed is not refused, whenever it is set. -/
theorem setSpeed_ne_invalidSpeed
    (hAccepts : acceptsSpeed speed = true)
    (refused : Binary64) :
    p.setSpeed speed now ≠ .error (.invalidSpeed refused) := by
  unfold setSpeed
  rw [if_pos hAccepts]
  dsimp only
  split
  case h_1 =>
      rcases nextDeadline_cases { p with speed := speed } now with
        ⟨due, hDue⟩ | hOver
      · rw [hDue]
        nofun
      · rw [hOver]
        nofun
  case h_2 => nofun

/- On the scale every control can be used in time. -/
theorem exists_apply_of_onScale
    (p : Playback)
    (control : Control)
    (hScale : onScale (control.speed?.getD p.speed) = true)
    (hEarly :
      ∀ now,
        control.time? = some now →
          now + 2 * second < timeLimit) :
    ∃ moved q, p.apply control = .ok (moved, q) := by
  have hPlay :
      ∀ now, control.time? = some now →
        onScale p.speed = true →
          ∃ q, p.play now = .ok q := by
    intro now hTime hScale
    by_cases hIdle : p.state = .ready ∨ p.state = .paused
    · rcases exists_nextDeadline_of_onScale hScale
        (hEarly now hTime) with ⟨due, hDue⟩
      rw [play_of_idle hIdle, hDue]
      exact ⟨_, rfl⟩
    · exact ⟨p, play_of_not_idle hIdle⟩
  cases control with
  | load length => exact ⟨_, _, rfl⟩
  | reset => exact ⟨_, _, rfl⟩
  | pause => exact ⟨_, _, rfl⟩
  | step delta => exact ⟨_, _, rfl⟩
  | seek index => exact ⟨_, _, rfl⟩
  | play now =>
      rcases hPlay now rfl hScale with ⟨q, hResult⟩
      rw [apply, hResult]
      exact ⟨_, _, rfl⟩
  | toggle now =>
      rw [apply, toggle]
      split
      case isTrue => exact ⟨_, _, rfl⟩
      case isFalse =>
          rcases hPlay now rfl hScale with ⟨q, hResult⟩
          rw [hResult]
          exact ⟨_, _, rfl⟩
  | setSpeed speed now =>
      have hNew : onScale speed = true := hScale
      rw [apply, setSpeed,
        if_pos (acceptsSpeed_of_onScale hNew)]
      dsimp only
      split
      case h_1 =>
          have hNext :=
            exists_nextDeadline_of_onScale
              (p := { p with speed := speed })
              hNew (hEarly now rfl)
          rcases hNext with ⟨due, hDue⟩
          rw [hDue]
          exact ⟨_, _, rfl⟩
      case h_2 => exact ⟨_, _, rfl⟩
  | tick now =>
      rw [apply, tick]
      split
      case h_1 => exact ⟨_, _, rfl⟩
      case h_2 =>
          split
          case isTrue => exact ⟨_, _, rfl⟩
          case isFalse =>
              rcases exists_nextDeadline_of_onScale hScale
                (hEarly now rfl) with ⟨due, hDue⟩
              rw [hDue]
              exact ⟨_, _, rfl⟩

end Playback

------------------------------------------------------------
-- Halves
------------------------------------------------------------

/- A speed that is exactly a number of halves. -/
def IsHalves
    (speed : Binary64)
    (n : Int) : Prop :=
  speed.units? = some (n * halfUnits)

instance (speed : Binary64) (n : Int) :
    Decidable (IsHalves speed n) :=
  inferInstanceAs (Decidable (_ = _))

/- A number of halves as a double. -/
def halves (n : Nat) : Binary64 :=
  .ofRatio false (n * Binary64.one) 2

/- The numbers of halves on the scale are those from one to ten. -/
theorem isHalves_halves :
    ∀ n < 11, IsHalves (halves n) n := by
  decide +kernel

/- A step up from a number of halves, up to ten. -/
theorem adjustSpeed_halves_up :
    ∀ n < 11,
      adjustSpeed (halves n) 1 = halves (min (n + 1) 10) := by
  decide +kernel

/- A step down from a number of halves, down to one. -/
theorem adjustSpeed_halves_down :
    ∀ n < 11,
      adjustSpeed (halves n) (-1) = halves (max (n - 1) 1) := by
  decide +kernel

namespace IsHalves

variable {n : Int}

/- On the scale there are one to ten halves. -/
theorem bounds
    (hHalves : IsHalves speed n)
    (hScale : onScale speed = true) : 1 ≤ n ∧ n ≤ 10 := by
  have hMax : IsHalves maxSpeed 10 := by
    decide +kernel
  rcases exists_of_onScale hScale with ⟨m, h, rfl, hHalf⟩
  rcases Bool.and_eq_true_iff.mp hScale with ⟨_, hHigh⟩
  have hUnits : (m : Int) = n * halfUnits :=
    Option.some.inj hHalves
  have hPos : (0 : Int) < halfUnits :=
    Int.natCast_pos.mpr halfUnits_pos
  have hLow : 1 * (halfUnits : Int) ≤ n * halfUnits := by
    omega
  have hTop : n * (halfUnits : Int) ≤ 10 * halfUnits := by
    generalize maxSpeed = high at hMax hHigh
    cases high with
    | nan => cases hMax
    | infinite => cases hMax
    | finite =>
        have hOrder := Binary64.le_iff_of_finite.mp hHigh
        rw [IsHalves, Binary64.units?, Option.some.injEq] at hMax
        rw [hMax] at hOrder
        simp only [Bool.false_eq_true, ↓reduceIte] at hOrder
        omega
  exact ⟨Int.le_of_mul_le_mul_right hLow hPos,
    Int.le_of_mul_le_mul_right hTop hPos⟩

/- A speed of so many halves is that double. -/
theorem eq_halves
    (hHalves : IsHalves speed n)
    (hScale : onScale speed = true) : speed = halves n.toNat := by
  rcases hHalves.bounds hScale with ⟨hLow, hHigh⟩
  have hSame : ((n.toNat : Nat) : Int) = n := by
    omega
  have hExact := isHalves_halves n.toNat (by omega)
  rw [hSame] at hExact
  have hNonzero : n * (halfUnits : Int) ≠ 0 :=
    Int.ne_of_gt (Int.mul_pos (by omega)
      (Int.natCast_pos.mpr halfUnits_pos))
  exact Binary64.eq_of_units?_eq hHalves hExact hNonzero

/- A step up adds one half, up to ten. -/
theorem faster
    (hHalves : IsHalves speed n)
    (hScale : onScale speed = true) :
    IsHalves (adjustSpeed speed 1) (min (n + 1) 10) := by
  rcases hHalves.bounds hScale with ⟨hLow, hHigh⟩
  rw [hHalves.eq_halves hScale,
    adjustSpeed_halves_up _ (by omega)]
  have hSame : min (n + 1) 10 = (min (n.toNat + 1) 10 : Nat) := by
    omega
  rw [hSame]
  exact isHalves_halves _ (by omega)

/- A step down takes one half away, down to one. -/
theorem slower
    (hHalves : IsHalves speed n)
    (hScale : onScale speed = true) :
    IsHalves (adjustSpeed speed (-1)) (max (n - 1) 1) := by
  rcases hHalves.bounds hScale with ⟨hLow, hHigh⟩
  rw [hHalves.eq_halves hScale,
    adjustSpeed_halves_down _ (by omega)]
  have hSame : max (n - 1) 1 = (max (n.toNat - 1) 1 : Nat) := by
    omega
  rw [hSame]
  exact isHalves_halves _ (by omega)

end IsHalves

------------------------------------------------------------
-- Checked Settings
------------------------------------------------------------

/- Settings that pass the check have a speed on the scale. -/
theorem Settings.onScale_of_ofArguments
    {address : Option String}
    {arguments : Arguments}
    {settings : Settings}
    (hSettings :
      Settings.ofArguments address arguments = .ok settings) :
    onScale settings.speed = true := by
  unfold Settings.ofArguments at hSettings
  dsimp only at hSettings
  generalize arguments.speed.getD defaultSpeed = speed
    at hSettings
  split at hSettings
  case isTrue => cases hSettings
  case isFalse hScale =>
      have hChecked := Bool.eq_true_of_not_eq_false hScale
      split at hSettings
      case h_1 =>
          cases hSettings
          exact hChecked
      case h_2 =>
          generalize httpTarget _ _ = target at hSettings
          cases target with
          | error error => cases hSettings
          | ok tracer =>
              cases hSettings
              exact hChecked

end TracePlayer
