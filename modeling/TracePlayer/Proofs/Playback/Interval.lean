import TracePlayer.Playback
import TracePlayer.Proofs.Number.Rounding

/-
  This file proves how long the time between two advances is:
  at a speed of 2^-k or more at most 2^k seconds, and at 2^-k
  just as many, as long as a duration can hold them.

  Main declarations:
    * `Binary64.halved`
    * `intervalOf?_le`
    * `intervalOf?_halved`
-/

namespace TracePlayer

namespace Binary64

------------------------------------------------------------
-- Units
------------------------------------------------------------

/- A multiple of a power of two is a greater power. -/
theorem two_pow_mul_unit
    {unit e : Nat}
    (hUnit : unit = Nat.pow 2 e)
    (k : Nat) :
    Nat.pow 2 k * unit = Nat.pow 2 (e + k) := by
  rw [hUnit, Nat.pow_eq, Nat.pow_eq, Nat.pow_eq, Nat.pow_add,
    Nat.mul_comm]

/- A power of two is a product of smaller ones. -/
theorem two_pow_mul_two_pow_sub
    {unit e k : Nat}
    (hUnit : unit = Nat.pow 2 e)
    (hPower : k ≤ e) :
    Nat.pow 2 k * Nat.pow 2 (e - k) = unit := by
  rw [hUnit, Nat.pow_eq, Nat.pow_eq, Nat.pow_eq, ← Nat.pow_add,
    Nat.add_sub_cancel' hPower]

/- The square of a power of two is a product of two others. -/
theorem unit_mul_unit
    {unit e k : Nat}
    (hUnit : unit = Nat.pow 2 e)
    (hPower : k ≤ e) :
    unit * unit = Nat.pow 2 (e + k) * Nat.pow 2 (e - k) := by
  rw [← two_pow_mul_unit hUnit, Nat.mul_right_comm,
    two_pow_mul_two_pow_sub hUnit hPower]

------------------------------------------------------------
-- Doubles
------------------------------------------------------------

theorem representable_two_pow
    {e : Nat}
    (hPower : e ≤ 2045) :
    Representable (Nat.pow 2 e) :=
  ⟨1, e, by decide, hPower, (Nat.one_mul _).symm⟩

/- One, halved a number of times, at most 1074. -/
def halved (times : Nat) : Binary64 :=
  finite false (Nat.pow 2 (1074 - times))
    (representable_two_pow (by omega))

theorem representable_one : Representable one :=
  ⟨1, 1074, by decide, by decide, by decide +kernel⟩

theorem ofNat_one :
    ofNat 1 = finite false one representable_one := by
  decide +kernel

end Binary64

open Binary64

------------------------------------------------------------
-- Durations
------------------------------------------------------------

/- A magnitude is rounded to nanoseconds, if they fit. -/
theorem nanoseconds?_finite
    (m : Nat)
    (h : Representable m) :
    nanoseconds? (.finite false m h) =
      if roundHalfEven (m * second) one < durationLimit then
        some (roundHalfEven (m * second) one)
      else none :=
  rfl

/- A duration holds fewer than 2^64 seconds. -/
theorem two_pow_seconds_lt_iff (k : Nat) :
    Nat.pow 2 k * second < durationLimit ↔ k < 64 := by
  have hLimit : durationLimit = Nat.pow 2 64 * second := by
    decide
  rw [hLimit, Nat.mul_lt_mul_right (by decide)]
  exact Nat.pow_lt_pow_iff_right Nat.one_lt_two

/- At most 2^k seconds, counted in nanoseconds. -/
theorem exists_nanoseconds?_le
    {m k : Nat}
    {h : Representable m}
    (hPower : k ≤ 63)
    (hBound : m ≤ Nat.pow 2 k * one) :
    ∃ duration,
      nanoseconds? (.finite false m h) = some duration ∧
        duration ≤ Nat.pow 2 k * second := by
  have hRounded := roundHalfEven_mul_le units_pos hBound second
  have hLimit : Nat.pow 2 k * second < durationLimit :=
    (two_pow_seconds_lt_iff k).mpr (Nat.lt_succ_of_le hPower)
  have hShort := Nat.lt_of_le_of_lt hRounded hLimit
  rw [nanoseconds?_finite, if_pos hShort]
  exact ⟨_, rfl, hRounded⟩

/- Just 2^k seconds, if a duration can hold them. -/
theorem nanoseconds?_two_pow
    {m k : Nat}
    {h : Representable m}
    (hPower : m = Nat.pow 2 k * one) :
    nanoseconds? (.finite false m h) =
      if k < 64 then some (Nat.pow 2 k * second) else none := by
  have hExact :
      roundHalfEven (m * second) one = Nat.pow 2 k * second := by
    rw [hPower, Nat.mul_right_comm]
    exact roundHalfEven_mul units_pos _
  rw [nanoseconds?_finite, hExact]
  simp only [two_pow_seconds_lt_iff]

------------------------------------------------------------
-- Intervals
------------------------------------------------------------

/- The interval is the quotient of one and the speed. -/
theorem intervalOf?_finite
    {m : Nat}
    (hPos : 0 < m)
    (h : Representable m) :
    intervalOf? (.finite false m h) =
      nanoseconds? (ofRatio false (one * one) m) := by
  rw [intervalOf?, ofNat_one, div]
  rw [if_neg (Nat.ne_of_gt hPos)]
  rfl

/- A speed of 2^-k or more has an interval of 2^k seconds or less. -/
theorem intervalOf?_le
    {m k : Nat}
    {h : Representable m}
    (hPower : k ≤ 63)
    (hSpeed : Nat.pow 2 (1074 - k) ≤ m) :
    ∃ interval,
      intervalOf? (.finite false m h) = some interval ∧
        interval ≤ Nat.pow 2 k * second := by
  have hPos : 0 < m :=
    Nat.lt_of_lt_of_le (Nat.two_pow_pos _) hSpeed
  have hNum : one * one ≤ Nat.pow 2 (1074 + k) * m := by
    rw [unit_mul_unit units_eq (by omega : k ≤ 1074)]
    exact Nat.mul_le_mul_left _ hSpeed
  rcases exists_nearest_le hPos (by omega) hNum with
    ⟨q, hq, hNearest, hBound⟩
  rw [← two_pow_mul_unit units_eq] at hBound
  rw [intervalOf?_finite hPos, ofRatio_of_nearest hNearest]
  exact exists_nanoseconds?_le hPower hBound

/-
  The speed 2^-k has an interval of 2^k seconds, if a duration
  can hold them.
-/
theorem intervalOf?_halved
    {k : Nat}
    (hPower : k ≤ 1074) :
    intervalOf? (halved k) =
      if k < 64 then some (Nat.pow 2 k * second) else none := by
  have hPos : 0 < Nat.pow 2 (1074 - k) := Nat.two_pow_pos _
  rw [halved, intervalOf?_finite hPos,
    unit_mul_unit units_eq hPower]
  by_cases hFinite : 1074 + k ≤ 2097
  · rcases exists_nearest_two_pow hPos hFinite with
      ⟨h, hNearest⟩
    rw [ofRatio_of_nearest hNearest]
    exact nanoseconds?_two_pow
      (two_pow_mul_unit units_eq k).symm
  · -- The quotient is infinite, from 2^1024 on.
    have hLong : ¬ k < 64 := by
      omega
    rw [if_neg hLong,
      ofRatio_of_nearest_eq_none
        (nearest_two_pow_eq_none hPos (by omega))]
    rfl

end TracePlayer
