import Mathlib.Data.Nat.Log
import Mathlib.Tactic.Ring
import TracePlayer.Number.Binary64

/-
  This file proves that rounding to a double does not cross a
  power of two, and leaves one as it is.

  Main declarations:
    * `Binary64.roundHalfEven_le`, `roundHalfEven_mul_le`,
      `roundHalfEven_mul`
    * `Binary64.exists_nearest_le`
    * `Binary64.exists_nearest_two_pow`
    * `Binary64.nearest_two_pow_eq_none`
    * `Binary64.ofRatio_of_nearest`
-/

namespace TracePlayer

namespace Binary64

/-
  The number of units is too long to compute with outside the
  kernel: what is proved of it is proved of any power of two.
-/
theorem units_eq : one = Nat.pow 2 1074 := by
  decide +kernel

theorem units_pos : 0 < one := by
  decide +kernel

------------------------------------------------------------
-- Rounding to Whole Numbers
------------------------------------------------------------

/- A ratio is rounded to no more than a bound it respects. -/
theorem roundHalfEven_le
    {num den bound : Nat}
    (hDen : 0 < den)
    (hNum : num ≤ bound * den) :
    roundHalfEven num den ≤ bound := by
  have hFloor : num / den ≤ bound :=
    Nat.div_le_of_le_mul (by rwa [Nat.mul_comm])
  rcases Nat.lt_or_eq_of_le hFloor with hLess | hEq
  · unfold roundHalfEven
    dsimp only
    split_ifs <;> omega
  · -- Nothing is left above the bound, so it is not rounded up.
    have hRest : num % den = 0 := by
      have hSplit := Nat.div_add_mod num den
      rw [hEq, Nat.mul_comm] at hSplit
      omega
    unfold roundHalfEven
    rw [hRest, if_pos hDen]
    exact hFloor

/- A bound on a ratio is a bound on its multiples. -/
theorem roundHalfEven_mul_le
    {num den bound : Nat}
    (hDen : 0 < den)
    (hNum : num ≤ bound * den)
    (scale : Nat) :
    roundHalfEven (num * scale) den ≤ bound * scale := by
  refine roundHalfEven_le hDen ?_
  rw [Nat.mul_right_comm]
  exact Nat.mul_le_mul_right scale hNum

/- A whole ratio is not changed. -/
theorem roundHalfEven_mul
    {den : Nat}
    (hDen : 0 < den)
    (n : Nat) :
    roundHalfEven (n * den) den = n := by
  unfold roundHalfEven
  rw [Nat.mul_mod_left, if_pos hDen,
    Nat.mul_div_cancel n hDen]

------------------------------------------------------------
-- Rounding to Doubles
------------------------------------------------------------

/- A significand and exponent that fit are kept. -/
theorem fit_of_fits
    {significand exponent : Nat}
    (hSignificand : significand < Nat.pow 2 53)
    (hExponent : exponent ≤ 2045) :
    ∃ h, fit significand exponent =
      some ⟨significand * Nat.pow 2 exponent, h⟩ :=
  ⟨_, dif_pos ⟨hSignificand, hExponent⟩⟩

/- What does not fit has no magnitude. -/
theorem fit_eq_none
    {significand exponent : Nat}
    (hNot :
      ¬ (significand < Nat.pow 2 53 ∧ exponent ≤ 2045)) :
    fit significand exponent = none :=
  dif_neg hNot

/- The exponent that leaves 53 bits of a ratio. -/
def exponentOf
    (num den : Nat) : Nat :=
  (num / den).log2 - 52

/- The significand that is left is rounded to 53 bits. -/
def significandOf
    (num den : Nat) : Nat :=
  roundHalfEven num (den * Nat.pow 2 (exponentOf num den))

/- A magnitude is made of its significand and exponent. -/
theorem nearest_eq
    (num den : Nat) :
    nearest num den =
      (fit (significandOf num den) (exponentOf num den)).or
        (fit (significandOf num den / 2)
          (exponentOf num den + 1)) :=
  rfl

theorem significandOf_le
    {num den : Nat}
    (hDen : 0 < den) :
    significandOf num den ≤ Nat.pow 2 53 := by
  have hScale : 0 < den * Nat.pow 2 (exponentOf num den) :=
    Nat.mul_pos hDen (Nat.two_pow_pos _)
  refine roundHalfEven_le hScale ?_
  have hBits :
      num / den < 2 ^ (53 + exponentOf num den) := by
    refine Nat.lt_of_lt_of_le Nat.lt_log2_self ?_
    refine Nat.pow_le_pow_right (by decide) ?_
    unfold exponentOf
    omega
  have hNum := (Nat.div_lt_iff_lt_mul hDen).mp hBits
  calc
    num ≤ 2 ^ (53 + exponentOf num den) * den :=
      Nat.le_of_lt hNum
    _ = 2 ^ 53 * (den * 2 ^ exponentOf num den) := by
      rw [Nat.pow_add]
      ring

/- The exponent of a ratio is that of no greater power. -/
theorem exponentOf_le
    {num den k : Nat}
    (hNum : num ≤ Nat.pow 2 k * den) :
    exponentOf num den ≤ k - 52 := by
  have hFloor : num / den ≤ 2 ^ k :=
    Nat.div_le_of_le_mul (by rwa [Nat.mul_comm])
  have hLog : (num / den).log2 ≤ k := by
    rw [Nat.log2_eq_log_two, ← Nat.log_pow Nat.one_lt_two k]
    exact Nat.log_mono_right hFloor
  unfold exponentOf
  omega

/- The magnitude does not pass a power of two. -/
theorem significandOf_mul_le
    {num den k : Nat}
    (hDen : 0 < den)
    (hNum : num ≤ Nat.pow 2 k * den) :
    significandOf num den * Nat.pow 2 (exponentOf num den) ≤
      Nat.pow 2 k := by
  have hExponent := exponentOf_le hNum
  have hSplit : k = k - exponentOf num den + exponentOf num den :=
    by omega
  have hScale : 0 < den * Nat.pow 2 (exponentOf num den) :=
    Nat.mul_pos hDen (Nat.two_pow_pos _)
  have hSignificand :
      significandOf num den ≤
        Nat.pow 2 (k - exponentOf num den) := by
    refine roundHalfEven_le hScale ?_
    calc
      num ≤ 2 ^ k * den := hNum
      _ = 2 ^ (k - exponentOf num den + exponentOf num den) *
            den := by
        rw [← hSplit]
      _ = 2 ^ (k - exponentOf num den) *
            (den * 2 ^ exponentOf num den) := by
        rw [Nat.pow_add]
        ring
  calc
    significandOf num den * 2 ^ exponentOf num den
        ≤ 2 ^ (k - exponentOf num den) *
            2 ^ exponentOf num den :=
      Nat.mul_le_mul_right _ hSignificand
    _ = 2 ^ k := by
      rw [← Nat.pow_add, ← hSplit]

/-
  A ratio up to a power of two below 2^1024 has a nearest
  magnitude, up to the same power.
-/
theorem exists_nearest_le
    {num den k : Nat}
    (hDen : 0 < den)
    (hPower : k ≤ 2097)
    (hNum : num ≤ Nat.pow 2 k * den) :
    ∃ m h, nearest num den = some ⟨m, h⟩ ∧
      m ≤ Nat.pow 2 k := by
  have hExponent := exponentOf_le hNum
  have hBound := significandOf_mul_le hDen hNum
  have hSignificand : significandOf num den ≤ Nat.pow 2 53 :=
    significandOf_le hDen
  rw [nearest_eq]
  rcases Nat.lt_or_eq_of_le hSignificand with hLess | hEq
  · have hFits : exponentOf num den ≤ 2045 := by
      omega
    rcases fit_of_fits hLess hFits with ⟨h, hFit⟩
    rw [hFit]
    exact ⟨_, h, rfl, hBound⟩
  · -- A significand rounded up to 2^53 moves to the next exponent.
    have hHalf : significandOf num den / 2 = Nat.pow 2 52 := by
      rw [hEq]
    have hSum : 53 + exponentOf num den ≤ k := by
      rw [hEq] at hBound
      refine (Nat.pow_le_pow_iff_right Nat.one_lt_two).mp ?_
      rw [Nat.pow_add]
      exact hBound
    have hSmall : Nat.pow 2 52 < Nat.pow 2 53 := by
      decide
    have hFits : exponentOf num den + 1 ≤ 2045 := by
      omega
    have hMoved :
        Nat.pow 2 52 * Nat.pow 2 (exponentOf num den + 1) =
          Nat.pow 2 53 * Nat.pow 2 (exponentOf num den) := by
      simp only [Nat.pow_eq]
      ring
    rcases fit_of_fits hSmall hFits with ⟨h, hFit⟩
    rw [fit_eq_none (by omega), Option.none_or, hHalf, hFit]
    exact ⟨_, h, rfl, by rwa [hMoved, ← hEq]⟩

/- The exponent and significand of a power of two. -/
theorem parts_of_two_pow
    {den : Nat}
    (hDen : 0 < den)
    (k : Nat) :
    exponentOf (Nat.pow 2 k * den) den = k - 52 ∧
      significandOf (Nat.pow 2 k * den) den =
        Nat.pow 2 (min k 52) := by
  have hExponent :
      exponentOf (Nat.pow 2 k * den) den = k - 52 := by
    rw [exponentOf, Nat.mul_div_cancel _ hDen, Nat.pow_eq,
      Nat.log2_two_pow]
  have hScale : 0 < den * Nat.pow 2 (k - 52) :=
    Nat.mul_pos hDen (Nat.two_pow_pos _)
  have hSplit : k = min k 52 + (k - 52) := by
    omega
  have hNum :
      Nat.pow 2 k * den =
        Nat.pow 2 (min k 52) * (den * Nat.pow 2 (k - 52)) := by
    simp only [Nat.pow_eq]
    calc
      2 ^ k * den = 2 ^ (min k 52 + (k - 52)) * den := by
        rw [← hSplit]
      _ = 2 ^ min k 52 * (den * 2 ^ (k - 52)) := by
        rw [Nat.pow_add]
        ring
  refine ⟨hExponent, ?_⟩
  rw [significandOf, hExponent, hNum,
    roundHalfEven_mul hScale]

/- A power of two below 2^1024 is its own nearest magnitude. -/
theorem exists_nearest_two_pow
    {den k : Nat}
    (hDen : 0 < den)
    (hPower : k ≤ 2097) :
    ∃ h, nearest (Nat.pow 2 k * den) den =
      some ⟨Nat.pow 2 k, h⟩ := by
  rcases parts_of_two_pow hDen k with
    ⟨hExponent, hSignificand⟩
  have hSmall : Nat.pow 2 (min k 52) < Nat.pow 2 53 :=
    Nat.pow_lt_pow_right Nat.one_lt_two (by omega)
  have hFits : k - 52 ≤ 2045 := by
    omega
  have hValue :
      Nat.pow 2 (min k 52) * Nat.pow 2 (k - 52) =
        Nat.pow 2 k := by
    simp only [Nat.pow_eq]
    rw [← Nat.pow_add]
    congr 1
    omega
  rcases fit_of_fits hSmall hFits with ⟨h, hFit⟩
  rw [nearest_eq, hExponent, hSignificand, hFit]
  simp only [Option.some_or, hValue]
  exact ⟨hValue ▸ h, trivial⟩

/- A power of two from 2^1024 on has no nearest magnitude. -/
theorem nearest_two_pow_eq_none
    {den k : Nat}
    (hDen : 0 < den)
    (hPower : 2097 < k) :
    nearest (Nat.pow 2 k * den) den = none := by
  have hExponent := (parts_of_two_pow hDen k).1
  rw [nearest_eq, hExponent, fit_eq_none (by omega),
    fit_eq_none (by omega), Option.or_none]

------------------------------------------------------------
-- Doubles
------------------------------------------------------------

/- A double has the nearest magnitude. -/
theorem ofRatio_of_nearest
    {num den m : Nat}
    {h : Representable m}
    (hNearest : nearest num den = some ⟨m, h⟩)
    (negative : Bool) :
    ofRatio negative num den = finite negative m h := by
  unfold ofRatio
  generalize nearest num den = found at hNearest ⊢
  subst hNearest
  rfl

/- A ratio without a nearest magnitude is infinite. -/
theorem ofRatio_of_nearest_eq_none
    {num den : Nat}
    (hNearest : nearest num den = none)
    (negative : Bool) :
    ofRatio negative num den = infinite negative := by
  unfold ofRatio
  generalize nearest num den = found at hNearest ⊢
  subst hNearest
  rfl

end Binary64

end TracePlayer
