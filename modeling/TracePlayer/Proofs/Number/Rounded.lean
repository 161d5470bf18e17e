import TracePlayer.Proofs.Number.Rounding

/-
  This file proves that a greater ratio is not rounded to a
  smaller magnitude, and that a ratio has a nearest double
  whenever the magnitude that it is rounded to is finite.

  Main declarations:
    * `Binary64.rounded`
    * `Binary64.roundHalfEven_mono`
    * `Binary64.two_pow_le_rounded`
    * `Binary64.rounded_mono`
    * `Binary64.exists_nearest_of_rounded`
-/

namespace TracePlayer

namespace Binary64

------------------------------------------------------------
-- Rounding to Whole Numbers
------------------------------------------------------------

/- A ratio is rounded to no less than a bound below it. -/
theorem le_roundHalfEven
    {num den bound : Nat}
    (hDen : 0 < den)
    (hNum : bound * den ≤ num) :
    bound ≤ roundHalfEven num den := by
  have hFloor : bound ≤ num / den :=
    (Nat.le_div_iff_mul_le hDen).mpr hNum
  unfold roundHalfEven
  dsimp only
  split_ifs <;> omega

/- A greater ratio is not rounded to a smaller number. -/
theorem roundHalfEven_mono
    {num more den : Nat}
    (hDen : 0 < den)
    (hMore : num ≤ more) :
    roundHalfEven num den ≤ roundHalfEven more den := by
  have hFloor : num / den ≤ more / den :=
    Nat.div_le_div_right hMore
  rcases Nat.lt_or_eq_of_le hFloor with hLess | hEq
  · -- The next whole number is between the two.
    have hNext : num ≤ (num / den + 1) * den := by
      rw [Nat.add_one_mul]
      have hSplit := Nat.div_add_mod' num den
      have hRest := Nat.mod_lt num hDen
      omega
    refine Nat.le_trans (roundHalfEven_le hDen hNext) ?_
    refine Nat.le_trans hLess ?_
    exact le_roundHalfEven hDen (Nat.div_mul_le_self more den)
  · have hRest : num % den ≤ more % den := by
      have hSplit := Nat.div_add_mod num den
      have hOther := Nat.div_add_mod more den
      rw [← hEq] at hOther
      omega
    unfold roundHalfEven
    dsimp only
    rw [hEq]
    split_ifs <;> omega

------------------------------------------------------------
-- Rounding to Magnitudes
------------------------------------------------------------

/- The magnitude that a ratio is rounded to, however large. -/
def rounded (num den : Nat) : Nat :=
  significandOf num den * Nat.pow 2 (exponentOf num den)

variable {num more den : Nat}

/- A ratio is below the power of two past its bits. -/
theorem lt_two_pow_mul
    (hDen : 0 < den) :
    num < Nat.pow 2 (53 + exponentOf num den) * den := by
  refine (Nat.div_lt_iff_lt_mul hDen).mp ?_
  refine Nat.lt_of_lt_of_le Nat.lt_log2_self ?_
  refine Nat.pow_le_pow_right (by decide) ?_
  unfold exponentOf
  omega

/- A ratio from a power of two on keeps 53 bits of it. -/
theorem two_pow_mul_le
    (hDen : 0 < den)
    (hExponent : exponentOf num den ≠ 0) :
    Nat.pow 2 (52 + exponentOf num den) * den ≤ num := by
  have hLog :
      52 + exponentOf num den = (num / den).log2 := by
    unfold exponentOf at hExponent ⊢
    omega
  have hFloor : num / den ≠ 0 := by
    intro hZero
    rw [hZero] at hLog
    simp at hLog
  refine (Nat.le_div_iff_mul_le hDen).mp ?_
  rw [hLog]
  exact Nat.log2_self_le hFloor

/- A power of two at or below a ratio is not passed. -/
theorem two_pow_le_rounded
    {k : Nat}
    (hDen : 0 < den)
    (hNum : Nat.pow 2 k * den ≤ num) :
    Nat.pow 2 k ≤ rounded num den := by
  by_cases hExponent : exponentOf num den = 0
  · rw [rounded, significandOf, hExponent]
    simp only [Nat.pow_eq, Nat.pow_zero, Nat.mul_one]
    exact le_roundHalfEven hDen hNum
  · have hScale : 0 < den * Nat.pow 2 (exponentOf num den) :=
      Nat.mul_pos hDen (Nat.two_pow_pos _)
    have hSignificand :
        Nat.pow 2 52 ≤ significandOf num den := by
      refine le_roundHalfEven hScale ?_
      calc
        Nat.pow 2 52 * (den * Nat.pow 2 (exponentOf num den)) =
            Nat.pow 2 (52 + exponentOf num den) * den := by
          simp only [Nat.pow_eq]
          ring
        _ ≤ num := two_pow_mul_le hDen hExponent
    have hBits : k ≤ 52 + exponentOf num den := by
      have hPower :=
        Nat.lt_of_le_of_lt hNum (lt_two_pow_mul hDen)
      have hLess :=
        (Nat.pow_lt_pow_iff_right Nat.one_lt_two).mp
          (Nat.lt_of_mul_lt_mul_right hPower)
      omega
    calc
      Nat.pow 2 k ≤ Nat.pow 2 (52 + exponentOf num den) :=
        Nat.pow_le_pow_right (by decide) hBits
      _ = Nat.pow 2 52 * Nat.pow 2 (exponentOf num den) :=
        Nat.pow_add ..
      _ ≤ rounded num den := Nat.mul_le_mul_right _ hSignificand

/- A greater ratio has no smaller exponent. -/
theorem exponentOf_mono
    (hMore : num ≤ more) :
    exponentOf num den ≤ exponentOf more den := by
  have hLog :
      (num / den).log2 ≤ (more / den).log2 := by
    rw [Nat.log2_eq_log_two, Nat.log2_eq_log_two]
    exact Nat.log_mono_right (Nat.div_le_div_right hMore)
  unfold exponentOf
  omega

/- A greater ratio is not rounded to a smaller magnitude. -/
theorem rounded_mono
    (hDen : 0 < den)
    (hMore : num ≤ more) :
    rounded num den ≤ rounded more den := by
  have hExponents :
      exponentOf num den ≤ exponentOf more den :=
    exponentOf_mono hMore
  rcases Nat.lt_or_eq_of_le hExponents with hLess | hEq
  · -- The power of two past the bits of one is between the two.
    have hBelow :
        rounded num den ≤
          Nat.pow 2 (53 + exponentOf num den) :=
      significandOf_mul_le hDen
        (Nat.le_of_lt (lt_two_pow_mul hDen))
    have hAbove :
        Nat.pow 2 (52 + exponentOf more den) ≤
          rounded more den :=
      two_pow_le_rounded hDen
        (two_pow_mul_le hDen (Nat.ne_zero_of_lt hLess))
    refine Nat.le_trans hBelow (Nat.le_trans ?_ hAbove)
    exact Nat.pow_le_pow_right (by decide) (by omega)
  · have hScale : 0 < den * Nat.pow 2 (exponentOf more den) :=
      Nat.mul_pos hDen (Nat.two_pow_pos _)
    unfold rounded significandOf
    rw [hEq]
    exact Nat.mul_le_mul_right _ (roundHalfEven_mono hScale hMore)

/-
  A ratio that is rounded to a magnitude below 2^1024 has that
  magnitude as the nearest one.
-/
theorem exists_nearest_of_rounded
    {limit k : Nat}
    (hDen : 0 < den)
    (hLimit : limit = Nat.pow 2 k)
    (hPower : k ≤ 2098)
    (hFinite : rounded num den < limit) :
    ∃ h, nearest num den = some ⟨rounded num den, h⟩ := by
  have hSignificand : significandOf num den ≤ Nat.pow 2 53 :=
    significandOf_le hDen
  rw [hLimit] at hFinite
  rw [nearest_eq]
  rcases Nat.lt_or_eq_of_le hSignificand with hLess | hEq
  · have hFits : exponentOf num den ≤ 2045 := by
      by_contra hLarge
      -- So large a ratio would be rounded to 2^1024 at least.
      have hReached :
          Nat.pow 2 (52 + exponentOf num den) ≤
            rounded num den :=
        two_pow_le_rounded hDen
          (two_pow_mul_le hDen (by omega))
      have hBits :=
        (Nat.pow_lt_pow_iff_right Nat.one_lt_two).mp
          (Nat.lt_of_le_of_lt hReached hFinite)
      omega
    rcases fit_of_fits hLess hFits with ⟨h, hFit⟩
    rw [hFit]
    exact ⟨h, rfl⟩
  · -- A significand rounded up to 2^53 moves to the next exponent.
    have hHalf : significandOf num den / 2 = Nat.pow 2 52 := by
      rw [hEq]
    have hFits : exponentOf num den + 1 ≤ 2045 := by
      rw [rounded, hEq] at hFinite
      have hBits :=
        (Nat.pow_lt_pow_iff_right Nat.one_lt_two).mp
          ((Nat.pow_add 2 53 _).trans_lt hFinite)
      omega
    have hMoved :
        Nat.pow 2 52 * Nat.pow 2 (exponentOf num den + 1) =
          rounded num den := by
      rw [rounded, hEq]
      simp only [Nat.pow_eq]
      ring
    have hSmall : Nat.pow 2 52 < Nat.pow 2 53 := by
      decide
    rcases fit_of_fits hSmall hFits with ⟨h, hFit⟩
    rw [fit_eq_none (by omega), Option.none_or, hHalf, hFit]
    simp only [hMoved]
    exact ⟨hMoved ▸ h, trivial⟩

end Binary64

end TracePlayer
