import TracePlayer.Proofs.Json.Scaling

/-
  This file proves that the decimals which round to a double
  are read as that double, however they are spelled, and that
  the shortest decimal of a double is one of them.

  Main declarations:
    * `Binary64.roundHalfEven_eq`
    * `Binary64.rounded_of_holds`
    * `Binary64.RoundsTo`, `Binary64.roundsTo_shift_iff`
    * `Binary64.roundsTo_shortest`
    * `Binary64.ofDecimal_of_roundsTo`
-/

namespace TracePlayer

namespace Binary64

------------------------------------------------------------
-- Rounding to Whole Numbers
------------------------------------------------------------

/-
  A ratio is rounded to the whole number that is less than one
  half away, or to an even one that is just one half away.
-/
theorem roundHalfEven_eq
    {num den k : Nat}
    (hDen : 0 < den)
    (hLow :
      2 * (k * den) < 2 * num + den ∨
        2 * (k * den) = 2 * num + den ∧ k % 2 = 0)
    (hHigh :
      2 * num < 2 * (k * den) + den ∨
        2 * num = 2 * (k * den) + den ∧ k % 2 = 0) :
    roundHalfEven num den = k := by
  have hSplit := Nat.div_add_mod' num den
  have hRest := Nat.mod_lt num hDen
  have hFloor : num / den ≤ k := by
    by_contra hMore
    have hScaled :=
      Nat.mul_le_mul_right den (Nat.lt_of_not_le hMore)
    rw [Nat.succ_mul] at hScaled
    omega
  have hNext : k ≤ num / den + 1 := by
    by_contra hMore
    have hScaled :=
      Nat.mul_le_mul_right den (Nat.lt_of_not_le hMore)
    rw [Nat.succ_mul, Nat.succ_mul] at hScaled
    omega
  unfold roundHalfEven
  dsimp only
  rcases Nat.lt_or_eq_of_le hFloor with hLess | hSame
  · have hSame : k = num / den + 1 := by
      omega
    have hScaled : k * den = num / den * den + den := by
      rw [hSame, Nat.add_one_mul]
    split_ifs <;> omega
  · rw [hSame] at hSplit ⊢
    split_ifs <;> omega

------------------------------------------------------------
-- Rounding to Magnitudes
------------------------------------------------------------

/- A magnitude has at most 53 bits in units of its exponent. -/
theorem Representable.exists_significand
    {magnitude : Nat}
    (hValid : Representable magnitude)
    (hPositive : magnitude ≠ 0) :
    ∃ k,
      magnitude = k * Nat.pow 2 (magnitude.log2 - 52) ∧
        k < Nat.pow 2 53 ∧
        (magnitude.log2 - 52 ≠ 0 → Nat.pow 2 52 ≤ k) := by
  rcases hValid with ⟨significand, exponent, hBits, _, hValue⟩
  have hLow : 2 ^ magnitude.log2 ≤ magnitude :=
    Nat.log2_self_le hPositive
  have hHigh : magnitude < 2 ^ (magnitude.log2 + 1) :=
    Nat.lt_log2_self
  have hExponent : magnitude.log2 - 52 ≤ exponent := by
    have hLess : magnitude < 2 ^ (53 + exponent) := by
      rw [Nat.pow_add, hValue]
      exact Nat.mul_lt_mul_of_pos_right hBits
        (Nat.two_pow_pos exponent)
    have hLog := (Nat.log2_lt hPositive).mpr hLess
    omega
  generalize hUnit : magnitude.log2 - 52 = e at hExponent ⊢
  have hParts :
      magnitude = significand * 2 ^ (exponent - e) * 2 ^ e := by
    rw [Nat.mul_assoc, ← Nat.pow_add,
      Nat.sub_add_cancel hExponent]
    exact hValue
  refine ⟨significand * 2 ^ (exponent - e), hParts, ?_, ?_⟩
  · refine Nat.lt_of_mul_lt_mul_right (a := 2 ^ e) ?_
    rw [← hParts, Nat.pow_eq, ← Nat.pow_add]
    refine Nat.lt_of_lt_of_le hHigh ?_
    exact Nat.pow_le_pow_right Nat.two_pos (by omega)
  · intro hLarge
    refine Nat.le_of_mul_le_mul_right ?_ (Nat.two_pow_pos e)
    have hLog : 52 + e = magnitude.log2 := by
      omega
    rw [← hParts, Nat.pow_eq, ← Nat.pow_add, hLog]
    exact hLow

variable {num den e : Nat}

/- The exponent of a ratio below a power of two. -/
theorem exponentOf_le_of_lt
    (hDen : 0 < den)
    (hNum : num < Nat.pow 2 (53 + e) * den) :
    exponentOf num den ≤ e := by
  have hFloor : num / den < 2 ^ (53 + e) :=
    (Nat.div_lt_iff_lt_mul hDen).mpr hNum
  unfold exponentOf
  by_cases hZero : num / den = 0
  · rw [hZero, Nat.log2_zero]
    omega
  · have hLog := (Nat.log2_lt hZero).mpr hFloor
    omega

/- The exponent of a ratio from a power of two on. -/
theorem le_exponentOf
    (hDen : 0 < den)
    (hNum : Nat.pow 2 (52 + e) * den ≤ num) :
    e ≤ exponentOf num den := by
  have hFloor : 2 ^ (52 + e) ≤ num / den :=
    (Nat.le_div_iff_mul_le hDen).mpr hNum
  have hPositive : num / den ≠ 0 :=
    Nat.ne_zero_of_lt
      (Nat.lt_of_lt_of_le (Nat.two_pow_pos _) hFloor)
  have hLog := (Nat.le_log2 hPositive).mpr hFloor
  unfold exponentOf
  omega

/-
  A ratio in the neighbourhood of a magnitude is at most half
  a unit of its exponent away, less if the significand is odd;
  below a power of two it is at most a quarter away.
-/
theorem near_of_holds
    {k : Nat}
    (hHolds :
      (neighbourhood (k * Nat.pow 2 e)).holds den (4 * num) =
        true)
    (hUnit : (k * Nat.pow 2 e).log2 - 52 = e) :
    let unit := den * Nat.pow 2 e
    (2 * (k * unit) < 2 * num + unit ∨
      2 * (k * unit) = 2 * num + unit ∧ k % 2 = 0) ∧
    (2 * num < 2 * (k * unit) + unit ∨
      2 * num = 2 * (k * unit) + unit ∧ k % 2 = 0) ∧
    (k = Nat.pow 2 52 → e ≠ 0 →
      4 * (k * unit) ≤ 4 * num + unit) := by
  intro unit
  have hSignificand : k * Nat.pow 2 e / Nat.pow 2 e = k :=
    Nat.mul_div_cancel k (Nat.two_pow_pos e)
  have hPower :
      k * Nat.pow 2 e = Nat.pow 2 (52 + e) ↔
        k = Nat.pow 2 52 := by
    have hSum : Nat.pow 2 (52 + e) = Nat.pow 2 52 * Nat.pow 2 e :=
      Nat.pow_add ..
    rw [hSum]
    exact Nat.mul_left_inj (Nat.ne_of_gt (Nat.two_pow_pos e))
  have hHalf : 2 * Nat.pow 2 e / 2 = Nat.pow 2 e :=
    Nat.mul_div_cancel_left _ Nat.two_pos
  have hValue : 4 * (k * Nat.pow 2 e) * den = 4 * (k * unit) := by
    ring
  have hStep : 2 * Nat.pow 2 e * den = 2 * unit := by
    ring
  have hShort : Nat.pow 2 e * den = unit :=
    Nat.mul_comm _ _
  unfold Neighbourhood.holds neighbourhood at hHolds
  simp only [hUnit, hSignificand, hPower, hHalf, hValue, hStep,
    ite_mul, hShort] at hHolds
  clear_value unit
  generalize k * unit = value at hHolds ⊢
  split_ifs at hHolds
  all_goals
    simp only [Bool.or_eq_true, Bool.and_eq_true,
      decide_eq_true_eq] at hHolds
    omega

theorem two_pow_add_mul
    (bits e den : Nat) :
    Nat.pow 2 (bits + e) * den =
      Nat.pow 2 bits * (den * Nat.pow 2 e) := by
  simp only [Nat.pow_eq]
  ring

/-
  Below a power of two the exponent is one less; a ratio that
  is at most a quarter of a unit away is rounded up to it.
-/
theorem rounded_of_quarter
    (hDen : 0 < den)
    (hBelow : num < Nat.pow 2 (52 + (e + 1)) * den)
    (hQuarter :
      4 * (Nat.pow 2 52 * (den * Nat.pow 2 (e + 1))) ≤
        4 * num + den * Nat.pow 2 (e + 1)) :
    rounded num den = Nat.pow 2 52 * Nat.pow 2 (e + 1) := by
  have hScale : 0 < den * Nat.pow 2 e :=
    Nat.mul_pos hDen (Nat.two_pow_pos e)
  have hDouble : Nat.pow 2 (e + 1) = 2 * Nat.pow 2 e :=
    Nat.pow_succ'
  have hLess := hBelow
  rw [two_pow_add_mul, hDouble, Nat.mul_left_comm den,
    Nat.mul_left_comm (Nat.pow 2 52)] at hLess
  rw [hDouble, Nat.mul_left_comm den,
    Nat.mul_left_comm (Nat.pow 2 52)] at hQuarter
  have hUnit :
      den * Nat.pow 2 e ≤
        Nat.pow 2 52 * (den * Nat.pow 2 e) :=
    Nat.le_mul_of_pos_left _ (Nat.two_pow_pos 52)
  have hExponent : exponentOf num den = e := by
    refine Nat.le_antisymm ?_ (le_exponentOf hDen ?_)
    · refine exponentOf_le_of_lt hDen ?_
      rwa [← Nat.add_assoc, Nat.add_right_comm] at hBelow
    · rw [two_pow_add_mul]
      omega
  rw [rounded, significandOf, hExponent, hDouble,
    ← Nat.mul_assoc, Nat.mul_comm (Nat.pow 2 52) 2]
  congr 1
  refine roundHalfEven_eq hScale ?_ (Or.inl ?_)
  · rw [Nat.mul_assoc]
    rcases Nat.lt_or_ge
      (2 * (2 * (Nat.pow 2 52 * (den * Nat.pow 2 e))))
      (2 * num + den * Nat.pow 2 e) with hClose | hTie
    · exact Or.inl hClose
    · exact Or.inr ⟨by omega, Nat.mul_mod_right 2 _⟩
  · rw [Nat.mul_assoc]
    omega

/- A ratio in the neighbourhood of a magnitude rounds to it. -/
theorem rounded_of_holds
    {magnitude : Nat}
    (hValid : Representable magnitude)
    (hPositive : magnitude ≠ 0)
    (hDen : 0 < den)
    (hHolds :
      (neighbourhood magnitude).holds den (4 * num) = true) :
    rounded num den = magnitude := by
  rcases hValid.exists_significand hPositive with
    ⟨k, hParts, hBits, hLarge⟩
  generalize hUnit : magnitude.log2 - 52 = e at hParts hLarge
  subst hParts
  rcases near_of_holds hHolds hUnit with
    ⟨hLow, hHigh, hQuarter⟩
  have hScale : 0 < den * Nat.pow 2 e :=
    Nat.mul_pos hDen (Nat.two_pow_pos e)
  have hBelow : num < Nat.pow 2 (53 + e) * den := by
    have hNext :=
      Nat.mul_le_mul_right (den * Nat.pow 2 e)
        (Nat.succ_le_of_lt hBits)
    rw [Nat.add_one_mul k] at hNext
    rw [two_pow_add_mul]
    omega
  rcases Nat.lt_or_eq_of_le (exponentOf_le_of_lt hDen hBelow)
    with hLess | hSame
  · -- The ratio lies below a power of two, the magnitude at it.
    have hUnder : num < Nat.pow 2 (52 + e) * den := by
      by_contra hReached
      have hExponent :=
        le_exponentOf hDen (Nat.le_of_not_lt hReached)
      omega
    have hPower : k = Nat.pow 2 52 := by
      by_contra hOther
      have hMore : Nat.pow 2 52 + 1 ≤ k := by
        have hLeast := hLarge (Nat.ne_zero_of_lt hLess)
        omega
      have hNext :=
        Nat.mul_le_mul_right (den * Nat.pow 2 e) hMore
      rw [Nat.add_one_mul (Nat.pow 2 52)] at hNext
      rw [two_pow_add_mul] at hUnder
      omega
    have hNear := hQuarter hPower (Nat.ne_zero_of_lt hLess)
    rw [hPower] at hNear ⊢
    cases e with
    | zero => cases hLess
    | succ e => exact rounded_of_quarter hDen hUnder hNear
  · rw [rounded, significandOf, hSame,
      roundHalfEven_eq hScale hLow hHigh]

------------------------------------------------------------
-- Decimals That Round to a Double
------------------------------------------------------------

/- Whether a decimal is among the reals that round to a double. -/
def RoundsTo
    (magnitude : Nat)
    (d : Decimal) : Prop :=
  (neighbourhood magnitude).holds (tenDown d.exponent)
    (d.significand * (tenUp d.exponent * (4 * one))) = true

/- A point is the same over any multiple of its denominator. -/
theorem holds_mul
    (n : Neighbourhood)
    {factor : Nat}
    (hFactor : 0 < factor)
    (scale point : Nat) :
    n.holds (scale * factor) (point * factor) =
      n.holds scale point := by
  unfold Neighbourhood.holds
  simp only [← Nat.mul_assoc, Nat.mul_lt_mul_right hFactor,
    ← Nat.sub_mul, Nat.mul_left_inj (Nat.ne_of_gt hFactor)]

/- Equal ratios are the same point. -/
theorem holds_congr
    (n : Neighbourhood)
    {scale other point place : Nat}
    (hScale : 0 < scale)
    (hOther : 0 < other)
    (hSame : point * other = place * scale) :
    n.holds scale point = n.holds other place := by
  rw [← holds_mul n hOther scale point, hSame,
    Nat.mul_comm scale, holds_mul n hScale]

/- Zeros at the end of a significand stand for its exponent. -/
theorem roundsTo_shift_iff
    (magnitude significand count : Nat)
    (exponent : Int) :
    RoundsTo magnitude
        ⟨significand * Nat.pow 10 count, exponent⟩ ↔
      RoundsTo magnitude ⟨significand, exponent + count⟩ := by
  have hSteps := tenUp_add exponent count
  unfold RoundsTo
  dsimp only
  rw [holds_congr _ (tenDown_pos exponent)
    (tenDown_pos (exponent + count))]
  generalize 4 * one = unit
  calc
    significand * Nat.pow 10 count * (tenUp exponent * unit) *
          tenDown (exponent + count) =
        significand * unit *
          (Nat.pow 10 count *
            (tenUp exponent * tenDown (exponent + count))) := by
      ring
    _ = significand * (tenUp (exponent + count) * unit) *
          tenDown exponent := by
      rw [← hSteps]
      ring

/- Dropping zeros does not change what a decimal rounds to. -/
theorem RoundsTo.strip
    {magnitude : Nat}
    {d : Decimal}
    (hRounds : RoundsTo magnitude d)
    (fuel : Nat) : RoundsTo magnitude (d.strip fuel) := by
  induction fuel generalizing d with
  | zero => exact hRounds
  | succ fuel ih =>
      rw [Decimal.strip]
      split
      case isTrue hZero =>
          apply ih
          have hTen :
              d.significand / 10 * Nat.pow 10 1 =
                d.significand :=
            Nat.div_mul_cancel (Nat.dvd_of_mod_eq_zero hZero.2)
          have hShift :=
            roundsTo_shift_iff magnitude (d.significand / 10) 1
              d.exponent
          rw [hTen] at hShift
          exact hShift.mp hRounds
      case isFalse => exact hRounds

/- The shortest decimal of a double rounds to it. -/
theorem roundsTo_shortest
    {magnitude : Nat}
    (hValid : Representable magnitude)
    (hPositive : magnitude ≠ 0)
    (tie : Tie) :
    RoundsTo magnitude (shortest tie magnitude) := by
  have hFinite :=
    log2_lt_of_lt_limit overflow_eq hValid.lt_overflow hPositive
  have hTop :=
    (reaches_decimalExponent hPositive hFinite).1
  have hHit :=
    onGrid?_isSome_of_lt (grid_lt_halfStep hTop) tie
  rcases firstOnGrid_onGrid (Nat.lt_succ_self 17) hHit with
    ⟨used, _, hFound⟩
  rcases onGrid?_eq_some hFound with ⟨hExponent, _, hHolds⟩
  rw [← hExponent] at hHolds
  rw [shortest, if_neg hPositive]
  exact RoundsTo.strip hHolds 400

------------------------------------------------------------
-- Reading Decimals
------------------------------------------------------------

/- A decimal is read as the ratio that it is. -/
theorem ofRatio_ten
    (negative : Bool)
    (significand : Nat)
    (exponent : Int) :
    (if 0 ≤ exponent then
        ofRatio negative
          (significand * Nat.pow 10 exponent.toNat * one) 1
      else
        ofRatio negative
          (significand * one) (Nat.pow 10 exponent.natAbs)) =
      ofRatio negative (significand * tenUp exponent * one)
        (tenDown exponent) := by
  unfold tenUp tenDown
  split_ifs
  · rfl
  · rw [Nat.mul_one]

section

variable {magnitude significand : Nat}
variable {exponent : Int}

/- A decimal that rounds to a double is not far from it. -/
theorem RoundsTo.bounds
    (hRounds : RoundsTo magnitude ⟨significand, exponent⟩)
    (hPositive : magnitude ≠ 0) :
    magnitude * tenDown exponent ≤
        2 * (significand * tenUp exponent * one) ∧
      2 * (significand * tenUp exponent * one) ≤
        3 * (magnitude * tenDown exponent) := by
  rcases bounds_of_holds hRounds with ⟨hLow, hHigh⟩
  have hStep :=
    Nat.mul_le_mul_right (tenDown exponent)
      (halfStep_le hPositive)
  dsimp only at hLow hHigh
  generalize one = unit at hLow hHigh ⊢
  have hPoint :
      significand * (tenUp exponent * (4 * unit)) =
        4 * (significand * tenUp exponent * unit) := by
    ring
  have hFour := Nat.mul_assoc 4 magnitude (tenDown exponent)
  have hTwo := Nat.mul_assoc 2 magnitude (tenDown exponent)
  rw [hPoint] at hLow hHigh
  rw [Nat.add_mul] at hHigh
  omega

/- A decimal that rounds to a double is not zero. -/
theorem RoundsTo.significand_ne_zero
    (hRounds : RoundsTo magnitude ⟨significand, exponent⟩)
    (hPositive : magnitude ≠ 0) : significand ≠ 0 := by
  rintro rfl
  have hLow := (hRounds.bounds hPositive).1
  have hSome : 0 < magnitude * tenDown exponent :=
    Nat.mul_pos (Nat.pos_of_ne_zero hPositive)
      (tenDown_pos exponent)
  rw [Nat.zero_mul, Nat.zero_mul] at hLow
  omega

theorem exists_ten_pow :
    ∃ digits ≤ 311,
      3 * overflow < 2 * (Nat.pow 10 digits * one) :=
  ⟨311, Nat.le_refl _, by decide +kernel⟩

/- It is not beyond the exponents of doubles. -/
theorem RoundsTo.exponent_le
    (hValid : Representable magnitude)
    (hRounds : RoundsTo magnitude ⟨significand, exponent⟩)
    (hPositive : magnitude ≠ 0) : exponent ≤ 310 := by
  by_contra hLarge
  have hHigh := (hRounds.bounds hPositive).2
  have hUp : tenUp exponent = Nat.pow 10 exponent.toNat :=
    if_pos (by omega)
  have hDown : tenDown exponent = 1 :=
    if_pos (by omega)
  rw [hUp, hDown, Nat.mul_one] at hHigh
  rcases exists_ten_pow with ⟨digits, hDigits, hTop⟩
  have hPower : Nat.pow 10 digits ≤ Nat.pow 10 exponent.toNat :=
    Nat.pow_le_pow_right (by decide) (by omega)
  have hSome : 1 ≤ significand :=
    Nat.pos_of_ne_zero (hRounds.significand_ne_zero hPositive)
  have hPoint :
      Nat.pow 10 digits * one ≤
        significand * Nat.pow 10 exponent.toNat * one := by
    refine Nat.mul_le_mul_right one ?_
    exact Nat.le_trans hPower (Nat.le_mul_of_pos_left _ hSome)
  have hBound := hValid.lt_overflow
  generalize overflow = limit at hBound hTop
  generalize Nat.pow 10 digits * one = least at hPoint hTop
  generalize significand * Nat.pow 10 exponent.toNat * one = point
    at hPoint hHigh
  omega

theorem exists_units_eq :
    ∃ bits ≤ 1074, one = Nat.pow 2 bits :=
  ⟨1074, Nat.le_refl _, units_eq⟩

/- Nor is it below them. -/
theorem RoundsTo.le_exponent
    (hRounds : RoundsTo magnitude ⟨significand, exponent⟩)
    (hPositive : magnitude ≠ 0) :
    -1100 ≤ exponent + (significand.log2 : Int) := by
  by_contra hSmall
  have hLow := (hRounds.bounds hPositive).1
  have hUp : tenUp exponent = 1 :=
    if_neg (by omega)
  have hDown : tenDown exponent = Nat.pow 10 exponent.natAbs :=
    if_neg (by omega)
  rcases exists_units_eq with ⟨bits, hUnits, hOne⟩
  rw [hUp, hDown, Nat.mul_one, hOne] at hLow
  simp only [Nat.pow_eq] at hLow
  have hBits : significand < 2 ^ (significand.log2 + 1) :=
    Nat.lt_log2_self
  have hScaled :
      significand * 2 ^ bits <
        2 ^ (significand.log2 + 1) * 2 ^ bits :=
    Nat.mul_lt_mul_of_pos_right hBits (Nat.two_pow_pos bits)
  have hPower :
      2 * (2 ^ (significand.log2 + 1) * 2 ^ bits) ≤
        10 ^ exponent.natAbs :=
    calc
      2 * (2 ^ (significand.log2 + 1) * 2 ^ bits) =
          2 ^ (significand.log2 + 1 + bits + 1) := by
        rw [← Nat.pow_add, ← Nat.pow_succ']
      _ ≤ 2 ^ exponent.natAbs :=
        Nat.pow_le_pow_right Nat.two_pos (by omega)
      _ ≤ 10 ^ exponent.natAbs :=
        Nat.pow_le_pow_left (by decide) _
  have hSome :
      10 ^ exponent.natAbs ≤ magnitude * 10 ^ exponent.natAbs :=
    Nat.le_mul_of_pos_left _ (Nat.pos_of_ne_zero hPositive)
  omega

/-
  A decimal that rounds to a double is read as that double.
-/
theorem ofDecimal_of_roundsTo
    (hValid : Representable magnitude)
    (hRounds : RoundsTo magnitude ⟨significand, exponent⟩)
    (hPositive : magnitude ≠ 0)
    (negative : Bool) :
    ofDecimal negative significand exponent =
      finite negative magnitude hValid := by
  have hHigh := RoundsTo.exponent_le hValid hRounds hPositive
  have hLow := hRounds.le_exponent hPositive
  have hDown := tenDown_pos exponent
  unfold ofDecimal
  rw [if_neg (hRounds.significand_ne_zero hPositive),
    if_neg (by omega), if_neg (by omega), ofRatio_ten]
  have hPoint :
      4 * (significand * tenUp exponent * one) =
        significand * (tenUp exponent * (4 * one)) := by
    generalize one = unit
    ring
  have hHolds :
      (neighbourhood magnitude).holds (tenDown exponent)
        (4 * (significand * tenUp exponent * one)) = true := by
    rw [hPoint]
    exact hRounds
  have hRounded :
      rounded (significand * tenUp exponent * one)
          (tenDown exponent) = magnitude :=
    rounded_of_holds hValid hPositive hDown hHolds
  have hFinite :
      rounded (significand * tenUp exponent * one)
          (tenDown exponent) < overflow :=
    hRounded.symm ▸ hValid.lt_overflow
  rcases ofRatio_of_rounded hDown hFinite negative with
    ⟨hFound, hRead⟩
  rw [hRead]
  simp only [hRounded]

end

end Binary64

end TracePlayer
