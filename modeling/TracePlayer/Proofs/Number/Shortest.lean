import TracePlayer.Number.Shortest
import TracePlayer.Proofs.Number.Rounding

/-
  This file proves that the search for the shortest decimal of
  a double succeeds: a grid of eighteen digits always has a
  point that rounds to the double, so the last resort is never
  used. The decimal that is found is not zero, has at most
  nineteen digits and stays within half a step above the
  double.

  Main declarations:
    * `Binary64.Reaches`
    * `Binary64.reaches_decimalExponent`
    * `Binary64.bounds_of_holds`, `Binary64.holds_of_lt`
    * `Binary64.onGrid?_isSome_of_lt`
    * `Binary64.Near`
    * `Binary64.near_shortest`
-/

namespace TracePlayer

------------------------------------------------------------
-- Powers of Ten
------------------------------------------------------------

/-
  A power of ten is the ratio of these two numbers, one of
  which is one.
-/
def tenUp (e : Int) : Nat :=
  if 0 ≤ e then Nat.pow 10 e.toNat else 1

def tenDown (e : Int) : Nat :=
  if 0 ≤ e then 1 else Nat.pow 10 e.natAbs

theorem tenUp_pos (e : Int) : 0 < tenUp e := by
  unfold tenUp
  split
  · exact Nat.pow_pos (by decide)
  · decide

theorem tenDown_pos (e : Int) : 0 < tenDown e := by
  unfold tenDown
  split
  · decide
  · exact Nat.pow_pos (by decide)

/- Powers of ten with exponents that differ by `k`. -/
theorem tenUp_add
    (e : Int)
    (k : Nat) :
    tenUp (e + k) * tenDown e =
      Nat.pow 10 k * (tenUp e * tenDown (e + k)) := by
  unfold tenUp tenDown
  simp only [Nat.pow_eq]
  by_cases hLow : 0 ≤ e
  · have hSum : (e + k).toNat = e.toNat + k := by
      omega
    rw [if_pos (by omega), if_pos hLow, if_pos hLow,
      if_pos (by omega), hSum]
    ring
  · by_cases hHigh : 0 ≤ e + k
    · have hSum : e.natAbs + (e + k).toNat = k := by
        omega
      rw [if_pos hHigh, if_neg hLow, if_neg hLow,
        if_pos hHigh, ← Nat.pow_add, Nat.add_comm, hSum]
      ring
    · have hSum : e.natAbs = k + (e + k).natAbs := by
        omega
      rw [if_neg hHigh, if_neg hLow, if_neg hLow,
        if_neg hHigh, hSum]
      ring

namespace Binary64

------------------------------------------------------------
-- The Leading Digit
------------------------------------------------------------

/- Whether a magnitude is at least a power of ten. -/
def Reaches (magnitude : Nat) (e : Int) : Prop :=
  tenUp e * one ≤ magnitude * tenDown e

instance (magnitude : Nat) (e : Int) :
    Decidable (Reaches magnitude e) :=
  inferInstanceAs (Decidable (_ ≤ _))

/- A greater magnitude reaches as far. -/
theorem Reaches.mono
    {magnitude greater : Nat}
    {e : Int}
    (hReaches : Reaches magnitude e)
    (hLess : magnitude ≤ greater) : Reaches greater e :=
  Nat.le_trans hReaches (Nat.mul_le_mul_right _ hLess)

/- The power of ten that the logarithm to base two gives. -/
def guessFrom (bits : Nat) : Int :=
  (((bits : Int) - 1074) * 30103).fdiv 100000

/- The guess is at most one too great and one too small. -/
def GuessHolds (bits : Nat) : Prop :=
  Reaches (Nat.pow 2 bits) (guessFrom bits - 1) ∧
    ¬ Reaches (Nat.pow 2 (bits + 1) - 1)
      (guessFrom bits + 2) ∧
    -325 ≤ guessFrom bits

instance (bits : Nat) : Decidable (GuessHolds bits) :=
  inferInstanceAs (Decidable (_ ∧ _ ∧ _))

/-
  The guesses for the exponents of doubles are computed. Two
  short ranges are much faster to check than a long one.
-/
theorem guessHolds_split :
    ∀ high < 46, ∀ low < 46,
      GuessHolds (46 * high + low) := by
  decide +kernel

theorem guessHolds
    {bits : Nat}
    (hBits : bits < 2098) : GuessHolds bits := by
  have hSplit :=
    guessHolds_split (bits / 46) (by omega) (bits % 46)
      (Nat.mod_lt bits (by decide))
  rwa [Nat.div_add_mod] at hSplit

theorem decimalExponent_eq (magnitude : Nat) :
    decimalExponent magnitude =
      if Reaches magnitude (guessFrom magnitude.log2 + 1) then
        guessFrom magnitude.log2 + 1
      else if Reaches magnitude (guessFrom magnitude.log2) then
        guessFrom magnitude.log2
      else
        guessFrom magnitude.log2 - 1 := by
  have hAtLeast :
      ∀ e : Int,
        (if 0 ≤ e then
            decide (Nat.pow 10 e.toNat * one ≤ magnitude)
          else
            decide (one ≤ magnitude * Nat.pow 10 e.natAbs)) =
          decide (Reaches magnitude e) := by
    intro e
    unfold Reaches tenUp tenDown
    by_cases hSign : 0 ≤ e
    · simp only [if_pos hSign, Nat.mul_one]
    · simp only [if_neg hSign, Nat.one_mul]
  unfold decimalExponent guessFrom
  simp only [hAtLeast, decide_eq_true_eq]

/-
  The decimal exponent of a magnitude is the last that it
  reaches.
-/
theorem reaches_decimalExponent
    {magnitude : Nat}
    (hPositive : magnitude ≠ 0)
    (hFinite : magnitude.log2 < 2098) :
    Reaches magnitude (decimalExponent magnitude) ∧
      ¬ Reaches magnitude (decimalExponent magnitude + 1) ∧
      -326 ≤ decimalExponent magnitude := by
  rcases guessHolds hFinite with ⟨hReached, hBeyond, hLow⟩
  have hLower : Nat.pow 2 magnitude.log2 ≤ magnitude :=
    Nat.log2_self_le hPositive
  have hUpper :
      magnitude ≤ Nat.pow 2 (magnitude.log2 + 1) - 1 :=
    Nat.le_sub_one_of_lt Nat.lt_log2_self
  rw [decimalExponent_eq]
  split_ifs with hNext hGuess
  · refine ⟨hNext, fun hTwo => hBeyond ?_, by omega⟩
    rw [Int.add_assoc] at hTwo
    exact hTwo.mono hUpper
  · exact ⟨hGuess, hNext, by omega⟩
  · refine ⟨hReached.mono hLower, ?_, by omega⟩
    rwa [Int.sub_add_cancel]

------------------------------------------------------------
-- Points Near a Double
------------------------------------------------------------

/- Half a step above a magnitude, in quarters of its unit. -/
def halfStep (magnitude : Nat) : Nat :=
  2 * Nat.pow 2 (magnitude.log2 - 52)

/- The neighbourhood of a magnitude reaches half a step. -/
theorem neighbourhood_bounds (magnitude : Nat) :
    (neighbourhood magnitude).value = 4 * magnitude ∧
      (neighbourhood magnitude).below ≤ halfStep magnitude ∧
      (neighbourhood magnitude).above =
        halfStep magnitude := by
  refine ⟨rfl, ?_, rfl⟩
  unfold neighbourhood
  dsimp only
  split
  · exact Nat.div_le_self _ _
  · exact Nat.le_refl _

/- Half a step is at most half of a magnitude. -/
theorem halfStep_le
    {magnitude : Nat}
    (hPositive : magnitude ≠ 0) :
    halfStep magnitude ≤ 2 * magnitude := by
  have hPower : Nat.pow 2 (magnitude.log2 - 52) ≤ magnitude :=
    Nat.le_trans
      (Nat.pow_le_pow_right (by decide) (Nat.sub_le _ _))
      (Nat.log2_self_le hPositive)
  exact Nat.mul_le_mul_left 2 hPower

/- Half a step is less than a magnitude. -/
theorem halfStep_lt
    {magnitude : Nat}
    (hPositive : magnitude ≠ 0) :
    halfStep magnitude < 4 * magnitude := by
  have hHalf := halfStep_le hPositive
  omega

/- Half a step is more than 10^-17 of a magnitude. -/
theorem lt_halfStep (magnitude : Nat) :
    4 * magnitude < Nat.pow 10 17 * halfStep magnitude := by
  have hBits :
      magnitude <
        Nat.pow 2 53 * Nat.pow 2 (magnitude.log2 - 52) := by
    simp only [Nat.pow_eq]
    rw [← Nat.pow_add]
    refine Nat.lt_of_lt_of_le Nat.lt_log2_self ?_
    exact Nat.pow_le_pow_right (by decide) (by omega)
  unfold halfStep
  simp only [Nat.pow_eq] at hBits ⊢
  omega

/- A point that rounds to a double is within half a step. -/
theorem bounds_of_holds
    {magnitude scale point : Nat}
    (hHolds :
      (neighbourhood magnitude).holds scale point = true) :
    4 * magnitude * scale ≤
        point + halfStep magnitude * scale ∧
      point ≤ (4 * magnitude + halfStep magnitude) * scale := by
  rcases neighbourhood_bounds magnitude with
    ⟨hValue, hBelow, hAbove⟩
  have hScaled :
      (neighbourhood magnitude).below * scale ≤
        halfStep magnitude * scale :=
    Nat.mul_le_mul_right scale hBelow
  rw [Nat.add_mul]
  unfold Neighbourhood.holds at hHolds
  rw [hValue, hAbove] at hHolds
  dsimp only at hHolds
  split at hHolds
  all_goals
    simp only [Bool.or_eq_true, Bool.and_eq_true,
      decide_eq_true_eq] at hHolds
    omega

/- A point less than half a step above rounds to the double. -/
theorem holds_of_lt
    {magnitude scale point : Nat}
    (hAbove : 4 * magnitude * scale ≤ point)
    (hNear :
      point <
        (4 * magnitude + halfStep magnitude) * scale) :
    (neighbourhood magnitude).holds scale point = true := by
  rcases neighbourhood_bounds magnitude with
    ⟨hValue, _, hStep⟩
  rw [Nat.add_mul] at hNear
  unfold Neighbourhood.holds
  rw [hValue, hStep]
  dsimp only
  rw [if_neg (by omega)]
  simp only [Bool.or_eq_true, decide_eq_true_eq]
  exact Or.inl (by omega)

------------------------------------------------------------
-- Decimals on a Grid
------------------------------------------------------------

/- The grid point at or below a magnitude. -/
def lowOnGrid
    (magnitude : Nat)
    (e : Int) : Nat :=
  4 * magnitude * tenDown e / (tenUp e * (4 * one))

/- The choice between the two points around a magnitude. -/
theorem onGrid?_eq
    (tie : Tie)
    (magnitude : Nat)
    (e : Int) :
    onGrid? tie magnitude e =
      let low := lowOnGrid magnitude e
      let grid := tenUp e * (4 * one)
      let holds (digits : Nat) : Bool :=
        (neighbourhood magnitude).holds (tenDown e)
          (digits * grid)
      let twice := 2 * (4 * magnitude * tenDown e % grid)
      if holds low && holds (low + 1) then
        if twice < grid ||
            (twice = grid && tie.goesDown low) then
          some ⟨low, e⟩
        else
          some ⟨low + 1, e⟩
      else if holds low then some ⟨low, e⟩
      else if holds (low + 1) then some ⟨low + 1, e⟩
      else none :=
  rfl

theorem gridUnit_pos (e : Int) : 0 < tenUp e * (4 * one) :=
  Nat.mul_pos (tenUp_pos e)
    (Nat.mul_pos (by decide) units_pos)

/-
  What a grid gives is one of the two points around the
  magnitude, and it rounds to the magnitude.
-/
theorem onGrid?_eq_some
    {tie : Tie}
    {magnitude : Nat}
    {e : Int}
    {d : Decimal}
    (hFound : onGrid? tie magnitude e = some d) :
    d.exponent = e ∧
      d.significand ≤ lowOnGrid magnitude e + 1 ∧
      (neighbourhood magnitude).holds (tenDown e)
        (d.significand * (tenUp e * (4 * one))) = true := by
  rw [onGrid?_eq] at hFound
  generalize tenUp e * (4 * one) = grid at hFound ⊢
  generalize lowOnGrid magnitude e = low at hFound ⊢
  have hLow : low ≤ low + 1 := Nat.le_succ low
  dsimp only at hFound
  split_ifs at hFound with hBoth hDown hLowHolds hHighHolds
  · cases hFound
    exact ⟨rfl, hLow, (Bool.and_eq_true_iff.mp hBoth).1⟩
  · cases hFound
    exact ⟨rfl, Nat.le_refl _,
      (Bool.and_eq_true_iff.mp hBoth).2⟩
  · cases hFound
    exact ⟨rfl, hLow, hLowHolds⟩
  · cases hFound
    exact ⟨rfl, Nat.le_refl _, hHighHolds⟩

/- A grid whose upper point rounds to a magnitude has a hit. -/
theorem onGrid?_isSome
    {magnitude : Nat}
    {e : Int}
    (hHolds :
      (neighbourhood magnitude).holds (tenDown e)
        ((lowOnGrid magnitude e + 1) *
          (tenUp e * (4 * one))) = true)
    (tie : Tie) :
    (onGrid? tie magnitude e).isSome = true := by
  rw [onGrid?_eq]
  generalize tenUp e * (4 * one) = grid at hHolds ⊢
  generalize lowOnGrid magnitude e = low at hHolds ⊢
  simp only [hHolds, Bool.and_true, if_true]
  split_ifs <;> rfl

/-
  The grid with seventeen digits after the leading one is
  finer than half a step.
-/
theorem grid_lt_halfStep
    {magnitude : Nat}
    {top : Int}
    (hTop : Reaches magnitude top) :
    tenUp (top - 17) * (4 * one) <
      halfStep magnitude * tenDown (top - 17) := by
  have hSteps := tenUp_add (top - 17) 17
  rw [Nat.cast_ofNat, Int.sub_add_cancel] at hSteps
  unfold Reaches at hTop
  generalize one = unit at hTop ⊢
  have hDown : 0 < tenDown top * tenDown (top - 17) :=
    Nat.mul_pos (tenDown_pos _) (tenDown_pos _)
  refine Nat.lt_of_mul_lt_mul_left
    (a := Nat.pow 10 17 * tenDown top) ?_
  calc
    Nat.pow 10 17 * tenDown top *
          (tenUp (top - 17) * (4 * unit)) =
        tenUp top * tenDown (top - 17) * (4 * unit) := by
      rw [hSteps]
      ring
    _ = 4 * (tenUp top * unit) * tenDown (top - 17) := by
      ring
    _ ≤ 4 * (magnitude * tenDown top) *
          tenDown (top - 17) :=
      Nat.mul_le_mul_right _ (Nat.mul_le_mul_left 4 hTop)
    _ = 4 * magnitude *
          (tenDown top * tenDown (top - 17)) := by
      ring
    _ < Nat.pow 10 17 * halfStep magnitude *
          (tenDown top * tenDown (top - 17)) :=
      Nat.mul_lt_mul_of_pos_right (lt_halfStep magnitude) hDown
    _ = Nat.pow 10 17 * tenDown top *
          (halfStep magnitude * tenDown (top - 17)) := by
      ring

/- A grid that is finer than half a step has a hit. -/
theorem onGrid?_isSome_of_lt
    {magnitude : Nat}
    {e : Int}
    (hFine :
      tenUp e * (4 * one) < halfStep magnitude * tenDown e)
    (tie : Tie) :
    (onGrid? tie magnitude e).isSome = true := by
  have hAbove :
      4 * magnitude * tenDown e ≤
        (lowOnGrid magnitude e + 1) *
          (tenUp e * (4 * one)) := by
    have hGrid := gridUnit_pos e
    rw [Nat.add_one_mul (lowOnGrid magnitude e), lowOnGrid]
    generalize tenUp e * (4 * one) = grid at hGrid
    exact Nat.le_of_lt (Nat.lt_div_mul_add hGrid)
  have hNear :
      (lowOnGrid magnitude e + 1) * (tenUp e * (4 * one)) <
        (4 * magnitude + halfStep magnitude) * tenDown e := by
    rw [Nat.add_one_mul (lowOnGrid magnitude e),
      Nat.add_mul (4 * magnitude)]
    exact Nat.add_lt_add_of_le_of_lt
      (Nat.div_mul_le_self _ _) hFine
  exact onGrid?_isSome (holds_of_lt hAbove hNear) tie

/- When some grid has a hit, what is found is on a grid. -/
theorem firstOnGrid_onGrid
    {tie : Tie}
    {magnitude last : Nat}
    {top : Int}
    (hLast : last < 18)
    (hHit : (onGrid? tie magnitude (top - last)).isSome = true) :
    ∃ used : Nat, used < 18 ∧
      onGrid? tie magnitude (top - used) =
        some (firstOnGrid tie magnitude top) := by
  have hSome :
      ((List.range 18).findSome? fun digits : Nat =>
          onGrid? tie magnitude (top - digits)).isSome =
        true :=
    List.findSome?_isSome_iff.mpr
      ⟨last, List.mem_range.mpr hLast, hHit⟩
  rcases Option.isSome_iff_exists.mp hSome with ⟨d, hFirst⟩
  rcases List.exists_of_findSome?_eq_some hFirst with
    ⟨used, hUsed, hFound⟩
  refine ⟨used, List.mem_range.mp hUsed, ?_⟩
  rw [hFound, firstOnGrid, hFirst, Option.getD_some]

------------------------------------------------------------
-- The Decimal That Is Found
------------------------------------------------------------

/-
  A decimal that is not zero, has at most nineteen digits and
  stays within half a step above a magnitude.
-/
structure Near (magnitude : Nat) (d : Decimal) : Prop where
  positive : d.significand ≠ 0
  short : d.significand ≤ Nat.pow 10 18
  low : -343 ≤ d.exponent
  below :
    d.significand * tenUp d.exponent * (4 * one) ≤
      (4 * magnitude + halfStep magnitude) *
        tenDown d.exponent

/- A point on one of the grids has few digits. -/
theorem lowOnGrid_lt
    {magnitude used : Nat}
    {top : Int}
    (hTop : ¬ Reaches magnitude (top + 1)) :
    lowOnGrid magnitude (top - used) <
      Nat.pow 10 (used + 1) := by
  have hGrid := gridUnit_pos (top - used)
  have hSteps := tenUp_add (top - used) (used + 1)
  have hSum :
      top - used + ((used + 1 : Nat) : Int) = top + 1 := by
    omega
  rw [hSum] at hSteps
  refine (Nat.div_lt_iff_lt_mul hGrid).mpr ?_
  unfold Reaches at hTop
  generalize one = unit at hTop ⊢
  refine Nat.lt_of_mul_lt_mul_left (a := tenDown (top + 1)) ?_
  calc
    tenDown (top + 1) *
          (4 * magnitude * tenDown (top - used)) =
        magnitude * tenDown (top + 1) *
          (4 * tenDown (top - used)) := by
      ring
    _ < tenUp (top + 1) * unit *
          (4 * tenDown (top - used)) :=
      Nat.mul_lt_mul_of_pos_right (Nat.lt_of_not_le hTop)
        (Nat.mul_pos (by decide) (tenDown_pos _))
    _ = tenUp (top + 1) * tenDown (top - used) *
          (4 * unit) := by
      ring
    _ = tenDown (top + 1) *
          (Nat.pow 10 (used + 1) *
            (tenUp (top - used) * (4 * unit))) := by
      rw [hSteps]
      ring

/- A point that rounds to a magnitude is near it. -/
theorem near_of_onGrid?
    {tie : Tie}
    {magnitude used : Nat}
    {top : Int}
    {d : Decimal}
    (hPositive : magnitude ≠ 0)
    (hTop : ¬ Reaches magnitude (top + 1))
    (hLow : -326 ≤ top)
    (hUsed : used < 18)
    (hFound : onGrid? tie magnitude (top - used) = some d) :
    Near magnitude d := by
  rcases onGrid?_eq_some hFound with ⟨hExponent, hDigits, hHolds⟩
  rcases bounds_of_holds hHolds with ⟨hReach, hBelow⟩
  have hPower : Nat.pow 10 (used + 1) ≤ Nat.pow 10 18 :=
    Nat.pow_le_pow_right (by decide) (by omega)
  refine ⟨fun hZero => ?_, ?_, by omega, ?_⟩
  · -- Zero is a whole magnitude away, more than half a step.
    rw [hZero, Nat.zero_mul, Nat.zero_add] at hReach
    exact Nat.not_lt_of_le hReach
      (Nat.mul_lt_mul_of_pos_right (halfStep_lt hPositive)
        (tenDown_pos _))
  · have hFew :
        lowOnGrid magnitude (top - used) <
          Nat.pow 10 (used + 1) :=
      lowOnGrid_lt hTop
    exact Nat.le_trans hDigits (Nat.le_trans hFew hPower)
  · rw [hExponent, Nat.mul_assoc]
    exact hBelow

/- Dropping a zero keeps a decimal near. -/
theorem near_div_ten
    {magnitude : Nat}
    {d : Decimal}
    (hNear : Near magnitude d)
    (hZero : d.significand % 10 = 0) :
    Near magnitude ⟨d.significand / 10, d.exponent + 1⟩ := by
  have hTen : d.significand = 10 * (d.significand / 10) := by
    omega
  have hPositive := hNear.positive
  refine ⟨?_, ?_, ?_, ?_⟩
  · dsimp only
    omega
  · exact Nat.le_trans (Nat.div_le_self _ _) hNear.short
  · exact Int.le_trans hNear.low (Int.le_add_one (Int.le_refl _))
  · have hSteps := tenUp_add d.exponent 1
    rw [Nat.cast_one, Nat.pow_eq, Nat.pow_one] at hSteps
    have hBelow := hNear.below
    dsimp only
    generalize 4 * one = unit at hBelow ⊢
    generalize 4 * magnitude + halfStep magnitude = bound
      at hBelow ⊢
    refine Nat.le_of_mul_le_mul_left ?_ (tenDown_pos d.exponent)
    calc
      tenDown d.exponent *
            (d.significand / 10 * tenUp (d.exponent + 1) *
              unit) =
          d.significand / 10 *
            (tenUp (d.exponent + 1) * tenDown d.exponent) *
              unit := by
        ring
      _ = 10 * (d.significand / 10) * tenUp d.exponent *
            unit * tenDown (d.exponent + 1) := by
        rw [hSteps]
        ring
      _ = d.significand * tenUp d.exponent * unit *
            tenDown (d.exponent + 1) := by
        rw [← hTen]
      _ ≤ bound * tenDown d.exponent *
            tenDown (d.exponent + 1) :=
        Nat.mul_le_mul_right _ hBelow
      _ = tenDown d.exponent *
            (bound * tenDown (d.exponent + 1)) := by
        ring

theorem near_strip
    {magnitude : Nat}
    {d : Decimal}
    (hNear : Near magnitude d)
    (fuel : Nat) :
    Near magnitude (d.strip fuel) := by
  induction fuel generalizing d with
  | zero => exact hNear
  | succ fuel ih =>
      rw [Decimal.strip]
      split
      case isTrue hZero => exact ih (near_div_ten hNear hZero.2)
      case isFalse => exact hNear

/- The shortest decimal of a magnitude is near it. -/
theorem near_shortest
    {magnitude : Nat}
    (hPositive : magnitude ≠ 0)
    (hFinite : magnitude.log2 < 2098)
    (tie : Tie) :
    Near magnitude (shortest tie magnitude) := by
  rcases reaches_decimalExponent hPositive hFinite with
    ⟨hTop, hBeyond, hLow⟩
  have hHit :=
    onGrid?_isSome_of_lt (grid_lt_halfStep hTop) tie
  rcases firstOnGrid_onGrid (Nat.lt_succ_self 17) hHit with
    ⟨used, hUsed, hFound⟩
  rw [shortest, if_neg hPositive]
  exact near_strip
    (near_of_onGrid? hPositive hBeyond hLow hUsed hFound) 400

end Binary64

end TracePlayer
