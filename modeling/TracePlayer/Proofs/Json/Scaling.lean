import TracePlayer.Json.Numeral
import TracePlayer.Proofs.Number.Rounded
import TracePlayer.Proofs.Number.Shortest

/-
  This file proves that the shortest decimal of a finite
  double is scaled to a finite double when it is read: the
  product of significand and power of ten is rounded more than
  once, but it never reaches 2^1024.

  Main declarations:
    * `Json.FitsTen`, `Json.FitsTen.mono`
    * `Json.exists_scaleDouble?_of_neg`
    * `Json.exists_scaleDouble?_of_fits`
    * `Json.exists_scaleDouble?_shortest`
-/

namespace TracePlayer

------------------------------------------------------------
-- Magnitudes of Doubles
------------------------------------------------------------

namespace Binary64

/-
  The greatest power of two that a significand is multiplied
  by, and the first magnitude that is too large for a double.
  Both are too long to compute with outside the kernel: what
  is proved of them is proved of any power of two.
-/
def topPower : Nat :=
  Nat.pow 2 2045

def overflow : Nat :=
  Nat.pow 2 2098

theorem topPower_eq : topPower = Nat.pow 2 2045 := by
  decide +kernel

theorem overflow_eq : overflow = Nat.pow 2 2098 := by
  decide +kernel

theorem overflow_eq_mul :
    Nat.pow 2 53 * topPower = overflow := by
  decide +kernel

theorem two_pow_le
    {limit k e : Nat}
    (hLimit : limit = Nat.pow 2 e)
    (hLess : k ≤ e) : Nat.pow 2 k ≤ limit := by
  rw [hLimit]
  exact Nat.pow_le_pow_right Nat.two_pos hLess

/- The greatest magnitude of a double, and the one below it. -/
def greatest : Nat :=
  (Nat.pow 2 53 - 1) * topPower

def secondGreatest : Nat :=
  (Nat.pow 2 53 - 2) * topPower

theorem secondGreatest_lt : secondGreatest < overflow := by
  decide +kernel

/- A magnitude is the greatest one or at most the second. -/
theorem Representable.le_secondGreatest
    {magnitude : Nat}
    (hValid : Representable magnitude)
    (hNot : magnitude ≠ greatest) :
    magnitude ≤ secondGreatest := by
  rcases hValid with
    ⟨significand, exponent, hSignificand, hExponent, rfl⟩
  have hBelow := two_pow_le topPower_eq hExponent
  unfold greatest at hNot
  unfold secondGreatest
  rcases Nat.lt_or_ge significand (Nat.pow 2 53 - 1) with
    hLess | hLast
  · exact Nat.mul_le_mul (Nat.le_sub_one_of_lt hLess) hBelow
  · have hSame : significand = Nat.pow 2 53 - 1 := by
      omega
    have hTop : ∀ k, topPower = Nat.pow 2 k → exponent ≠ k := by
      rintro k hPower rfl
      exact hNot (by rw [hSame, hPower])
    -- A smaller exponent halves the magnitude at least.
    have hHalf :=
      two_pow_le topPower_eq
        (Nat.lt_of_le_of_ne hExponent (hTop _ topPower_eq))
    have hDouble :
        Nat.pow 2 exponent.succ = 2 * Nat.pow 2 exponent :=
      Nat.pow_succ'
    have hProduct :=
      Nat.mul_le_mul_right (Nat.pow 2 exponent)
        (Nat.le_of_lt hSignificand)
    generalize topPower = top at hHalf ⊢
    generalize significand * Nat.pow 2 exponent = magnitude
      at hProduct ⊢
    simp only [Nat.pow_eq] at hHalf hDouble hProduct ⊢
    omega

/- A magnitude is less than the first that is too large. -/
theorem Representable.lt_overflow
    {magnitude : Nat}
    (hValid : Representable magnitude) :
    magnitude < overflow := by
  rcases hValid with
    ⟨significand, exponent, hSignificand, hExponent, rfl⟩
  have hBelow := two_pow_le topPower_eq hExponent
  rw [← overflow_eq_mul]
  exact Nat.mul_lt_mul_of_lt_of_le hSignificand hBelow
    (Nat.lt_of_lt_of_le (Nat.two_pow_pos _) hBelow)

/- A magnitude below a power of two has fewer bits. -/
theorem log2_lt_of_lt_limit
    {magnitude limit k : Nat}
    (hLimit : limit = Nat.pow 2 k)
    (hLess : magnitude < limit)
    (hPositive : magnitude ≠ 0) : magnitude.log2 < k := by
  rw [hLimit] at hLess
  exact (Nat.log2_lt hPositive).mpr hLess

/- The shortest decimal of a magnitude is near it. -/
theorem Representable.near_shortest
    {magnitude : Nat}
    (hValid : Representable magnitude)
    (hPositive : magnitude ≠ 0)
    (tie : Tie) :
    Near magnitude (shortest tie magnitude) := by
  have hBits :=
    log2_lt_of_lt_limit overflow_eq hValid.lt_overflow hPositive
  exact Binary64.near_shortest hPositive hBits tie

/- A ratio that is not rounded too far is a finite double. -/
theorem ofRatio_of_rounded
    {num den : Nat}
    (hDen : 0 < den)
    (hFinite : rounded num den < overflow)
    (negative : Bool) :
    ∃ h, ofRatio negative num den =
      finite negative (rounded num den) h := by
  rcases exists_nearest_of_rounded hDen overflow_eq
    (Nat.le_refl _) hFinite with ⟨h, hNearest⟩
  exact ⟨h, ofRatio_of_nearest hNearest negative⟩

end Binary64

namespace Json

open Binary64

------------------------------------------------------------
-- Products with Powers of Ten
------------------------------------------------------------

/-
  Whether a significand, a power of ten and their product are
  all rounded to finite doubles.
-/
def FitsTen (significand exponent : Nat) : Prop :=
  rounded (significand * one) 1 < overflow ∧
    rounded (Nat.pow 10 exponent * one) 1 < overflow ∧
    rounded
        (rounded (significand * one) 1 *
          rounded (Nat.pow 10 exponent * one) 1) one <
      overflow

instance (significand exponent : Nat) :
    Decidable (FitsTen significand exponent) :=
  inferInstanceAs (Decidable (_ ∧ _ ∧ _))

/- A smaller significand and power fit as well. -/
theorem FitsTen.mono
    {significand greater exponent higher : Nat}
    (hFits : FitsTen greater higher)
    (hLess : significand ≤ greater)
    (hLower : exponent ≤ higher) :
    FitsTen significand exponent := by
  rcases hFits with ⟨hSignificand, hPower, hProduct⟩
  have hRounded :
      rounded (significand * one) 1 ≤
        rounded (greater * one) 1 :=
    rounded_mono Nat.one_pos (Nat.mul_le_mul_right one hLess)
  have hTen :
      rounded (Nat.pow 10 exponent * one) 1 ≤
        rounded (Nat.pow 10 higher * one) 1 :=
    rounded_mono Nat.one_pos
      (Nat.mul_le_mul_right one
        (Nat.pow_le_pow_right (by decide) hLower))
  refine ⟨Nat.lt_of_le_of_lt hRounded hSignificand,
    Nat.lt_of_le_of_lt hTen hPower,
    Nat.lt_of_le_of_lt ?_ hProduct⟩
  exact rounded_mono units_pos (Nat.mul_le_mul hRounded hTen)

/- What fits is scaled to a finite double. -/
theorem exists_scaleDouble?_of_fits
    {significand exponent : Nat}
    (hFits : FitsTen significand exponent)
    (hExponent : exponent ≤ 308) :
    ∃ x, scaleDouble? significand exponent = some x := by
  rcases hFits with ⟨hSignificand, hPower, hProduct⟩
  rcases ofRatio_of_rounded Nat.one_pos hSignificand false with
    ⟨hLeft, hLeftEq⟩
  rcases ofRatio_of_rounded Nat.one_pos hPower false with
    ⟨hRight, hRightEq⟩
  rcases ofRatio_of_rounded units_pos hProduct false with
    ⟨hValid, hValue⟩
  have hScaled :
      (Binary64.ofNat significand).mul (powerOfTen exponent) =
        finite false _ hValid := by
    rw [powerOfTen, Binary64.ofNat, Binary64.ofNat, hLeftEq,
      hRightEq]
    exact hValue
  refine ⟨finite false _ hValid, ?_⟩
  unfold scaleDouble?
  rw [if_neg (by omega), if_neg (by omega), Int.toNat_natCast]
  dsimp only
  rw [hScaled, isFinite, if_pos rfl]

/- A negative exponent never makes a number too large. -/
theorem exists_scaleDouble?_of_neg
    (significand : Nat)
    {exponent : Int}
    (hNegative : exponent < 0) :
    ∃ x, scaleDouble? significand exponent = some x := by
  unfold scaleDouble?
  rw [if_pos hNegative]
  exact ⟨_, rfl⟩

------------------------------------------------------------
-- Shortest Decimals
------------------------------------------------------------

/-
  No decimal near a double but the greatest one is more than
  this.
-/
def decimalLimit : Nat :=
  (Nat.pow 2 55 - 6) * Nat.pow 2 969

theorem decimalLimit_lt : decimalLimit < Nat.pow 10 309 := by
  decide +kernel

theorem decimalLimit_ge :
    4 * secondGreatest + 2 * topPower ≤
      decimalLimit * (4 * one) := by
  decide +kernel

theorem le_decimalLimit
    {magnitude : Nat}
    (hPositive : magnitude ≠ 0)
    (hMagnitude : magnitude ≤ secondGreatest) :
    4 * magnitude + halfStep magnitude ≤
      decimalLimit * (4 * one) := by
  have hBits :=
    log2_lt_of_lt_limit overflow_eq
      (Nat.lt_of_le_of_lt hMagnitude secondGreatest_lt)
      hPositive
  have hShift : magnitude.log2 - 52 ≤ 2045 := by
    omega
  have hStep : halfStep magnitude ≤ 2 * topPower :=
    Nat.mul_le_mul_left 2 (two_pow_le topPower_eq hShift)
  exact Nat.le_trans
    (Nat.add_le_add (Nat.mul_le_mul_left 4 hMagnitude) hStep)
    decimalLimit_ge

/- A power of ten below a limit has a smaller exponent. -/
theorem lt_of_ten_pow_le
    {limit exponent k : Nat}
    (hLimit : limit < Nat.pow 10 k)
    (hPower : Nat.pow 10 exponent ≤ limit) : exponent < k := by
  by_contra hLarge
  have hTen : Nat.pow 10 k ≤ Nat.pow 10 exponent :=
    Nat.pow_le_pow_right (by decide) (Nat.le_of_not_lt hLarge)
  exact Nat.not_lt_of_le (Nat.le_trans hTen hPower) hLimit

/- The greatest significand for a power of ten. -/
def significandBound (exponent : Nat) : Nat :=
  min (Nat.pow 10 18) (decimalLimit / Nat.pow 10 exponent)

theorem le_significandBound
    {significand exponent : Nat}
    (hShort : significand ≤ Nat.pow 10 18)
    (hBelow :
      significand * Nat.pow 10 exponent ≤ decimalLimit) :
    significand ≤ significandBound exponent :=
  Nat.le_min.mpr
    ⟨hShort,
      (Nat.le_div_iff_mul_le (Nat.pow_pos (by decide))).mpr
        hBelow⟩

/-
  The greatest significand fits with each power of ten from
  10^288 on; up to there it is the one of nineteen digits.
-/
theorem fitsTen_bound :
    ∀ more < 21,
      FitsTen (significandBound (288 + more)) (288 + more) := by
  decide +kernel

theorem significandBound_low :
    significandBound 288 = Nat.pow 10 18 := by
  decide +kernel

theorem fitsTen_of_le
    {significand exponent : Nat}
    (hShort : significand ≤ Nat.pow 10 18)
    (hBelow : significand * Nat.pow 10 exponent ≤ decimalLimit)
    (hSmall : exponent < 309) :
    FitsTen significand exponent := by
  rcases Nat.lt_or_ge exponent 288 with hLow | hHigh
  · have hBound := fitsTen_bound 0 (Nat.succ_pos 20)
    rw [Nat.add_zero, significandBound_low] at hBound
    exact hBound.mono hShort (Nat.le_of_lt hLow)
  · have hBound := fitsTen_bound (exponent - 288) (by omega)
    rw [Nat.add_sub_cancel' hHigh] at hBound
    exact hBound.mono (le_significandBound hShort hBelow)
      (Nat.le_refl exponent)

/- A decimal near a double below the greatest one fits. -/
theorem fitsTen_of_near
    {magnitude exponent : Nat}
    {d : Decimal}
    (hNear : Near magnitude d)
    (hPositive : magnitude ≠ 0)
    (hMagnitude : magnitude ≤ secondGreatest)
    (hExponent : d.exponent = exponent) :
    exponent < 309 ∧ FitsTen d.significand exponent := by
  have hBelow :
      d.significand * Nat.pow 10 exponent ≤ decimalLimit := by
    have hUnit : 0 < 4 * one := Nat.mul_pos (by decide) units_pos
    refine Nat.le_of_mul_le_mul_right ?_ hUnit
    refine Nat.le_trans ?_ (le_decimalLimit hPositive hMagnitude)
    have hQuarter := hNear.below
    rw [hExponent, tenUp, tenDown, if_pos (by omega),
      if_pos (by omega), Int.toNat_natCast, Nat.mul_one]
      at hQuarter
    exact hQuarter
  have hTen : Nat.pow 10 exponent ≤ decimalLimit :=
    Nat.le_trans
      (Nat.le_mul_of_pos_left _
        (Nat.pos_of_ne_zero hNear.positive)) hBelow
  have hSmall := lt_of_ten_pow_le decimalLimit_lt hTen
  exact ⟨hSmall, fitsTen_of_le hNear.short hBelow hSmall⟩

/- The greatest double is computed. -/
theorem exists_scaleDouble?_greatest :
    (scaleDouble? (shortest .even greatest).significand
      (shortest .even greatest).exponent).isSome = true := by
  decide +kernel

/-
  The shortest decimal of a double is scaled to a finite
  double.
-/
theorem exists_scaleDouble?_shortest
    {magnitude : Nat}
    (hValid : Representable magnitude)
    (hPositive : magnitude ≠ 0) :
    ∃ x, scaleDouble? (shortest .even magnitude).significand
      (shortest .even magnitude).exponent = some x := by
  have hNear := hValid.near_shortest hPositive .even
  by_cases hGreatest : magnitude = greatest
  · rw [hGreatest]
    exact Option.isSome_iff_exists.mp
      exists_scaleDouble?_greatest
  · have hMagnitude := hValid.le_secondGreatest hGreatest
    generalize shortest .even magnitude = d at hNear ⊢
    rcases Int.lt_or_le d.exponent 0 with hNegative | hWhole
    · exact exists_scaleDouble?_of_neg _ hNegative
    · rcases Int.eq_ofNat_of_zero_le hWhole with
        ⟨exponent, hExponent⟩
      rcases fitsTen_of_near hNear hPositive hMagnitude hExponent with
        ⟨hSmall, hFits⟩
      rw [hExponent]
      exact exists_scaleDouble?_of_fits hFits (by omega)

end Json

end TracePlayer
