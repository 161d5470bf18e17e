import TracePlayer.Number.Binary64

/-
  This file proves that doubles are totally ordered by value,
  what is not a number apart, and that such a value is not
  made by rounding, so that a value can be moved into a range.

  Main declarations:
    * `Binary64.ofRatio_ne_nan`, `add_ne_nan`, `mul_ne_nan`
    * `Binary64.le_of_not_lt`
    * `Binary64.le_clamp`, `Binary64.clamp_le`
    * `Binary64.le_iff_of_finite`
    * `Binary64.eq_of_units?_eq`
-/

namespace TracePlayer

namespace Binary64

variable {x y : Binary64}

------------------------------------------------------------
-- Values That Are Numbers
------------------------------------------------------------

/- Rounding always makes a number. -/
theorem ofRatio_ne_nan
    (negative : Bool)
    (num den : Nat) :
    ofRatio negative num den ≠ nan := by
  unfold ofRatio
  split <;> nofun

/- A finite number and any number have a sum. -/
theorem add_ne_nan
    (hFinite : x.isFinite = true)
    (hNumber : y ≠ nan) : x.add y ≠ nan := by
  cases x with
  | nan => cases hFinite
  | infinite => cases hFinite
  | finite a m h =>
      cases y with
      | nan => exact absurd rfl hNumber
      | infinite => nofun
      | finite b n k =>
          rw [add]
          generalize
            (if a then -(m : Int) else m) +
              (if b then -(n : Int) else n) = sum
          by_cases hZero : sum = 0
          case pos =>
            rw [if_pos hZero]
            nofun
          case neg =>
            rw [if_neg hZero]
            exact ofRatio_ne_nan _ _ _

/- A finite number but zero and any number have a product. -/
theorem mul_ne_nan
    {a : Bool}
    {m : Nat}
    {h : Representable m}
    (hNonzero : m ≠ 0)
    (hNumber : y ≠ nan) : (finite a m h).mul y ≠ nan := by
  cases y with
  | nan => exact absurd rfl hNumber
  | infinite =>
      rw [mul, if_neg hNonzero]
      nofun
  | finite b n k =>
      rw [mul]
      exact ofRatio_ne_nan _ _ _

------------------------------------------------------------
-- Order
------------------------------------------------------------

/- Finite numbers are ordered by their exact values. -/
theorem le_iff_of_finite
    {a b : Bool}
    {m n : Nat}
    {h : Representable m}
    {k : Representable n} :
    (finite a m h).le (finite b n k) = true ↔
      (if a then -(m : Int) else m) ≤
        (if b then -(n : Int) else n) := by
  unfold le lt same
  cases a <;> cases b <;> simp <;> omega

/- Of two numbers, one that is not less is greater or equal. -/
theorem le_of_not_lt
    (hLeft : x ≠ nan)
    (hRight : y ≠ nan)
    (hNot : x.lt y = false) : y.le x = true := by
  cases x with
  | nan => exact absurd rfl hLeft
  | infinite a =>
      cases y with
      | nan => exact absurd rfl hRight
      | infinite b => cases a <;> cases b <;> simp_all [lt, le, same]
      | finite b n k =>
          cases a with
          | false => rfl
          | true => cases hNot
  | finite a m h =>
      cases y with
      | nan => exact absurd rfl hRight
      | infinite b =>
          cases b with
          | false => cases hNot
          | true => rfl
      | finite b n k =>
          rw [le_iff_of_finite]
          unfold lt at hNot
          exact Int.not_lt.mp (of_decide_eq_false hNot)

/- A number is at most itself. -/
theorem le_self (hNumber : x ≠ nan) : x.le x = true := by
  cases x with
  | nan => exact absurd rfl hNumber
  | infinite a => cases a <;> rfl
  | finite a m h =>
      exact le_iff_of_finite.mpr (Int.le_refl _)

/- A number that is moved into a range is at least its low end. -/
theorem le_clamp
    {low high : Binary64}
    (hNumber : x ≠ nan)
    (hLow : low ≠ nan)
    (hRange : low.le high = true) :
    low.le (x.clamp low high) = true := by
  unfold clamp
  split
  case isTrue => exact le_self hLow
  case isFalse hBelow =>
      split
      case isTrue => exact hRange
      case isFalse =>
          exact le_of_not_lt hNumber hLow
            (Bool.eq_false_iff.mpr hBelow)

/- A number that is moved into a range is at most its high end. -/
theorem clamp_le
    {low high : Binary64}
    (hNumber : x ≠ nan)
    (hHigh : high ≠ nan)
    (hRange : low.le high = true) :
    (x.clamp low high).le high = true := by
  unfold clamp
  split
  case isTrue => exact hRange
  case isFalse =>
      split
      case isTrue => exact le_self hHigh
      case isFalse hAbove =>
          exact le_of_not_lt hHigh hNumber
            (Bool.eq_false_iff.mpr hAbove)

------------------------------------------------------------
-- Exact Values
------------------------------------------------------------

/- Two doubles of the same value other than zero are the same. -/
theorem eq_of_units?_eq
    {units : Int}
    (hLeft : x.units? = some units)
    (hRight : y.units? = some units)
    (hNonzero : units ≠ 0) : x = y := by
  cases x with
  | nan => cases hLeft
  | infinite => cases hLeft
  | finite a m h =>
      cases y with
      | nan => cases hRight
      | infinite => cases hRight
      | finite b n k =>
          simp only [units?, Option.some.injEq] at hLeft hRight
          have hSign : a = b := by
            cases a <;> cases b <;> simp_all <;> omega
          have hMagnitude : m = n := by
            cases a <;> cases b <;> simp_all <;> omega
          subst hSign hMagnitude
          rfl

end Binary64

end TracePlayer
