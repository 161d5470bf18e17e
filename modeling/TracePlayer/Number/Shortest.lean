import TracePlayer.Number.Binary64

/-
  This file finds the shortest decimal that reads back as a
  given double. The reals that round to a double form an
  interval around it; its ends belong to the interval when the
  significand is even. For one digit, two digits and so on up
  to seventeen, the two neighbours of the value on that
  decimal grid are tested exactly, and the first grid with a
  hit wins; of two hits the nearer. A tie goes to the even one
  or to the greater one, as the writer likes.

  Key definitions include:
    * `Decimal`
    * `Tie`
    * `Binary64.Neighbourhood`
    * `Binary64.shortest`
-/

namespace TracePlayer

------------------------------------------------------------
-- Decimals
------------------------------------------------------------

/- A decimal `significand * 10 ^ exponent`. -/
structure Decimal where
  significand : Nat
  exponent : Int
deriving DecidableEq, Repr

namespace Decimal

/-
  Drop trailing zeros of the significand, at most `fuel` of
  them, raising the exponent.
-/
def strip : Nat → Decimal → Decimal
  | 0, d => d
  | fuel + 1, d =>
      if d.significand ≠ 0 ∧ d.significand % 10 = 0 then
        strip fuel ⟨d.significand / 10, d.exponent + 1⟩
      else
        d

/- The decimal digits of the significand. -/
def digits (d : Decimal) : List Char :=
  Nat.toDigits 10 d.significand

end Decimal

namespace Binary64

------------------------------------------------------------
-- Reals That Round to a Double
------------------------------------------------------------

/-
  The reals that round to a positive double, scaled by a
  common denominator: the value with its half distances to the
  doubles below and above. The distance below is halved at a
  power of two, where the exponent drops.
-/
structure Neighbourhood where
  value : Nat
  below : Nat
  above : Nat
  closed : Bool
deriving DecidableEq, Repr

/-
  The neighbourhood of a magnitude in quarters of its unit.
-/
def neighbourhood (magnitude : Nat) : Neighbourhood :=
  let exponent := magnitude.log2 - 52
  let gap := 2 * Nat.pow 2 exponent
  let atPower :=
    magnitude = Nat.pow 2 (52 + exponent) ∧ exponent ≠ 0
  { value := 4 * magnitude
    below := if atPower then gap / 2 else gap
    above := gap
    closed := (magnitude / Nat.pow 2 exponent) % 2 = 0 }

/-
  Whether the decimal multiple `digits * grid` of a common
  denominator rounds to the double.
-/
def Neighbourhood.holds
    (n : Neighbourhood)
    (scale point : Nat) : Bool :=
  let value := n.value * scale
  if point < value then
    let gap := value - point
    gap < n.below * scale || (n.closed && gap = n.below * scale)
  else
    let gap := point - value
    gap < n.above * scale || (n.closed && gap = n.above * scale)

------------------------------------------------------------
-- The Shortest Decimal
------------------------------------------------------------

/-
  The greatest exponent of ten at or below a positive
  magnitude. The logarithm to base two gives it up to one.
-/
def decimalExponent (magnitude : Nat) : Int :=
  let atLeast (e : Int) : Bool :=
    if 0 ≤ e then Nat.pow 10 e.toNat * one ≤ magnitude
    else one ≤ magnitude * Nat.pow 10 e.natAbs
  let guess :=
    (((magnitude.log2 : Int) - 1074) * 30103).fdiv 100000
  if atLeast (guess + 1) then guess + 1
  else if atLeast guess then guess
  else guess - 1

/- Which of two equally near decimals is taken. -/
inductive Tie where
| even
| up
deriving DecidableEq, Repr

/- Whether a tie goes to the lower of two neighbours. -/
def Tie.goesDown
    (tie : Tie)
    (low : Nat) : Bool :=
  match tie with
  | .even => low % 2 = 0
  | .up => false

/-
  The grid point with exponent `e` that is nearest to the
  magnitude among those that round to it.
-/
def onGrid?
    (tie : Tie)
    (magnitude : Nat)
    (e : Int) : Option Decimal :=
  let n := neighbourhood magnitude
  -- Value and grid over one denominator.
  let scale := if 0 ≤ e then 1 else Nat.pow 10 e.natAbs
  let grid :=
    (if 0 ≤ e then Nat.pow 10 e.toNat else 1) * (4 * one)
  let low := n.value * scale / grid
  let lowHolds := n.holds scale (low * grid)
  let highHolds := n.holds scale ((low + 1) * grid)
  let twice := 2 * (n.value * scale % grid)
  if lowHolds && highHolds then
    if twice < grid || (twice = grid && tie.goesDown low) then
      some ⟨low, e⟩
    else
      some ⟨low + 1, e⟩
  else if lowHolds then some ⟨low, e⟩
  else if highHolds then some ⟨low + 1, e⟩
  else none

/-
  Try grids of more and more digits after the leading one.
  Seventeen always suffice, so the last resort is never used
  for a double.
-/
def firstOnGrid
    (tie : Tie)
    (magnitude : Nat)
    (top : Int) : Decimal :=
  ((List.range 18).findSome? fun digits : Nat =>
      onGrid? tie magnitude (top - digits)).getD
    ⟨magnitude, 0⟩

/-
  The shortest decimal that reads back as a magnitude, without
  trailing zeros.
-/
def shortest
    (tie : Tie)
    (magnitude : Nat) : Decimal :=
  if magnitude = 0 then
    ⟨0, 0⟩
  else
    Decimal.strip 400
      (firstOnGrid tie magnitude (decimalExponent magnitude))

end Binary64

end TracePlayer
