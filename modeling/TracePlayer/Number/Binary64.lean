/-
  This file defines double precision numbers as exact
  values: a finite double is a whole multiple of 2^-1074
  with at most 53 significant bits. Every operation computes
  the exact result over the natural numbers and rounds it
  once, to the nearest double, a tie going to the even one.

  Key definitions include:
    * `Binary64`
    * `Binary64.Representable`
    * `Binary64.nearest`
    * `Binary64.ofRatio`
    * `Binary64.add`, `Binary64.mul`, `Binary64.div`
    * `Binary64.lt`, `Binary64.le`
-/

namespace TracePlayer

------------------------------------------------------------
-- Finite Magnitudes
------------------------------------------------------------

namespace Binary64

/- The number of units of 2^-1074 in one. -/
def one : Nat :=
  Nat.pow 2 1074

/-
  A magnitude, counted in units of 2^-1074, is that of a
  double when 53 bits hold its significant part and it lies
  below 2^1024.
-/
def Representable (magnitude : Nat) : Prop :=
  ∃ significand exponent,
    significand < Nat.pow 2 53 ∧
      exponent ≤ 2045 ∧
      magnitude = significand * Nat.pow 2 exponent

theorem representable_zero : Representable 0 :=
  ⟨0, 0, by decide, by decide, by decide⟩

end Binary64

/-
  A double: not a number, an infinity, or a sign with a
  magnitude in units of 2^-1074. Zero has both signs.
-/
inductive Binary64 where
| nan
| infinite (negative : Bool)
| finite
    (negative : Bool)
    (magnitude : Nat)
    (representable : Binary64.Representable magnitude)
deriving DecidableEq

namespace Binary64

------------------------------------------------------------
-- Rounding
------------------------------------------------------------

/-
  The whole number nearest to a ratio; a tie goes to the even
  neighbour.
-/
def roundHalfEven
    (num den : Nat) : Nat :=
  let floor := num / den
  let twice := 2 * (num % den)
  if twice < den then floor
  else if den < twice then floor + 1
  else if floor % 2 = 0 then floor
  else floor + 1

/-
  The magnitude with a given significand and exponent, when
  it is that of a double.
-/
def fit
    (significand exponent : Nat) :
    Option { n : Nat // Representable n } :=
  if h : significand < Nat.pow 2 53 ∧ exponent ≤ 2045 then
    some ⟨significand * Nat.pow 2 exponent,
      significand, exponent, h.1, h.2, rfl⟩
  else
    none

/-
  The magnitude nearest to `num / den` units: the exponent
  leaves 53 bits of the quotient, and a significand rounded
  up to 2^53 moves to the next exponent. There is none at
  2^1024 and beyond.
-/
def nearest
    (num den : Nat) : Option { n : Nat // Representable n } :=
  let exponent := (num / den).log2 - 52
  let significand :=
    roundHalfEven num (den * Nat.pow 2 exponent)
  (fit significand exponent).or
    (fit (significand / 2) (exponent + 1))

/-
  The double nearest to a signed ratio of units; a ratio too
  large for a finite double is infinite.
-/
def ofRatio
    (negative : Bool)
    (num den : Nat) : Binary64 :=
  match nearest num den with
  | some ⟨magnitude, h⟩ => finite negative magnitude h
  | none => infinite negative

/- The double nearest to a natural number. -/
def ofNat (n : Nat) : Binary64 :=
  ofRatio false (n * one) 1

/- The double nearest to an integer. -/
def ofInt (n : Int) : Binary64 :=
  ofRatio (decide (n < 0)) (n.natAbs * one) 1

/-
  The double nearest to `significand * 10 ^ exponent`. Beyond
  the exponents of doubles the answer is known without the
  power of ten.
-/
def ofDecimal
    (negative : Bool)
    (significand : Nat)
    (exponent : Int) : Binary64 :=
  if significand = 0 then
    finite negative 0 representable_zero
  else if 310 < exponent then
    infinite negative
  else if exponent + (significand.log2 : Int) < -1100 then
    finite negative 0 representable_zero
  else if 0 ≤ exponent then
    ofRatio negative
      (significand * Nat.pow 10 exponent.toNat * one) 1
  else
    ofRatio negative
      (significand * one) (Nat.pow 10 exponent.natAbs)

/- Positive zero. -/
def zero : Binary64 :=
  finite false 0 representable_zero

------------------------------------------------------------
-- Signs and Order
------------------------------------------------------------

/- The exact value of a finite double in units of 2^-1074. -/
def units? : Binary64 → Option Int
  | finite negative magnitude _ =>
      some (if negative then -(magnitude : Int) else magnitude)
  | _ => none

def isFinite : Binary64 → Bool
  | finite _ _ _ => true
  | _ => false

def neg : Binary64 → Binary64
  | nan => nan
  | infinite negative => infinite !negative
  | finite negative magnitude h => finite (!negative) magnitude h

/-
  The order of doubles by value: the two zeros are equal, and
  nothing is below or above a value that is not a number.
-/
def lt : Binary64 → Binary64 → Bool
  | nan, _ => false
  | _, nan => false
  | infinite a, infinite b => a && !b
  | infinite a, finite _ _ _ => a
  | finite _ _ _, infinite b => !b
  | finite a m _, finite b n _ =>
      decide
        ((if a then -(m : Int) else m) <
          (if b then -(n : Int) else n))

/- Equality by value: the two zeros are equal. -/
def same : Binary64 → Binary64 → Bool
  | infinite a, infinite b => a == b
  | finite a m _, finite b n _ =>
      m == n && (a == b || m == 0)
  | _, _ => false

def le (x y : Binary64) : Bool :=
  lt x y || same x y

------------------------------------------------------------
-- Arithmetic
------------------------------------------------------------

/-
  The sum, rounded once. A sum of zero is negative only when
  both terms are.
-/
def add : Binary64 → Binary64 → Binary64
  | nan, _ => nan
  | _, nan => nan
  | infinite a, infinite b =>
      if a = b then infinite a else nan
  | infinite a, finite _ _ _ => infinite a
  | finite _ _ _, infinite b => infinite b
  | finite a m _, finite b n _ =>
      let sum :=
        (if a then -(m : Int) else m) +
          (if b then -(n : Int) else n)
      if sum = 0 then
        finite (a && b) 0 representable_zero
      else
        ofRatio (decide (sum < 0)) sum.natAbs 1

/- The product, rounded once. -/
def mul : Binary64 → Binary64 → Binary64
  | nan, _ => nan
  | _, nan => nan
  | infinite a, infinite b => infinite (a != b)
  | infinite a, finite b n _ =>
      if n = 0 then nan else infinite (a != b)
  | finite a m _, infinite b =>
      if m = 0 then nan else infinite (a != b)
  | finite a m _, finite b n _ =>
      ofRatio (a != b) (m * n) one

/- The quotient, rounded once. -/
def div : Binary64 → Binary64 → Binary64
  | nan, _ => nan
  | _, nan => nan
  | infinite _, infinite _ => nan
  | infinite a, finite b _ _ => infinite (a != b)
  | finite a _ _, infinite b =>
      finite (a != b) 0 representable_zero
  | finite a m _, finite b n _ =>
      if n = 0 then
        if m = 0 then nan else infinite (a != b)
      else
        ofRatio (a != b) (m * one) n

/-
  The value moved into a range. A value that is not a number
  stays what it is.
-/
def clamp
    (x low high : Binary64) : Binary64 :=
  if lt x low then low
  else if lt high x then high
  else x

end Binary64

end TracePlayer
