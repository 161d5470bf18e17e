import TracePlayer.Number.Shortest

/-
  This file writes doubles as text and reads decimal text as
  doubles. Both written forms use the shortest digits that
  read back; they differ in when an exponent is written,
  whether a whole number keeps a fraction, and where a tie
  between two equally near decimals goes.

  Key definitions include:
    * `Binary64.Layout`
    * `Binary64.document` and `Binary64.plain`
    * `Binary64.write`
    * `Binary64.read?`
-/

namespace TracePlayer

namespace Binary64

------------------------------------------------------------
-- Written Forms
------------------------------------------------------------

/-
  How a double is written: the decimal exponents from `low` to
  `high` are written in positional form (all of them when
  there is no bound), `fraction` keeps `.0` on whole numbers,
  and `tie` chooses between two equally near decimals.
-/
structure Layout where
  low : Option Int
  high : Option Int
  fraction : Bool
  tie : Tie
deriving DecidableEq, Repr

/-
  Documents write positional numbers from 10^-5 to below
  10^16 and keep the fraction; a tie goes to the even decimal.
-/
def document : Layout :=
  ⟨some (-5), some 15, true, .even⟩

/-
  Messages write every number in positional form, a whole
  number without a fraction; a tie goes up.
-/
def plain : Layout :=
  ⟨none, none, false, .up⟩

/- Whether a layout writes a decimal exponent in positional form. -/
def Layout.positional
    (layout : Layout)
    (exponent : Int) : Bool :=
  layout.low.all (· ≤ exponent) && layout.high.all (exponent ≤ ·)

def zeros (n : Nat) : List Char :=
  List.replicate n '0'

/-
  Positional digits, with the point after the first `point`
  of them (before them all when it is not positive).
-/
def positionalDigits
    (digits : List Char)
    (point : Int)
    (fraction : Bool) : List Char :=
  if point ≤ 0 then
    ['0', '.'] ++ zeros point.natAbs ++ digits
  else if digits.length ≤ point.toNat then
    digits ++ zeros (point.toNat - digits.length) ++
      (if fraction then ['.', '0'] else [])
  else
    digits.take point.toNat ++ ['.'] ++ digits.drop point.toNat

/- Digits with an exponent, whose sign is always written. -/
def scientificDigits
    (digits : List Char)
    (exponent : Int) : List Char :=
  let sign := if exponent < 0 then '-' else '+'
  let tail := ['e', sign] ++ Nat.toDigits 10 exponent.natAbs
  match digits with
  | [] => tail
  | [d] => d :: tail
  | d :: rest => d :: '.' :: rest ++ tail

/- A magnitude in a layout. -/
def writeMagnitude
    (layout : Layout)
    (magnitude : Nat) : List Char :=
  if magnitude = 0 then
    if layout.fraction then ['0', '.', '0'] else ['0']
  else
    let d := shortest layout.tie magnitude
    let digits := d.digits
    let point := (digits.length : Int) + d.exponent
    if layout.positional (point - 1) then
      positionalDigits digits point layout.fraction
    else
      scientificDigits digits (point - 1)

/-
  A double in a layout. The sign of a negative zero is kept.
-/
def write
    (layout : Layout) : Binary64 → String
  | nan => "NaN"
  | infinite negative => if negative then "-inf" else "inf"
  | finite negative magnitude _ =>
      String.ofList
        ((if negative then ['-'] else []) ++
          writeMagnitude layout magnitude)

------------------------------------------------------------
-- Reading
------------------------------------------------------------

/- The value of a list of decimal digits. -/
def digitsValue (digits : List Char) : Nat :=
  digits.foldl (fun n c => n * 10 + (c.toNat - '0'.toNat)) 0

/-
  A decimal exponent: an optional sign and at least one digit,
  nothing after them.
-/
def readExponent? (cs : List Char) : Option Int :=
  let (negative, digits) :=
    match cs with
    | '-' :: rest => (true, rest)
    | '+' :: rest => (false, rest)
    | _ => (false, cs)
  if digits ≠ [] ∧ digits.all Char.isDigit then
    let n : Int := digitsValue digits
    some (if negative then -n else n)
  else
    none

/-
  A decimal without its sign: digits with at most one point,
  at least one digit in all, and an optional exponent.
-/
def readMagnitude?
    (negative : Bool)
    (cs : List Char) : Option Binary64 :=
  let whole := cs.takeWhile Char.isDigit
  let rest := cs.dropWhile Char.isDigit
  let (fraction, tail) :=
    match rest with
    | '.' :: more =>
        (more.takeWhile Char.isDigit, more.dropWhile Char.isDigit)
    | _ => ([], rest)
  let digits := whole ++ fraction
  if digits = [] then
    none
  else
    let exponent? :=
      match tail with
      | [] => some 0
      | 'e' :: more => readExponent? more
      | 'E' :: more => readExponent? more
      | _ => none
    exponent?.map fun exponent =>
      ofDecimal negative (digitsValue digits)
        (exponent - fraction.length)

/-
  Read a double: an optional sign, then a decimal, `inf`,
  `infinity` or `nan` in any case. The result is the double
  nearest to the decimal.
-/
def read? (text : String) : Option Binary64 :=
  let (negative, cs) :=
    match text.toList with
    | '-' :: rest => (true, rest)
    | '+' :: rest => (false, rest)
    | cs => (false, cs)
  let lower := String.ofList (cs.map Char.toLower)
  if lower = "inf" ∨ lower = "infinity" then
    some (infinite negative)
  else if lower = "nan" then
    some nan
  else
    readMagnitude? negative cs

end Binary64

end TracePlayer
