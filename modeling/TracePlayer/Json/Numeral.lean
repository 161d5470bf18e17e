import TracePlayer.Json.Fault
import TracePlayer.Json.Value
import TracePlayer.Number.Binary64

/-
  This file reads the numbers of a JSON text. The digits are
  collected in a significand of 64 bits; once the next digit
  does not fit, the digits that follow only count as places.
  A number with a fraction, an exponent or too many digits is
  the double of the significand, multiplied or divided by a
  power of ten as doubles.

  Key definitions include:
    * `Json.collect`
    * `Json.scaleDouble?`
    * `Json.readNumber`
-/

namespace TracePlayer

namespace Json

------------------------------------------------------------
-- Digits
------------------------------------------------------------

/- The least number that does not fit a significand. -/
def significandLimit : Nat :=
  0x10000000000000000

/- The greatest exponent that a text may write. -/
def exponentLimit : Nat :=
  0x7FFFFFFF

def digitValue (c : Char) : Nat :=
  c.toNat - '0'.toNat

def startsWithDigit : List Char → Bool
| c :: _ => c.isDigit
| [] => false

/-
  Append digits to a significand for as long as it fits: the
  significand and what is left of the text.
-/
def collect
    (significand : Nat) : List Char → Nat × List Char
| [] => (significand, [])
| c :: rest =>
    let next := significand * 10 + digitValue c
    if c.isDigit ∧ next < significandLimit then
      collect next rest
    else
      (significand, c :: rest)

/-
  The digits of an exponent: its value and the rest of the
  text, or the number of digits read when it grows too large.
-/
def collectExponent
    (exponent digits : Nat) :
    List Char → Except Nat (Nat × Nat × List Char)
| [] => .ok (exponent, digits, [])
| c :: rest =>
    if c.isDigit then
      let next := exponent * 10 + digitValue c
      if exponentLimit < next then
        .error (digits + 1)
      else
        collectExponent next (digits + 1) rest
    else
      .ok (exponent, digits, c :: rest)

------------------------------------------------------------
-- Scaling
------------------------------------------------------------

/- The double nearest to a power of ten up to 10^308. -/
def powerOfTen (exponent : Nat) : Binary64 :=
  Binary64.ofNat (Nat.pow 10 exponent)

/-
  Divide by 10^308 until the exponent is one of the table or
  nothing is left, then divide by the power of ten.
-/
def scaleDown
    (x : Binary64) : Nat → Nat → Binary64
| 0, _ => x
| fuel + 1, exponent =>
    if exponent ≤ 308 then
      x.div (powerOfTen exponent)
    else if x.same Binary64.zero then
      x
    else
      scaleDown (x.div (powerOfTen 308)) fuel (exponent - 308)

/-
  The double of a significand times a power of ten. There is
  none when it is too large to be finite.
-/
def scaleDouble?
    (significand : Nat)
    (exponent : Int) : Option Binary64 :=
  let x := Binary64.ofNat significand
  if exponent < 0 then
    some (scaleDown x (exponent.natAbs / 308 + 1)
      exponent.natAbs)
  else if 308 < exponent then
    if significand = 0 then some x else none
  else
    let scaled := x.mul (powerOfTen exponent.toNat)
    if scaled.isFinite then some scaled else none

------------------------------------------------------------
-- Numbers
------------------------------------------------------------

/- A number that was read, the bytes read and the rest. -/
structure NumberRead where
  value : Json
  bytes : Nat
  rest : List Char

/- A double with the sign that the text gave it. -/
def signedDouble
    (negative : Bool)
    (x : Binary64) : Json :=
  double (if negative then x.neg else x)

/- An integer that fits 64 bits; minus zero is a double. -/
def signedInteger
    (negative : Bool)
    (significand : Nat) : Json :=
  if negative = false then
    integer significand
  else if significand = 0 ∨ 0x8000000000000000 < significand then
    signedDouble true (Binary64.ofNat significand)
  else
    integer (-(significand : Int))

/- The end of a double: scale what was collected. -/
def endDouble
    (negative : Bool)
    (significand : Nat)
    (exponent : Int)
    (bytes : Nat)
    (rest : List Char) : Except Complaint NumberRead :=
  match scaleDouble? significand exponent with
  | some x => .ok ⟨signedDouble negative x, bytes, rest⟩
  | none => .error ⟨.numberOutOfRange, bytes⟩

/- The fault of a text where a digit has to come. -/
def missingDigit
    (bytes : Nat) : List Char → Complaint
| [] => ⟨.endInValue, bytes⟩
| _ :: _ => ⟨.invalidNumber, bytes + 1⟩

/-
  The text after the mark of an exponent. An exponent that
  grows too large leaves zero, unless it is positive and the
  significand is not zero.
-/
def readExponent
    (negative : Bool)
    (significand : Nat)
    (places : Int)
    (bytes : Nat)
    (cs : List Char) : Except Complaint NumberRead :=
  let (down, bytes, cs) :=
    match cs with
    | '+' :: rest => (false, bytes + 1, rest)
    | '-' :: rest => (true, bytes + 1, rest)
    | _ => (false, bytes, cs)
  if startsWithDigit cs then
    match collectExponent 0 0 cs with
    | .ok (exponent, digits, rest) =>
        endDouble negative significand
          (if down then places - exponent
            else places + exponent)
          (bytes + digits) rest
    | .error digits =>
        if significand ≠ 0 ∧ down = false then
          .error ⟨.numberOutOfRange, bytes + digits⟩
        else
          let run := (cs.takeWhile Char.isDigit).length
          .ok ⟨signedDouble negative Binary64.zero,
            bytes + run, cs.drop run⟩
  else
    .error (missingDigit bytes cs)

/- What may follow the digits of a double. -/
def readTail
    (negative : Bool)
    (significand : Nat)
    (places : Int)
    (bytes : Nat) :
    List Char → Except Complaint NumberRead
| 'e' :: rest | 'E' :: rest =>
    readExponent negative significand places (bytes + 1) rest
| rest => endDouble negative significand places bytes rest

/- The text after the point of a double. -/
def readFraction
    (negative : Bool)
    (significand : Nat)
    (places : Int)
    (bytes : Nat)
    (cs : List Char) : Except Complaint NumberRead :=
  if startsWithDigit cs then
    let (longer, rest) := collect significand cs
    let taken := cs.length - rest.length
    let dropped := (rest.takeWhile Char.isDigit).length
    readTail negative longer (places - taken)
      (bytes + taken + dropped) (rest.drop dropped)
  else
    .error (missingDigit bytes cs)

/-
  A number without its sign, after a number of bytes. There is
  at most one leading zero, and it stands alone.
-/
def readUnsigned
    (negative : Bool)
    (bytes : Nat)
    (cs : List Char) : Except Complaint NumberRead :=
  if startsWithDigit cs then
    let (significand, rest) :=
      match cs with
      | '0' :: rest => (0, rest)
      | _ => collect 0 cs
    let bytes := bytes + (cs.length - rest.length)
    if cs.head? = some '0' ∧ startsWithDigit rest then
      .error ⟨.invalidNumber, bytes + 1⟩
    else
      let dropped := (rest.takeWhile Char.isDigit).length
      let bytes := bytes + dropped
      match rest.drop dropped with
      | '.' :: more =>
          readFraction negative significand dropped
            (bytes + 1) more
      | more =>
          if dropped = 0 ∧ more.head? ≠ some 'e' ∧
              more.head? ≠ some 'E' then
            .ok ⟨signedInteger negative significand,
              bytes, more⟩
          else
            readTail negative significand dropped bytes more
  else
    .error (missingDigit bytes cs)

/- A number at the start of a text. -/
def readNumber
    (bytes : Nat) :
    List Char → Except Complaint NumberRead
| '-' :: rest => readUnsigned true (bytes + 1) rest
| cs => readUnsigned false bytes cs

end Json

end TracePlayer
