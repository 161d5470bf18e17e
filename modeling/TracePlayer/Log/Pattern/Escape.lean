import TracePlayer.Log.Pattern.Mode

/-
  This file defines what a backslash and the characters after
  it stand for in a pattern.

  There are no tables of characters: the sets of digits, words
  and blanks, and the edges of words, are at hand only among
  the characters of one byte, and the other characters of one
  byte are not text.

  Key definitions include:
    * `Pattern.Escaped`
    * `Pattern.hex?`
    * `Pattern.escape?`
-/

namespace TracePlayer

namespace Pattern

/- What a backslash and the characters after it stand for. -/
inductive Escaped where
| character (code : Nat)
| set
| edge
deriving DecidableEq, Repr

------------------------------------------------------------
-- Numbers
------------------------------------------------------------

def isHexDigit (c : Char) : Bool :=
  c.isDigit || ('a' ≤ c && c ≤ 'f') || ('A' ≤ c && c ≤ 'F')

/- The value of a digit of base sixteen. -/
def hexDigitValue (c : Char) : Nat :=
  if c.isDigit then c.toNat - '0'.toNat
  else c.toLower.toNat - 'a'.toNat + 10

/-
  Read a number of digits of base sixteen after a value, each
  with the blanks behind it.
-/
def hexDigits?
    (mode : Mode) :
    Nat → Nat → List Char → Option (Nat × List Char)
| 0, value, chars => some (value, chars)
| width + 1, value, c :: rest =>
    if isHexDigit c then
      hexDigits? mode width (16 * value + hexDigitValue c)
        (mode.skip rest)
    else none
| _, _, [] => none

/- A character by a number of digits of base sixteen. -/
def hex?
    (mode : Mode)
    (width : Nat)
    (chars : List Char) : Option (Nat × List Char) :=
  (hexDigits? mode width 0 (mode.skip chars)).bind
    fun (code, rest) =>
      if code < 0xD800 ∨ (0xE000 ≤ code ∧ code < 0x110000) then
        some (code, rest)
      else none

------------------------------------------------------------
-- Escapes
------------------------------------------------------------

/- The control characters with letters of their own. -/
def controls : List (Char × Nat) :=
  [ ('a', 7), ('f', 12), ('t', 9), ('n', 10), ('r', 13),
    ('v', 11) ]

/- What a backslash and one letter or angle stand for. -/
def lettered?
    (mode : Mode)
    (c : Char) : Option Escaped :=
  match controls.lookup c with
  | some code => some (.character code)
  | none =>
      if c = 'A' || c = 'z' then some .edge
      else if mode.wide then none
      else if "dsw".toList.contains c then some .set
      else if "bB<>".toList.contains c then some .edge
      else none

/- Read what follows a backslash. -/
def escape?
    (mode : Mode) :
    List Char → Option (Escaped × List Char)
| [] => none
| 'x' :: rest =>
    (hex? mode 2 rest).bind fun (code, rest) =>
      if mode.wide || code < 0x80 then
        some (.character code, rest)
      else none
| 'u' :: rest =>
    (hex? mode 4 rest).map fun (code, rest) =>
      (.character code, rest)
| 'U' :: rest =>
    (hex? mode 8 rest).map fun (code, rest) =>
      (.character code, rest)
| c :: rest =>
    if c.isAlphanum || c = '<' || c = '>' then
      (lettered? mode c).map fun escaped => (escaped, rest)
    else if c.toNat < 0x80 then
      some (.character c.toNat, rest)
    else none

end Pattern

end TracePlayer
