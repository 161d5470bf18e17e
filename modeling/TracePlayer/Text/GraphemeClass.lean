import TracePlayer.Text.Conjunct
import TracePlayer.Text.Emoji
import TracePlayer.Text.Mark
import TracePlayer.Text.Spacing

/-
  This file sorts characters by how they join to graphemes,
  the units that a reader takes for one character.

  Key definitions include:
    * `GraphemeClass`
    * `graphemeClass`
-/

namespace TracePlayer

/- How a character joins with its neighbours. -/
inductive GraphemeClass where
| carriageReturn
| lineFeed
| control
| mark
| linker
| nonJoiner
| joiner
| spacingMark
| prepended
| leadingJamo
| vowelJamo
| trailingJamo
| openSyllable
| closedSyllable
| regional
| pictograph
| consonant
| other
deriving DecidableEq, Repr

------------------------------------------------------------
-- Small Classes
------------------------------------------------------------

/- The controls and formats beyond ASCII. -/
def controlRanges : List (Nat × Nat) :=
  [
    (0x80, 0x9F), (0xAD, 0xAD),
    (0x61C, 0x61C), (0x180E, 0x180E),
    (0x200B, 0x200B), (0x200E, 0x200F),
    (0x2028, 0x202E), (0x2060, 0x206F),
    (0xFEFF, 0xFEFF), (0xFFF0, 0xFFFB),
    (0x13430, 0x1343F), (0x1BCA0, 0x1BCA3),
    (0x1D173, 0x1D17A), (0xE0000, 0xE001F),
    (0xE0080, 0xE00FF), (0xE01F0, 0xE0FFF) ]

/- The signs that belong to the character after them. -/
def prependedRanges : List (Nat × Nat) :=
  [
    (0x600, 0x605), (0x6DD, 0x6DD),
    (0x70F, 0x70F), (0x890, 0x891),
    (0x8E2, 0x8E2), (0xD4E, 0xD4E),
    (0x110BD, 0x110BD), (0x110CD, 0x110CD),
    (0x111C2, 0x111C3), (0x113D1, 0x113D1),
    (0x1193F, 0x1193F), (0x11941, 0x11941),
    (0x11A84, 0x11A89), (0x11D46, 0x11D46),
    (0x11F02, 0x11F02) ]

/- The letters of Hangul that begin a syllable. -/
def leadingJamoRanges : List (Nat × Nat) :=
  [ (0x1100, 0x115F), (0xA960, 0xA97C) ]

/- The vowels that join like those of Hangul. -/
def vowelJamoRanges : List (Nat × Nat) :=
  [
    (0x1160, 0x11A7), (0xD7B0, 0xD7C6),
    (0x16D63, 0x16D63), (0x16D67, 0x16D6A) ]

/- The letters of Hangul that end a syllable. -/
def trailingJamoRanges : List (Nat × Nat) :=
  [ (0x11A8, 0x11FF), (0xD7CB, 0xD7FB) ]

/- The syllables of Hangul. -/
def isHangulSyllable (c : Char) : Bool :=
  0xAC00 ≤ c.toNat && c.toNat ≤ 0xD7A3

/- Whether a syllable of Hangul has no last letter. -/
def isOpenSyllable (c : Char) : Bool :=
  isHangulSyllable c && (c.toNat - 0xAC00) % 28 = 0

------------------------------------------------------------
-- All Characters
------------------------------------------------------------

/- The class of a character beyond ASCII. -/
def graphemeClassBeyondAscii (c : Char) : GraphemeClass :=
  if inRanges controlRanges c then .control
  else if c.toNat = 0x200C then .nonJoiner
  else if c.toNat = 0x200D then .joiner
  else if isConjunctLinker c then .linker
  else if isMark c then .mark
  else if isSpacingMark c then .spacingMark
  else if inRanges prependedRanges c then .prepended
  else if inRanges leadingJamoRanges c then .leadingJamo
  else if inRanges vowelJamoRanges c then .vowelJamo
  else if inRanges trailingJamoRanges c then .trailingJamo
  else if isOpenSyllable c then .openSyllable
  else if isHangulSyllable c then .closedSyllable
  else if isRegional c then .regional
  else if isPictograph c then .pictograph
  else if isConjunctConsonant c then .consonant
  else .other

/- The class of a character. -/
def graphemeClass (c : Char) : GraphemeClass :=
  if c = '\r' then .carriageReturn
  else if c = '\n' then .lineFeed
  else if c.toNat < 0x20 || c.toNat = 0x7F then .control
  else if c.toNat < 0x80 then .other
  else graphemeClassBeyondAscii c

end TracePlayer
