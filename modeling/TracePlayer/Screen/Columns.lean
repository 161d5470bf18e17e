import TracePlayer.Text.Emoji
import TracePlayer.Text.Mark
import TracePlayer.Text.Wide
import TracePlayer.Text.ZeroWidth

/-
  This file counts the columns of a terminal that a grapheme
  takes. Each character has a count of its own. The characters
  are counted from the last one on, for what follows can
  change the count: a style selector, a skin tone, the rest of
  an emoji that is joined from several, or a subscript letter.

  Key definitions include:
    * `columns`
    * `Ahead`, `Measure`
    * `textColumns`
-/

namespace TracePlayer

------------------------------------------------------------
-- Single Characters
------------------------------------------------------------

/- The columns that a character takes on its own. -/
def columns (c : Char) : Nat :=
  if c = '\n' then 0
  else if c.toNat < 0xAD then 1
  else if c.toNat = 0x17D8 then 3
  else if c.toNat = 0x115F || c.toNat = 0x17A4 then 2
  else if isZeroWidth c then 0
  else if isWide c then 2
  else 1

/- The joiner of emoji. -/
def isJoiner (c : Char) : Bool :=
  c.toNat = 0x200D

/- The selector of the emoji style. -/
def isEmojiStyle (c : Char) : Bool :=
  c.toNat = 0xFE0F

/- The selector of the text style. -/
def isTextStyle (c : Char) : Bool :=
  c.toNat = 0xFE0E

/- The sign that writes the next Khmer letter below. -/
def isCoeng (c : Char) : Bool :=
  c.toNat = 0x17D2

/- The Khmer letters that can be written below. -/
def subscriptRanges : List (Nat × Nat) :=
  [
    (0x1780, 0x1782), (0x1784, 0x1787),
    (0x1789, 0x178C), (0x178E, 0x1793),
    (0x1795, 0x1798), (0x179B, 0x179D),
    (0x17A0, 0x17A0), (0x17A2, 0x17A2),
    (0x17A7, 0x17A7), (0x17AB, 0x17AC),
    (0x17AF, 0x17AF) ]

/- The marks that change no combination of letters. -/
def transparentRanges : List (Nat × Nat) :=
  [
    (0x34F, 0x34F), (0x17B4, 0x17B5),
    (0x180B, 0x180D), (0x180F, 0x180F),
    (0x200D, 0x200D), (0xFE00, 0xFE0F),
    (0xE0100, 0xE01EF) ]

------------------------------------------------------------
-- What Follows
------------------------------------------------------------

/-
  What follows a character, as far as it matters: a joined
  emoji comes after a joiner, before it the second letter of a
  region can come, and the tags of a flag are counted from the
  end, letters and then digits.
-/
inductive Ahead where
| plain
| lineFeed
| tone
| emoji
| joinedEmoji
| joinedRegion
| keycap
| emojiStyle
| joinedStyle
| textStyle
| tags (letters digits : Nat)
| subscript
deriving DecidableEq, Repr

/- What a character is for the one before it. -/
def Ahead.ofChar (c : Char) : Ahead :=
  if c = '\n' then .lineFeed
  else if isEmojiModifier c then .tone
  else if isEmojiByDefault c then .emoji
  else if isEmojiStyle c then .emojiStyle
  else if isTextStyle c then .textStyle
  else if inRanges subscriptRanges c then .subscript
  else .plain

/-
  The columns of a text, and what it begins with. A character
  that completes what was counted before takes its column
  back.
-/
structure Measure where
  width : Nat
  ahead : Ahead
deriving DecidableEq, Repr

namespace Measure

/- A character in front that is counted for itself. -/
def put
    (measure : Measure)
    (c : Char) : Measure :=
  ⟨measure.width + columns c, Ahead.ofChar c⟩

/- A character in front that takes no column of its own. -/
def absorb
    (measure : Measure)
    (ahead : Ahead) : Measure :=
  { measure with ahead := ahead }

/- A character in front of the tags of a flag. -/
def beforeTags
    (measure : Measure)
    (letters digits : Nat)
    (c : Char) : Measure :=
  let n := c.toNat
  if 0xE0061 ≤ n && n ≤ 0xE007A && digits = 0 &&
      letters < 6 then
    measure.absorb (.tags (letters + 1) 0)
  else if 0xE0030 ≤ n && n ≤ 0xE0039 && letters < 5 &&
      digits < 3 then
    measure.absorb (.tags letters (digits + 1))
  else if n = 0x1F3F4 &&
      (digits = 3 || (digits = 0 && 3 ≤ letters)) then
    measure.absorb .emoji
  else measure.put c

/- A character in front of a joined emoji. -/
def beforeJoined
    (measure : Measure)
    (c : Char) : Measure :=
  if isEmojiStyle c then measure.absorb .joinedStyle
  else if c.toNat = 0x20E3 then measure.absorb .keycap
  else if isRegional c then
    ⟨measure.width + 1, .joinedRegion⟩
  else if isEmojiModifier c then measure.absorb .tone
  else if c.toNat = 0xE007F then measure.absorb (.tags 0 0)
  else if isEmojiByDefault c then measure.absorb .emoji
  else measure.put c

/- A character in front of what was measured. -/
def before
    (c : Char)
    (measure : Measure) : Measure :=
  match measure.ahead with
  | .plain => measure.put c
  | .lineFeed =>
      if c = '\r' then measure.absorb .plain
      else measure.put c
  | .tone =>
      if isModifierBase c then measure.absorb .emoji
      else if isJoiner c then measure.absorb .joinedEmoji
      else measure.put c
  | .emoji =>
      if isJoiner c then measure.absorb .joinedEmoji
      else measure.put c
  | .joinedEmoji => measure.beforeJoined c
  | .joinedRegion =>
      if isRegional c then ⟨measure.width - 1, .plain⟩
      else measure.put c
  | .keycap =>
      if isEmojiStyle c then measure.absorb .joinedStyle
      else measure.put c
  | .emojiStyle =>
      if takesEmojiStyle c then ⟨measure.width + 2, .emoji⟩
      else measure.put c
  | .joinedStyle =>
      if takesEmojiStyle c then measure.absorb .emoji
      else measure.put c
  | .textStyle =>
      if takesTextStyle c then ⟨measure.width + 1, .plain⟩
      else measure.put c
  | .tags letters digits =>
      measure.beforeTags letters digits c
  | .subscript =>
      if isCoeng c then ⟨measure.width - 1, .plain⟩
      else if inRanges transparentRanges c then
        measure.absorb .subscript
      else measure.put c

end Measure

------------------------------------------------------------
-- Text
------------------------------------------------------------

/- The columns that the characters of a grapheme take. -/
def textColumns (text : List Char) : Nat :=
  (text.foldr Measure.before ⟨0, .plain⟩).width

end TracePlayer
