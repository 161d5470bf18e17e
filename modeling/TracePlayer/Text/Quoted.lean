import TracePlayer.Text.Mark
import TracePlayer.Text.Unprintable

/-
  This file writes a string in quotes for a message: quotes,
  backslashes and characters without a visible form of their
  own are escaped.

  Key definitions include:
    * `isHiddenMark`
    * `escapeVisible`
    * `quoteVisible`
-/

namespace TracePlayer

/-
  Whether a character is a mark that would change the look of
  the one before it. An emoji modifier and a sign of voice can
  be seen on their own.
-/
def isHiddenMark (c : Char) : Bool :=
  isMark c && !isEmojiModifier c && !isVoiceSign c

/- A character inside the quotes. -/
def escapeVisible (c : Char) : List Char :=
  if c = '"' then ['\\', '"']
  else if c = '\\' then ['\\', '\\']
  else if c = '\t' then ['\\', 't']
  else if c = '\r' then ['\\', 'r']
  else if c = '\n' then ['\\', 'n']
  else if c.toNat = 0 then ['\\', '0']
  else if isUnprintable c || isHiddenMark c then
    ['\\', 'u', '\x7b'] ++ Nat.toDigits 16 c.toNat ++ ['\x7d']
  else [c]

/- A string in quotes with nothing hidden in it. -/
def quoteVisible (text : String) : String :=
  String.ofList
    ('"' :: text.toList.flatMap escapeVisible ++ ['"'])

end TracePlayer
