import TracePlayer.Text.Blank

/-
  This file defines the modes in which a pattern is read, and
  how blanks and remarks are passed over.

  Key definitions include:
    * `Pattern.Mode`
    * `Pattern.Mode.turnAll?`
    * `Pattern.Mode.skip`, `Pattern.Mode.peek?`
-/

namespace TracePlayer

namespace Pattern

------------------------------------------------------------
-- Modes
------------------------------------------------------------

/-
  How a part of a pattern is read: in letters of either case,
  over all characters and not only those of one byte, and with
  blanks and remarks that do not count.
-/
structure Mode where
  anyCase : Bool
  wide : Bool
  spaced : Bool
deriving DecidableEq, Repr

namespace Mode

/- The mode in which a pattern starts. -/
def plain : Mode :=
  ⟨false, true, false⟩

/-
  Whether characters need a table of their cases. There is no
  such table, so that no character can be read then.
-/
def needsCases (mode : Mode) : Bool :=
  mode.anyCase && mode.wide

/- Turn the mode of a letter on or off. -/
def turn
    (mode : Mode)
    (letter : Char)
    (value : Bool) : Mode :=
  match letter with
  | 'i' => { mode with anyCase := value }
  | 'u' => { mode with wide := value }
  | 'x' => { mode with spaced := value }
  | _ => mode

/-
  Turn the modes of letters, on before a dash and off after
  it. No letter and no dash comes twice, and a letter follows
  the dash.
-/
def turnAll?
    (mode : Mode)
    (letters : List Char) : Option Mode :=
  if letters.all (fun c => "imsUuRx-".toList.contains c) &&
      decide letters.Nodup &&
      letters.getLast? ≠ some '-' then
    let on := letters.takeWhile (· ≠ '-')
    let off := letters.dropWhile (· ≠ '-')
    let mode := on.foldl (fun mode c => mode.turn c true) mode
    some (off.foldl (fun mode c => mode.turn c false) mode)
  else
    none

------------------------------------------------------------
-- Blanks and Remarks
------------------------------------------------------------

/-
  Pass over blanks, and over remarks from a hash to the end of
  the line; the flag tells whether one is being passed.
-/
def skipFrom : Bool → List Char → List Char
| _, [] => []
| true, c :: rest => skipFrom (c ≠ '\n') rest
| false, c :: rest =>
    if isSpace c then skipFrom false rest
    else if c = '#' then skipFrom true rest
    else c :: rest

/- What is left after blanks and remarks that do not count. -/
def skip
    (mode : Mode)
    (chars : List Char) : List Char :=
  if mode.spaced then skipFrom false chars else chars

/-
  The first character that is neither a blank nor the hash of
  the first remark; a remark itself is not passed over.
-/
def peekFrom? : Bool → List Char → Option Char
| _, [] => none
| remark, c :: rest =>
    if isSpace c then peekFrom? remark rest
    else if !remark && c = '#' then peekFrom? true rest
    else some c

/-
  The next character that counts, or just the next one where
  none counts.
-/
def peek?
    (mode : Mode)
    (chars : List Char) : Option Char :=
  if mode.spaced then
    (peekFrom? false chars).or chars.head?
  else
    chars.head?

end Mode

end Pattern

end TracePlayer
