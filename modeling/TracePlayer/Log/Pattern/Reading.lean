import TracePlayer.Log.Pattern.Bracket
import TracePlayer.Text.Alphanumeric

/-
  This file defines which texts are patterns that a value can
  be compared with.

  A pattern is a choice of rows of parts. A part with parts of
  its own lies one deeper than the deepest of them, and no
  part lies deeper than a limit. A counted repetition is never
  complete, as a pattern holds no closing brace.

  Key definitions include:
    * `Pattern.Progress`
    * `Pattern.group?`, `Pattern.part?`
    * `Pattern.isWellFormed`
-/

namespace TracePlayer

namespace Pattern

------------------------------------------------------------
-- Progress
------------------------------------------------------------

/-
  A part that is read: how deep it lies, and whether it can be
  repeated.
-/
structure Part where
  depth : Nat
  repeatable : Bool
deriving DecidableEq, Repr

/-
  A choice that is being read: the depths of the rows before
  the last bar, and the parts since, the last first.
-/
structure Choice where
  rows : List Nat
  parts : List Part
deriving DecidableEq, Repr

namespace Choice

def start : Choice :=
  ⟨[], []⟩

/- The depth of the row that is being read. -/
def row (choice : Choice) : Nat :=
  joinedDepth (choice.parts.map Part.depth)

/- The depth of what is read. -/
def total (choice : Choice) : Nat :=
  joinedDepth (choice.row :: choice.rows)

/- A bar is read: a new row starts. -/
def bar (choice : Choice) : Choice :=
  ⟨choice.row :: choice.rows, []⟩

/- A part is read. -/
def add
    (choice : Choice)
    (part : Part) : Choice :=
  { choice with parts := part :: choice.parts }

/- The last part is repeated, if it can be. -/
def repeated? (choice : Choice) : Option Choice :=
  match choice.parts with
  | part :: parts =>
      if part.repeatable then
        some { choice with
          parts := ⟨part.depth + 1, true⟩ :: parts }
      else none
  | [] => none

end Choice

/-
  How far a pattern is read: the mode, the choice, the modes
  and choices around the open groups, and the names of groups.
-/
structure Progress where
  mode : Mode
  choice : Choice
  outer : List (Mode × Choice)
  names : List (List Char)
deriving DecidableEq, Repr

namespace Progress

def start : Progress :=
  ⟨Mode.plain, Choice.start, [], []⟩

/- A part that can be repeated is read. -/
def take
    (p : Progress)
    (depth : Nat) : Progress :=
  { p with choice := p.choice.add ⟨depth, true⟩ }

/- The mode is turned for the rest of the group around. -/
def turned
    (p : Progress)
    (mode : Mode) : Progress :=
  { p with
    mode := mode
    choice := p.choice.add ⟨0, false⟩ }

/- A group opens, in a mode. -/
def opened
    (p : Progress)
    (mode : Mode) : Progress :=
  { p with
    mode := mode
    choice := Choice.start
    outer := (p.mode, p.choice) :: p.outer }

/- A group closes, if one is open. -/
def closed? (p : Progress) : Option Progress :=
  match p.outer with
  | [] => none
  | (mode, choice) :: outer =>
      some { p with
        mode := mode
        choice := choice.add ⟨p.choice.total + 1, true⟩
        outer := outer }

end Progress

------------------------------------------------------------
-- Groups
------------------------------------------------------------

/- Whether characters are the name of a group. -/
def isGroupName : List Char → Bool
| [] => false
| c :: rest =>
    (c = '_' || isAlphabetic c) &&
      rest.all fun c =>
        c = '_' || c = '.' || c = '[' || c = ']' ||
          isAlphanumeric c

/- Open a group that has a name. -/
def namedGroup?
    (p : Progress)
    (chars : List Char) : Option (Progress × List Char) :=
  let name := chars.takeWhile (· ≠ '>')
  match chars.dropWhile (· ≠ '>') with
  | '>' :: rest =>
      if isGroupName name && !p.names.contains name then
        some ({ p.opened p.mode with
          names := name :: p.names }, rest)
      else none
  | _ => none

/-
  Open a group with letters for its mode, or turn the mode for
  the rest of the group around, which takes a letter at least.
-/
def modeGroup?
    (p : Progress)
    (chars : List Char) : Option (Progress × List Char) :=
  let letters := chars.takeWhile fun c => c ≠ ':' && c ≠ ')'
  match chars.dropWhile fun c => c ≠ ':' && c ≠ ')' with
  | ':' :: rest =>
      (p.mode.turnAll? letters).map fun mode =>
        (p.opened mode, rest)
  | ')' :: rest =>
      if letters = [] then none
      else
        (p.mode.turnAll? letters).map fun mode =>
          (p.turned mode, rest)
  | _ => none

/- Read what follows an opening parenthesis. -/
def group?
    (p : Progress)
    (chars : List Char) : Option (Progress × List Char) :=
  match p.mode.skip chars with
  | '?' :: 'P' :: '<' :: rest => namedGroup? p rest
  | '?' :: '<' :: rest => namedGroup? p rest
  | '?' :: rest => modeGroup? p rest
  | rest => some (p.opened p.mode, rest)

------------------------------------------------------------
-- Patterns
------------------------------------------------------------

/- Read one part of a pattern that starts with a character. -/
def part?
    (p : Progress)
    (c : Char)
    (rest : List Char) : Option (Progress × List Char) :=
  match c with
  | '(' => group? p rest
  | ')' => p.closed?.map fun p => (p, rest)
  | '|' => some ({ p with choice := p.choice.bar }, rest)
  | '[' =>
      (bracket? p.mode rest).map fun (depth, rest) =>
        (p.take depth, rest)
  | '?' | '*' | '+' =>
      p.choice.repeated?.map fun choice =>
        ({ p with choice := choice },
          match rest with
          | '?' :: more => more
          | _ => rest)
  | '\x7b' => none
  | '\\' =>
      (escape? p.mode rest).bind fun (escaped, rest) =>
        match escaped with
        | .character _ =>
            if p.mode.needsCases then none
            else some (p.take 0, rest)
        | _ => some (p.take 0, rest)
  | '.' => if p.mode.wide then some (p.take 0, rest) else none
  | '^' | '$' => some (p.take 0, rest)
  | _ =>
      if p.mode.needsCases then none
      else some (p.take 0, rest)

/-
  Read the parts of a pattern to its end. Each part takes a
  character.
-/
def readAll? :
    Nat → Progress → List Char → Option Progress
| fuel, p, chars =>
    match fuel, p.mode.skip chars with
    | _, [] => some p
    | 0, _ => none
    | fuel + 1, c :: rest =>
        (part? p c rest).bind fun (p, rest) =>
          readAll? fuel p rest

/- How deep a part of a pattern may lie. -/
def depthLimit : Nat :=
  250

/- Whether a text is a pattern. -/
def isWellFormed (text : String) : Bool :=
  match readAll? text.length Progress.start text.toList with
  | some p =>
      p.outer.isEmpty && p.choice.total ≤ depthLimit
  | none => false

end Pattern

end TracePlayer
