import TracePlayer.Log.Pattern.Escape

/-
  This file defines the sets of characters that a pattern
  writes in brackets, and how deep their parts lie.

  A set is joined from members that stand side by side; two
  sets are combined by two ampersands, dashes or tildes, from
  left to right. A part with parts of its own lies one deeper
  than the deepest of them, and a single member is no such
  part.

  Key definitions include:
    * `Pattern.member?`, `Pattern.rangeEnd?`, `Pattern.namedSet?`
    * `Pattern.SetDepth`
    * `Pattern.bracket?`
-/

namespace TracePlayer

namespace Pattern

------------------------------------------------------------
-- Members
------------------------------------------------------------

/-
  Whether a set can have members of its own: not where the
  table of cases is missing.
-/
def takesMember (mode : Mode) : Bool :=
  !mode.needsCases

/- Whether a character can be a member of a set. -/
def takesCode
    (mode : Mode)
    (code : Nat) : Bool :=
  mode.wide || code < 0x80

/- Whether a set can be negated: it then has more than text. -/
def takesNegation (mode : Mode) : Bool :=
  mode.wide

/- One end of a range: a character, or a set of them. -/
def rangeEnd?
    (mode : Mode)
    (chars : List Char) : Option (Option Nat × List Char) :=
  match chars with
  | [] => none
  | '\\' :: rest =>
      (escape? mode rest).bind fun (escaped, rest) =>
        match escaped with
        | .character code =>
            if takesCode mode code then some (some code, rest)
            else none
        | .set => some (none, rest)
        | .edge => none
  | c :: rest =>
      if takesCode mode c.toNat then some (some c.toNat, rest)
      else none

/-
  A member: a character, a set, or the characters from one to
  another. A dash before the end of the brackets or before
  another dash joins nothing.
-/
def member?
    (mode : Mode)
    (chars : List Char) : Option (List Char) :=
  (rangeEnd? mode chars).bind fun (first, rest) =>
    match mode.skip rest with
    | '-' :: more =>
        let next := mode.peek? more
        if next = some ']' || next = some '-' then
          some ('-' :: more)
        else
          (rangeEnd? mode (mode.skip more)).bind
            fun (last, rest) =>
              match first, last with
              | some first, some last =>
                  if first ≤ last then some rest else none
              | _, _ => none
    | rest => some rest

/- The names of sets of characters of one byte. -/
def setNames : List String :=
  [ "alnum", "alpha", "ascii", "blank", "cntrl", "digit",
    "graph", "lower", "print", "punct", "space", "upper",
    "word", "xdigit" ]

/-
  Read a named set after its opening bracket: whether it is
  negated, and what follows.
-/
def namedSet?
    (chars : List Char) : Option (Bool × List Char) :=
  match chars with
  | ':' :: rest =>
      let negated := rest.head? = some '^'
      let rest := if negated then rest.tail else rest
      let name := rest.takeWhile (· ≠ ':')
      match rest.dropWhile (· ≠ ':') with
      | ':' :: ']' :: more =>
          if setNames.contains (String.ofList name) then
            some (negated, more)
          else none
      | _ => none
  | _ => none

------------------------------------------------------------
-- Depth
------------------------------------------------------------

/- The depth of parts that stand together. -/
def joinedDepth : List Nat → Nat
| [] => 0
| [depth] => depth
| depths => 1 + depths.foldl max 0

/-
  The depths of a set that is being read: of the set before
  the last sign between two sets, and of the members since.
-/
structure SetDepth where
  before : Option Nat
  members : List Nat
deriving DecidableEq, Repr

namespace SetDepth

def start : SetDepth :=
  ⟨none, []⟩

/- A member is read. -/
def add
    (depth : SetDepth)
    (member : Nat) : SetDepth :=
  { depth with members := member :: depth.members }

/- The depth of what is read. -/
def total (depth : SetDepth) : Nat :=
  match depth.before with
  | none => joinedDepth depth.members
  | some before => 1 + max before (joinedDepth depth.members)

/- A sign between two sets is read. -/
def combine (depth : SetDepth) : SetDepth :=
  ⟨some depth.total, []⟩

end SetDepth

------------------------------------------------------------
-- Brackets
------------------------------------------------------------

/-
  Dashes at the start of brackets are members, each with the
  blanks behind it.
-/
def leadingDashes
    (mode : Mode)
    (depth : SetDepth) :
    Nat → List Char → SetDepth × List Char
| fuel + 1, '-' :: rest =>
    leadingDashes mode (depth.add 0) fuel (mode.skip rest)
| _, chars => (depth, chars)

/-
  Read the start of brackets: they may be negated, and dashes
  or else a closing bracket may come first as members.
-/
def openBracket?
    (mode : Mode)
    (chars : List Char) : Option (SetDepth × List Char) :=
  let chars := mode.skip chars
  let negated := chars.head? = some '^'
  if negated && !takesNegation mode then none
  else
    let chars :=
      if negated then mode.skip chars.tail else chars
    let (depth, rest) :=
      leadingDashes mode SetDepth.start chars.length chars
    let opened :=
      match depth.members, rest with
      | [], ']' :: more => (depth.add 0, mode.skip more)
      | _, _ => (depth, rest)
    if opened.1.members ≠ [] && !takesMember mode then none
    else some opened

/-
  Read brackets that are open to their end: the depths of the
  sets around and of this one are known. Each step takes a
  character.
-/
def bracketFrom?
    (mode : Mode) :
    Nat → List SetDepth → SetDepth → List Char →
      Option (Nat × List Char)
| 0, _, _, _ => none
| fuel + 1, outer, depth, chars =>
    match mode.skip chars with
    | [] => none
    | '[' :: rest =>
        match namedSet? rest with
        | some (negated, rest) =>
            if takesMember mode &&
                (takesNegation mode || !negated) then
              bracketFrom? mode fuel outer (depth.add 0) rest
            else none
        | none =>
            (openBracket? mode rest).bind
              fun (inner, rest) =>
                bracketFrom? mode fuel (depth :: outer) inner
                  rest
    | ']' :: rest =>
        match outer with
        | [] => some (1 + depth.total, rest)
        | around :: outer =>
            bracketFrom? mode fuel outer
              (around.add (1 + depth.total)) rest
    | '&' :: '&' :: rest =>
        bracketFrom? mode fuel outer depth.combine rest
    | '-' :: '-' :: rest =>
        bracketFrom? mode fuel outer depth.combine rest
    | '~' :: '~' :: rest =>
        bracketFrom? mode fuel outer depth.combine rest
    | chars =>
        if takesMember mode then
          (member? mode chars).bind
            (bracketFrom? mode fuel outer (depth.add 0))
        else none

/-
  Read brackets after the first of them: how deep they lie,
  and what follows.
-/
def bracket?
    (mode : Mode)
    (chars : List Char) : Option (Nat × List Char) :=
  (openBracket? mode chars).bind fun (depth, rest) =>
    bracketFrom? mode (chars.length + 1) [] depth rest

end Pattern

end TracePlayer
