import TracePlayer.Text.GraphemeClass

/-
  This file splits text into graphemes: between which
  characters a grapheme ends is decided from what stands at
  its end so far and the class of the next character.

  Key definitions include:
    * `Tail`
    * `Tail.joins`, `Tail.push`
    * `graphemes`

  The main statement is:
    * `graphemes_flatten`
-/

namespace TracePlayer

------------------------------------------------------------
-- Pairs of Classes
------------------------------------------------------------

namespace GraphemeClass

/- The classes that stand alone. -/
def isBreak : GraphemeClass → Bool
| .carriageReturn => true
| .lineFeed => true
| .control => true
| _ => false

/- The classes that join whatever is before them. -/
def isJoined : GraphemeClass → Bool
| .mark => true
| .linker => true
| .nonJoiner => true
| .joiner => true
| .spacingMark => true
| _ => false

/- The marks that stay with a pictograph. -/
def isMark : GraphemeClass → Bool
| .mark => true
| .linker => true
| .nonJoiner => true
| _ => false

/- Whether two characters are of one syllable of Hangul. -/
def isSyllable : GraphemeClass → GraphemeClass → Bool
| .leadingJamo, .leadingJamo => true
| .leadingJamo, .vowelJamo => true
| .leadingJamo, .openSyllable => true
| .leadingJamo, .closedSyllable => true
| .openSyllable, .vowelJamo => true
| .openSyllable, .trailingJamo => true
| .vowelJamo, .vowelJamo => true
| .vowelJamo, .trailingJamo => true
| .closedSyllable, .trailingJamo => true
| .trailingJamo, .trailingJamo => true
| _, _ => false

end GraphemeClass

------------------------------------------------------------
-- The End of a Grapheme
------------------------------------------------------------

/- Whether a grapheme ends in a pictograph with marks. -/
inductive Picture where
| absent
| shown
| joined
deriving DecidableEq, Repr

/- Whether a grapheme ends in a consonant with marks. -/
inductive Conjunct where
| absent
| consonant
| linked
deriving DecidableEq, Repr

/- What decides whether a grapheme goes on. -/
structure Tail where
  last : GraphemeClass
  picture : Picture
  conjunct : Conjunct
  loneRegional : Bool
deriving DecidableEq, Repr

namespace Tail

/- The tail before any character. -/
def empty : Tail :=
  ⟨.control, .absent, .absent, false⟩

/- The pictograph at the end after one more character. -/
def nextPicture
    (tail : Tail)
    (next : GraphemeClass) : Picture :=
  if next = .pictograph then .shown
  else if tail.picture = .shown then
    if next.isMark then .shown
    else if next = .joiner then .joined
    else .absent
  else .absent

/- The consonant at the end after one more character. -/
def nextConjunct
    (tail : Tail)
    (next : GraphemeClass) : Conjunct :=
  match next with
  | .consonant => .consonant
  | .linker =>
      if tail.conjunct = .absent then .absent else .linked
  | .mark => tail.conjunct
  | .joiner => tail.conjunct
  | _ => .absent

/- The tail after one more character. -/
def push
    (tail : Tail)
    (next : GraphemeClass) : Tail :=
  { last := next
    picture := tail.nextPicture next
    conjunct := tail.nextConjunct next
    loneRegional :=
      next = .regional && !tail.loneRegional }

/-
  Whether a character goes on with the grapheme before it. A
  line end of two characters is one grapheme, and any other
  control is one of its own. Marks join what they follow.
  Pictographs are joined by a joiner, consonants by a linking
  sign, and the letters of a region two by two.
-/
def joins
    (tail : Tail)
    (next : GraphemeClass) : Bool :=
  if tail.last = .carriageReturn && next = .lineFeed then true
  else if tail.last.isBreak || next.isBreak then false
  else if next.isJoined || tail.last = .prepended then true
  else if next = .pictograph then
    tail.picture = .joined
  else if next = .consonant then
    tail.conjunct = .linked
  else if next = .regional then
    tail.loneRegional
  else tail.last.isSyllable next

end Tail

------------------------------------------------------------
-- Graphemes
------------------------------------------------------------

/- The rest of the grapheme with a tail, and those after. -/
def graphemesAfter
    (tail : Tail) : List Char → List Char × List (List Char)
| [] => ([], [])
| c :: rest =>
    let next := graphemeClass c
    if tail.joins next then
      let (first, others) := graphemesAfter (tail.push next) rest
      (c :: first, others)
    else
      let (first, others) :=
        graphemesAfter (Tail.empty.push next) rest
      ([], (c :: first) :: others)

/- The graphemes of a text. -/
def graphemes (text : List Char) : List (List Char) :=
  (graphemesAfter Tail.empty text).2

/- Splitting a text loses nothing. -/
theorem graphemesAfter_flatten
    (text : List Char)
    (tail : Tail) :
    (graphemesAfter tail text).1 ++
      (graphemesAfter tail text).2.flatten = text := by
  induction text generalizing tail with
  | nil => rfl
  | cons c rest ih =>
      by_cases h : tail.joins (graphemeClass c) = true
      · simp [graphemesAfter, h, ih]
      · simp [graphemesAfter, h, ih]

/- Nothing goes on with an empty tail. -/
theorem empty_joins
    (next : GraphemeClass) :
    Tail.empty.joins next = false := by
  cases next <;> rfl

/- The graphemes of a text make up the text. -/
theorem graphemes_flatten
    (text : List Char) :
    (graphemes text).flatten = text := by
  cases text with
  | nil => rfl
  | cons c rest =>
      have h := graphemesAfter_flatten (c :: rest) Tail.empty
      simpa [graphemes, graphemesAfter, empty_joins] using h

end TracePlayer
