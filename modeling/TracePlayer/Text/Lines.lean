/-
  This file splits text into lines and pads it to a width.

  Key definitions include:
    * `textLines`
    * `padLeft`, `padAround`, `widthLimit`
-/

namespace TracePlayer

/- A line in reverse without one carriage return at its end. -/
def withoutReturn : List Char → List Char
| '\r' :: rest => rest
| reversed => reversed

/-
  The lines of a text that follows the characters in
  `reversed`. A line feed ends a line, with one carriage
  return before it; there is no empty last line.
-/
def textLinesFrom
    (reversed : List Char) : List Char → List (List Char)
| [] => if reversed = [] then [] else [reversed.reverse]
| c :: rest =>
    if c = '\n' then
      (withoutReturn reversed).reverse :: textLinesFrom [] rest
    else
      textLinesFrom (c :: reversed) rest

/- The lines of a text. -/
def textLines (text : String) : List (List Char) :=
  textLinesFrom [] text.toList

/- A text after spaces up to a width. -/
def padLeft
    (width : Nat)
    (text : List Char) : List Char :=
  List.replicate (width - text.length) ' ' ++ text

/-
  A text in the middle of a width; an odd space goes to its
  right.
-/
def padAround
    (width : Nat)
    (text : List Char) : List Char :=
  let space := width - text.length
  List.replicate (space / 2) ' ' ++ text ++
    List.replicate (space - space / 2) ' '

/- The greatest width to which a text can be padded. -/
def widthLimit : Nat :=
  0xFFFF

end TracePlayer
