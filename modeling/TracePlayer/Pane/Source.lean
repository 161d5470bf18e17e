import TracePlayer.Pane.SourceToken
import TracePlayer.Screen.Widget
import TracePlayer.Text.Lines

/-
  This file draws the source of the traced program with its
  current line and, if there is one, the line of its error.
  The line in focus is kept in the same row while stepping.

  Key definitions include:
    * `SourceScroll`, `visibleRows`
    * `SourcePane`, `SourcePane.focus?`
    * `SourceScroll.follow`
    * `SourcePane.lines`, `SourcePane.draw`
-/

namespace TracePlayer

------------------------------------------------------------
-- Scrolling
------------------------------------------------------------

/-
  The number of lines above the window, and the row in which
  the line in focus is kept once that is known.
-/
structure SourceScroll where
  offset : Nat
  row : Option Nat
deriving DecidableEq, Repr

/- The rows of lines in a pane of a height, at least one. -/
def visibleRows (height : Nat) : Nat :=
  max (height - 2) 1

namespace SourceScroll

def start : SourceScroll :=
  ⟨0, none⟩

/- The row for the line in focus: the middle one at first. -/
def targetRow
    (scroll : SourceScroll)
    (rows : Nat) : Nat :=
  min (scroll.row.getD (rows / 2)) (rows - 1)

/-
  Move the window so that the line in focus stands in its
  row, as far as the text allows. Without a line in focus the
  window stays where it is.
-/
def follow
    (scroll : SourceScroll)
    (rows total : Nat)
    (focus : Option Nat) : SourceScroll :=
  let row := scroll.targetRow rows
  let offset :=
    match focus.filter fun line => 0 < line && line ≤ total with
    | some line => min (line - 1 - row) (total - rows)
    | none => scroll.offset
  ⟨offset, some row⟩

end SourceScroll

------------------------------------------------------------
-- The Pane
------------------------------------------------------------

/- What the pane shows; lines are counted from one. -/
structure SourcePane where
  source : String
  currentLine : Option Nat
  errorLine : Option Nat
  focused : Bool
deriving DecidableEq, Repr

namespace SourcePane

/- The line in focus: that of the error, else the current one. -/
def focus? (pane : SourcePane) : Option Nat :=
  pane.errorLine.or pane.currentLine

/- The style of the line number. -/
def numberStyle
    (pane : SourcePane)
    (number : Nat) : Style :=
  if pane.errorLine = some number then
    (Style.colour Theme.failure).strong
  else if pane.currentLine = some number then
    (Style.colour Theme.secondary).strong
  else
    Style.colour Theme.muted

/- The style of a token's text in a line. -/
def tokenStyle
    (pane : SourcePane)
    (number : Nat)
    (style : Style) : Style :=
  if pane.errorLine = some number then
    ((Style.colour .white).on Theme.failure).strong
  else if pane.currentLine = some number then
    (Style.plain.on Theme.bar).onto style
  else
    style

/- A line of the program after its number. -/
def line
    (pane : SourcePane)
    (number : Nat)
    (text : List Char) : Line :=
  let label :=
    padLeft 4 (Nat.toDigits 10 number) ++ [' ']
  Line.ofSpans
    (⟨String.ofList label, pane.numberStyle number⟩ ::
      (SourceToken.spans (SourceToken.ofLine text)).map
        fun span =>
          { span with
            style := pane.tokenStyle number span.style })

/- The lines in a window. -/
def lines
    (pane : SourcePane)
    (offset rows : Nat) : List Line :=
  (((textLines pane.source).zipIdx 1).drop offset |>.take
    rows).map fun (text, number) => pane.line number text

/- The scroll state after drawing in an area of a height. -/
def settle
    (pane : SourcePane)
    (height : Nat)
    (scroll : SourceScroll) : SourceScroll :=
  scroll.follow (visibleRows height)
    (textLines pane.source).length pane.focus?

/- Draw the pane with its settled scroll state. -/
def draw
    (pane : SourcePane)
    (canvas : Canvas)
    (area : Area)
    (scroll : SourceScroll) : Canvas :=
  canvas.drawPane area Style.plain " Source Code "
    (Theme.border pane.focused)
    (pane.lines scroll.offset (visibleRows area.height))

end SourcePane

end TracePlayer
