import TracePlayer.Screen.Canvas
import TracePlayer.Screen.Cluster

/-
  This file draws lines of text and bordered blocks on a
  canvas. Text is not wrapped: a line ends before the first
  cluster that does not fit.

  Key definitions include:
    * `Glyph`, `glyphs`, `fitting`
    * `Canvas.drawLine`, `Canvas.drawLines`
    * `Canvas.drawBlock`
    * `Canvas.drawPane`, `Canvas.drawBar`
-/

namespace TracePlayer

------------------------------------------------------------
-- Lines
------------------------------------------------------------

/- A cluster with the style it is drawn in. -/
structure Glyph where
  cluster : Cluster
  style : Style

/- The glyphs of a line, without line feeds. -/
def glyphs
    (base : Style)
    (line : Line) : List Glyph :=
  line.spans.flatMap fun span =>
    ((clusters span.text.toList).filter
        fun cluster => cluster.text ≠ ['\n']).map
      fun cluster =>
        ⟨cluster, span.style.onto (line.style.onto base)⟩

/-
  The glyphs that are drawn in some columns: those that could
  never fit are skipped, and the line ends before the first
  one that does not fit after `used` columns.
-/
def fitting (width used : Nat) : List Glyph → List Glyph
| [] => []
| glyph :: rest =>
    if width < glyph.cluster.width then
      fitting width used rest
    else if width < used + glyph.cluster.width then
      []
    else
      glyph :: fitting width (used + glyph.cluster.width) rest

/- The columns that glyphs take. -/
def totalWidth : List Glyph → Nat
| [] => 0
| glyph :: rest => glyph.cluster.width + totalWidth rest

/- On which side of an area a line is drawn. -/
inductive Alignment where
| left
| right
deriving DecidableEq, Repr

namespace Canvas

/- Draw glyphs from a column on; those of no width are not. -/
def drawGlyphs
    (canvas : Canvas)
    (x y : Nat) : List Glyph → Canvas
| [] => canvas
| glyph :: rest =>
    let next := x + glyph.cluster.width
    if glyph.cluster.width = 0 then
      canvas.drawGlyphs next y rest
    else
      (canvas.put x y glyph.cluster.text glyph.style).drawGlyphs
        next y rest

/- Draw a line in a row of an area. -/
def drawLine
    (canvas : Canvas)
    (area : Area)
    (row : Nat)
    (base : Style)
    (alignment : Alignment)
    (line : Line) : Canvas :=
  let drawn := fitting area.width 0 (glyphs base line)
  let shift :=
    match alignment with
    | .left => 0
    | .right => area.width - totalWidth drawn
  canvas.drawGlyphs (area.left + shift) (area.top + row) drawn

/- Draw lines from a row of an area on, as far as they fit. -/
def drawLines
    (canvas : Canvas)
    (area : Area)
    (base : Style)
    (alignment : Alignment) : Nat → List Line → Canvas
| _, [] => canvas
| row, line :: rest =>
    if row < area.height then
      (canvas.drawLine area row base alignment line).drawLines
        area base alignment (row + 1) rest
    else
      canvas

------------------------------------------------------------
-- Blocks
------------------------------------------------------------

/- Put one border character. -/
def putBorder
    (canvas : Canvas)
    (style : Style)
    (x y : Nat)
    (c : Char) : Canvas :=
  canvas.put x y [c] style

/-
  Draw the border of an area with a title. The sides come
  first, then the corners, the top left one last.
-/
def drawBlock
    (canvas : Canvas)
    (area : Area)
    (title : String)
    (border : Style) : Canvas :=
  if area.width = 0 ∨ area.height = 0 then
    canvas
  else
    let x := area.left
    let y := area.top
    let right := area.left + area.width - 1
    let bottom := area.top + area.height - 1
    let canvas := canvas.each area.height fun canvas i =>
      canvas.putBorder border x (y + i) '│'
    let canvas := canvas.each area.width fun canvas i =>
      canvas.putBorder border (x + i) y '─'
    let canvas := canvas.each area.height fun canvas i =>
      canvas.putBorder border right (y + i) '│'
    let canvas := canvas.each area.width fun canvas i =>
      canvas.putBorder border (x + i) bottom '─'
    let canvas := canvas.putBorder border right bottom '┘'
    let canvas := canvas.putBorder border right y '┐'
    let canvas := canvas.putBorder border x bottom '└'
    let canvas := canvas.putBorder border x y '┌'
    canvas.drawLine
      { left := x + 1, top := y, width := area.width - 2,
        height := 1 }
      0 Style.plain .left (Line.styled title Style.plain)

------------------------------------------------------------
-- Panes and Bars
------------------------------------------------------------

/-
  Draw a style over an area, a block on it, and lines inside.
-/
def drawPane
    (canvas : Canvas)
    (area : Area)
    (base : Style)
    (title : String)
    (border : Style)
    (lines : List Line) : Canvas :=
  ((canvas.paint area base).drawBlock area title border).drawLines
    area.inner base .left 0 lines

/- Draw one line over an area without a block. -/
def drawBar
    (canvas : Canvas)
    (area : Area)
    (base : Style)
    (alignment : Alignment)
    (line : Line) : Canvas :=
  (canvas.paint area base).drawLines area base alignment 0 [line]

end Canvas

end TracePlayer
