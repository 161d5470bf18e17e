import TracePlayer.Screen.Style

/-
  This file defines the cells of a terminal screen and how
  they are drawn on.

  Key definitions include:
    * `Area`, `Area.screen`
    * `Cell`, `Canvas`
    * `Canvas.put`, `Canvas.paint`
    * `Canvas.runs`
-/

namespace TracePlayer

------------------------------------------------------------
-- Areas
------------------------------------------------------------

/- A rectangle of cells. -/
structure Area where
  left : Nat
  top : Nat
  width : Nat
  height : Nat
deriving DecidableEq, Repr

namespace Area

/- The greatest number of cells on a screen. -/
def cellLimit : Nat :=
  65535

/-
  The greatest number that has the bits of `found` and lower
  ones, below the bit `bits`, and a square of at most `n`.
-/
def rootFrom (n : Nat) : Nat → Nat → Nat
| 0, found => found
| bits + 1, found =>
    let next := found + Nat.pow 2 bits
    rootFrom n bits (if next * next ≤ n then next else found)

/- The square root of a number below 2^64, rounded down. -/
def root (n : Nat) : Nat :=
  rootFrom n 32 0

/-
  The area of a whole screen. One of too many cells is made
  smaller, with the same ratio of its sides.
-/
def screen (width height : Nat) : Area :=
  if width * height ≤ cellLimit then
    ⟨0, 0, width, height⟩
  else
    ⟨0, 0, root (cellLimit * width / height),
      root (cellLimit * height / width)⟩

/- An area without the cells of its border. -/
def inner (area : Area) : Area :=
  { left := area.left + 1
    top := area.top + 1
    width := area.width - 2
    height := area.height - 2 }

/-
  Split an area side by side: the first part gets a share in
  percent, rounded to the nearest column, a half up.
-/
def splitColumns
    (area : Area)
    (percent : Nat) : Area × Area :=
  let first := (2 * area.width * percent + 100) / 200
  ({ area with width := first },
    { area with
      left := area.left + first
      width := area.width - first })

/- Split off the last row of an area, if there is one. -/
def splitLastRow (area : Area) : Area × Area :=
  let last := min 1 area.height
  ({ area with height := area.height - last },
    { area with
      top := area.top + (area.height - last)
      height := last })

end Area

------------------------------------------------------------
-- Cells
------------------------------------------------------------

/- A cell shows some text in colours. -/
structure Cell where
  text : List Char
  fg : Paint
  bg : Paint
  bold : Bool
deriving DecidableEq, Repr

namespace Cell

/- A cell that was not drawn on. -/
def blank : Cell :=
  ⟨[' '], .reset, .reset, false⟩

/- Put a style on top of what a cell has. -/
def restyle
    (cell : Cell)
    (style : Style) : Cell :=
  { cell with
    fg := style.fg.getD cell.fg
    bg := style.bg.getD cell.bg
    bold := cell.bold || style.bold }

def sameStyle (a b : Cell) : Bool :=
  a.fg = b.fg && a.bg = b.bg && a.bold = b.bold

end Cell

------------------------------------------------------------
-- Canvases
------------------------------------------------------------

/- The rows of cells of a screen, from the top. -/
structure Canvas where
  rows : Array (Array Cell)

namespace Canvas

def blank (width height : Nat) : Canvas :=
  ⟨Array.replicate height (Array.replicate width Cell.blank)⟩

/- Change one cell; there is none outside the screen. -/
def modify
    (canvas : Canvas)
    (x y : Nat)
    (f : Cell → Cell) : Canvas :=
  ⟨canvas.rows.modify y fun row => row.modify x f⟩

/- Put text into a cell, in a style on top of its own. -/
def put
    (canvas : Canvas)
    (x y : Nat)
    (text : List Char)
    (style : Style) : Canvas :=
  canvas.modify x y fun cell =>
    { cell with text := text }.restyle style

/- Apply a drawing step for each number below `n`. -/
def each
    (canvas : Canvas)
    (n : Nat)
    (draw : Canvas → Nat → Canvas) : Canvas :=
  n.fold (fun i _ canvas => draw canvas i) canvas

/- Put a style on top of every cell of an area. -/
def paint
    (canvas : Canvas)
    (area : Area)
    (style : Style) : Canvas :=
  canvas.each area.height fun canvas dy =>
    canvas.each area.width fun canvas dx =>
      canvas.modify (area.left + dx) (area.top + dy)
        fun cell => cell.restyle style

------------------------------------------------------------
-- Reading
------------------------------------------------------------

/- Cells of one style side by side. -/
structure Run where
  text : List Char
  cell : Cell

/- Join neighbouring cells of equal style. -/
def runsOf (cells : List Cell) : List Run :=
  cells.foldr
    (fun cell runs =>
      match runs with
      | run :: rest =>
          if cell.sameStyle run.cell then
            ⟨cell.text ++ run.text, cell⟩ :: rest
          else
            ⟨cell.text, cell⟩ :: run :: rest
      | [] => [⟨cell.text, cell⟩])
    []

/- The runs of every row. -/
def runs (canvas : Canvas) : List (List Run) :=
  canvas.rows.toList.map fun row => runsOf row.toList

end Canvas

end TracePlayer
