import TracePlayer.Screen.Canvas
import TracePlayer.Screen.Columns

/-
  This file defines a terminal that is only told what changes.
  Each new picture is compared with the one before, cell by
  cell, and the cells that differ are written. A cluster of
  several columns covers the cells to its right: they are not
  written with it, and they count as changed when it goes.

  Key definitions include:
    * `Terminal`
    * `Sweep`, `Sweep.write`, `Sweep.next`
    * `Terminal.present`
-/

namespace TracePlayer

------------------------------------------------------------
-- Cells
------------------------------------------------------------

/-
  The state of a comparison from one cell to the next: the
  columns that the last cluster takes beyond its own cell, and
  the cells ahead that a cluster covers now or covered before.
-/
structure Sweep where
  covered : Nat
  stale : Nat
deriving DecidableEq, Repr

namespace Sweep

def start : Sweep :=
  ⟨0, 0⟩

/-
  What a cell of the terminal shows after the comparison: the
  new cell, unless it is covered or is there already.
-/
def write
    (sweep : Sweep)
    (shown before next : Cell) : Cell :=
  if sweep.covered = 0 ∧
      (next ≠ before ∨ 0 < sweep.stale) then
    next
  else
    shown

/- The state for the next cell. -/
def next
    (before next : Cell)
    (sweep : Sweep) : Sweep :=
  let width := textColumns next.text
  let widest := max width (textColumns before.text)
  ⟨width - 1, max widest sweep.stale - 1⟩

/- Compare the cells of a row. -/
def overRow
    (sweep : Sweep) :
    List Cell → List Cell → List Cell → List Cell × Sweep
| shown :: shownRest, before :: beforeRest, next :: nextRest =>
    let (cells, last) :=
      (sweep.next before next).overRow
        shownRest beforeRest nextRest
    (sweep.write shown before next :: cells, last)
| _, _, _ => ([], sweep)

/- Compare rows; the end of a row changes nothing. -/
def overRows
    (sweep : Sweep) :
    List (Array Cell) → List (Array Cell) →
      List (Array Cell) → List (Array Cell)
| shown :: shownRest, before :: beforeRest, next :: nextRest =>
    let (cells, sweep) :=
      sweep.overRow shown.toList before.toList next.toList
    cells.toArray ::
      sweep.overRows shownRest beforeRest nextRest
| _, _, _ => []

end Sweep

------------------------------------------------------------
-- Terminals
------------------------------------------------------------

/-
  A terminal of a size: what it shows, and the picture that it
  was given last.
-/
structure Terminal where
  width : Nat
  height : Nat
  shown : Canvas
  last : Canvas

namespace Terminal

/- A terminal on which nothing was shown. -/
def blank (width height : Nat) : Terminal :=
  let area := Area.screen width height
  let canvas := Canvas.blank area.width area.height
  ⟨area.width, area.height, canvas, canvas⟩

/- Show a picture of the size of the terminal. -/
def present
    (terminal : Terminal)
    (picture : Canvas) : Terminal :=
  { terminal with
    shown :=
      ⟨(Sweep.start.overRows terminal.shown.rows.toList
        terminal.last.rows.toList picture.rows.toList).toArray⟩
    last := picture }

end Terminal

end TracePlayer
