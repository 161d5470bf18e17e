import TracePlayer.Pane.Source
import TracePlayer.Pane.StructureLines

/-
  This file draws the structures of a step, or a placeholder
  when there is nothing to show.

  Key definitions include:
    * `StructuresPane`
    * `StructuresPane.settle`, `StructuresPane.visible`
    * `StructuresPane.draw`, `StructuresPane.draw?`
-/

namespace TracePlayer

/- What the pane shows. -/
structure StructuresPane where
  view : Option View
  placeholder : String
  focused : Bool

namespace StructuresPane

/- The lines of the view. -/
def lines (pane : StructuresPane) : List Line :=
  match pane.view with
  | some view => view.lines
  | none => []

/-
  The number of lines above the window: the last page is the
  end, and without lines the number stays as it is.
-/
def settle
    (pane : StructuresPane)
    (height : Nat)
    (scroll : Nat) : Nat :=
  let total := pane.lines.length
  if total = 0 then scroll
  else min scroll (total - visibleRows height)

/- The lines in a window. -/
def visible
    (pane : StructuresPane)
    (height : Nat)
    (scroll : Nat) : List Line :=
  (pane.lines.drop scroll).take (visibleRows height)

/- The title of the pane, with the line of the step. -/
def title (pane : StructuresPane) : String :=
  match pane.view.bind View.line with
  | some line =>
      " Data Structures (line " ++
        toString line.number.toNat ++ ") "
  | none => " Data Structures "

/- Draw the pane with its settled number of lines above. -/
def draw
    (pane : StructuresPane)
    (canvas : Canvas)
    (area : Area)
    (scroll : Nat) : Canvas :=
  let border := Theme.border pane.focused
  if pane.lines.isEmpty then
    canvas.drawPane area (Style.colour Theme.muted) pane.title
      border
      ((textLines pane.placeholder).map fun text =>
        Line.ofSpans [⟨String.ofList text, Style.plain⟩])
  else
    canvas.drawPane area Style.plain pane.title border
      (pane.visible area.height scroll)

/- Whether all arrays of the view can be drawn. -/
def drawable (pane : StructuresPane) : Bool :=
  pane.view.all View.drawable

/- Draw the pane if all arrays of its view can be drawn. -/
def draw?
    (pane : StructuresPane)
    (canvas : Canvas)
    (area : Area)
    (scroll : Nat) : Option Canvas :=
  if pane.drawable then some (pane.draw canvas area scroll)
  else none

end StructuresPane

end TracePlayer
