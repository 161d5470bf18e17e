import TracePlayer.Json.Text
import TracePlayer.Screen.Theme
import TracePlayer.Text.Lines
import TracePlayer.View.Basic

/-
  This file lays out a view as lines of text: the scalars, the
  arrays with their pointer labels, the dicts, the linked
  lists, the main tree and the trees outside it.

  Key definitions include:
    * `scalarText`
    * `arrayLines`, `arrayLines?`, `linkedListLines`
    * `Branch`, `Hanging`, `treeLines`
    * `View.lines`, `View.lines?`
-/

namespace TracePlayer

------------------------------------------------------------
-- Scalars
------------------------------------------------------------

/- A scalar as the traced program would print it. -/
def scalarText : Json → String
| .null => "None"
| .bool true => "True"
| .bool false => "False"
| .string text => text
| value => value.compact

/- A text between two spaces. -/
def spaced (text : List Char) : String :=
  String.ofList (' ' :: text ++ [' '])

------------------------------------------------------------
-- Captions
------------------------------------------------------------

def muted : Style :=
  Style.colour Theme.muted

/- The caption of a structure: its kind and its name. -/
def caption (kind name : String) : Line :=
  Line.ofSpans
    [ ⟨kind ++ " ", muted⟩,
      ⟨"“" ++ name ++ "”", (Style.colour Theme.name).strong⟩ ]

/- The line for a structure without values. -/
def emptyLine : Line :=
  Line.styled "  (empty)" muted

/- The style of a cell; a new one stands out. -/
def cellStyle (isNew : Bool) : Style :=
  if isNew then
    ((Style.colour .black).on Theme.newest).strong
  else
    Style.colour Theme.text

------------------------------------------------------------
-- Arrays
------------------------------------------------------------

/- A cell of an array: its text, its label and whether new. -/
structure ArrayCell where
  text : List Char
  label : List Char
  isNew : Bool
deriving DecidableEq, Repr

namespace ArrayCell

/- The columns that the cell and its label share. -/
def width (cell : ArrayCell) : Nat :=
  max cell.text.length cell.label.length

/- Whether a cell and its label can be padded to their width. -/
def paddable (cell : ArrayCell) : Bool :=
  cell.width ≤ widthLimit

/- The spans of a cell, after a bar unless it is the first. -/
def cellSpans
    (first : Bool)
    (cell : ArrayCell) : List Span :=
  (if first then [] else [⟨"|", muted⟩]) ++
    [ ⟨spaced (padAround cell.width cell.text),
        cellStyle cell.isNew⟩ ]

/- The spans of a label, after a gap unless it is the first. -/
def labelSpans
    (first : Bool)
    (cell : ArrayCell) : List Span :=
  (if first then [] else [⟨" ", Style.plain⟩]) ++
    [ ⟨spaced (padAround cell.width cell.label),
        Style.colour Theme.pointer⟩ ]

/- The spans of all cells. -/
def row
    (spans : Bool → ArrayCell → List Span) :
    List ArrayCell → List Span
| [] => []
| cell :: rest => spans true cell ++ rest.flatMap (spans false)

end ArrayCell

/- The cells of an array. -/
def arrayCells (entry : SequenceEntry) : List ArrayCell :=
  entry.values.zipIdx.map fun (value, index) =>
    { text := (scalarText value).toList
      label := ((entry.labelsAt? index).getD "").toList
      isNew := entry.newIndex = some index }

/- The cells of an array between brackets. -/
def cellLine (cells : List ArrayCell) : Line :=
  Line.ofSpans
    (⟨"  [", muted⟩ :: ArrayCell.row ArrayCell.cellSpans cells ++
      [⟨"]", muted⟩])

/- The labels of an array under its cells. -/
def labelLine (cells : List ArrayCell) : Line :=
  Line.ofSpans
    (⟨"   ", Style.plain⟩ ::
      ArrayCell.row ArrayCell.labelSpans cells)

/-
  An array: its caption, its cells, and its labels if there is
  one that is not empty.
-/
def arrayLines (entry : SequenceEntry) : List Line :=
  caption "Array" entry.name ::
    if entry.values.isEmpty then
      [emptyLine]
    else
      let cells := arrayCells entry
      cellLine cells ::
        if cells.any fun cell => !cell.label.isEmpty then
          [labelLine cells]
        else
          []

/- Whether all cells of an array can be padded. -/
def SequenceEntry.drawable (entry : SequenceEntry) : Bool :=
  (arrayCells entry).all ArrayCell.paddable

/- The lines of an array if all its cells can be padded. -/
def arrayLines? (entry : SequenceEntry) : Option (List Line) :=
  if entry.drawable then some (arrayLines entry) else none

------------------------------------------------------------
-- Linked Lists
------------------------------------------------------------

/- The arrow between two nodes of a linked list. -/
def arrow : Span :=
  ⟨" ➔ ", Style.colour Theme.primary⟩

/- A linked list: its caption and its values between arrows. -/
def linkedListLines (entry : SequenceEntry) : List Line :=
  caption "Linked List" entry.name ::
    if entry.values.isEmpty then
      [emptyLine]
    else
      [ Line.ofSpans
          (⟨"  ", Style.plain⟩ ::
            (entry.values.zipIdx.map fun (value, index) =>
              (⟨spaced (scalarText value).toList,
                cellStyle (entry.newIndex = some index)⟩ :
                  Span)).intersperse arrow) ]

------------------------------------------------------------
-- Trees
------------------------------------------------------------

/- How a node hangs from its parent. -/
inductive Branch where
| root
| middle
| last
deriving DecidableEq, Repr

namespace Branch

/- The guide in front of a node. -/
def guide : Branch → List Char
| root => []
| middle => ['├', '─']
| last => ['└', '─']

/- What the guides below a node start with. -/
def indent : Branch → List Char
| root => []
| middle => ['│', ' ']
| last => [' ', ' ']

end Branch

/- The style of a node; a new one stands out. -/
def nodeStyle
    (color : Option Color)
    (isNew : Bool) : Style :=
  if isNew then
    cellStyle true
  else
    match color with
    | some .red => (Style.colour Theme.redNode).strong
    | some .black => (Style.colour Theme.blackNode).strong
    | none => Style.colour Theme.text

/- The letter of a side. -/
def Side.letter : Side → Char
| left => 'L'
| right => 'R'

/-
  A tree that is still to be drawn, with what stands in front
  of its root: the indentation, the branch on which it hangs,
  and the side.
-/
structure Hanging where
  tree : Tree
  indent : List Char
  branch : Branch
  side : List Char
deriving DecidableEq

namespace Hanging

/- A whole tree. -/
def root (tree : Tree) : Hanging :=
  ⟨tree, [' ', ' '], .root, []⟩

/- What stands in front of the root. -/
def guide (place : Hanging) : List Char :=
  place.indent ++ place.branch.guide ++ place.side

/- The tree on a side, which is the last unless one follows. -/
def child
    (place : Hanging)
    (side : Side) : Hanging :=
  { tree := place.tree.child side
    indent := place.indent ++ place.branch.indent
    branch :=
      if side = .left ∧ !(place.tree.child .right).isEmpty then
        .middle
      else
        .last
    side := [side.letter] }

/- The trees that hang from the root, the left one first. -/
def children (place : Hanging) : List Hanging :=
  [place.child .left, place.child .right].filter
    fun child => !child.tree.isEmpty

/- The line of the root. -/
def line
    (isNew : Tree → Bool)
    (place : Hanging) : Line :=
  Line.ofSpans
    [ ⟨String.ofList place.guide, muted⟩,
      ⟨spaced (scalarText place.tree.value).toList,
        nodeStyle place.tree.color (isNew place.tree)⟩ ]

/- The children weigh less than the tree that they hang from. -/
theorem totalWeight_children (place : Hanging) :
    Tree.totalWeight (place.children.map tree) <
      place.tree.weight := by
  rcases place with ⟨tree, indent, branch, side⟩
  cases tree with
  | empty => exact Nat.zero_lt_one
  | node id value color left right =>
      cases left <;> cases right <;>
        simp only [children, child, Tree.child, Tree.isEmpty,
          Bool.not_true, Bool.not_false, List.filter_cons,
          List.filter_nil, List.map_cons, List.map_nil,
          Bool.false_eq_true, ↓reduceIte, Tree.totalWeight,
          Tree.weight] <;>
        omega

end Hanging

/-
  Draw the pending trees in order, each root before what hangs
  from it; the lines are collected in reverse.
-/
def treeLinesFrom
    (isNew : Tree → Bool)
    (pending : List Hanging)
    (reversed : List Line) : List Line :=
  match pending with
  | [] => reversed.reverse
  | next :: rest =>
      treeLinesFrom isNew (next.children ++ rest)
        (next.line isNew :: reversed)
termination_by Tree.totalWeight (pending.map Hanging.tree)
decreasing_by
  have hLess := next.totalWeight_children
  simp only [List.map_append, List.map_cons,
    Tree.totalWeight_append, Tree.totalWeight]
  omega

/- The lines of a tree; without nodes there are none. -/
def treeLines
    (isNew : Tree → Bool)
    (tree : Tree) : List Line :=
  if tree.isEmpty then []
  else treeLinesFrom isNew [Hanging.root tree] []

------------------------------------------------------------
-- Views
------------------------------------------------------------

namespace View

/- A scalar with its name. -/
def scalarLine (entry : String × Json) : Line :=
  Line.ofSpans
    [ ⟨"  " ++ entry.1, (Style.colour Theme.text).strong⟩,
      ⟨" = ", muted⟩,
      ⟨scalarText entry.2, Style.colour Theme.number⟩ ]

/- A field of a dict; its value is shown as a document. -/
def fieldLine (entry : String × Json) : Line :=
  Line.ofSpans
    [ ⟨"  " ++ entry.1, Style.colour Theme.string⟩,
      ⟨" : ", muted⟩,
      ⟨entry.2.compact, Style.colour Theme.text⟩ ]

def dictLines (entry : String × Named Json) : List Line :=
  caption "Dict" entry.1 ::
    if entry.2.isEmpty then [emptyLine]
    else entry.2.entries.map fieldLine

def scalarLines (scalars : Named Json) : List Line :=
  if scalars.isEmpty then
    []
  else
    Line.styled "Variables" muted ::
      scalars.entries.map scalarLine ++ [Line.blank]

/- Whether the root of a tree is new. -/
def isNewNode
    (view : View)
    (tree : Tree) : Bool :=
  tree.rootId?.any view.isNew

def mainTreeLines (view : View) : List Line :=
  if view.mainTree.isEmpty then
    []
  else
    caption "Tree" mainTreeName ::
      treeLines view.isNewNode view.mainTree ++ [Line.blank]

/- A tree outside the main tree, all of which is new. -/
def detachedLines (entry : String × Tree) : List Line :=
  caption "New Node" entry.1 ::
    treeLines (fun _ => true) entry.2

/- All lines of a view; a blank one ends each part. -/
def lines (view : View) : List Line :=
  let part (lines : List Line) := lines ++ [Line.blank]
  scalarLines view.scalars ++
    (view.arrays.flatMap fun entry => part (arrayLines entry)) ++
    (view.dicts.entries.flatMap fun entry =>
      part (dictLines entry)) ++
    (view.linkedLists.flatMap fun entry =>
      part (linkedListLines entry)) ++
    view.mainTreeLines ++
    view.detached.flatMap fun entry =>
      part (detachedLines entry)

/- Whether all arrays of a view can be drawn. -/
def drawable (view : View) : Bool :=
  view.arrays.all SequenceEntry.drawable

/- All lines of a view if its arrays can be drawn. -/
def lines? (view : View) : Option (List Line) :=
  if view.drawable then some view.lines else none

end View

end TracePlayer
