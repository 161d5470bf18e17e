import TracePlayer.View.Basic
import TracePlayer.Wire.Frame

/-
  This file writes views. The new index of a sequence, its
  pointer labels and the colour of a node are left out when
  there are none.

  Key definitions include:
    * `SequenceEntry.toJson`
    * `View.toJson`
-/

namespace TracePlayer

/- Write an array or linked list. -/
def SequenceEntry.toJson (entry : SequenceEntry) : Json :=
  .object
    ([ ("name", .string entry.name),
       ("values", .array entry.values) ] ++
      (match entry.newIndex with
        | some index => [("highlight_index", .integer index)]
        | none => []) ++
      (match entry.pointers with
        | [] => []
        | pointers =>
            [ ("pointers",
                .array (pointers.map PointerLabel.toJson)) ]))

namespace View

/- Write a dict with its name. -/
def dictToJson (entry : String × Named Json) : Json :=
  .object
    [ ("name", .string entry.1),
      ("entries", Frame.writeNamed id entry.2) ]

/- Write a tree outside the main tree with its name. -/
def detachedToJson (entry : String × Tree) : Json :=
  .object
    [("name", .string entry.1), ("node", entry.2.toJson)]

/- Write a view. -/
def toJson (view : View) : Json :=
  .object
    [ ("index", .integer view.index),
      ("line_number", Frame.writeLine view.line),
      ("primitives", Frame.writeNamed id view.scalars),
      ( "array_entries",
        .array (view.arrays.map SequenceEntry.toJson) ),
      ( "dict_entries",
        .array (view.dicts.entries.map dictToJson) ),
      ( "linked_list_entries",
        .array (view.linkedLists.map SequenceEntry.toJson) ),
      ("main_tree", view.mainTree.toJson),
      ( "tree_highlight_ids",
        .array (view.newIds.map fun id => .integer id.toNat) ),
      ( "detached_trees",
        .array (view.detached.map detachedToJson) ) ]

end View

end TracePlayer
