import TracePlayer.Trace.Tree
import TracePlayer.Wire.Reading

/-
  This file reads and writes the trees of a frame. A node is
  an object with its fields in any order, or an array of the
  fields in order that may be cut short; null is the empty
  tree.

  Key definitions include:
    * `Color.ofJson`, `Color.word`
    * `Tree.Draft`
    * `Tree.ofJson`
    * `Tree.toJson`
-/

namespace TracePlayer

------------------------------------------------------------
-- Colours
------------------------------------------------------------

namespace Color

/- The words for the colours, in the order of messages. -/
def words : List (String × Color) :=
  [ ("RED", red), ("Red", red), ("red", red),
    ("BLACK", black), ("Black", black), ("black", black) ]

def ofJson : Json → Except Mismatch Color :=
  Reading.choice words

/- The word that is written for a colour. -/
def word : Color → String
| red => "red"
| black => "black"

end Color

------------------------------------------------------------
-- Reading
------------------------------------------------------------

namespace Tree

/- The fields of a node that are read so far. -/
structure Draft where
  id : Option NodeId
  value : Json
  color : Option Color
  left : Tree
  right : Tree

namespace Draft

/- Absent fields: no colour, no children, the value null. -/
def empty : Draft :=
  ⟨none, .null, none, .empty, .empty⟩

/- The node, when its number is there. -/
def node? (draft : Draft) : Option Tree :=
  draft.id.map fun id =>
    .node id draft.value draft.color draft.left draft.right

/- Read a field that holds no tree; others are ignored. -/
def setField
    (draft : Draft)
    (name : String)
    (value : Json) : Except Mismatch Draft :=
  if name = "id" then
    (Reading.word64 value).map fun id =>
      { draft with id := some id }
  else if name = "val" then
    .ok { draft with value := value }
  else if name = "color" then
    (Reading.optional Color.ofJson value).map fun color =>
      { draft with color := color }
  else
    .ok draft

end Draft

/- The fields of a node in the order of its array form. -/
def fieldNames : List String :=
  ["id", "val", "color", "left", "right"]

mutual

/- Read a tree. -/
def ofJson : Json → Except Mismatch Tree
| .null => .ok .empty
| .object fields =>
    match ofFields fields Draft.empty with
    | .error mismatch => .error mismatch
    | .ok draft =>
        match draft.node? with
        | some tree => .ok tree
        | none => .error (.missingField "id")
| .array items =>
    match ofItems items fieldNames Draft.empty with
    | .error mismatch => .error mismatch
    | .ok draft =>
        match draft.node? with
        | none => .error .noItems
        | some tree =>
            if fieldNames.length < items.length then
              .error (.tooManyItems items.length)
            else
              .ok tree
| .bool value => .error (.wrongType (.bool value) .node)
| .integer value => .error (.wrongType (.integer value) .node)
| .double value => .error (.wrongType (.double value) .node)
| .string value => .error (.wrongType (.string value) .node)

/- Read the fields of an object one after the other. -/
def ofFields :
    List (String × Json) → Draft → Except Mismatch Draft
| [], draft => .ok draft
| (name, value) :: rest, draft =>
    if name = "left" then
      match ofJson value with
      | .error mismatch => .error mismatch
      | .ok left => ofFields rest { draft with left := left }
    else if name = "right" then
      match ofJson value with
      | .error mismatch => .error mismatch
      | .ok right => ofFields rest { draft with right := right }
    else
      match draft.setField name value with
      | .error mismatch => .error mismatch
      | .ok draft => ofFields rest draft

/- Read the items of an array as the fields with these names. -/
def ofItems :
    List Json → List String → Draft → Except Mismatch Draft
| [], _, draft => .ok draft
| _ :: _, [], draft => .ok draft
| value :: rest, name :: names, draft =>
    if name = "left" then
      match ofJson value with
      | .error mismatch => .error mismatch
      | .ok left =>
          ofItems rest names { draft with left := left }
    else if name = "right" then
      match ofJson value with
      | .error mismatch => .error mismatch
      | .ok right =>
          ofItems rest names { draft with right := right }
    else
      match draft.setField name value with
      | .error mismatch => .error mismatch
      | .ok draft => ofItems rest names draft

end

------------------------------------------------------------
-- Writing
------------------------------------------------------------

/- Write a tree; a node without a colour has no such field. -/
def toJson : Tree → Json
| empty => .null
| node id value color left right =>
    .object
      ([("id", .integer id.toNat), ("val", value)] ++
        (match color with
          | some c => [("color", .string c.word)]
          | none => []) ++
        [("left", toJson left), ("right", toJson right)])

end Tree

end TracePlayer
