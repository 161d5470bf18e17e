import TracePlayer.Trace.Structure
import TracePlayer.Wire.Tree

/-
  This file reads and writes the kinds and states of named
  structures.

  Key definitions include:
    * `Kind.ofJson`, `Kind.word`
    * `Structure.ofJson`, `Structure.toJson`
-/

namespace TracePlayer

------------------------------------------------------------
-- Kinds
------------------------------------------------------------

namespace Kind

/- The word for a kind in documents. -/
def word : Kind → String
| array => "array"
| dict => "dict"
| linkedList => "linked_list"
| tree => "tree"

def all : List Kind :=
  [array, dict, linkedList, tree]

def ofJson : Json → Except Mismatch Kind :=
  Reading.choice (all.map fun kind => (kind.word, kind))

end Kind

------------------------------------------------------------
-- Structures
------------------------------------------------------------

/- Values of any shape are kept as they are. -/
def anyValue (value : Json) : Except Mismatch Json :=
  .ok value

namespace Structure

/- Read the state of a structure of a kind. -/
def ofJson
    (kind : Kind)
    (value : Json) : Except Mismatch Structure :=
  match kind with
  | .array => (Reading.list anyValue value).map .array
  | .dict => (Reading.mapping anyValue value).map .dict
  | .linkedList =>
      (Reading.list anyValue value).map .linkedList
  | .tree => (Tree.ofJson value).map .tree

/- The content of a structure, without its kind. -/
def content : Structure → Json
| array values => .array values
| dict fields => .object fields.entries
| linkedList values => .array values
| tree root => root.toJson

/- A structure with its kind. -/
def toJson (structure_ : Structure) : Json :=
  .object
    [ ("kind", .string structure_.kind.word),
      ("value", structure_.content) ]

end Structure

end TracePlayer
