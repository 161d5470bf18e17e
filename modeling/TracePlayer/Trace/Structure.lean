import TracePlayer.Trace.Tree

/-
  This file defines the state of one named structure of a
  traced program.

  Key definitions include:
    * `Kind` and `Kind.name`
    * `Structure`
    * `Structure.empty`, `Structure.kind`, `Structure.isEmpty`
    * `Structure.sequence?`, `Structure.root`
-/

namespace TracePlayer

------------------------------------------------------------
-- Kinds
------------------------------------------------------------

/- The kinds of structures. -/
inductive Kind where
| array
| dict
| linkedList
| tree
deriving DecidableEq, Repr

/- The word for a kind in messages. -/
def Kind.name : Kind → String
| array => "array"
| dict => "dict"
| linkedList => "list"
| tree => "tree"

------------------------------------------------------------
-- Structures
------------------------------------------------------------

/- The state of a structure. -/
inductive Structure where
| array (values : List Json)
| dict (fields : Named Json)
| linkedList (values : List Json)
| tree (root : Tree)
deriving DecidableEq

namespace Structure

/- The empty structure of a kind. -/
def empty : Kind → Structure
| .array => array []
| .dict => dict Named.empty
| .linkedList => linkedList []
| .tree => tree .empty

def kind : Structure → Kind
| array _ => .array
| dict _ => .dict
| linkedList _ => .linkedList
| tree _ => .tree

def isEmpty : Structure → Bool
| array values => values.isEmpty
| dict fields => fields.isEmpty
| linkedList values => values.isEmpty
| tree root => root.isEmpty

/- The values of an array or a linked list. -/
def sequence? : Structure → Option (List Json)
| array values => some values
| linkedList values => some values
| dict _ => none
| tree _ => none

/- The root of a tree; every other structure has none. -/
def root : Structure → Tree
| tree root => root
| array _ => .empty
| dict _ => .empty
| linkedList _ => .empty

theorem kind_empty (kind : Kind) :
    (empty kind).kind = kind := by
  cases kind <;> rfl

theorem isEmpty_empty (kind : Kind) :
    (empty kind).isEmpty = true := by
  cases kind <;> rfl

end Structure

end TracePlayer
