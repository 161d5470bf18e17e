import TracePlayer.Trace.Frame
import TracePlayer.Wire.Structure

/-
  This file reads and writes frames. A field that is absent is
  empty, and unknown fields are ignored. A pointer label that
  is no pair of a string and an index is left out.

  Key definitions include:
    * `PointerLabel.ofJson?`
    * `Frame.ofJson`
    * `Frame.toJson`
-/

namespace TracePlayer

------------------------------------------------------------
-- Pointer Labels
------------------------------------------------------------

namespace PointerLabel

/-
  The index that a value stands for: a whole number of 64
  bits, or a truth value as zero or one.
-/
def index? : Json → Option UInt64
| .bool flag => some (if flag then 1 else 0)
| .integer value =>
    if 0 ≤ value ∧ value < 0x10000000000000000 then
      some (UInt64.ofNat value.toNat)
    else
      none
| _ => none

def ofJson? : Json → Option PointerLabel
| .array [.string label, index] =>
    (index? index).map fun index => ⟨label, index⟩
| _ => none

/- A label in a view. -/
def toJson (pointer : PointerLabel) : Json :=
  .object
    [ ("label", .string pointer.label),
      ("index", .integer pointer.index.toNat) ]

end PointerLabel

------------------------------------------------------------
-- Reading
------------------------------------------------------------

/- Line zero stands for no line. -/
def LineNumber.ofWord? (number : UInt32) : Option LineNumber :=
  if h : 0 < number then some ⟨number, h⟩ else none

def LineNumber.ofJson
    (value : Json) : Except Mismatch (Option LineNumber) :=
  (Reading.optional Reading.word32 value).map fun number =>
    number.bind ofWord?

namespace Frame

/- The labels of every array; null stands for none at all. -/
def readPointers
    (value : Json) :
    Except Mismatch (Named (List PointerLabel)) :=
  (Reading.optional
      (Reading.mapping (Reading.list anyValue)) value).map
    fun named? =>
      match named? with
      | some named =>
          named.map fun items =>
            items.filterMap PointerLabel.ofJson?
      | none => Named.empty

/- Read one field into a frame. -/
def setField
    (frame : Frame)
    (entry : String × Json) : Except Mismatch Frame :=
  let (name, value) := entry
  if name = "line_no" then
    (LineNumber.ofJson value).map fun line =>
      { frame with line := line }
  else if name = "prims" then
    (Reading.mapping anyValue value).map fun scalars =>
      { frame with scalars := scalars }
  else if name = "lists" then
    (Reading.mapping (Reading.list anyValue) value).map
      fun arrays => { frame with arrays := arrays }
  else if name = "dicts" then
    (Reading.mapping (Reading.mapping anyValue) value).map
      fun dicts => { frame with dicts := dicts }
  else if name = "linked" then
    (Reading.mapping (Reading.list anyValue) value).map
      fun lists => { frame with linkedLists := lists }
  else if name = "trees" then
    (Reading.mapping Tree.ofJson value).map fun trees =>
      { frame with trees := trees }
  else if name = "array_indices" then
    (readPointers value).map fun pointers =>
      { frame with pointers := pointers }
  else
    .ok frame

/- The fields of a frame in the order of its array form. -/
def fieldNames : List String :=
  [ "line_no", "prims", "lists", "dicts", "linked", "trees",
    "array_indices" ]

/- Read a frame. -/
def ofJson : Json → Except Mismatch Frame :=
  Reading.record .frame fieldNames empty setField

------------------------------------------------------------
-- Writing
------------------------------------------------------------

/- Write a map with a writer of its values. -/
def writeNamed
    {α : Type}
    (write : α → Json)
    (named : Named α) : Json :=
  .object (named.entries.map fun entry =>
    (entry.1, write entry.2))

def writeLine : Option LineNumber → Json
| some line => .integer line.number.toNat
| none => .null

/- Write a frame with all its fields. -/
def toJson (frame : Frame) : Json :=
  .object
    [ ("line_no", writeLine frame.line),
      ("prims", writeNamed id frame.scalars),
      ("lists", writeNamed .array frame.arrays),
      ("dicts", writeNamed (writeNamed id) frame.dicts),
      ("linked", writeNamed .array frame.linkedLists),
      ("trees", writeNamed Tree.toJson frame.trees),
      ( "array_indices",
        writeNamed
          (fun labels => .array (labels.map PointerLabel.toJson))
          frame.pointers ) ]

end Frame

end TracePlayer
