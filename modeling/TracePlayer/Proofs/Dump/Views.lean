import TracePlayer.Proofs.Dump.History
import TracePlayer.Proofs.Json.Distinct
import TracePlayer.Proofs.Wire.RoundTrip

/-
  This file proves that a view is determined by its line in a
  dump. The new index of a sequence, its labels and the colour
  of a node are left out when there are none, and what is
  written without them is written for nothing else.

  Main declarations:
    * `SequenceEntry.toJson_injective`
    * `Tree.toJson_injective`
    * `View.Loose`, `View.Loose.toJson_injective`
    * `View.told_by_line`
-/

namespace TracePlayer

open Function (Injective)

------------------------------------------------------------
-- Numbers, Lists and Maps
------------------------------------------------------------

variable {α : Type}

theorem Json.integer_natCast_injective :
    Injective fun n : Nat => Json.integer n :=
  fun _ _ hSame => Int.ofNat_inj.mp (Json.integer.inj hSame)

theorem Json.integer_toNat_injective :
    Injective fun id : UInt64 => Json.integer id.toNat :=
  fun _ _ hSame =>
    UInt64.toNat_inj.mp (integer_natCast_injective hSame)

theorem LineNumber.number_injective : Injective number := by
  rintro ⟨line, _⟩ ⟨other, _⟩ rfl
  rfl

/- Lists are told apart when their items are. -/
theorem Json.array_map_injective
    {write : α → Json}
    (hWrite : Injective write) :
    Injective fun items : List α => array (items.map write) :=
  fun _ _ hSame =>
    List.map_injective_iff.mpr hWrite (Json.array.inj hSame)

/- A text and a value are told by the object of the two. -/
theorem Json.pair_injective
    {write : α → Json}
    (hWrite : Injective write)
    (first second : String) :
    Injective fun entry : String × α =>
      object
        [ (first, .string entry.1),
          (second, write entry.2) ] := by
  rintro ⟨text, value⟩ ⟨other, given⟩ hSame
  simp only [object.injEq, List.cons.injEq, Prod.mk.injEq,
    string.injEq, true_and, and_true] at hSame
  rcases hSame with ⟨rfl, hValue⟩
  rw [hWrite hValue]

/- Maps are told apart when their values are. -/
theorem Frame.writeNamed_injective
    {write : α → Json}
    (hWrite : Injective write) :
    Injective (writeNamed write) := by
  have hEntry :
      Injective fun entry : String × α =>
        (entry.1, write entry.2) :=
    Injective.prodMap Function.injective_id hWrite
  intro m n hSame
  ext1
  exact List.map_injective_iff.mpr hEntry
    (Json.object.inj hSame)

------------------------------------------------------------
-- Sequences
------------------------------------------------------------

theorem PointerLabel.toJson_injective :
    Injective toJson := by
  rintro ⟨label, index⟩ ⟨other, place⟩ hSame
  have hPair : (label, index) = (other, place) :=
    Json.pair_injective Json.integer_toNat_injective _ _ hSame
  cases hPair
  rfl

namespace SequenceEntry

/- The fields of a sequence; two of them may be left out. -/
theorem field?_toJson (entry : SequenceEntry) :
    entry.toJson.field? "name" = some (.string entry.name) ∧
    entry.toJson.field? "values" =
      some (.array entry.values) ∧
    entry.toJson.field? "highlight_index" =
      entry.newIndex.map (fun index : Nat => .integer index) ∧
    (entry.toJson.field? "pointers").getD (.array []) =
      .array (entry.pointers.map PointerLabel.toJson) := by
  rcases entry with ⟨name, values, newIndex, pointers⟩
  cases newIndex <;> cases pointers <;>
    exact ⟨rfl, rfl, rfl, rfl⟩

/- What is left out is told by the fields that are there. -/
theorem toJson_injective : Injective toJson := by
  intro a b hSame
  rcases a.field?_toJson with
    ⟨hName, hValues, hIndex, hPointers⟩
  rw [hSame] at hName hValues hIndex hPointers
  rcases b.field?_toJson with
    ⟨hOtherName, hOtherValues, hOtherIndex, hOtherPointers⟩
  rw [hName, Option.some.injEq, Json.string.injEq] at hOtherName
  rw [hValues, Option.some.injEq, Json.array.injEq]
    at hOtherValues
  rw [hIndex] at hOtherIndex
  rw [hPointers] at hOtherPointers
  have hSameIndex : a.newIndex = b.newIndex :=
    Option.map_injective Json.integer_natCast_injective
      hOtherIndex
  have hSamePointers : a.pointers = b.pointers :=
    Json.array_map_injective PointerLabel.toJson_injective
      hOtherPointers
  cases a
  cases b
  rw [SequenceEntry.mk.injEq]
  exact ⟨hOtherName, hOtherValues, hSameIndex, hSamePointers⟩

end SequenceEntry

------------------------------------------------------------
-- Trees
------------------------------------------------------------

/- Trees are told apart, since they are read back. -/
theorem Tree.toJson_injective : Injective toJson := by
  intro left right hSame
  have hRead := ofJson_toJson left
  rw [hSame, ofJson_toJson, Except.ok.injEq] at hRead
  exact hRead.symm

namespace View

theorem dictToJson_injective : Injective dictToJson :=
  Json.pair_injective
    (Frame.writeNamed_injective Function.injective_id) _ _

theorem detachedToJson_injective : Injective detachedToJson :=
  Json.pair_injective Tree.toJson_injective _ _

------------------------------------------------------------
-- Loose Views
------------------------------------------------------------

/-
  A view with any line, also line zero, and with any dicts,
  also several of one name.
-/
structure Loose where
  index : Nat
  line : Option UInt32
  scalars : Named Json
  arrays : List SequenceEntry
  dicts : List (String × Named Json)
  linkedLists : List SequenceEntry
  mainTree : Tree
  newIds : List NodeId
  detached : List (String × Tree)

/- A view is a loose one. -/
def loose (view : View) : Loose :=
  { index := view.index
    line := view.line.map LineNumber.number
    scalars := view.scalars
    arrays := view.arrays
    dicts := view.dicts.entries
    linkedLists := view.linkedLists
    mainTree := view.mainTree
    newIds := view.newIds
    detached := view.detached }

namespace Loose

def writeLine : Option UInt32 → Json
| some line => .integer line.toNat
| none => .null

/- Write a loose view. -/
def toJson (view : Loose) : Json :=
  .object
    [ ("index", .integer view.index),
      ("line_number", writeLine view.line),
      ("primitives", Frame.writeNamed id view.scalars),
      ( "array_entries",
        .array (view.arrays.map SequenceEntry.toJson) ),
      ("dict_entries", .array (view.dicts.map dictToJson)),
      ( "linked_list_entries",
        .array (view.linkedLists.map SequenceEntry.toJson) ),
      ("main_tree", view.mainTree.toJson),
      ( "tree_highlight_ids",
        .array (view.newIds.map fun id => .integer id.toNat) ),
      ( "detached_trees",
        .array (view.detached.map detachedToJson) ) ]

theorem writeLine_injective : Injective writeLine := by
  rintro (_ | line) (_ | other) hSame
  · rfl
  · cases hSame
  · cases hSame
  · have hNumber : line.toNat = other.toNat :=
      Json.integer_natCast_injective hSame
    rw [UInt32.toNat_inj.mp hNumber]

/- Every field is told by what is written for it. -/
theorem toJson_injective : Injective toJson := by
  intro a b hSame
  simp only [toJson, Json.object.injEq, List.cons.injEq,
    Prod.mk.injEq, true_and, and_true] at hSame
  rcases hSame with
    ⟨hIndex, hLine, hScalars, hArrays, hDicts, hLists, hTree,
      hIds, hDetached⟩
  have hSequences :=
    Json.array_map_injective SequenceEntry.toJson_injective
  cases a
  cases b
  rw [Loose.mk.injEq]
  exact ⟨Json.integer_natCast_injective hIndex,
    writeLine_injective hLine,
    Frame.writeNamed_injective Function.injective_id hScalars,
    hSequences hArrays,
    Json.array_map_injective dictToJson_injective hDicts,
    hSequences hLists,
    Tree.toJson_injective hTree,
    Json.array_map_injective Json.integer_toNat_injective hIds,
    Json.array_map_injective detachedToJson_injective hDetached⟩

end Loose

------------------------------------------------------------
-- Views
------------------------------------------------------------

/- A view is written as the loose view that it is. -/
theorem toJson_loose (view : View) :
    view.loose.toJson = view.toJson := by
  rcases view with ⟨_, _ | line, _, _, _, _, _, _, _⟩
  · rfl
  · rfl

/- Different views are different loose views. -/
theorem loose_injective : Injective loose := by
  intro a b hSame
  cases a
  cases b
  simp only [loose, Loose.mk.injEq] at hSame
  rcases hSame with
    ⟨rfl, hLine, rfl, rfl, hDicts, rfl, rfl, rfl, rfl⟩
  rw [Option.map_injective LineNumber.number_injective hLine,
    Named.ext_entries hDicts]

/- A view is told by what is written for it. -/
theorem toJson_injective : Injective toJson := by
  intro a b hSame
  rw [← toJson_loose, ← toJson_loose] at hSame
  exact loose_injective (Loose.toJson_injective hSame)

/- Views are told by the lines of their dump. -/
theorem dumpText_injective : Injective dumpText := by
  have hLine :
      Injective fun view : View => view.toJson.write := by
    intro a b hSame
    have hText : a.toJson.compact = b.toJson.compact :=
      congrArg String.ofList hSame
    exact toJson_injective (Json.compact_injective hText)
  intro views others hSame
  have hLines := congrArg textLines hSame
  rw [textLines_dumpText, textLines_dumpText] at hLines
  exact List.map_injective_iff.mpr hLine hLines

/-
  What is written for a view is written for no other view,
  whether it is taken as a value or as a line of text, and
  whatever the lines and the names of dicts are. So a dump
  determines the views that it was made of.
-/
theorem told_by_line :
    (∀ a b : Loose,
      (a.toJson = b.toJson ↔ a = b) ∧
      (a.toJson.compact = b.toJson.compact ↔ a = b)) ∧
    (∀ view : View, view.loose.toJson = view.toJson) ∧
    (∀ a b : View,
      (a.toJson = b.toJson ↔ a = b) ∧
      (a.toJson.compact = b.toJson.compact ↔ a = b)) ∧
    (∀ views others : List View,
      dumpText views = dumpText others ↔ views = others) := by
  have hText (a b : Json) : a.compact = b.compact ↔ a = b :=
    Json.compact_injective.eq_iff
  refine ⟨fun a b => ?_, toJson_loose, fun a b => ?_,
    fun _ _ => dumpText_injective.eq_iff⟩
  · rw [hText, Loose.toJson_injective.eq_iff]
    exact ⟨Iff.rfl, Iff.rfl⟩
  · rw [hText, toJson_injective.eq_iff]
    exact ⟨Iff.rfl, Iff.rfl⟩

end View

end TracePlayer
