import TracePlayer.Proofs.Named
import TracePlayer.Proofs.Result
import TracePlayer.Wire.Reply

/-
  This file proves what is read back of the frames and replies
  that were written: everything but the pointer labels. They
  are written as objects, while only pairs are read, so that
  every array keeps its place but loses its labels.

  Main declarations:
    * `Reading.mapping_writeNamed`
    * `Tree.ofJson_toJson`
    * `Frame.unlabelled`, `Frame.ofJson_toJson`
    * `Reply.unlabelled`, `Reply.ofAnswer_toJson`
    * `Reply.read_written`
-/

namespace TracePlayer

variable {α β : Type}

------------------------------------------------------------
-- Lists and Maps
------------------------------------------------------------

namespace Reading

/- Items that are read with a change are changed one by one. -/
theorem mapM_map_of_ok
    {γ ε : Type}
    {read : β → Except ε γ}
    {write : α → β}
    {change : α → γ}
    (hRead : ∀ a, read (write a) = .ok (change a))
    (items : List α) :
    (items.map write).mapM read = .ok (items.map change) := by
  rw [mapM_eq_ok_iff, List.map_map, List.map_map]
  exact List.map_congr_left fun a _ => hRead a

theorem list_anyValue (items : List Json) :
    list anyValue (.array items) = .ok items := by
  have hItems :
      (items.map id).mapM anyValue = .ok (items.map id) :=
    mapM_map_of_ok (fun _ => rfl) items
  rwa [List.map_id] at hItems

/- Values that are read with a change are a changed map. -/
theorem mapping_writeNamed
    {read : Json → Except Mismatch β}
    {write : α → Json}
    {change : α → β}
    (hRead : ∀ a, read (write a) = .ok (change a))
    (m : Named α) :
    mapping read (Frame.writeNamed write m) =
      .ok (m.map change) := by
  have hField (entry : String × α) :
      field read (entry.1, write entry.2) =
        .ok (entry.1, change entry.2) := by
    rw [field, hRead]
    rfl
  rw [Frame.writeNamed, mapping, mapM_map_of_ok hField]
  exact congrArg Except.ok (m.map change).ofList_entries

/- A map is read as it is, when its values are. -/
theorem mapping_writeNamed_self
    {read : Json → Except Mismatch α}
    {write : α → Json}
    (hRead : ∀ a, read (write a) = .ok a)
    (m : Named α) :
    mapping read (Frame.writeNamed write m) = .ok m := by
  have hMap := mapping_writeNamed (fun a => hRead (id a)) m
  rwa [Named.map_id] at hMap

theorem mapping_anyValue (m : Named Json) :
    mapping anyValue (Frame.writeNamed id m) = .ok m :=
  mapping_writeNamed_self (fun _ => rfl) m

------------------------------------------------------------
-- Plain Values
------------------------------------------------------------

/- A value that is there is read. -/
theorem optional_of_ne_null
    {read : Json → Except Mismatch α}
    {value : Json}
    (hValue : value ≠ .null) :
    optional read value = (read value).map some := by
  cases value with
  | null => exact absurd rfl hValue
  | bool | integer | double | string | array | object => rfl

theorem word_of_lt
    {limit n : Nat}
    (hBound : n < limit)
    (expected : Expected) :
    word limit expected (.integer n) = .ok n := by
  have hWord : 0 ≤ (n : Int) ∧ (n : Int) < limit :=
    ⟨Int.natCast_nonneg n, Int.ofNat_lt.mpr hBound⟩
  rw [word, if_pos hWord, Int.toNat_natCast]

theorem word32_toNat (n : UInt32) :
    word32 (.integer n.toNat) = .ok n := by
  have hBound : n.toNat < 0x100000000 := by
    have hLess := n.toNat_lt
    omega
  have hWord := word_of_lt hBound .word32
  rw [word32, hWord, Except.map, UInt32.ofNat_toNat]

theorem word64_toNat (n : UInt64) :
    word64 (.integer n.toNat) = .ok n := by
  have hBound : n.toNat < 0x10000000000000000 := by
    have hLess := n.toNat_lt
    omega
  have hWord := word_of_lt hBound .word64
  rw [word64, hWord, Except.map, UInt64.ofNat_toNat]

end Reading

------------------------------------------------------------
-- Trees
------------------------------------------------------------

theorem Color.ofJson_word (color : Color) :
    ofJson (.string color.word) = .ok color := by
  cases color <;> rfl

namespace Tree

theorem Draft.setField_id
    (draft : Draft)
    (id : NodeId) :
    draft.setField "id" (.integer id.toNat) =
      .ok { draft with id := some id } := by
  rw [setField, if_pos rfl, Reading.word64_toNat, Except.map]

theorem Draft.setField_val
    (draft : Draft)
    (value : Json) :
    draft.setField "val" value =
      .ok { draft with value := value } := by
  simp [setField]

theorem Draft.setField_color
    (draft : Draft)
    (color : Color) :
    draft.setField "color" (.string color.word) =
      .ok { draft with color := some color } := by
  simp [setField, Reading.optional, Color.ofJson_word,
    Except.map]

section Fields

variable {name : String}
variable {value : Json}
variable {draft next : Draft}
variable {rest : List (String × Json)}

/- A field that holds no tree is read on its own. -/
theorem ofFields_setField
    (hLeft : name ≠ "left")
    (hRight : name ≠ "right")
    (hSet : draft.setField name value = .ok next) :
    ofFields ((name, value) :: rest) draft =
      ofFields rest next := by
  rw [ofFields, if_neg hLeft, if_neg hRight, hSet]

/- The last two fields hold trees. -/
theorem ofFields_children
    {leftValue rightValue : Json}
    {left right : Tree}
    (hLeft : ofJson leftValue = .ok left)
    (hRight : ofJson rightValue = .ok right) :
    ofFields [("left", leftValue), ("right", rightValue)] draft =
      .ok { draft with left := left, right := right } := by
  rw [ofFields, if_pos rfl, hLeft]
  dsimp only
  rw [ofFields, if_neg (by decide), if_pos rfl, hRight]
  dsimp only
  rw [ofFields]

end Fields

/- A tree is read as it was written. -/
theorem ofJson_toJson (tree : Tree) :
    ofJson tree.toJson = .ok tree := by
  induction tree with
  | empty => rw [toJson, ofJson]
  | node id value color left right ihLeft ihRight =>
      let numbered : Draft := { Draft.empty with id := some id }
      let valued : Draft := { numbered with value := value }
      have hId : Draft.empty.setField "id" (.integer id.toNat) =
          .ok numbered :=
        Draft.empty.setField_id id
      have hValue : numbered.setField "val" value = .ok valued :=
        numbered.setField_val value
      cases color with
      | none =>
          simp only [toJson, List.cons_append, List.nil_append,
            ofJson]
          rw [ofFields_setField (by decide) (by decide) hId,
            ofFields_setField (by decide) (by decide) hValue,
            ofFields_children ihLeft ihRight]
          rfl
      | some color =>
          have hColor := valued.setField_color color
          simp only [toJson, List.cons_append, List.nil_append,
            ofJson]
          rw [ofFields_setField (by decide) (by decide) hId,
            ofFields_setField (by decide) (by decide) hValue,
            ofFields_setField (by decide) (by decide) hColor,
            ofFields_children ihLeft ihRight]
          rfl

end Tree

------------------------------------------------------------
-- Frames
------------------------------------------------------------

theorem LineNumber.ofJson_writeLine (line : Option LineNumber) :
    ofJson (Frame.writeLine line) = .ok line := by
  cases line with
  | none => rfl
  | some line =>
      rw [Frame.writeLine, ofJson, Reading.optional_of_ne_null,
        Reading.word32_toNat]
      · exact congrArg Except.ok (dif_pos line.positive)
      · nofun

namespace Frame

/- A frame without the labels of its arrays. -/
def unlabelled (frame : Frame) : Frame :=
  { frame with pointers := frame.pointers.map fun _ => [] }

/- A label is written as an object, and only pairs are read. -/
theorem filterMap_ofJson?_toJson (labels : List PointerLabel) :
    (labels.map PointerLabel.toJson).filterMap
      PointerLabel.ofJson? = [] := by
  rw [List.filterMap_map, List.filterMap_eq_nil_iff]
  intro label _
  rfl

/- The arrays keep their places, and lose their labels. -/
theorem readPointers_writeNamed
    (pointers : Named (List PointerLabel)) :
    readPointers
        (writeNamed
          (fun labels => .array (labels.map PointerLabel.toJson))
          pointers) =
      .ok (pointers.map fun _ => []) := by
  have hRead (labels : List PointerLabel) :=
    Reading.list_anyValue (labels.map PointerLabel.toJson)
  have hNamed := Reading.mapping_writeNamed hRead pointers
  rw [readPointers, Reading.optional_of_ne_null, hNamed]
  · apply congrArg Except.ok
    ext1
    simp only [Named.entries_map, List.map_map,
      Function.comp_def, filterMap_ofJson?_toJson]
  · nofun

/- A frame is read without the labels that were written. -/
theorem ofJson_toJson (frame : Frame) :
    ofJson frame.toJson = .ok frame.unlabelled := by
  have hLine := LineNumber.ofJson_writeLine frame.line
  have hArrays :=
    Reading.mapping_writeNamed_self Reading.list_anyValue
      frame.arrays
  have hDicts :=
    Reading.mapping_writeNamed_self Reading.mapping_anyValue
      frame.dicts
  have hLinked :=
    Reading.mapping_writeNamed_self Reading.list_anyValue
      frame.linkedLists
  have hTrees :=
    Reading.mapping_writeNamed_self Tree.ofJson_toJson
      frame.trees
  simp [ofJson, toJson, Reading.record, setField, hLine,
    Reading.mapping_anyValue, hArrays, hDicts, hLinked, hTrees,
    readPointers_writeNamed, unlabelled, Except.map,
    Except.bind, bind, pure, Except.pure]

/- No array has a label. -/
def HasNoLabels (frame : Frame) : Prop :=
  ∀ entry ∈ frame.pointers.entries, entry.2 = []

/- Nothing is lost exactly when no array has a label. -/
theorem unlabelled_eq_self_iff (frame : Frame) :
    frame.unlabelled = frame ↔ frame.HasNoLabels := by
  have hPointers :
      frame.unlabelled = frame ↔
        (frame.pointers.map fun _ => []) =
          frame.pointers.map id := by
    rw [Named.map_id]
    cases frame
    simp [unlabelled]
  rw [hPointers, Named.ext_entries_iff, Named.entries_map,
    Named.entries_map, List.map_inj_left]
  simp only [Prod.mk.injEq, true_and, id, HasNoLabels, eq_comm]

end Frame

------------------------------------------------------------
-- Replies
------------------------------------------------------------

namespace Reply

/- A reply without the labels in its frames. -/
def unlabelled (reply : Reply) : Reply :=
  { reply with frames := reply.frames.map Frame.unlabelled }

/- A reply is read without the labels that were written. -/
theorem ofJson_toJson (reply : Reply) :
    ofJson reply.toJson = .ok reply.unlabelled := by
  have hFrames :
      Reading.list Frame.ofJson
          (.array (reply.frames.map Frame.toJson)) =
        .ok (reply.frames.map Frame.unlabelled) :=
    Reading.mapM_map_of_ok Frame.ofJson_toJson reply.frames
  cases hLabel : reply.complexity with
  | none =>
      simp [ofJson, toJson, hLabel, Reading.record, setField,
        hFrames, unlabelled, empty, Except.map, Except.bind,
        bind, pure, Except.pure]
  | some label =>
      simp [ofJson, toJson, hLabel, Reading.record, setField,
        hFrames, unlabelled, Reading.optional, Reading.text,
        Except.map, Except.bind, bind, pure, Except.pure]

/- A written reply reports no error. -/
theorem field?_error_toJson (reply : Reply) :
    reply.toJson.field? "error" = none := by
  rw [toJson]
  cases reply.complexity with
  | none => rfl
  | some label => rfl

/- A written reply is an answer that tells the same. -/
theorem ofAnswer_toJson (reply : Reply) :
    ofAnswer true reply.toJson = .ok reply.unlabelled := by
  rw [ofAnswer, field?_error_toJson, if_pos rfl, ofJson_toJson]
  rfl

/- Nothing is lost exactly when no frame has a label. -/
theorem unlabelled_eq_self_iff (reply : Reply) :
    reply.unlabelled = reply ↔
      ∀ frame ∈ reply.frames, frame.HasNoLabels := by
  have hFrames :
      reply.unlabelled = reply ↔
        reply.frames.map Frame.unlabelled =
          reply.frames.map id := by
    rw [List.map_id]
    cases reply
    simp [unlabelled]
  rw [hFrames, List.map_inj_left]
  simp only [id, Frame.unlabelled_eq_self_iff]

/-
  What is read of a written frame, or of the answer of a
  written reply, is the frame or reply without its labels; it
  is the same one exactly when there were none.
-/
theorem read_written
    (frame : Frame)
    (reply : Reply) :
    (Frame.ofJson frame.toJson = .ok frame.unlabelled ∧
      (Frame.ofJson frame.toJson = .ok frame ↔
        frame.HasNoLabels)) ∧
    (ofAnswer true reply.toJson = .ok reply.unlabelled ∧
      (ofAnswer true reply.toJson = .ok reply ↔
        ∀ frame ∈ reply.frames, frame.HasNoLabels)) := by
  refine ⟨⟨Frame.ofJson_toJson frame, ?_⟩,
    ofAnswer_toJson reply, ?_⟩
  · rw [Frame.ofJson_toJson, Except.ok.injEq,
      Frame.unlabelled_eq_self_iff]
  · rw [ofAnswer_toJson, Except.ok.injEq,
      unlabelled_eq_self_iff]

/-
  The label of an index is read from a pair; it is not read
  again from what is written of the frame.
-/
theorem written_label_lost :
    let pair := Json.array [.string "i", .integer 0]
    let document :=
      Json.object
        [("array_indices", .object [("a", .array [pair])])]
    let frame : Frame :=
      { Frame.empty with
        pointers := Named.ofList [("a", [⟨"i", 0⟩])] }
    let reply : Reply := ⟨[frame], none⟩
    Frame.ofJson document = .ok frame ∧
      Frame.ofJson frame.toJson ≠ .ok frame ∧
      ofAnswer true reply.toJson ≠ .ok reply := by
  intro pair document frame reply
  have hLabelled : ¬ frame.HasNoLabels :=
    fun hNone => nomatch hNone _ List.mem_cons_self
  refine ⟨rfl, ?_, ?_⟩
  · rw [Frame.ofJson_toJson, Ne, Except.ok.injEq,
      Frame.unlabelled_eq_self_iff]
    exact hLabelled
  · rw [ofAnswer_toJson, Ne, Except.ok.injEq,
      unlabelled_eq_self_iff]
    exact fun hNone => hLabelled (hNone frame List.mem_cons_self)

end Reply

end TracePlayer
