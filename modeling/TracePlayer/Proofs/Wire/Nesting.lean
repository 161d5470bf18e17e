import TracePlayer.Proofs.Json.Depth
import TracePlayer.Proofs.Trace.Walk
import TracePlayer.Proofs.Wire.RoundTrip

/-
  This file proves which replies of a tracer can be decoded.
  A reply is sent as the compact text of a document in which
  every level of a tree is one more object inside another. It
  is decoded, with the numbers of all its trees, as long as
  the document nests no deeper than the parser allows; a
  deeper one is refused as a whole.

  Main declarations:
    * `Frame.sent`, `Reply.sent`
    * `Reply.reread`, `Reply.ofAnswer_sent`
    * `Reply.height_add_four_le`
    * `Reply.depth_sent_le_iff_height`
    * `Reply.decode_of_depth_le`, `Reply.decode_of_lt_depth`
    * `Reply.decode_chain`
    * `Reply.decode_sent`
-/

namespace TracePlayer

variable {α β : Type}

------------------------------------------------------------
-- Values
------------------------------------------------------------

/- The values of a map, without their names. -/
def Named.values (m : Named α) : List α :=
  m.entries.map Prod.snd

namespace Tree

/- The values of the nodes. -/
def values : Tree → List Json
| empty => []
| node _ value _ left right =>
    value :: (left.values ++ right.values)

/- A tree whose values were changed. -/
def mapValues (f : Json → Json) : Tree → Tree
| empty => empty
| node id value color left right =>
    node id (f value) color (left.mapValues f)
      (right.mapValues f)

/- Changed values are not in the numbers. -/
theorem ids_mapValues
    (f : Json → Json)
    (tree : Tree) : (tree.mapValues f).ids = tree.ids := by
  induction tree with
  | empty => rfl
  | node id value color left right ihLeft ihRight =>
      rw [mapValues, ids_node, ids_node, ihLeft, ihRight]

end Tree

namespace Frame

/- All values of a frame. -/
def values (frame : Frame) : List Json :=
  frame.scalars.values ++ frame.arrays.values.flatten ++
    frame.dicts.values.flatMap Named.values ++
    frame.linkedLists.values.flatten ++
    frame.trees.values.flatMap Tree.values

/- A frame whose values were changed. -/
def mapValues
    (f : Json → Json)
    (frame : Frame) : Frame :=
  { frame with
    scalars := frame.scalars.map f
    arrays := frame.arrays.map (·.map f)
    dicts := frame.dicts.map (·.map f)
    linkedLists := frame.linkedLists.map (·.map f)
    trees := frame.trees.map (Tree.mapValues f) }

theorem mainTree_mapValues
    (f : Json → Json)
    (frame : Frame) :
    (frame.mapValues f).mainTree = frame.mainTree.mapValues f := by
  have hFound :
      (frame.trees.map (Tree.mapValues f)).get? mainTreeName =
        (frame.trees.get? mainTreeName).map
          (Tree.mapValues f) :=
    lookup_map_snd _ _ _
  rw [mainTree, mainTree, tree, tree, mapValues, hFound]
  cases frame.trees.get? mainTreeName <;> rfl

end Frame

/- All values of a reply. -/
def Reply.values (reply : Reply) : List Json :=
  reply.frames.flatMap Frame.values

------------------------------------------------------------
-- Sent Documents
------------------------------------------------------------

/- A label is sent as a pair. -/
def PointerLabel.sent (pointer : PointerLabel) : Json :=
  .array
    [.string pointer.label, .integer pointer.index.toNat]

/- A frame as a tracer sends it. -/
def Frame.sent (frame : Frame) : Json :=
  .object
    [ ("line_no", writeLine frame.line),
      ("prims", writeNamed id frame.scalars),
      ("lists", writeNamed .array frame.arrays),
      ("dicts", writeNamed (writeNamed id) frame.dicts),
      ("linked", writeNamed .array frame.linkedLists),
      ("trees", writeNamed Tree.toJson frame.trees),
      ( "array_indices",
        writeNamed
          (fun labels => .array (labels.map PointerLabel.sent))
          frame.pointers ) ]

/- A reply as a tracer sends it. -/
def Reply.sent (reply : Reply) : Json :=
  .object
    (("frames", .array (reply.frames.map Frame.sent)) ::
      match reply.complexity with
      | some label => [("complexity", .string label)]
      | none => [])

------------------------------------------------------------
-- Reading Sent Documents
------------------------------------------------------------

theorem PointerLabel.ofJson?_sent (pointer : PointerLabel) :
    ofJson? pointer.sent = some pointer := by
  have hLess := pointer.index.toNat_lt
  have hBound :
      0 ≤ (pointer.index.toNat : Int) ∧
        (pointer.index.toNat : Int) < 0x10000000000000000 := by
    omega
  simp [sent, ofJson?, index?, hBound]

/- The labels that were sent are read. -/
theorem Frame.readPointers_sent
    (pointers : Named (List PointerLabel)) :
    readPointers
        (writeNamed
          (fun labels => .array (labels.map PointerLabel.sent))
          pointers) =
      .ok pointers := by
  have hRead (labels : List PointerLabel) :=
    Reading.list_anyValue (labels.map PointerLabel.sent)
  have hNamed := Reading.mapping_writeNamed hRead pointers
  rw [readPointers, Reading.optional_of_ne_null, hNamed]
  · have hLabels (labels : List PointerLabel) :
        (labels.map PointerLabel.sent).filterMap
          PointerLabel.ofJson? = labels := by
      have hSent :
          PointerLabel.ofJson? ∘ PointerLabel.sent = some := by
        funext label
        rw [Function.comp_apply, PointerLabel.ofJson?_sent]
      rw [List.filterMap_map, hSent, List.filterMap_some]
    refine congrArg Except.ok ?_
    ext1
    simp only [Named.entries_map, List.map_map,
      Function.comp_def, hLabels, List.map_id']
  · intro hNull
    cases hNull

/- A frame is read as it was sent. -/
theorem Frame.ofJson_sent (frame : Frame) :
    ofJson frame.sent = .ok frame := by
  have hLine := LineNumber.ofJson_writeLine frame.line
  have hArrays :=
    Reading.mapping_writeNamed_self Reading.list_anyValue
      frame.arrays
  have hDicts :=
    Reading.mapping_writeNamed_self Reading.mapping_anyValue
      frame.dicts
  have hLinked :=
    Reading.mapping_writeNamed_self Reading.list_anyValue
      frame.linkedLists
  have hTrees :=
    Reading.mapping_writeNamed_self Tree.ofJson_toJson
      frame.trees
  simp [ofJson, sent, Reading.record, setField, hLine,
    Reading.mapping_anyValue, hArrays, hDicts, hLinked, hTrees,
    readPointers_sent, Except.map, Except.bind, bind, pure,
    Except.pure]

/- A reply is an answer, read as it was sent. -/
theorem Reply.ofAnswer_sent (reply : Reply) :
    ofAnswer true reply.sent = .ok reply := by
  have hNoError : reply.sent.field? "error" = none := by
    rw [sent]
    cases reply.complexity <;> rfl
  have hFrames :
      Reading.list Frame.ofJson
          (.array (reply.frames.map Frame.sent)) =
        .ok (reply.frames.map id) :=
    Reading.mapM_map_of_ok Frame.ofJson_sent reply.frames
  rw [List.map_id] at hFrames
  rw [ofAnswer, hNoError, if_pos rfl]
  cases reply with
  | mk frames complexity =>
      cases complexity with
      | none =>
          simp [ofJson, sent, Reading.record, setField, hFrames,
            empty, Except.map, Except.bind, bind, pure,
            Except.pure, Except.mapError]
      | some label =>
          simp [ofJson, sent, Reading.record, setField, hFrames,
            Reading.optional, Reading.text, Except.map,
            Except.bind, bind, pure, Except.pure,
            Except.mapError]

------------------------------------------------------------
-- Doubles That Are Read Again
------------------------------------------------------------

namespace Json

theorem reread_array (items : List Json) :
    reread (.array items) = .array (items.map reread) := by
  rw [reread, rereadItems_eq]

theorem reread_writeNamed
    {write : α → Json}
    {writeNew : β → Json}
    {change : α → β}
    (hWrite : ∀ a, reread (write a) = writeNew (change a))
    (m : Named α) :
    reread (Frame.writeNamed write m) =
      Frame.writeNamed writeNew (m.map change) := by
  rw [Frame.writeNamed, Frame.writeNamed, reread,
    rereadFields_eq]
  simp only [Named.entries_map, List.map_map,
    Function.comp_def, hWrite]

end Json

open Json

theorem Tree.reread_toJson (tree : Tree) :
    reread tree.toJson = (tree.mapValues reread).toJson := by
  induction tree with
  | empty => rfl
  | node id value color left right ihLeft ihRight =>
      cases color <;>
        simp [toJson, mapValues, reread, rereadFields, ihLeft,
          ihRight]

theorem Frame.reread_sent (frame : Frame) :
    reread frame.sent = (frame.mapValues reread).sent := by
  have hLine :
      reread (writeLine frame.line) = writeLine frame.line := by
    cases frame.line <;> rfl
  have hId (value : Json) :
      reread (id value) = id (reread value) :=
    rfl
  have hPointers :
      reread
          (writeNamed
            (fun labels => .array (labels.map PointerLabel.sent))
            frame.pointers) =
        writeNamed
          (fun labels => .array (labels.map PointerLabel.sent))
          (frame.pointers.map id) := by
    refine reread_writeNamed (fun labels => ?_) _
    rw [reread_array, List.map_map]
    rfl
  rw [Named.map_id] at hPointers
  simp only [sent, mapValues, reread, rereadFields, hLine,
    hPointers, reread_writeNamed hId,
    reread_writeNamed (reread_writeNamed hId),
    reread_writeNamed reread_array,
    reread_writeNamed Tree.reread_toJson]

/- A reply with the doubles that are read again. -/
def Reply.reread (reply : Reply) : Reply :=
  { reply with
    frames := reply.frames.map (Frame.mapValues Json.reread) }

theorem Reply.reread_sent (reply : Reply) :
    Json.reread reply.sent = reply.reread.sent := by
  have hFrames :
      (reply.frames.map Frame.sent).map Json.reread =
        (reply.frames.map (Frame.mapValues Json.reread)).map
          Frame.sent := by
    rw [List.map_map, List.map_map]
    exact List.map_congr_left fun frame _ =>
      frame.reread_sent
  cases reply with
  | mk frames complexity =>
      cases complexity <;>
        simp only [sent, Json.reread, rereadFields,
          rereadItems_eq, hFrames, Reply.reread]

/- The trees keep their numbers. -/
theorem Reply.ids_reread (reply : Reply) :
    (reply.reread.frames.map fun frame => frame.mainTree.ids) =
      reply.frames.map fun frame => frame.mainTree.ids := by
  rw [reread, List.map_map]
  refine List.map_congr_left fun frame _ => ?_
  rw [Function.comp_apply, Frame.mainTree_mapValues,
    Tree.ids_mapValues]

------------------------------------------------------------
-- Legal Documents
------------------------------------------------------------

/- A map of legal values is a legal object. -/
theorem legal_writeNamed
    {write : α → Json}
    {m : Named α}
    (hLegal : ∀ a ∈ m.values, (write a).Legal) :
    (Frame.writeNamed write m).Legal := by
  refine .object ?_ ?_
  · rw [List.map_map]
    exact m.distinct
  · intro entry hMem
    rcases List.mem_map.mp hMem with ⟨old, hOld, rfl⟩
    exact hLegal old.2 (List.mem_map_of_mem hOld)

theorem fitsWord_of_lt
    {n : Nat}
    (hLess : n < 0x10000000000000000) : FitsWord n := by
  unfold FitsWord
  omega

theorem Tree.legal_toJson
    {tree : Tree}
    (hValues : ∀ value ∈ tree.values, value.Legal) :
    tree.toJson.Legal := by
  induction tree with
  | empty => exact .null
  | node id value color left right ihLeft ihRight =>
      rw [values, List.forall_mem_cons, List.forall_mem_append]
        at hValues
      rcases hValues with ⟨hValue, hLeft, hRight⟩
      have hId : Legal (.integer id.toNat) :=
        .integer (fitsWord_of_lt id.toNat_lt)
      cases color with
      | none =>
          refine .object (by simp) ?_
          simp only [List.append_nil, List.cons_append,
            List.nil_append, List.forall_mem_cons]
          exact ⟨hId, hValue, ihLeft hLeft, ihRight hRight,
            nofun⟩
      | some color =>
          refine .object (by simp) ?_
          simp only [List.cons_append, List.nil_append,
            List.forall_mem_cons]
          exact ⟨hId, hValue, .string _, ihLeft hLeft,
            ihRight hRight, nofun⟩

theorem PointerLabel.legal_sent (pointer : PointerLabel) :
    pointer.sent.Legal := by
  refine .array ?_
  simp only [List.forall_mem_cons]
  exact ⟨.string _,
    .integer (fitsWord_of_lt pointer.index.toNat_lt), nofun⟩

theorem Frame.legal_sent
    {frame : Frame}
    (hValues : ∀ value ∈ frame.values, value.Legal) :
    frame.sent.Legal := by
  simp only [values, List.forall_mem_append,
    List.forall_mem_flatten, List.forall_mem_flatMap] at hValues
  rcases hValues with
    ⟨⟨⟨⟨hScalars, hArrays⟩, hDicts⟩, hLists⟩, hTrees⟩
  have hLine : (writeLine frame.line).Legal := by
    cases frame.line with
    | none => exact .null
    | some line =>
        have hLess := line.number.toNat_lt
        exact .integer (fitsWord_of_lt (by omega))
  refine .object (by simp) ?_
  simp only [List.forall_mem_cons]
  refine ⟨hLine, legal_writeNamed hScalars,
    legal_writeNamed fun items hMem => .array (hArrays items hMem),
    legal_writeNamed fun dict hMem =>
      legal_writeNamed (hDicts dict hMem),
    legal_writeNamed fun items hMem => .array (hLists items hMem),
    legal_writeNamed fun tree hMem =>
      Tree.legal_toJson (hTrees tree hMem),
    legal_writeNamed fun labels _ => .array ?_, nofun⟩
  intro label hMem
  rcases List.mem_map.mp hMem with ⟨pointer, _, rfl⟩
  exact pointer.legal_sent

theorem Reply.legal_sent
    {reply : Reply}
    (hValues : ∀ value ∈ reply.values, value.Legal) :
    reply.sent.Legal := by
  have hFrames :
      Legal (.array (reply.frames.map Frame.sent)) := by
    refine .array fun item hMem => ?_
    rcases List.mem_map.mp hMem with ⟨frame, hFrame, rfl⟩
    exact Frame.legal_sent fun value hValue =>
      hValues value (List.mem_flatMap_of_mem hFrame hValue)
  cases reply with
  | mk frames complexity =>
      cases complexity with
      | none =>
          refine .object (by simp) ?_
          exact List.forall_mem_singleton.mpr hFrames
      | some label =>
          refine .object (by simp) ?_
          simp only [List.forall_mem_cons]
          exact ⟨hFrames, .string label, nofun⟩

------------------------------------------------------------
-- Depth of Documents
------------------------------------------------------------

theorem depth_array_le_iff
    (items : List Json)
    (bound : Nat) :
    (Json.array items).depth ≤ bound + 1 ↔
      ∀ item ∈ items, item.depth ≤ bound := by
  rw [depth, ← depthItems_le_iff]
  omega

theorem depth_writeNamed_le_iff
    (write : α → Json)
    (m : Named α)
    (bound : Nat) :
    (Frame.writeNamed write m).depth ≤ bound + 1 ↔
      ∀ a ∈ m.values, (write a).depth ≤ bound := by
  have hEntries :
      (∀ a ∈ m.values, (write a).depth ≤ bound) ↔
        depthFields
            (m.entries.map fun entry =>
              (entry.1, write entry.2)) ≤ bound := by
    rw [depthFields_le_iff, List.forall_mem_map,
      Named.values, List.forall_mem_map]
  rw [hEntries, Frame.writeNamed, depth]
  omega

/- What is in a map nests less deep than the map. -/
theorem depth_lt_writeNamed
    (write : α → Json)
    {m : Named α}
    {a : α}
    (hMem : a ∈ m.values) :
    (write a).depth < (Frame.writeNamed write m).depth := by
  cases hDepth : (Frame.writeNamed write m).depth with
  | zero =>
      rw [Frame.writeNamed, depth] at hDepth
      omega
  | succ bound =>
      have hBound :=
        (depth_writeNamed_le_iff write m bound).mp
          (Nat.le_of_eq hDepth) a hMem
      omega

/- Every level of a tree is one more object. -/
theorem Tree.levels_le_depth (tree : Tree) :
    tree.levels ≤ tree.toJson.depth := by
  induction tree with
  | empty => exact Nat.le_refl 0
  | node id value color left right ihLeft ihRight =>
      cases color <;>
        simp only [toJson, levels, depth, depthFields,
          List.cons_append, List.nil_append] <;> omega

/- With plain values, a tree is as deep as it is high. -/
theorem Tree.depth_eq_levels
    {tree : Tree}
    (hPlain : ∀ value ∈ tree.values, value.depth = 0) :
    tree.toJson.depth = tree.levels := by
  induction tree with
  | empty => rfl
  | node id value color left right ihLeft ihRight =>
      rw [values, List.forall_mem_cons, List.forall_mem_append]
        at hPlain
      rcases hPlain with ⟨hValue, hLeft, hRight⟩
      have hLeft := ihLeft hLeft
      have hRight := ihRight hRight
      cases color <;>
        simp only [toJson, levels, depth, depthFields,
          List.cons_append, List.nil_append] <;> omega

/- A frame nests as deep as its parts. -/
theorem Frame.depth_sent_le_iff
    (frame : Frame)
    (bound : Nat) :
    frame.sent.depth ≤ bound + 1 ↔
      (writeNamed id frame.scalars).depth ≤ bound ∧
        (writeNamed .array frame.arrays).depth ≤ bound ∧
        (writeNamed (writeNamed id) frame.dicts).depth ≤ bound ∧
        (writeNamed .array frame.linkedLists).depth ≤ bound ∧
        (writeNamed Tree.toJson frame.trees).depth ≤ bound ∧
        (writeNamed
          (fun labels => .array (labels.map PointerLabel.sent))
          frame.pointers).depth ≤ bound := by
  have hLine : (writeLine frame.line).depth = 0 := by
    cases frame.line <;> rfl
  simp only [sent, depth, depthFields, hLine]
  omega

theorem Reply.depth_sent_le_iff
    (reply : Reply)
    (bound : Nat) :
    reply.sent.depth ≤ bound + 2 ↔
      ∀ frame ∈ reply.frames, frame.sent.depth ≤ bound := by
  have hFrames :=
    depth_array_le_iff (reply.frames.map Frame.sent) bound
  rw [List.forall_mem_map] at hFrames
  rw [← hFrames]
  cases reply with
  | mk frames complexity =>
      cases complexity <;>
        simp only [sent, depth, depthFields] <;> omega

/- A tree is inside four containers that are no part of it. -/
theorem Reply.height_add_four_le
    {reply : Reply}
    {frame : Frame}
    (hFrame : frame ∈ reply.frames)
    {tree : Tree}
    (hTree : tree ∈ frame.trees.values) :
    tree.height + 4 ≤ reply.sent.depth := by
  have hLevels := tree.levels_le_depth
  have hTrees := depth_lt_writeNamed Tree.toJson hTree
  rw [Tree.height_eq]
  by_contra hShallow
  have hReply :=
    (reply.depth_sent_le_iff (tree.levels + 1)).mp (by omega)
  have hParts :=
    (frame.depth_sent_le_iff tree.levels).mp
      (hReply frame hFrame)
  have hBound := hParts.2.2.2.2.1
  omega

/- No value of a reply is an array or an object. -/
def Reply.IsPlain (reply : Reply) : Prop :=
  ∀ value ∈ reply.values, value.depth = 0

/- Plain values are one level deep in a map. -/
theorem depth_scalars_of_plain
    {m : Named Json}
    (hPlain : ∀ value ∈ m.values, value.depth = 0)
    (bound : Nat) :
    (Frame.writeNamed id m).depth ≤ bound + 1 :=
  (depth_writeNamed_le_iff id m bound).mpr fun value hMem =>
    (hPlain value hMem).trans_le (Nat.zero_le bound)

/- Arrays of plain values are two levels deep in a map. -/
theorem depth_arrays_of_plain
    {m : Named (List Json)}
    (hPlain :
      ∀ items ∈ m.values, ∀ item ∈ items, item.depth = 0)
    (bound : Nat) :
    (Frame.writeNamed .array m).depth ≤ bound + 2 := by
  refine (depth_writeNamed_le_iff _ m _).mpr ?_
  intro items hItems
  refine (depth_array_le_iff items bound).mpr ?_
  intro item hMem
  exact (hPlain items hItems item hMem).trans_le
    (Nat.zero_le bound)

/- Labels are three levels deep in a frame. -/
theorem depth_pointers
    (pointers : Named (List PointerLabel))
    (bound : Nat) :
    (Frame.writeNamed
      (fun labels => .array (labels.map PointerLabel.sent))
      pointers).depth ≤ bound + 3 := by
  refine (depth_writeNamed_le_iff _ pointers _).mpr ?_
  intro labels _
  refine (depth_array_le_iff _ _).mpr ?_
  intro item hMem
  rcases List.mem_map.mp hMem with ⟨pointer, _, rfl⟩
  exact Nat.le_add_left 1 bound

/- A plain frame nests as deep as its trees. -/
theorem Frame.depth_sent_le_iff_height
    {frame : Frame}
    (hPlain : ∀ value ∈ frame.values, value.depth = 0)
    (bound : Nat) :
    frame.sent.depth ≤ bound + 4 ↔
      ∀ tree ∈ frame.trees.values, tree.height ≤ bound + 2 := by
  simp only [values, List.forall_mem_append,
    List.forall_mem_flatten, List.forall_mem_flatMap] at hPlain
  rcases hPlain with
    ⟨⟨⟨⟨hScalars, hArrays⟩, hDicts⟩, hLists⟩, hTrees⟩
  have hDictDepth :
      (writeNamed (writeNamed id) frame.dicts).depth ≤
        bound + 3 :=
    (depth_writeNamed_le_iff _ _ _).mpr fun dict hDict =>
      depth_scalars_of_plain (hDicts dict hDict) _
  have hTreeDepth :
      (writeNamed Tree.toJson frame.trees).depth ≤ bound + 3 ↔
        ∀ tree ∈ frame.trees.values, tree.height ≤ bound + 2 := by
    rw [depth_writeNamed_le_iff]
    refine forall₂_congr fun tree hMem => ?_
    rw [Tree.depth_eq_levels (hTrees tree hMem),
      Tree.height_eq]
  rw [depth_sent_le_iff, hTreeDepth]
  constructor
  · intro hParts
    exact hParts.2.2.2.2.1
  · intro hHeights
    exact ⟨depth_scalars_of_plain hScalars _,
      depth_arrays_of_plain hArrays _, hDictDepth,
      depth_arrays_of_plain hLists _, hHeights,
      depth_pointers frame.pointers _⟩

/- A plain reply nests as deep as its trees. -/
theorem Reply.depth_sent_le_iff_height
    {reply : Reply}
    (hPlain : reply.IsPlain)
    (bound : Nat) :
    reply.sent.depth ≤ bound + 6 ↔
      ∀ frame ∈ reply.frames, ∀ tree ∈ frame.trees.values,
        tree.height ≤ bound + 2 := by
  rw [depth_sent_le_iff]
  refine forall₂_congr fun frame hFrame => ?_
  exact Frame.depth_sent_le_iff_height
    (fun value hMem =>
      hPlain value (List.mem_flatMap_of_mem hFrame hMem)) bound

------------------------------------------------------------
-- Decoding
------------------------------------------------------------

namespace Reply

/- A reply that is not too deep is decoded. -/
theorem decode_of_depth_le
    {reply : Reply}
    (hLegal : ∀ value ∈ reply.values, value.Legal)
    (hDepth : reply.sent.depth ≤ nestingLimit) :
    decode true (compact reply.sent) = .ok reply.reread := by
  rw [decode, parse_compact (legal_sent hLegal) hDepth]
  dsimp only
  rw [reread_sent, ofAnswer_sent]

/- A reply that is too deep is refused for its depth. -/
theorem decode_of_lt_depth
    {reply : Reply}
    (hLegal : ∀ value ∈ reply.values, value.Legal)
    (hDepth : nestingLimit < reply.sent.depth) :
    ∃ column : Nat,
      decode true (compact reply.sent) =
        .error (.invalidReply
          ("recursion limit exceeded at line 1 column " ++
            toString column)) := by
  rcases parse_compact_tooDeep (legal_sent hLegal) hDepth with
    ⟨bytes, hParse⟩
  rcases message_tooDeep reply.sent bytes with
    ⟨column, hMessage⟩
  refine ⟨column, ?_⟩
  rw [decode, hParse]
  dsimp only
  rw [hMessage]

end Reply

------------------------------------------------------------
-- Chains
------------------------------------------------------------

namespace Tree

/- A degenerate tree: only right children. -/
def chain : Nat → Tree
| 0 => empty
| n + 1 => node (UInt64.ofNat n) .null none empty (chain n)

theorem height_chain (n : Nat) : (chain n).height = n := by
  rw [height_eq]
  induction n with
  | zero => rfl
  | succ n ih =>
      rw [chain, levels, levels, ih]
      omega

theorem values_chain (n : Nat) :
    (chain n).values = List.replicate n .null := by
  induction n with
  | zero => rfl
  | succ n ih =>
      rw [chain, values, values, ih, List.nil_append,
        List.replicate_succ]

end Tree

namespace Reply

/- A reply with one frame, which reports one main tree. -/
def ofTree (tree : Tree) : Reply :=
  { frames :=
      [ { Frame.empty with
          trees := Named.ofList [(mainTreeName, tree)] } ]
    complexity := none }

theorem values_ofTree (tree : Tree) :
    (ofTree tree).values = tree.values := by
  have hValues :
      (ofTree tree).values = (tree.values ++ []) ++ [] :=
    rfl
  rw [hValues, List.append_nil, List.append_nil]

theorem ofTree_chain_null
    {n : Nat}
    {value : Json}
    (hMem : value ∈ (ofTree (.chain n)).values) :
    value = .null := by
  rw [values_ofTree, Tree.values_chain] at hMem
  exact List.eq_of_mem_replicate hMem

theorem ofTree_chain_legal
    (n : Nat) :
    ∀ value ∈ (ofTree (.chain n)).values, value.Legal := by
  intro value hMem
  rw [ofTree_chain_null hMem]
  exact .null

theorem depth_ofTree_chain_le_iff (n : Nat) :
    (ofTree (.chain n)).sent.depth ≤ nestingLimit ↔
      n ≤ 123 := by
  have hPlain : (ofTree (.chain n)).IsPlain := by
    intro value hMem
    rw [ofTree_chain_null hMem]
    rfl
  have hHeights := depth_sent_le_iff_height hPlain 121
  have hValues :
      (Named.ofList [(mainTreeName, Tree.chain n)]).values =
        [Tree.chain n] :=
    rfl
  simp only [ofTree, List.forall_mem_singleton, hValues,
    Tree.height_chain] at hHeights
  exact hHeights

/- A chain is decoded when it has at most 123 nodes. -/
theorem decode_chain (n : Nat) :
    (∃ read,
      decode true (compact (ofTree (.chain n)).sent) =
        .ok read) ↔
      n ≤ 123 := by
  have hLegal := ofTree_chain_legal n
  rw [← depth_ofTree_chain_le_iff]
  constructor
  · intro hRead
    by_contra hDeep
    rcases hRead with ⟨read, hRead⟩
    rcases decode_of_lt_depth hLegal (Nat.lt_of_not_le hDeep)
      with ⟨column, hRefused⟩
    rw [hRead] at hRefused
    cases hRefused
  · intro hDepth
    exact ⟨_, decode_of_depth_le hLegal hDepth⟩

/-
  A reply is decoded, with the numbers of every main tree, when
  its document nests no deeper than the parser allows, and
  refused as a whole otherwise. So no tree of more than 123
  levels can be decoded, and without nested values every reply
  can whose trees have no more.
-/
theorem decode_sent
    (reply : Reply)
    (hLegal : ∀ value ∈ reply.values, value.Legal) :
    (reply.sent.depth ≤ nestingLimit →
      ∃ read,
        decode true (compact reply.sent) = .ok read ∧
          (read.frames.map fun frame => frame.mainTree.ids) =
            reply.frames.map fun frame => frame.mainTree.ids) ∧
    (nestingLimit < reply.sent.depth →
      ∃ column : Nat,
        decode true (compact reply.sent) =
          .error (.invalidReply
            ("recursion limit exceeded at line 1 column " ++
              toString column))) ∧
    (∀ frame ∈ reply.frames, ∀ tree ∈ frame.trees.values,
      tree.height + 4 ≤ reply.sent.depth) ∧
    (reply.IsPlain →
      (reply.sent.depth ≤ nestingLimit ↔
        ∀ frame ∈ reply.frames, ∀ tree ∈ frame.trees.values,
          tree.height ≤ 123)) :=
  ⟨fun hDepth =>
      ⟨reply.reread, decode_of_depth_le hLegal hDepth,
        reply.ids_reread⟩,
    decode_of_lt_depth hLegal,
    fun _ hFrame _ hTree => height_add_four_le hFrame hTree,
    fun hPlain => depth_sent_le_iff_height hPlain 121⟩

/- The longest chain that is decoded, with its numbers. -/
theorem decode_longest_chain :
    (∀ value ∈ (ofTree (.chain 123)).values, value.Legal) ∧
      ∃ read,
        decode true (compact (ofTree (.chain 123)).sent) =
            .ok read ∧
          (read.frames.map fun frame => frame.mainTree.ids) =
            [(Tree.chain 123).ids] :=
  have hLegal := ofTree_chain_legal 123
  have hDepth := (depth_ofTree_chain_le_iff 123).mpr
    (Nat.le_refl 123)
  ⟨hLegal, (decode_sent _ hLegal).1 hDepth⟩

/- A chain of 124 nodes makes its reply undecodable. -/
theorem decode_chain_refused :
    ¬ ∃ read,
      decode true (compact (ofTree (.chain 124)).sent) =
        .ok read := by
  rw [decode_chain]
  decide

end Reply

end TracePlayer
