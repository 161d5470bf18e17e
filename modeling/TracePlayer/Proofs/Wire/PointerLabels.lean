import TracePlayer.Proofs.Json.WellFormed
import TracePlayer.Proofs.View.Entries
import TracePlayer.Proofs.Wire.Answers
import TracePlayer.Proofs.Wire.RoundTrip

/-
  This file proves that the labels of a frame stay apart from
  the rest of it: whatever is in their arrays, the frame is
  read or refused as before, every array keeps its place, and
  each item counts on its own. In a view every array has the
  labels of its frame.

  Main declarations:
    * `PointerLabel.Means`, `PointerLabel.Labels`
    * `Frame.fieldsOf`, `Frame.labelArrays?`
    * `Frame.relabel`, `Frame.ofJson_relabel`
    * `Frame.pointers_of_ofJson`
    * `Frame.KeepsLabelsApart`, `Frame.labels_apart`
-/

namespace TracePlayer

------------------------------------------------------------
-- Labels in Items
------------------------------------------------------------

namespace PointerLabel

variable {item : Json}
variable {items : List Json}
variable {pointer : PointerLabel}
variable {labels : List PointerLabel}

/-
  The items that are labels: a string with a truth value or
  with a whole number of 64 bits.
-/
inductive Means : Json → PointerLabel → Prop where
| flag (label : String) (value : Bool) :
    Means (.array [.string label, .bool value])
      ⟨label, if value then 1 else 0⟩
| number (label : String) (index : UInt64) :
    Means (.array [.string label, .integer index.toNat])
      ⟨label, index⟩

/- The labels among items, in their order. -/
inductive Labels : List Json → List PointerLabel → Prop where
| nil : Labels [] []
| label
    {item : Json}
    {pointer : PointerLabel}
    {rest : List Json}
    {labels : List PointerLabel} :
    Means item pointer →
    Labels rest labels →
    Labels (item :: rest) (pointer :: labels)
| other
    {item : Json}
    {rest : List Json}
    {labels : List PointerLabel} :
    (∀ pointer, ¬ Means item pointer) →
    Labels rest labels →
    Labels (item :: rest) labels

/- A number of 64 bits is the index that it stands for. -/
theorem index?_toNat (index : UInt64) :
    index? (.integer index.toNat) = some index := by
  have hLess := index.toNat_lt
  have hWord :
      0 ≤ (index.toNat : Int) ∧
        (index.toNat : Int) < 0x10000000000000000 := by
    omega
  rw [index?, if_pos hWord, Int.toNat_natCast,
    UInt64.ofNat_toNat]

/- Only these items are read as labels. -/
theorem ofJson?_eq_some_iff :
    ofJson? item = some pointer ↔ Means item pointer := by
  constructor
  · intro hRead
    unfold ofJson? at hRead
    split at hRead
    case h_1 label value =>
        rcases Option.map_eq_some_iff.mp hRead with
          ⟨index, hIndex, rfl⟩
        cases value with
        | bool flag =>
            cases hIndex
            exact .flag label flag
        | integer n =>
            rw [index?, Option.ite_none_right_eq_some,
              Option.some.injEq] at hIndex
            rcases hIndex with ⟨hWord, rfl⟩
            have hNumber :
                n = ((UInt64.ofNat n.toNat).toNat : Int) := by
              have hLess : n.toNat < UInt64.size := by
                change n.toNat < 0x10000000000000000
                omega
              rw [UInt64.toNat_ofNat_of_lt' hLess]
              omega
            have hMeans := Means.number label (.ofNat n.toNat)
            rwa [← hNumber] at hMeans
        | null | double => cases hIndex
        | string | array | object => cases hIndex
    case h_2 => cases hRead
  · rintro (⟨label, flag⟩ | ⟨label, index⟩)
    · rfl
    · rw [ofJson?, index?_toNat]
      rfl

/- An item without a label is no label. -/
theorem ofJson?_eq_none_iff :
    ofJson? item = none ↔ ∀ pointer, ¬ Means item pointer := by
  rw [Option.eq_none_iff_forall_ne_some]
  simp only [ne_eq, ofJson?_eq_some_iff]

/- The labels that are read are those among the items. -/
theorem labels_iff :
    Labels items labels ↔ items.filterMap ofJson? = labels := by
  induction items generalizing labels with
  | nil =>
      constructor
      · rintro ⟨⟩
        rfl
      · rintro rfl
        exact .nil
  | cons item rest ih =>
      cases hItem : ofJson? item with
      | none =>
          have hOther := ofJson?_eq_none_iff.mp hItem
          rw [List.filterMap_cons_none hItem, ← ih]
          constructor
          · rintro (_ | ⟨hMeans, _⟩ | ⟨_, hRest⟩)
            · exact absurd hMeans (hOther _)
            · exact hRest
          · exact .other hOther
      | some pointer =>
          have hMeans := ofJson?_eq_some_iff.mp hItem
          rw [List.filterMap_cons_some hItem]
          constructor
          · rintro (_ | ⟨hSame, hRest⟩ | ⟨hOther, _⟩)
            · rw [ofJson?_eq_some_iff.mpr hSame,
                Option.some.injEq] at hItem
              rw [hItem, ih.mp hRest]
            · exact absurd hMeans (hOther _)
          · rintro rfl
            exact .label hMeans (ih.mpr rfl)

end PointerLabel

------------------------------------------------------------
-- Frame Documents
------------------------------------------------------------

namespace Frame

open Reply (Leaves leaves_cons)

/-
  The fields of a frame document: those of an object, or the
  items of an array under the names of their places.
-/
def fieldsOf : Json → List (String × Json)
| .object fields => fields
| .array items => fieldNames.zip items
| .null | .bool _ | .integer _ => []
| .double _ | .string _ => []

/- The value that holds the labels of a frame document. -/
def labelArrays? (document : Json) : Option Json :=
  (fieldsOf document).lookup "array_indices"

/- Whether a value can hold labels: null, or arrays by name. -/
def HoldsArrays (value : Json) : Prop :=
  value = .null ∨
    ∃ fields,
      value = .object fields ∧
        ∀ field ∈ fields, ∃ items, field.2 = .array items

/- Change the items of an array under a name. -/
def relabelEntry
    (change : String → List Json → List Json)
    (entry : String × Json) : String × Json :=
  match entry.2 with
  | .array items => (entry.1, .array (change entry.1 items))
  | _ => entry

/- Change the items of the arrays in a value. -/
def relabelValue
    (change : String → List Json → List Json) : Json → Json
| .object entries => .object (entries.map (relabelEntry change))
| other => other

/- Change the items of the arrays for labels in a field. -/
def relabelField
    (change : String → List Json → List Json)
    (field : String × Json) : String × Json :=
  if field.1 = "array_indices" then
    (field.1, relabelValue change field.2)
  else
    field

/- Change the items of the arrays for labels in a document. -/
def relabel
    (change : String → List Json → List Json) : Json → Json
| .object fields => .object (fields.map (relabelField change))
| .array items => .array (items.modify 6 (relabelValue change))
| other => other

variable {change : String → List Json → List Json}
variable {document value : Json}
variable {fields : List (String × Json)}
variable {frame next : Frame}

/- The fields of a changed document are changed fields. -/
theorem fieldsOf_relabel
    (change : String → List Json → List Json)
    (document : Json) :
    fieldsOf (relabel change document) =
      (fieldsOf document).map (relabelField change) := by
  cases document with
  | object fields => rfl
  | array items =>
      -- Only the seventh place has that name.
      rcases items with _ | ⟨a, _ | ⟨b, _ | ⟨c, _ | ⟨d, items⟩⟩⟩⟩
      · rfl
      · rfl
      · rfl
      · rfl
      · rcases items with _ | ⟨e, _ | ⟨f, _ | ⟨g, rest⟩⟩⟩
        · rfl
        · rfl
        · rfl
        · rfl
  | null | bool | integer => rfl
  | double | string => rfl

/- A change keeps the name of a field. -/
theorem fst_relabelField
    (change : String → List Json → List Json)
    (field : String × Json) :
    (relabelField change field).1 = field.1 := by
  unfold relabelField
  split <;> rfl

/- A change keeps the name of an array. -/
theorem fst_relabelEntry
    (change : String → List Json → List Json)
    (entry : String × Json) :
    (relabelEntry change entry).1 = entry.1 := by
  unfold relabelEntry
  split <;> rfl

------------------------------------------------------------
-- Reading Labels
------------------------------------------------------------

/- The fields of an object. -/
def entriesOf : Json → List (String × Json)
| .object fields => fields
| _ => []

/- The items of an array. -/
def itemsOf : Json → List Json
| .array items => items
| _ => []

/- The labels of an array under its name. -/
def labelsOf (entry : String × Json) :
    String × List PointerLabel :=
  (entry.1, (itemsOf entry.2).filterMap PointerLabel.ofJson?)

/- Arrays by distinct names are read, whatever they hold. -/
theorem exists_readPointers
    (hHolds : HoldsArrays value)
    (hNames : ((entriesOf value).map Prod.fst).Nodup) :
    ∃ pointers,
      readPointers value = .ok pointers ∧
        pointers.entries = (entriesOf value).map labelsOf := by
  rcases hHolds with rfl | ⟨fields, rfl, hArrays⟩
  · exact ⟨Named.empty, rfl, rfl⟩
  · have hDistinct :
        ((fields.map fun entry =>
          (entry.1, itemsOf entry.2)).map Prod.fst).Nodup := by
      rwa [List.map_map]
    let arrays : Named (List Json) := ⟨_, hDistinct⟩
    have hItems :
        fields.mapM
            (Reading.field (Reading.list anyValue)) =
          .ok arrays.entries := by
      rw [mapM_eq_ok_iff, List.map_map]
      apply List.map_congr_left
      intro entry hMem
      rcases entry with ⟨name, value⟩
      rcases hArrays _ hMem with ⟨items, rfl⟩
      rw [Reading.field, Reading.list_anyValue]
      rfl
    have hRead :
        Reading.mapping (Reading.list anyValue)
            (.object fields) =
          .ok arrays := by
      rw [Reading.mapping, hItems, Except.map,
        Named.ofList_entries]
    refine
      ⟨arrays.map fun items =>
        items.filterMap PointerLabel.ofJson?, ?_, ?_⟩
    · rw [readPointers, Reading.optional_of_ne_null, hRead]
      · rfl
      · intro hNull
        cases hNull
    · rw [Named.entries_map, List.map_map]
      rfl

/- The arrays of a changed value are changed arrays. -/
theorem entriesOf_relabelValue
    (change : String → List Json → List Json)
    (value : Json) :
    entriesOf (relabelValue change value) =
      (entriesOf value).map (relabelEntry change) := by
  cases value with
  | object entries => rfl
  | null | bool | integer => rfl
  | double | string | array => rfl

/- A changed value can hold labels if the value can. -/
theorem HoldsArrays.relabelValue
    (hHolds : HoldsArrays value)
    (change : String → List Json → List Json) :
    HoldsArrays (relabelValue change value) := by
  rcases hHolds with rfl | ⟨entries, rfl, hArrays⟩
  · exact .inl rfl
  · refine .inr ⟨_, rfl, fun field hMem => ?_⟩
    rcases List.mem_map.mp hMem with ⟨entry, hEntry, rfl⟩
    rcases hArrays entry hEntry with ⟨items, hItems⟩
    refine ⟨change entry.1 items, ?_⟩
    rw [relabelEntry, hItems]

/-
  Whatever the arrays hold, labels are read for the same
  arrays in the same order.
-/
theorem exists_readPointers_relabelValue
    (hHolds : HoldsArrays value)
    (hNames : ((entriesOf value).map Prod.fst).Nodup)
    (change : String → List Json → List Json) :
    ∃ pointers changed,
      readPointers value = .ok pointers ∧
        readPointers (relabelValue change value) = .ok changed ∧
        (changed.map fun _ => ([] : List PointerLabel)) =
          pointers.map fun _ => [] := by
  have hChanged :
      ((entriesOf (relabelValue change value)).map
        Prod.fst).Nodup := by
    rw [entriesOf_relabelValue, List.map_map]
    simpa only [Function.comp_def, fst_relabelEntry] using hNames
  rcases exists_readPointers hHolds hNames with
    ⟨pointers, hRead, hEntries⟩
  rcases exists_readPointers (hHolds.relabelValue change)
      hChanged with
    ⟨changed, hReadChanged, hChangedEntries⟩
  refine ⟨pointers, changed, hRead, hReadChanged, ?_⟩
  ext1
  rw [Named.entries_map, Named.entries_map, hEntries,
    hChangedEntries, entriesOf_relabelValue]
  simp only [List.map_map, Function.comp_def, labelsOf,
    fst_relabelEntry]

------------------------------------------------------------
-- Reading Frames
------------------------------------------------------------

/- Other fields are read the same, whatever the labels are. -/
theorem map_unlabelled_setField
    {name : String}
    (hName : name ≠ "array_indices")
    (frame : Frame)
    (value : Json) :
    (frame.setField (name, value)).map unlabelled =
      frame.unlabelled.setField (name, value) := by
  unfold setField
  dsimp only
  rw [if_neg hName, if_neg hName]
  repeat'
    split
    · rw [map_map_except]
      rfl
  rfl

/- Labels are read into their own place. -/
theorem setField_labels
    (frame : Frame)
    (value : Json) :
    frame.setField ("array_indices", value) =
      (readPointers value).map fun pointers =>
        { frame with pointers := pointers } := by
  simp [setField]

/-
  A document in which labels can be told apart: its fields and
  the arrays for labels have distinct names.
-/
structure TakesLabels (document : Json) : Prop where
  fields : ((fieldsOf document).map Prod.fst).Nodup
  holds {value : Json} :
    labelArrays? document = some value → HoldsArrays value
  entries {value : Json} :
    labelArrays? document = some value →
      ((entriesOf value).map Prod.fst).Nodup

/-
  One field is read as well whatever its arrays hold, into
  frames that differ in labels only.
-/
theorem map_unlabelled_setField_relabelField
    {field : String × Json}
    (hHolds : field.1 = "array_indices" → HoldsArrays field.2)
    (hEntries :
      field.1 = "array_indices" →
        ((entriesOf field.2).map Prod.fst).Nodup)
    (hSame : next.unlabelled = frame.unlabelled)
    (change : String → List Json → List Json) :
    (next.setField (relabelField change field)).map unlabelled =
      (frame.setField field).map unlabelled := by
  rcases field with ⟨name, value⟩
  unfold relabelField
  split
  case isTrue hName =>
      dsimp only at hName hHolds hEntries
      subst hName
      rcases exists_readPointers_relabelValue (hHolds rfl)
          (hEntries rfl) change with
        ⟨pointers, changed, hRead, hChanged, hPlaces⟩
      have hPlaced :
          { next.unlabelled with
              pointers := changed.map fun _ => [] } =
            { frame.unlabelled with
              pointers := pointers.map fun _ => [] } := by
        rw [hSame, hPlaces]
      rw [setField_labels, setField_labels, hRead, hChanged]
      exact congrArg Except.ok hPlaced
  case isFalse hName =>
      rw [map_unlabelled_setField hName,
        map_unlabelled_setField hName, hSame]

/- Fields are read in turn, whatever their arrays hold. -/
theorem map_unlabelled_foldlM_relabelField
    (hHolds :
      ∀ field ∈ fields,
        field.1 = "array_indices" → HoldsArrays field.2)
    (hEntries :
      ∀ field ∈ fields,
        field.1 = "array_indices" →
          ((entriesOf field.2).map Prod.fst).Nodup)
    (hSame : next.unlabelled = frame.unlabelled)
    (change : String → List Json → List Json) :
    ((fields.map (relabelField change)).foldlM
        setField next).map unlabelled =
      (fields.foldlM setField frame).map unlabelled := by
  induction fields generalizing frame next with
  | nil => exact congrArg Except.ok hSame
  | cons field rest ih =>
      rw [List.forall_mem_cons] at hHolds hEntries
      have hField :=
        map_unlabelled_setField_relabelField hHolds.1
          hEntries.1 hSame change
      rw [List.map_cons, List.foldlM_cons, List.foldlM_cons]
      rcases cases_of_map_eq_map hField with
        ⟨mismatch, hNext, hFrame⟩ |
          ⟨nextRead, frameRead, hNext, hFrame, hRead⟩
      · rw [hNext, hFrame]
        rfl
      · rw [hNext, hFrame]
        exact ih hHolds.2 hEntries.2 hRead

/- Fields of a document whose labels are told apart. -/
theorem TakesLabels.lookup
    (hTakes : TakesLabels document)
    {field : String × Json}
    (hMem : field ∈ fieldsOf document)
    (hName : field.1 = "array_indices") :
    labelArrays? document = some field.2 := by
  have hFound := lookup_of_mem hTakes.fields hMem
  rwa [hName] at hFound

/-
  Whether a frame is read, and all of it except the labels, is
  independent of what the arrays for labels hold.
-/
theorem ofJson_relabel
    (hTakes : TakesLabels document)
    (change : String → List Json → List Json) :
    (ofJson (relabel change document)).map unlabelled =
      (ofJson document).map unlabelled := by
  have hFields :
      ((fieldsOf (relabel change document)).foldlM
          setField empty).map unlabelled =
        ((fieldsOf document).foldlM
          setField empty).map unlabelled := by
    rw [fieldsOf_relabel]
    apply map_unlabelled_foldlM_relabelField
    · intro field hMem hName
      exact hTakes.holds (hTakes.lookup hMem hName)
    · intro field hMem hName
      exact hTakes.entries (hTakes.lookup hMem hName)
    · rfl
  cases document with
  | object fields => exact hFields
  | array items =>
      have hLength :
          (items.modify 6 (relabelValue change)).length =
            items.length :=
        List.length_modify ..
      rw [relabel] at hFields ⊢
      unfold ofJson Reading.record
      dsimp only [fieldsOf] at hFields ⊢
      rw [hLength]
      rcases cases_of_map_eq_map hFields with
        ⟨mismatch, hChanged, hRead⟩ |
          ⟨changed, read, hChanged, hRead, hSame⟩
      · rw [hChanged, hRead]
      · rw [hChanged, hRead]
        -- Too many items are refused whatever they are.
        simp only [bind, Except.bind]
        split
        · rfl
        · exact congrArg Except.ok hSame
  | null | bool | integer => rfl
  | double | string => rfl

------------------------------------------------------------
-- Labels of Frames
------------------------------------------------------------

/- One field leaves the labels, or labels are read of it. -/
theorem leaves_pointers_setField
    {name : String}
    (hRead : frame.setField (name, value) = .ok next) :
    Leaves readPointers ([(name, value)].lookup "array_indices")
      frame.pointers next.pointers := by
  by_cases hName : name = "array_indices"
  · subst hName
    rw [setField_labels] at hRead
    rcases exists_of_map_eq_ok hRead with
      ⟨pointers, hPointers, rfl⟩
    rw [List.lookup_cons_self]
    exact hPointers
  · have hOther : ("array_indices" == name) = false :=
      beq_eq_false_iff_ne.mpr (Ne.symm hName)
    rw [List.lookup_cons, hOther]
    change next.pointers = frame.pointers
    unfold setField at hRead
    dsimp only at hRead
    rw [if_neg hName] at hRead
    repeat'
      split at hRead
      · rcases exists_of_map_eq_ok hRead with ⟨_, _, rfl⟩
        rfl
    cases hRead
    rfl

/- Of all fields, one at most holds the labels. -/
theorem leaves_pointers_foldlM
    (hNames : (fields.map Prod.fst).Nodup)
    (hRead : fields.foldlM setField frame = .ok next) :
    Leaves readPointers (fields.lookup "array_indices")
      frame.pointers next.pointers := by
  induction fields generalizing frame with
  | nil =>
      cases hRead
      exact rfl
  | cons field rest ih =>
      rcases field with ⟨name, value⟩
      rw [List.map_cons, List.nodup_cons] at hNames
      rw [List.foldlM_cons] at hRead
      rcases exists_of_bind_eq_ok hRead with
        ⟨middle, hField, hRest⟩
      rw [leaves_cons (lookup_of_not_mem hNames.1)]
      exact ⟨middle.pointers, leaves_pointers_setField hField,
        ih hNames.2 hRest⟩

/- The labels of a frame are those of its one field for them. -/
theorem pointers_of_ofJson
    (hTakes : TakesLabels document)
    (hRead : ofJson document = .ok frame) :
    Leaves readPointers (labelArrays? document)
      Named.empty frame.pointers := by
  have hFields :
      (fieldsOf document).foldlM setField empty = .ok frame := by
    cases document with
    | object fields => exact hRead
    | array items =>
        rcases exists_of_bind_eq_ok hRead with
          ⟨read, hItems, hKept⟩
        split at hKept
        · cases hKept
        · cases hKept
          exact hItems
    | null | bool | integer => cases hRead
    | double | string => cases hRead
  exact leaves_pointers_foldlM hTakes.fields hFields

/- Every array is there with its labels, in their order. -/
theorem entries_of_ofJson
    (hTakes : TakesLabels document)
    (hFound : labelArrays? document = some value)
    (hRead : ofJson document = .ok frame) :
    frame.pointers.entries = (entriesOf value).map labelsOf := by
  have hLeaves := pointers_of_ofJson hTakes hRead
  rw [hFound] at hLeaves
  rcases exists_readPointers (hTakes.holds hFound)
      (hTakes.entries hFound) with
    ⟨pointers, hPointers, hEntries⟩
  have hSame : pointers = frame.pointers :=
    Except.ok.inj (hPointers.symm.trans hLeaves)
  rw [← hSame, hEntries]

/- Each array has the labels that are among its own items. -/
theorem get?_of_ofJson
    (hTakes : TakesLabels document)
    (hFound : labelArrays? document = some value)
    (hRead : ofJson document = .ok frame)
    (name : String) :
    frame.pointers.get? name =
      ((entriesOf value).lookup name).map fun array =>
        (itemsOf array).filterMap PointerLabel.ofJson? := by
  rw [Named.get?, entries_of_ofJson hTakes hFound hRead,
    ← lookup_map_snd]
  rfl

/- The arrays of a changed document are the changed arrays. -/
theorem labelArrays?_relabel
    (change : String → List Json → List Json)
    (document : Json) :
    labelArrays? (relabel change document) =
      (labelArrays? document).map (relabelValue change) := by
  unfold labelArrays?
  rw [fieldsOf_relabel,
    lookup_map_of_keys (fst_relabelField change)]
  simp only [relabelField, if_true]

/- A changed document has its labels apart as well. -/
theorem TakesLabels.relabel
    (hTakes : TakesLabels document)
    (change : String → List Json → List Json) :
    TakesLabels (relabel change document) := by
  constructor
  case fields =>
      rw [fieldsOf_relabel, List.map_map]
      simpa only [Function.comp_def, fst_relabelField] using
        hTakes.fields
  case holds =>
      intro value hValue
      rw [labelArrays?_relabel] at hValue
      rcases Option.map_eq_some_iff.mp hValue with
        ⟨old, hOld, rfl⟩
      exact (hTakes.holds hOld).relabelValue change
  case entries =>
      intro value hValue
      rw [labelArrays?_relabel] at hValue
      rcases Option.map_eq_some_iff.mp hValue with
        ⟨old, hOld, rfl⟩
      rw [entriesOf_relabelValue, List.map_map]
      simpa only [Function.comp_def, fst_relabelEntry] using
        hTakes.entries hOld

/- The values of the fields of a document are its own. -/
theorem wellFormed_of_mem_fieldsOf
    (hDocument : document.WellFormed)
    {field : String × Json}
    (hMem : field ∈ fieldsOf document) : field.2.WellFormed := by
  cases hDocument with
  | object hNames hValues => exact hValues field hMem
  | array hItems =>
      exact hItems field.2 (List.of_mem_zip hMem).2
  | null | bool | integer => cases hMem
  | double | string => cases hMem

/- In a document without repeated names, labels are apart. -/
theorem TakesLabels.of_wellFormed
    (hDocument : document.WellFormed)
    (hHolds :
      ∀ value,
        labelArrays? document = some value →
          HoldsArrays value) :
    TakesLabels document := by
  constructor
  case fields =>
      cases hDocument with
      | object hNames hValues => exact hNames
      | array hItems => exact nodup_keys_zip (by decide) _
      | null | bool | integer => exact List.nodup_nil
      | double | string => exact List.nodup_nil
  case holds =>
      intro value hValue
      exact hHolds value hValue
  case entries =>
      intro value hValue
      rcases List.lookup_eq_some_iff.mp hValue with
        ⟨before, after, hFields, _⟩
      have hMem :
          ("array_indices", value) ∈ fieldsOf document := by
        rw [hFields]
        exact List.mem_append_right _ List.mem_cons_self
      have hValue := wellFormed_of_mem_fieldsOf hDocument hMem
      cases hValue with
      | object hNames hValues => exact hNames
      | null | bool | integer => exact List.nodup_nil
      | double | string | array => exact List.nodup_nil

------------------------------------------------------------
-- Labels Kept Apart
------------------------------------------------------------

/- Put one item in the place of another, in one array. -/
def replaceItem
    (name : String)
    (place : Nat)
    (item : Json)
    (key : String)
    (items : List Json) : List Json :=
  if key = name then items.set place item else items

/-
  What it says of a document that its labels are kept apart
  from the rest of the frame, and from each other: whether
  there is a frame, and what else is in it, does not depend on
  the items of the arrays; every array is there with the
  labels among its items; and one item that is replaced takes
  away or adds at most the label that it is itself.
-/
structure KeepsLabelsApart (document : Json) : Prop where
  rest_same (change : String → List Json → List Json) :
    (ofJson (relabel change document)).map unlabelled =
      (ofJson document).map unlabelled
  no_arrays {frame : Frame} :
    ofJson document = .ok frame →
      labelArrays? document = none ∨
        labelArrays? document = some .null →
      frame.pointers = Named.empty
  arrays
    {frame : Frame}
    {entries : List (String × Json)} :
    ofJson document = .ok frame →
      labelArrays? document = some (.object entries) →
      frame.pointers.names = entries.map Prod.fst ∧
        ∀ name items,
          (name, .array items) ∈ entries →
            ∃ labels,
              frame.pointers.get? name = some labels ∧
                PointerLabel.Labels items labels
  one_item
    {frame : Frame}
    {entries : List (String × Json)}
    {name : String}
    {before after : List Json}
    {item : Json} :
    ofJson document = .ok frame →
      labelArrays? document = some (.object entries) →
      (name, .array (before ++ item :: after)) ∈ entries →
      ∀ other,
        ∃ changed first own new last,
          ofJson
              (relabel
                (replaceItem name before.length other)
                document) =
              .ok changed ∧
            changed.unlabelled = frame.unlabelled ∧
            (∀ key,
              key ≠ name →
                changed.pointers.get? key =
                  frame.pointers.get? key) ∧
            frame.pointers.get? name =
              some (first ++ own ++ last) ∧
            changed.pointers.get? name =
              some (first ++ new ++ last) ∧
            PointerLabel.Labels before first ∧
            PointerLabel.Labels [item] own ∧
            PointerLabel.Labels [other] new ∧
            PointerLabel.Labels after last

/- What labels a changed array has under its name. -/
theorem get?_of_ofJson_relabel
    {entries : List (String × Json)}
    (hTakes : TakesLabels document)
    (hFound : labelArrays? document = some (.object entries))
    (hRead : ofJson (relabel change document) = .ok frame)
    (name : String) :
    frame.pointers.get? name =
      (entries.lookup name).map fun array =>
        (itemsOf (relabelEntry change (name, array)).2).filterMap
          PointerLabel.ofJson? := by
  have hChanged :
      labelArrays? (relabel change document) =
        some (.object (entries.map (relabelEntry change))) := by
    rw [labelArrays?_relabel, hFound]
    rfl
  rw [get?_of_ofJson (hTakes.relabel change) hChanged hRead,
    entriesOf, lookup_map_of_keys (fst_relabelEntry change),
    Option.map_map]
  rfl

/- Other arrays keep all their items. -/
theorem relabelEntry_replaceItem_of_ne
    {name key : String}
    (hOther : key ≠ name)
    (place : Nat)
    (item array : Json) :
    relabelEntry (replaceItem name place item) (key, array) =
      (key, array) := by
  unfold relabelEntry
  split
  case h_1 items hItems =>
      dsimp only at hItems
      rw [hItems, replaceItem, if_neg hOther]
  case h_2 => rfl

/- An item takes the place of the item that it replaces. -/
theorem relabelEntry_replaceItem
    (name : String)
    (before after : List Json)
    (item other : Json) :
    relabelEntry (replaceItem name before.length other)
        (name, .array (before ++ item :: after)) =
      (name, .array (before ++ other :: after)) := by
  simp [relabelEntry, replaceItem]

/- The labels among items around one of them. -/
theorem filterMap_around
    (before after : List Json)
    (item : Json) :
    (before ++ item :: after).filterMap PointerLabel.ofJson? =
      before.filterMap PointerLabel.ofJson? ++
        [item].filterMap PointerLabel.ofJson? ++
          after.filterMap PointerLabel.ofJson? := by
  rw [List.append_cons, List.filterMap_append,
    List.filterMap_append]

/- Labels that are told apart are kept apart. -/
theorem TakesLabels.keepsLabelsApart
    (hTakes : TakesLabels document) :
    KeepsLabelsApart document := by
  constructor
  case rest_same =>
      intro change
      exact ofJson_relabel hTakes change
  case no_arrays =>
      intro frame hRead hNone
      have hLeaves := pointers_of_ofJson hTakes hRead
      rcases hNone with hAbsent | hNull
      · rwa [hAbsent] at hLeaves
      · rw [hNull] at hLeaves
        exact (Except.ok.inj hLeaves).symm
  case arrays =>
      intro frame entries hRead hFound
      have hEntries := entries_of_ofJson hTakes hFound hRead
      constructor
      · rw [Named.names, hEntries, List.map_map]
        rfl
      · intro name items hMem
        have hArray :=
          lookup_of_mem (hTakes.entries hFound) hMem
        refine ⟨_, ?_, PointerLabel.labels_iff.mpr rfl⟩
        rw [get?_of_ofJson hTakes hFound hRead, hArray]
        rfl
  case one_item =>
      intro frame entries name before after item hRead hFound
        hMem other
      have hArray :
          entries.lookup name =
            some (.array (before ++ item :: after)) :=
        lookup_of_mem (hTakes.entries hFound) hMem
      have hSame :=
        ofJson_relabel hTakes
          (replaceItem name before.length other)
      rw [hRead] at hSame
      rcases exists_of_map_eq_ok hSame with
        ⟨changed, hChanged, hRest⟩
      have hGet := get?_of_ofJson hTakes hFound hRead
      have hGetChanged :=
        get?_of_ofJson_relabel hTakes hFound hChanged
      refine ⟨changed, _, _, _, _, hChanged, hRest.symm, ?_,
        ?_, ?_, PointerLabel.labels_iff.mpr rfl,
        PointerLabel.labels_iff.mpr rfl,
        PointerLabel.labels_iff.mpr rfl,
        PointerLabel.labels_iff.mpr rfl⟩
      · intro key hOther
        rw [hGet, hGetChanged, entriesOf]
        simp only [relabelEntry_replaceItem_of_ne hOther]
      · rw [hGet, entriesOf, hArray, ← filterMap_around]
        rfl
      · rw [hGetChanged, hArray, Option.map_some,
          relabelEntry_replaceItem, ← filterMap_around]
        rfl

/-
  Whatever the arrays for labels hold, the rest of the frame
  is read as if they were empty, every item counts on its own,
  and a view shows the labels of its frame under every array,
  also under one that is carried.
-/
theorem labels_apart
    (hDocument : document.WellFormed)
    (hHolds :
      ∀ value,
        labelArrays? document = some value →
          HoldsArrays value) :
    KeepsLabelsApart document ∧
      ∀ index frame previous carry,
        ∀ entry ∈
            (View.ofStep index frame previous carry).arrays,
          entry.pointers =
            (frame.pointers.get? entry.name).getD [] := by
  constructor
  · have hTakes := TakesLabels.of_wellFormed hDocument hHolds
    exact hTakes.keepsLabelsApart
  · intro index frame previous carry entry hMem
    exact View.pointers_of_mem_arrayEntries hMem

/- A document with labels, and with items that are none. -/
def mixedLabels : Json :=
  .object
    [ ("line_no", .integer 3),
      ( "array_indices",
        .object
          [ ( "a",
              .array
                [ .array [.string "i", .integer 2],
                  .array [.string "j"],
                  .array [.string "last", .bool true],
                  .array [.string "k", .integer (-1)] ] ),
            ("b", .array []) ] ) ]

theorem labels_apart_among_others :
    mixedLabels.WellFormed ∧
      (ofJson mixedLabels).map
          (fun frame => frame.pointers.entries) =
        .ok [("a", [⟨"i", 2⟩, ⟨"last", 1⟩]), ("b", [])] ∧
      KeepsLabelsApart mixedLabels := by
  have hDocument : mixedLabels.WellFormed := by
    refine .object (by decide) ?_
    rw [List.forall_mem_cons, List.forall_mem_singleton]
    refine ⟨.integer 3, .object (by decide) ?_⟩
    simp [Json.WellFormed.array, Json.WellFormed.string,
      Json.WellFormed.integer, Json.WellFormed.bool]
  have hHolds (value : Json)
      (hValue : labelArrays? mixedLabels = some value) :
      HoldsArrays value := by
    rcases hValue
    exact .inr ⟨_, rfl, by simp⟩
  exact ⟨hDocument, rfl, (labels_apart hDocument hHolds).1⟩

end Frame

end TracePlayer
