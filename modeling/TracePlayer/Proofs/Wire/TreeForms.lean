import Mathlib.Tactic.MkIffOfInductiveProp
import Mathlib.Tactic.SplitIfs
import TracePlayer.Proofs.Json.WellFormed
import TracePlayer.Proofs.Wire.Answers
import TracePlayer.Proofs.Wire.RoundTrip

/-
  This file proves which documents are read as a given tree:
  those that represent it. Every node has a form of its own,
  an object or an array, in which what is null may as well be
  left out. The written form of a tree is one of them.

  Main declarations:
    * `Color.spellings`, `Color.Means`
    * `Tree.Represents`
    * `Tree.Draft.Filled`, `Tree.foldlM_readField_eq_ok_iff`
    * `Tree.ofJson_of_represents`, `Tree.represents_of_ofJson`
    * `Tree.every_form_read`
-/

namespace TracePlayer

open Reply (Leaves leaves_cons)

------------------------------------------------------------
-- Forms of Trees
------------------------------------------------------------

/- A part that is left out counts as null. -/
def orNull (found? : Option Json) : Json :=
  found?.getD .null

namespace Color

/- The words that are accepted for a colour. -/
def spellings : Color → List String
| red => ["RED", "Red", "red"]
| black => ["BLACK", "Black", "black"]

/-
  The values for a colour or for none: null, a word, or an
  object that holds null under a word and nothing else.
-/
inductive Means : Json → Option Color → Prop where
| none : Means .null none
| word
    {color : Color}
    {word : String} :
    word ∈ color.spellings →
    Means (.string word) (some color)
| lone
    {color : Color}
    {word : String} :
    word ∈ color.spellings →
    Means (.object [(word, .null)]) (some color)

end Color

namespace Tree

/-
  The documents that represent a tree. The empty tree is null.
  A node is an object, with its fields in any order and with
  any others among them, or an array of its parts in a fixed
  order, the last of which may be missing. Each child has a
  form of its own.
-/
inductive Represents : Json → Tree → Prop where
| empty : Represents .null .empty
| object
    {fields : List (String × Json)}
    {id : NodeId}
    {value : Json}
    {color : Option Color}
    {left right : Tree} :
    (fields.map Prod.fst).Nodup →
    fields.lookup "id" = some (.integer id.toNat) →
    orNull (fields.lookup "val") = value →
    Color.Means (orNull (fields.lookup "color")) color →
    Represents (orNull (fields.lookup "left")) left →
    Represents (orNull (fields.lookup "right")) right →
    Represents (.object fields)
      (.node id value color left right)
| array
    {items : List Json}
    {id : NodeId}
    {value : Json}
    {color : Option Color}
    {left right : Tree} :
    items.length ≤ 5 →
    items[0]? = some (.integer id.toNat) →
    orNull items[1]? = value →
    Color.Means (orNull items[2]?) color →
    Represents (orNull items[3]?) left →
    Represents (orNull items[4]?) right →
    Represents (.array items)
      (.node id value color left right)

end Tree

------------------------------------------------------------
-- Numbers and Colours
------------------------------------------------------------

/- Only its own number is read as a word. -/
theorem Reading.word64_eq_ok_iff
    {value : Json}
    {id : UInt64} :
    word64 value = .ok id ↔ value = .integer id.toNat := by
  constructor
  · intro hRead
    rcases exists_of_map_eq_ok hRead with ⟨n, hWord, rfl⟩
    cases value with
    | integer m =>
        rw [word] at hWord
        split at hWord
        case isTrue hRange =>
            cases hWord
            have hLess : m.toNat < UInt64.size := by
              change m.toNat < 0x10000000000000000
              omega
            rw [UInt64.toNat_ofNat_of_lt' hLess,
              Int.toNat_of_nonneg hRange.1]
        case isFalse => cases hWord
    | null | bool | double => cases hWord
    | string | array | object => cases hWord
  · rintro rfl
    exact word64_toNat id

namespace Color

/- A word is that of a colour when it is in the table. -/
theorem mem_words_iff
    {word : String}
    {color : Color} :
    (word, color) ∈ words ↔ word ∈ color.spellings := by
  cases color <;> simp [words, spellings]

theorem chosen_eq_ok_iff
    {word : String}
    {color : Color} :
    Reading.chosen words word = .ok color ↔
      word ∈ color.spellings := by
  have hDistinct : (words.map Prod.fst).Nodup := by
    decide
  have hFound :
      words.lookup word = some color ↔ (word, color) ∈ words :=
    ⟨mem_of_lookup, lookup_of_mem hDistinct⟩
  rw [← mem_words_iff, ← hFound, Reading.chosen]
  cases words.lookup word with
  | none => exact iff_of_false nofun nofun
  | some other => rw [Except.ok.injEq, Option.some.injEq]

/- A word alone, or as the one name of an object. -/
theorem choice_eq_ok_iff
    {value : Json}
    {color : Color} :
    ofJson value = .ok color ↔ Means value (some color) := by
  constructor
  · intro hRead
    unfold ofJson Reading.choice at hRead
    split at hRead
    case h_1 word =>
        exact .word (chosen_eq_ok_iff.mp hRead)
    case h_2 word inner =>
        rcases exists_of_bind_eq_ok hRead with
          ⟨choice, hChosen, hUnit⟩
        rcases exists_of_bind_eq_ok hUnit with ⟨_, hNull, hSame⟩
        cases hSame
        cases inner with
        | null => exact .lone (chosen_eq_ok_iff.mp hChosen)
        | bool | integer | double => cases hNull
        | string | array | object => cases hNull
    case h_3 => cases hRead
    case h_4 => cases hRead
  · rintro (_ | hWord | hWord)
    · exact chosen_eq_ok_iff.mpr hWord
    · change (Reading.chosen words _ >>= _) = _
      rw [chosen_eq_ok_iff.mpr hWord]
      rfl

/- A colour, or none, is read from the values that mean it. -/
theorem optional_ofJson_eq_ok_iff
    {value : Json}
    {color : Option Color} :
    Reading.optional ofJson value = .ok color ↔
      Means value color := by
  by_cases hNull : value = .null
  · rw [hNull]
    constructor
    · rintro ⟨⟩
      exact .none
    · rintro ⟨⟩
      rfl
  · rw [Reading.optional_of_ne_null hNull]
    constructor
    · intro hRead
      rcases exists_of_map_eq_ok hRead with
        ⟨shown, hShown, rfl⟩
      exact choice_eq_ok_iff.mp hShown
    · intro hMeans
      cases color with
      | none =>
          cases hMeans
          exact absurd rfl hNull
      | some shown => rw [choice_eq_ok_iff.mpr hMeans, Except.map]

end Color

------------------------------------------------------------
-- Reading Fields
------------------------------------------------------------

/- What is left out is read as null, where null is allowed. -/
theorem leaves_iff_orNull
    {α : Type}
    {read : Json → Except Mismatch α}
    {old new : α}
    (hNull : read .null = .ok old)
    (found? : Option Json) :
    Leaves read found? old new ↔
      read (orNull found?) = .ok new := by
  cases found? with
  | none =>
      change new = old ↔ read .null = .ok new
      rw [hNull, Except.ok.injEq, eq_comm]
  | some value => exact Iff.rfl

namespace Tree

/- Read one field into a draft, also one that holds a tree. -/
def readField
    (draft : Draft)
    (field : String × Json) : Except Mismatch Draft :=
  if field.1 = "left" then
    (ofJson field.2).map fun left => { draft with left := left }
  else if field.1 = "right" then
    (ofJson field.2).map fun right =>
      { draft with right := right }
  else
    draft.setField field.1 field.2

/- The fields of an object are read one after the other. -/
theorem ofFields_eq_foldlM
    (fields : List (String × Json))
    (draft : Draft) :
    ofFields fields draft = fields.foldlM readField draft := by
  induction fields generalizing draft with
  | nil =>
      rw [ofFields]
      rfl
  | cons field rest ih =>
      rcases field with ⟨name, value⟩
      rw [ofFields, List.foldlM_cons, readField]
      split_ifs
      · cases ofJson value with
        | error mismatch => rfl
        | ok left => exact ih _
      · cases ofJson value with
        | error mismatch => rfl
        | ok right => exact ih _
      · cases draft.setField name value with
        | error mismatch => rfl
        | ok next => exact ih next

/- The items of an array are read as the fields they stand for. -/
theorem ofItems_eq_foldlM
    (items : List Json)
    (names : List String)
    (draft : Draft) :
    ofItems items names draft =
      (names.zip items).foldlM readField draft := by
  induction items generalizing names draft with
  | nil =>
      rw [ofItems, List.zip_nil_right]
      rfl
  | cons value rest ih =>
      cases names with
      | nil =>
          rw [ofItems]
          rfl
      | cons name names =>
          rw [ofItems, List.zip_cons_cons, List.foldlM_cons,
            readField]
          split_ifs
          · cases ofJson value with
            | error mismatch => rfl
            | ok left => exact ih _ _
          · cases ofJson value with
            | error mismatch => rfl
            | ok right => exact ih _ _
          · cases draft.setField name value with
            | error mismatch => rfl
            | ok next => exact ih _ next

/- What fields make of a draft: each is read into its place. -/
@[mk_iff] structure Draft.Filled
    (fields : List (String × Json))
    (start next : Draft) : Prop where
  id :
    Leaves (fun value => (Reading.word64 value).map some)
      (fields.lookup "id") start.id next.id
  value :
    Leaves .ok (fields.lookup "val") start.value next.value
  color :
    Leaves (Reading.optional Color.ofJson)
      (fields.lookup "color") start.color next.color
  left :
    Leaves ofJson (fields.lookup "left") start.left next.left
  right :
    Leaves ofJson (fields.lookup "right") start.right next.right

section

variable {fields : List (String × Json)}
variable {start next : Draft}

/- One field is read into its own place. -/
theorem readField_eq_ok_iff
    {name : String}
    {value : Json} :
    readField start (name, value) = .ok next ↔
      Draft.Filled [(name, value)] start next := by
  rcases start with ⟨id, shown, color, left, right⟩
  rcases next with ⟨id', shown', color', left', right'⟩
  rw [Draft.filled_iff]
  by_cases hKnown : name ∈ fieldNames
  · simp only [fieldNames, List.mem_cons, List.not_mem_nil,
      or_false] at hKnown
    rcases hKnown with rfl | rfl | rfl | rfl | rfl
    all_goals
      simp [readField, Draft.setField, Leaves, List.lookup_cons,
        map_eq_ok_iff]
      grind
  · simp only [fieldNames, List.mem_cons, List.not_mem_nil,
      or_false, not_or] at hKnown
    rcases hKnown with ⟨hId, hValue, hColor, hLeft, hRight⟩
    have hOther {key : String} (hKey : name ≠ key) :
        [(name, value)].lookup key = none := by
      rw [List.lookup_cons, beq_eq_false_iff_ne.mpr hKey.symm]
      rfl
    rw [hOther hId, hOther hValue, hOther hColor, hOther hLeft,
      hOther hRight]
    simp [readField, Draft.setField, Leaves, hId, hValue, hColor,
      hLeft, hRight, eq_comm]

/- Of a field and later ones, one at most fills a place. -/
theorem Draft.filled_cons_iff
    {name : String}
    {value : Json}
    (hGone : fields.lookup name = none) :
    Filled ((name, value) :: fields) start next ↔
      ∃ middle,
        Filled [(name, value)] start middle ∧
          Filled fields middle next := by
  constructor
  · intro hFilled
    rcases (leaves_cons hGone).mp hFilled.id with
      ⟨id, hId, hLaterId⟩
    rcases (leaves_cons hGone).mp hFilled.value with
      ⟨shown, hValue, hLaterValue⟩
    rcases (leaves_cons hGone).mp hFilled.color with
      ⟨color, hColor, hLaterColor⟩
    rcases (leaves_cons hGone).mp hFilled.left with
      ⟨left, hLeft, hLaterLeft⟩
    rcases (leaves_cons hGone).mp hFilled.right with
      ⟨right, hRight, hLaterRight⟩
    exact ⟨⟨id, shown, color, left, right⟩,
      ⟨hId, hValue, hColor, hLeft, hRight⟩,
      hLaterId, hLaterValue, hLaterColor, hLaterLeft,
      hLaterRight⟩
  · rintro ⟨middle, hFirst, hLater⟩
    constructor
    · exact (leaves_cons hGone).mpr ⟨_, hFirst.id, hLater.id⟩
    · exact
        (leaves_cons hGone).mpr ⟨_, hFirst.value, hLater.value⟩
    · exact
        (leaves_cons hGone).mpr ⟨_, hFirst.color, hLater.color⟩
    · exact
        (leaves_cons hGone).mpr ⟨_, hFirst.left, hLater.left⟩
    · exact
        (leaves_cons hGone).mpr ⟨_, hFirst.right, hLater.right⟩

/- Distinct fields are read independently of each other. -/
theorem foldlM_readField_eq_ok_iff
    (hNames : (fields.map Prod.fst).Nodup) :
    fields.foldlM readField start = .ok next ↔
      Draft.Filled fields start next := by
  induction fields generalizing start with
  | nil =>
      cases start
      cases next
      simp [Draft.filled_iff, Leaves, pure, Except.pure, eq_comm]
  | cons field rest ih =>
      rcases field with ⟨name, value⟩
      rw [List.map_cons, List.nodup_cons] at hNames
      have hGone : rest.lookup name = none :=
        lookup_of_not_mem hNames.1
      rw [List.foldlM_cons, bind_eq_ok_iff,
        Draft.filled_cons_iff hGone]
      simp only [readField_eq_ok_iff, ih hNames.2]

------------------------------------------------------------
-- Reading Nodes
------------------------------------------------------------

/-
  Whether fields hold the parts of a node: its number, and
  four parts that may be left out.
-/
def HoldParts
    (fields : List (String × Json)) : Tree → Prop
| .empty => False
| .node id value color left right =>
    fields.lookup "id" = some (.integer id.toNat) ∧
      orNull (fields.lookup "val") = value ∧
      Color.Means (orNull (fields.lookup "color")) color ∧
      ofJson (orNull (fields.lookup "left")) = .ok left ∧
      ofJson (orNull (fields.lookup "right")) = .ok right

/- A number is there when it was read. -/
theorem leaves_id_iff
    {found? : Option Json}
    {id : NodeId} :
    Leaves (fun value => (Reading.word64 value).map some)
        found? none (some id) ↔
      found? = some (.integer id.toNat) := by
  cases found? with
  | none => exact iff_of_false nofun nofun
  | some value =>
      simp [Leaves, map_eq_ok_iff, Reading.word64_eq_ok_iff]

/- A node is read once its number is there. -/
theorem Draft.node?_eq_some_iff
    {draft : Draft}
    {id : NodeId}
    {value : Json}
    {color : Option Color}
    {left right : Tree} :
    draft.node? = some (.node id value color left right) ↔
      draft = ⟨some id, value, color, left, right⟩ := by
  rcases draft with ⟨id?, _, _, _, _⟩
  cases id? with
  | none => exact iff_of_false nofun nofun
  | some other => simp [node?]

/- Distinct fields make a node when they hold its parts. -/
theorem exists_node?_iff
    {tree : Tree}
    (hNames : (fields.map Prod.fst).Nodup) :
    (∃ draft,
      fields.foldlM readField Draft.empty = .ok draft ∧
        draft.node? = some tree) ↔
      HoldParts fields tree := by
  cases tree with
  | empty =>
      refine iff_of_false ?_ nofun
      rintro ⟨⟨_ | id, value, color, left, right⟩, _, hNode⟩
      · cases hNode
      · cases hNode
  | node id value color left right =>
      have hColor :
          Reading.optional Color.ofJson .null = .ok none :=
        rfl
      have hChild : ofJson .null = .ok .empty := by
        rw [ofJson]
      simp only [Draft.node?_eq_some_iff, exists_eq_right,
        foldlM_readField_eq_ok_iff hNames, Draft.filled_iff,
        Draft.empty, HoldParts]
      rw [leaves_id_iff, leaves_iff_orNull rfl, Except.ok.injEq,
        leaves_iff_orNull hColor,
        Color.optional_ofJson_eq_ok_iff,
        leaves_iff_orNull hChild, leaves_iff_orNull hChild]

/- An object is a node when its fields hold the parts. -/
theorem ofJson_object_eq_ok_iff
    {tree : Tree}
    (hNames : (fields.map Prod.fst).Nodup) :
    ofJson (.object fields) = .ok tree ↔
      HoldParts fields tree := by
  rw [ofJson, ofFields_eq_foldlM, ← exists_node?_iff hNames]
  cases fields.foldlM readField Draft.empty with
  | error mismatch => simp
  | ok draft => cases hNode : draft.node? <;> simp [hNode]

/- So is an array of at most five items. -/
theorem ofJson_array_eq_ok_iff
    {tree : Tree}
    {items : List Json} :
    ofJson (.array items) = .ok tree ↔
      items.length ≤ 5 ∧
        HoldParts (fieldNames.zip items) tree := by
  have hNames : ((fieldNames.zip items).map Prod.fst).Nodup :=
    nodup_keys_zip (by decide) items
  have hLength : fieldNames.length = 5 := rfl
  rw [ofJson, ofItems_eq_foldlM, ← exists_node?_iff hNames,
    hLength]
  cases (fieldNames.zip items).foldlM readField Draft.empty with
  | error mismatch => simp
  | ok draft =>
      cases hNode : draft.node? with
      | none => simp [hNode]
      | some made =>
          by_cases hLong : 5 < items.length
          · simp [hNode, hLong, Nat.not_le_of_lt hLong]
          · simp [hNode, hLong, Nat.not_lt.mp hLong]

/- The items hold the parts that belong in their places. -/
theorem holdParts_zip_iff
    {items : List Json}
    {id : NodeId}
    {value : Json}
    {color : Option Color}
    {left right : Tree} :
    HoldParts (fieldNames.zip items)
        (.node id value color left right) ↔
      items[0]? = some (.integer id.toNat) ∧
        orNull items[1]? = value ∧
        Color.Means (orNull items[2]?) color ∧
        ofJson (orNull items[3]?) = .ok left ∧
        ofJson (orNull items[4]?) = .ok right := by
  have hPlace
      (place : Nat)
      {name : String}
      (hName : fieldNames[place]? = some name) :
      (fieldNames.zip items).lookup name = items[place]? :=
    lookup_zip (by decide) hName items
  rw [HoldParts, hPlace 0 rfl, hPlace 1 rfl, hPlace 2 rfl,
    hPlace 3 rfl, hPlace 4 rfl]

end

------------------------------------------------------------
-- Every Form
------------------------------------------------------------

variable {document : Json}
variable {tree : Tree}

/- Every document that represents a tree is read as the tree. -/
theorem ofJson_of_represents
    (hForm : Represents document tree) :
    ofJson document = .ok tree := by
  induction hForm with
  | empty => rw [ofJson]
  | object hNames hId hValue hColor _ _ ihLeft ihRight =>
      exact (ofJson_object_eq_ok_iff hNames).mpr
        ⟨hId, hValue, hColor, ihLeft, ihRight⟩
  | array hShort hId hValue hColor _ _ ihLeft ihRight =>
      have hParts :=
        holdParts_zip_iff.mpr
          ⟨hId, hValue, hColor, ihLeft, ihRight⟩
      exact ofJson_array_eq_ok_iff.mpr ⟨hShort, hParts⟩

/- A part that is left out represents the empty tree. -/
theorem represents_orNull
    {found? : Option Json}
    (hFound :
      ∀ value, found? = some value →
        ∀ tree, ofJson value = .ok tree →
          Represents value tree)
    (hRead : ofJson (orNull found?) = .ok tree) :
    Represents (orNull found?) tree := by
  cases found? with
  | none =>
      change ofJson .null = .ok tree at hRead
      rw [ofJson] at hRead
      cases hRead
      exact .empty
  | some value => exact hFound value rfl tree hRead

/-
  Conversely, a document without repeated names that is read
  as a tree represents it.
-/
theorem represents_of_ofJson
    (hDocument : document.WellFormed)
    (hRead : ofJson document = .ok tree) :
    Represents document tree := by
  induction hDocument generalizing tree with
  | null =>
      rw [ofJson] at hRead
      cases hRead
      exact .empty
  | @object fields hNames _ ih =>
      have hParts := (ofJson_object_eq_ok_iff hNames).mp hRead
      cases tree with
      | empty => cases hParts
      | node id value color left right =>
          rcases hParts with
            ⟨hId, hValue, hColor, hLeft, hRight⟩
          refine .object hNames hId hValue hColor
            (represents_orNull ?_ hLeft)
            (represents_orNull ?_ hRight)
          · exact fun value hFound _ =>
              ih _ (mem_of_lookup hFound)
          · exact fun value hFound _ =>
              ih _ (mem_of_lookup hFound)
  | @array items _ ih =>
      rcases ofJson_array_eq_ok_iff.mp hRead with
        ⟨hShort, hParts⟩
      cases tree with
      | empty => cases hParts
      | node id value color left right =>
          rcases holdParts_zip_iff.mp hParts with
            ⟨hId, hValue, hColor, hLeft, hRight⟩
          refine .array hShort hId hValue hColor
            (represents_orNull ?_ hLeft)
            (represents_orNull ?_ hRight)
          · exact fun value hFound _ =>
              ih _ (List.mem_of_getElem? hFound)
          · exact fun value hFound _ =>
              ih _ (List.mem_of_getElem? hFound)
  | bool | integer | double | string =>
      rw [ofJson] at hRead
      cases hRead

/- What is written for a tree represents it. -/
theorem represents_toJson (tree : Tree) :
    Represents tree.toJson tree := by
  induction tree with
  | empty => exact .empty
  | node id value color left right ihLeft ihRight =>
      cases color with
      | none =>
          have hNames :
              ["id", "val", "left", "right"].Nodup := by
            decide
          exact .object hNames rfl rfl .none ihLeft ihRight
      | some color =>
          have hNames :
              ["id", "val", "color", "left", "right"].Nodup := by
            decide
          have hWord : color.word ∈ color.spellings := by
            cases color <;> decide
          exact .object hNames rfl rfl (.word hWord) ihLeft
            ihRight

/-
  Whatever the form of each node is, a tree is read from every
  document that represents it, and from no other document
  without repeated names. What is written for a tree is such a
  document, so the tree is read back with all its numbers.
-/
theorem every_form_read (tree : Tree) :
    (∀ document,
      Represents document tree → ofJson document = .ok tree) ∧
    (∀ document, document.WellFormed →
      ofJson document = .ok tree → Represents document tree) ∧
    Represents tree.toJson tree ∧
    ofJson tree.toJson = .ok tree ∧
    (ofJson tree.toJson).map ids = .ok tree.ids := by
  have hWritten := represents_toJson tree
  have hRead := ofJson_of_represents hWritten
  refine ⟨fun document hForm => ofJson_of_represents hForm,
    fun document hDocument hTree =>
      represents_of_ofJson hDocument hTree,
    hWritten, hRead, ?_⟩
  rw [hRead, Except.map]

/- Three nodes of one number, each in a form of its own. -/
def mixedForm : Json :=
  .object
    [ ( "left",
        .array [.integer 7, .string "x", .string "RED"] ),
      ("depth", .array [.null]),
      ("id", .integer 7),
      ( "right",
        .object
          [ ("color", .object [("Black", .null)]),
            ("left", .null),
            ("id", .integer 7) ] ) ]

theorem every_form_read_of_mixed :
    let tree :=
      node 7 .null none
        (node 7 (.string "x") (some .red) .empty .empty)
        (node 7 .null (some .black) .empty .empty)
    Represents mixedForm tree ∧
      mixedForm.WellFormed ∧
      ofJson mixedForm = .ok tree := by
  intro tree
  have hLeft :
      Represents
        (.array [.integer 7, .string "x", .string "RED"])
        (node 7 (.string "x") (some .red) .empty .empty) :=
    .array (by decide) rfl rfl (.word (by decide)) .empty .empty
  have hForm : Represents mixedForm tree := by
    refine .object (by decide) rfl rfl .none hLeft ?_
    exact .object (by decide) rfl rfl (.lone (by decide))
      .empty .empty
  have hDocument : mixedForm.WellFormed := by
    refine .object (by decide) ?_
    simp [Json.WellFormed.array, Json.WellFormed.object,
      Json.WellFormed.string, Json.WellFormed.integer,
      Json.WellFormed.null]
  exact ⟨hForm, hDocument,
    (every_form_read tree).1 mixedForm hForm⟩

end Tree

end TracePlayer
