import TracePlayer.Proofs.Json.WellFormed
import TracePlayer.Proofs.Named
import TracePlayer.Proofs.Result
import TracePlayer.Wire.Reply

/-
  This file proves what becomes of every answer of a tracer. A
  text that is no document is refused; an error in a document
  wins over everything else in it and over the status; and a
  document without one is a reply only as a whole.

  Main declarations:
    * `Reading.list_eq_ok_iff`
    * `Reply.errorLine?_eq_some_iff`
    * `Reply.MadeOf`, `Json.Tells`
    * `Reply.ofJson_eq_ok_iff`
    * `Reply.Classified`, `Reply.decode_classified`
-/

namespace TracePlayer

------------------------------------------------------------
-- Readings
------------------------------------------------------------

namespace Reading

/- A list is read item by item, all or nothing. -/
theorem list_eq_ok_iff
    {α : Type}
    {read : Json → Except Mismatch α}
    {value : Json}
    {results : List α} :
    list read value = .ok results ↔
      ∃ items,
        value = .array items ∧
          items.map read = results.map .ok := by
  cases value with
  | array items =>
      rw [list, mapM_eq_ok_iff]
      simp
  | null | bool | integer => exact iff_of_false nofun nofun
  | double | string | object => exact iff_of_false nofun nofun

/- An optional text is null or a text. -/
theorem optional_text_eq_ok_iff
    {value : Json}
    {label : Option String} :
    optional text value = .ok label ↔
      value = .null ∧ label = none ∨
        ∃ shown, value = .string shown ∧ label = some shown := by
  cases value with
  | null => simp [optional, eq_comm]
  | string shown =>
      simp [optional, text, Except.map, eq_comm]
  | bool | integer | double | array | object =>
      refine iff_of_false nofun ?_
      rintro (⟨hNull, _⟩ | ⟨shown, hString, _⟩)
      · cases hNull
      · cases hString

end Reading

------------------------------------------------------------
-- Lines of Failures
------------------------------------------------------------

namespace Reply

/- A positive number of 32 bits is one of a word. -/
theorem toNat_ofNat_of_le
    {n : Int}
    (hHigh : n ≤ 0xFFFFFFFF) :
    (UInt32.ofNat n.toNat).toNat = n.toNat := by
  have hSize : UInt32.size = 0x100000000 := rfl
  exact UInt32.toNat_ofNat_of_lt (by omega)

/- A line is reported when it is one and fits 32 bits. -/
theorem errorLine?_eq_some_iff
    {found? : Option Json}
    {line : UInt32} :
    errorLine? found? = some line ↔
      ∃ n : Int,
        found? = some (.integer n) ∧
          1 ≤ n ∧ n ≤ 0xFFFFFFFF ∧ n = line.toNat := by
  cases found? with
  | none => exact iff_of_false nofun nofun
  | some found =>
      cases found with
      | integer n =>
          simp only [errorLine?, Option.some.injEq,
            Json.integer.injEq, exists_eq_left']
          by_cases hRange : 0 < n ∧ n < 0x100000000
          · have hWord := toNat_ofNat_of_le
              (by omega : n ≤ 0xFFFFFFFF)
            rw [if_pos hRange, Option.some.injEq,
              ← UInt32.toNat_inj, hWord]
            omega
          · rw [if_neg hRange]
            refine iff_of_false nofun ?_
            omega
      | null | bool | double => exact iff_of_false nofun nofun
      | string | array | object => exact iff_of_false nofun nofun

/- A line is reported for exactly the integers that fit. -/
theorem isSome_errorLine?_iff
    {found? : Option Json} :
    (errorLine? found?).isSome = true ↔
      ∃ n : Int,
        found? = some (.integer n) ∧
          1 ≤ n ∧ n ≤ 0xFFFFFFFF := by
  rw [Option.isSome_iff_exists]
  constructor
  · rintro ⟨line, hLine⟩
    rcases errorLine?_eq_some_iff.mp hLine with
      ⟨n, hFound, hLow, hHigh, _⟩
    exact ⟨n, hFound, hLow, hHigh⟩
  · rintro ⟨n, hFound, hLow, hHigh⟩
    have hWord := toNat_ofNat_of_le hHigh
    exact ⟨UInt32.ofNat n.toNat,
      errorLine?_eq_some_iff.mpr
        ⟨n, hFound, hLow, hHigh, by omega⟩⟩

------------------------------------------------------------
-- Replies in Documents
------------------------------------------------------------

/-
  What the fields of a document make a reply of: no frames,
  or as many as there are items, each read of its own item;
  and a label, unless it is absent or null.
-/
structure MadeOf
    (fields : List (String × Json))
    (reply : Reply) : Prop where
  frames :
    match fields.lookup "frames" with
    | none => reply.frames = []
    | some value =>
        ∃ items,
          value = .array items ∧
            items.map Frame.ofJson = reply.frames.map .ok
  complexity :
    match fields.lookup "complexity" with
    | none => reply.complexity = none
    | some value =>
        value = .null ∧ reply.complexity = none ∨
          ∃ label,
            value = .string label ∧
              reply.complexity = some label

/-
  A field that is absent leaves what was there, and one that
  is present is read.
-/
def Leaves
    {α : Type}
    (read : Json → Except Mismatch α)
    (found? : Option Json)
    (old new : α) : Prop :=
  match found? with
  | none => new = old
  | some value => read value = .ok new

/- Of a field and later ones, one at most has the name. -/
theorem leaves_cons
    {α : Type}
    {read : Json → Except Mismatch α}
    {key name : String}
    {value : Json}
    {rest : List (String × Json)}
    {old new : α}
    (hGone : rest.lookup name = none) :
    Leaves read (((name, value) :: rest).lookup key) old new ↔
      ∃ middle,
        Leaves read ([(name, value)].lookup key) old middle ∧
          Leaves read (rest.lookup key) middle new := by
  by_cases hSame : key = name
  · subst hSame
    rw [List.lookup_cons_self, List.lookup_cons_self, hGone]
    simp [Leaves]
  · have hOther : (key == name) = false :=
      beq_eq_false_iff_ne.mpr hSame
    rw [List.lookup_cons, List.lookup_cons, hOther]
    simp [Leaves]

/- One field is read into its own place. -/
theorem setField_eq_ok_iff
    {name : String}
    {value : Json}
    {reply next : Reply} :
    reply.setField (name, value) = .ok next ↔
      Leaves (Reading.list Frame.ofJson)
          ([(name, value)].lookup "frames")
          reply.frames next.frames ∧
        Leaves (Reading.optional Reading.text)
          ([(name, value)].lookup "complexity")
          reply.complexity next.complexity := by
  rcases next with ⟨frames, complexity⟩
  unfold setField
  dsimp only
  by_cases hFrames : name = "frames"
  · subst hFrames
    rw [if_pos rfl]
    cases hRead : Reading.list Frame.ofJson value with
    | error mismatch =>
        simp [Leaves, List.lookup_cons, hRead, Except.map]
    | ok frames =>
        simp [Leaves, List.lookup_cons, hRead, Except.map, eq_comm]
  · rw [if_neg hFrames]
    by_cases hLabel : name = "complexity"
    · subst hLabel
      rw [if_pos rfl]
      cases hRead : Reading.optional Reading.text value with
      | error mismatch =>
          simp [Leaves, List.lookup_cons, hRead, Except.map]
      | ok label =>
          simp [Leaves, List.lookup_cons, hRead, Except.map, eq_comm]
    · have hNotFrames : ("frames" == name) = false :=
        beq_eq_false_iff_ne.mpr (Ne.symm hFrames)
      have hNotLabel : ("complexity" == name) = false :=
        beq_eq_false_iff_ne.mpr (Ne.symm hLabel)
      rw [if_neg hLabel]
      rcases reply with ⟨frames, complexity⟩
      simp [Leaves, List.lookup_cons, hNotFrames, hNotLabel, eq_comm]

/- Distinct fields are read independently of each other. -/
theorem foldlM_setField_eq_ok_iff
    {fields : List (String × Json)}
    {start reply : Reply}
    (hNames : (fields.map Prod.fst).Nodup) :
    fields.foldlM setField start = .ok reply ↔
      Leaves (Reading.list Frame.ofJson)
          (fields.lookup "frames") start.frames reply.frames ∧
        Leaves (Reading.optional Reading.text)
          (fields.lookup "complexity")
          start.complexity reply.complexity := by
  induction fields generalizing start with
  | nil =>
      cases start
      cases reply
      simp [Leaves, pure, Except.pure, eq_comm]
  | cons field rest ih =>
      rcases field with ⟨name, value⟩
      rw [List.map_cons, List.nodup_cons] at hNames
      rcases hNames with ⟨hName, hRest⟩
      have hGone : rest.lookup name = none :=
        lookup_of_not_mem hName
      rw [List.foldlM_cons, leaves_cons hGone, leaves_cons hGone]
      constructor
      · intro hRead
        rcases exists_of_bind_eq_ok hRead with
          ⟨next, hField, hLater⟩
        rcases setField_eq_ok_iff.mp hField with
          ⟨hFrames, hLabel⟩
        rcases (ih hRest).mp hLater with
          ⟨hLaterFrames, hLaterLabel⟩
        exact ⟨⟨next.frames, hFrames, hLaterFrames⟩,
          next.complexity, hLabel, hLaterLabel⟩
      · rintro ⟨⟨frames, hFrames, hLaterFrames⟩,
          label, hLabel, hLaterLabel⟩
        have hField :
            start.setField (name, value) =
              .ok ⟨frames, label⟩ :=
          setField_eq_ok_iff.mpr ⟨hFrames, hLabel⟩
        rw [hField]
        exact (ih hRest).mpr ⟨hLaterFrames, hLaterLabel⟩

/- What the fields leave of an empty reply is made of them. -/
theorem madeOf_iff_leaves
    {fields : List (String × Json)}
    {reply : Reply} :
    MadeOf fields reply ↔
      Leaves (Reading.list Frame.ofJson)
          (fields.lookup "frames") [] reply.frames ∧
        Leaves (Reading.optional Reading.text)
          (fields.lookup "complexity") none reply.complexity := by
  constructor
  · rintro ⟨hFrames, hComplexity⟩
    constructor
    · cases hFound : fields.lookup "frames" with
      | none => rwa [hFound] at hFrames
      | some value =>
          rw [hFound] at hFrames
          exact Reading.list_eq_ok_iff.mpr hFrames
    · cases hFound : fields.lookup "complexity" with
      | none => rwa [hFound] at hComplexity
      | some value =>
          rw [hFound] at hComplexity
          exact Reading.optional_text_eq_ok_iff.mpr hComplexity
  · rintro ⟨hFrames, hComplexity⟩
    constructor
    · cases hFound : fields.lookup "frames" with
      | none => rwa [hFound] at hFrames
      | some value =>
          rw [hFound] at hFrames
          exact Reading.list_eq_ok_iff.mp hFrames
    · cases hFound : fields.lookup "complexity" with
      | none => rwa [hFound] at hComplexity
      | some value =>
          rw [hFound] at hComplexity
          exact Reading.optional_text_eq_ok_iff.mp hComplexity

end Reply

/-
  Whether a document tells a reply. An array holds the frames
  and the label in that order, and the last ones may be
  missing.
-/
def Json.Tells : Json → Reply → Prop
| .object fields, reply => Reply.MadeOf fields reply
| .array items, reply =>
    items.length ≤ 2 ∧
      Reply.MadeOf (["frames", "complexity"].zip items) reply
| .null, _ | .bool _, _ | .integer _, _ => False
| .double _, _ | .string _, _ => False

namespace Reply

theorem foldlM_setField_empty
    {fields : List (String × Json)}
    {reply : Reply}
    (hNames : (fields.map Prod.fst).Nodup) :
    fields.foldlM setField empty = .ok reply ↔
      MadeOf fields reply :=
  (foldlM_setField_eq_ok_iff hNames).trans
    madeOf_iff_leaves.symm

/- The fields of an array have distinct names. -/
theorem nodup_names_zip (items : List Json) :
    ((["frames", "complexity"].zip items).map
      Prod.fst).Nodup :=
  nodup_keys_zip (by decide) items

/- A document is read as the reply that it tells. -/
theorem ofJson_eq_ok_iff
    {document : Json}
    {reply : Reply}
    (hDocument : document.WellFormed) :
    ofJson document = .ok reply ↔ document.Tells reply := by
  cases hDocument with
  | object hNames hValues => exact foldlM_setField_empty hNames
  | @array items hItems =>
      have hFields :
          (["frames", "complexity"].zip items).foldlM
              setField empty = .ok reply ↔ _ :=
        foldlM_setField_empty (nodup_names_zip items)
      unfold ofJson Reading.record Json.Tells
      dsimp only
      rw [← hFields]
      cases (["frames", "complexity"].zip items).foldlM
          setField empty with
      | error mismatch =>
          refine iff_of_false nofun ?_
          rintro ⟨_, hMade⟩
          cases hMade
      | ok made =>
          by_cases hLong : 2 < items.length
          · refine iff_of_false ?_ ?_
            · simp [hLong, bind, Except.bind]
            · rintro ⟨hShort, _⟩
              omega
          · have hShort := Nat.not_lt.mp hLong
            simp [hLong, hShort, bind, Except.bind]
  | null | bool | integer | double | string =>
      exact iff_of_false nofun nofun

------------------------------------------------------------
-- Answers
------------------------------------------------------------

/- An answer that makes no sense. -/
def Refused (result : Except TracerError Reply) : Prop :=
  ∃ message, result = .error (.invalidReply message)

/-
  What becomes of a document, by the status it comes with. An
  error that is a text is reported with the line, whatever the
  status and all other fields are; any other error is refused.
  Without an error, a bad status is refused, and with a good
  one the document is a reply as a whole or refused.
-/
structure Classified
    (document : Json)
    (answer : Bool → Except TracerError Reply) : Prop where
  statusless :
    ∀ error, document.field? "error" = some error →
      answer true = answer false
  failed :
    ∀ message, document.field? "error" = some (.string message) →
      ∃ line,
        (∀ success,
          answer success = .error (.execution message line)) ∧
        (line.isSome = true ↔
          ∃ n : Int,
            document.field? "line" = some (.integer n) ∧
              1 ≤ n ∧ n ≤ 0xFFFFFFFF) ∧
        ∀ number, line = some number →
          document.field? "line" =
            some (.integer number.toNat)
  garbled :
    ∀ error, document.field? "error" = some error →
      (∀ message, error ≠ .string message) →
        ∀ success, Refused (answer success)
  unexplained :
    document.field? "error" = none → Refused (answer false)
  told :
    document.field? "error" = none →
      ∀ reply, answer true = .ok reply ↔ document.Tells reply
  untold :
    document.field? "error" = none →
      (∀ reply, ¬ document.Tells reply) → Refused (answer true)
  spoilt :
    document.field? "error" = none →
      ∀ items, document.field? "frames" = some (.array items) →
        ∀ item ∈ items,
          (∀ frame, Frame.ofJson item ≠ .ok frame) →
            Refused (answer true)

section

variable {document : Json}

/- An error in a document wins over its status. -/
theorem ofAnswer_of_error
    {error : Json}
    (hError : document.field? "error" = some error)
    (success : Bool) :
    ofAnswer success document =
      .error (executionError document error) := by
  unfold ofAnswer
  rw [hError]

/- Without an error and with a bad status it is refused. -/
theorem ofAnswer_false
    (hNone : document.field? "error" = none) :
    Refused (ofAnswer false document) := by
  unfold ofAnswer
  rw [hNone]
  exact ⟨_, rfl⟩

/- Without an error it is a reply or refused. -/
theorem ofAnswer_true
    (hNone : document.field? "error" = none) :
    ofAnswer true document =
      (ofJson document).mapError fun mismatch =>
        .invalidReply mismatch.message := by
  unfold ofAnswer
  rw [hNone]
  rfl

/- Without an error the document is a reply that it tells. -/
theorem ofAnswer_true_eq_ok_iff
    {reply : Reply}
    (hDocument : document.WellFormed)
    (hNone : document.field? "error" = none) :
    ofAnswer true document = .ok reply ↔
      document.Tells reply := by
  rw [ofAnswer_true hNone, ← ofJson_eq_ok_iff hDocument]
  cases ofJson document with
  | error mismatch => exact iff_of_false nofun nofun
  | ok made =>
      constructor
      · rintro ⟨⟩
        rfl
      · rintro ⟨⟩
        rfl

/- Without an error, a document that tells none is refused. -/
theorem refused_of_not_tells
    (hDocument : document.WellFormed)
    (hNone : document.field? "error" = none)
    (hUntold : ∀ reply, ¬ document.Tells reply) :
    Refused (ofAnswer true document) := by
  rw [ofAnswer_true hNone]
  cases hRead : ofJson document with
  | error mismatch => exact ⟨_, rfl⟩
  | ok reply =>
      have hTold := (ofJson_eq_ok_iff hDocument).mp hRead
      exact absurd hTold (hUntold reply)

/- One frame that is not read spoils the whole document. -/
theorem not_tells_of_bad_frame
    {items : List Json}
    {item : Json}
    (hFrames : document.field? "frames" = some (.array items))
    (hMem : item ∈ items)
    (hBad : ∀ frame, Frame.ofJson item ≠ .ok frame)
    (reply : Reply) : ¬ document.Tells reply := by
  intro hTold
  cases document with
  | object fields =>
      have hFound : fields.lookup "frames" = some (.array items) :=
        hFrames
      have hMade := hTold.frames
      rw [hFound] at hMade
      rcases hMade with ⟨others, hSame, hRead⟩
      cases hSame
      have hImage : Frame.ofJson item ∈ reply.frames.map .ok := by
        rw [← hRead]
        exact List.mem_map_of_mem hMem
      rcases List.mem_map.mp hImage with ⟨frame, _, hFrame⟩
      exact hBad frame hFrame.symm
  | null | bool | integer => cases hFrames
  | double | string | array => cases hFrames

/- Every document is classified. -/
theorem classified_ofAnswer
    (hDocument : document.WellFormed) :
    Classified document fun success =>
      ofAnswer success document := by
  constructor
  case statusless =>
    intro error hError
    rw [ofAnswer_of_error hError, ofAnswer_of_error hError]
  case failed =>
    intro message hError
    refine ⟨errorLine? (document.field? "line"), ?_,
      isSome_errorLine?_iff, ?_⟩
    · intro success
      exact ofAnswer_of_error hError success
    · intro number hLine
      rcases errorLine?_eq_some_iff.mp hLine with
        ⟨n, hFound, _, _, rfl⟩
      exact hFound
  case garbled =>
    intro error hError hGarbled success
    rw [ofAnswer_of_error hError]
    cases error with
    | string message => exact absurd rfl (hGarbled message)
    | null | bool | integer => exact ⟨_, rfl⟩
    | double | array | object => exact ⟨_, rfl⟩
  case unexplained => exact ofAnswer_false
  case told =>
    intro hNone reply
    exact ofAnswer_true_eq_ok_iff hDocument hNone
  case untold => exact refused_of_not_tells hDocument
  case spoilt =>
    intro hNone items hFrames item hMem hBad
    exact refused_of_not_tells hDocument hNone
      (not_tells_of_bad_frame hFrames hMem hBad)

/- No document tells that the tracer is out of reach. -/
theorem ofAnswer_ne_unreachable
    (success : Bool)
    (message : String) :
    ofAnswer success document ≠ .error (.unreachable message) := by
  cases hError : document.field? "error" with
  | some error =>
      rw [ofAnswer_of_error hError, executionError]
      cases Reading.text error <;> nofun
  | none =>
      cases success with
      | false =>
          rcases ofAnswer_false hError with ⟨text, hRefused⟩
          rw [hRefused]
          nofun
      | true =>
          rw [ofAnswer_true hError]
          cases ofJson document <;> nofun

end

/-
  What becomes of every answer of a tracer: it is never that
  the tracer is out of reach, a text that is no document is
  refused, every document is classified, and a failure of the
  program reaches the session with its message and line.
-/
theorem decode_classified (body : String) :
    (∀ success message,
      decode success body ≠ .error (.unreachable message)) ∧
    (∀ complaint,
      Json.parse nestingLimit body = .error complaint →
        ∀ success, Refused (decode success body)) ∧
    (∀ document,
      Json.parse nestingLimit body = .ok document →
        Classified document fun success =>
          decode success body) ∧
    ∀ message line,
      SessionError.ofTracer (.execution message line) =
        ⟨message, line⟩ := by
  refine ⟨?_, ?_, ?_, fun _ _ => rfl⟩
  · intro success message
    unfold decode
    split
    case h_1 document hParse =>
        exact ofAnswer_ne_unreachable success message
    case h_2 => nofun
  · intro complaint hParse success
    unfold decode
    rw [hParse]
    exact ⟨_, rfl⟩
  · intro document hParse
    have hDecode :
        (fun success => decode success body) =
          fun success => ofAnswer success document := by
      funext success
      unfold decode
      rw [hParse]
    rw [hDecode]
    exact classified_ofAnswer (Json.wellFormed_of_parse hParse)

/- A line that is none is dropped, and the error still wins. -/
example :
    decode true
        ("\x7b\"frames\":[\x7b\x7d]," ++
          "\"error\":\"boom\",\"line\":0\x7d") =
      .error (.execution "boom" none) := by
  rfl

end Reply

end TracePlayer
