import TracePlayer.Json.Parser
import TracePlayer.Proofs.Json.Lines
import TracePlayer.Proofs.Json.Spelling
import TracePlayer.Proofs.Named

/-
  This file proves how deep a written document may nest: the
  compact text of a legal value is read back when no more
  arrays and objects of it are open at once than the limit
  allows, and is refused for its depth otherwise.

  Main declarations:
    * `Json.depth`
    * `Json.Accepts`, `Json.Refuses`
    * `Json.accepts_spelled`, `Json.refuses_spelled`
    * `Json.parse_compact`
    * `Json.parse_compact_tooDeep`
-/

namespace TracePlayer

namespace Json

------------------------------------------------------------
-- Depth
------------------------------------------------------------

mutual

/- The greatest number of arrays and objects open at once. -/
def depth : Json → Nat
| null | bool _ | integer _ | double _ | string _ => 0
| array items => 1 + depthItems items
| object fields => 1 + depthFields fields

def depthItems : List Json → Nat
| [] => 0
| item :: rest => max (depth item) (depthItems rest)

def depthFields : List (String × Json) → Nat
| [] => 0
| (_, value) :: rest => max (depth value) (depthFields rest)

end

/- A list is as deep as its deepest item. -/
theorem depthItems_le_iff
    (items : List Json)
    (bound : Nat) :
    depthItems items ≤ bound ↔
      ∀ item ∈ items, item.depth ≤ bound := by
  induction items with
  | nil => simp [depthItems]
  | cons item rest ih =>
      rw [depthItems, Nat.max_le, ih, List.forall_mem_cons]

theorem depthFields_le_iff
    (fields : List (String × Json))
    (bound : Nat) :
    depthFields fields ≤ bound ↔
      ∀ entry ∈ fields, entry.2.depth ≤ bound := by
  induction fields with
  | nil => simp [depthFields]
  | cons entry rest ih =>
      rw [depthFields, Nat.max_le, ih, List.forall_mem_cons]

------------------------------------------------------------
-- Runs of Tokens
------------------------------------------------------------

variable {limit : Nat}
variable {found others : List Token}
variable {goal : Goal}
variable {stack : List Open}
variable {next last : Goal × List Open}

/- The tokens lead from one state of the machine to another. -/
def Accepts
    (limit : Nat)
    (found : List Token)
    (goal : Goal)
    (stack : List Open)
    (next : Goal × List Open) : Prop :=
  ∀ placed, placed.map Placed.token = found →
    ∀ length more,
      ofTokens limit length (placed ++ more) goal stack =
        ofTokens limit length more next.1 next.2

/- The tokens open more containers than are allowed. -/
def Refuses
    (limit : Nat)
    (found : List Token)
    (goal : Goal)
    (stack : List Open) : Prop :=
  ∀ placed, placed.map Placed.token = found →
    ∀ length more,
      ∃ bytes,
        ofTokens limit length (placed ++ more) goal stack =
          .error ⟨.tooDeep, bytes⟩

theorem Accepts.append
    (hFirst : Accepts limit found goal stack next)
    (hSecond : Accepts limit others next.1 next.2 last) :
    Accepts limit (found ++ others) goal stack last := by
  intro placed hPlaced length more
  rcases List.map_eq_append_iff.mp hPlaced with
    ⟨early, late, rfl, hEarly, hLate⟩
  rw [List.append_assoc, hFirst early hEarly,
    hSecond late hLate]

theorem Accepts.refuses
    (hFirst : Accepts limit found goal stack next)
    (hSecond : Refuses limit others next.1 next.2) :
    Refuses limit (found ++ others) goal stack := by
  intro placed hPlaced length more
  rcases List.map_eq_append_iff.mp hPlaced with
    ⟨early, late, rfl, hEarly, hLate⟩
  rcases hSecond late hLate length more with ⟨bytes, hError⟩
  refine ⟨bytes, ?_⟩
  rw [List.append_assoc, hFirst early hEarly, hError]

theorem Refuses.append
    (hFirst : Refuses limit found goal stack)
    (others : List Token) :
    Refuses limit (found ++ others) goal stack := by
  intro placed hPlaced length more
  rcases List.map_eq_append_iff.mp hPlaced with
    ⟨early, late, rfl, hEarly, _⟩
  rw [List.append_assoc]
  exact hFirst early hEarly length (late ++ more)

/- A token that is taken wherever it stands. -/
theorem accepts_token
    {token : Token}
    (hTake :
      ∀ start,
        take limit ⟨token, start⟩ goal stack = .ok next) :
    Accepts limit [token] goal stack next := by
  intro placed hPlaced length more
  rcases List.map_eq_singleton_iff.mp hPlaced with
    ⟨⟨_, start⟩, rfl, rfl⟩
  rw [List.singleton_append, ofTokens, hTake start]

/- A token that opens one container too many. -/
theorem refuses_token
    {token : Token}
    (hTake :
      ∀ start,
        take limit ⟨token, start⟩ goal stack =
          .error ⟨.tooDeep, start + 1⟩) :
    Refuses limit [token] goal stack := by
  intro placed hPlaced length more
  rcases List.map_eq_singleton_iff.mp hPlaced with
    ⟨⟨_, start⟩, rfl, rfl⟩
  refine ⟨start + 1, ?_⟩
  rw [List.singleton_append, ofTokens, hTake start]

------------------------------------------------------------
-- Values
------------------------------------------------------------

/- The goals at which a value may come. -/
inductive Goal.WantsValue : Goal → Prop
| value : WantsValue .value
| firstItem : WantsValue .firstItem
| nextItem : WantsValue .nextItem

inductive Goal.WantsName : Goal → Prop
| firstName : WantsName .firstName
| nextName : WantsName .nextName

theorem take_of_wantsValue
    (hGoal : goal.WantsValue)
    {token : Token}
    (hToken : token ≠ .closeArray)
    (start : Nat) :
    take limit ⟨token, start⟩ goal stack =
      takeValue limit ⟨token, start⟩ stack := by
  cases hGoal <;> unfold take <;> split <;>
    first | rfl | contradiction

/- A text or a scalar is delivered. -/
theorem accepts_scalar
    (hGoal : goal.WantsValue)
    (value : Json) :
    Accepts limit [.scalar value] goal stack
      (deliver value stack) :=
  accepts_token (take_of_wantsValue hGoal nofun)

theorem accepts_text
    (hGoal : goal.WantsValue)
    (text : String) :
    Accepts limit [.text text] goal stack
      (deliver (string text) stack) :=
  accepts_token (take_of_wantsValue hGoal nofun)

/- A container is opened when there is room for it. -/
theorem accepts_openArray
    (hGoal : goal.WantsValue)
    (hRoom : stack.length < limit) :
    Accepts limit [.openArray] goal stack
      (.firstItem, .array [] :: stack) := by
  have hOpen : Token.openArray ≠ .closeArray := nofun
  exact accepts_token fun start =>
    (take_of_wantsValue hGoal hOpen start).trans
      (if_neg (Nat.not_le_of_lt hRoom))

theorem accepts_openObject
    (hGoal : goal.WantsValue)
    (hRoom : stack.length < limit) :
    Accepts limit [.openObject] goal stack
      (.firstName, .object [] "" :: stack) := by
  have hOpen : Token.openObject ≠ .closeArray := nofun
  exact accepts_token fun start =>
    (take_of_wantsValue hGoal hOpen start).trans
      (if_neg (Nat.not_le_of_lt hRoom))

/- Without room, it is refused. -/
theorem refuses_openArray
    (hGoal : goal.WantsValue)
    (hFull : limit ≤ stack.length) :
    Refuses limit [.openArray] goal stack := by
  have hOpen : Token.openArray ≠ .closeArray := nofun
  exact refuses_token fun start =>
    (take_of_wantsValue hGoal hOpen start).trans (if_pos hFull)

theorem refuses_openObject
    (hGoal : goal.WantsValue)
    (hFull : limit ≤ stack.length) :
    Refuses limit [.openObject] goal stack := by
  have hOpen : Token.openObject ≠ .closeArray := nofun
  exact refuses_token fun start =>
    (take_of_wantsValue hGoal hOpen start).trans (if_pos hFull)

/- A name and its colon lead to the value of the field. -/
theorem accepts_name
    (hGoal : goal.WantsName)
    (name before : String)
    (fields : List (String × Json)) :
    Accepts limit [.text name, .colon] goal
      (.object fields before :: stack)
      (.value, .object fields name :: stack) := by
  have hName :
      Accepts limit [.text name] goal
        (.object fields before :: stack)
        (.colon, .object fields name :: stack) :=
    accepts_token fun _ => by cases hGoal <;> rfl
  exact hName.append (accepts_token fun _ => rfl)

------------------------------------------------------------
-- Spelled Values
------------------------------------------------------------

/- A container is closed and delivered. -/
theorem accepts_closeArray
    (items : List Json)
    (outer : List Open) :
    Accepts limit [.closeArray] .separator
      (.array (items.reverse ++ []) :: outer)
      (deliver (array items) outer) := by
  refine accepts_token fun _ => ?_
  rw [List.append_nil]
  change Except.ok (deliver (array items.reverse.reverse) outer) = _
  rw [List.reverse_reverse]

theorem accepts_closeObject
    (fields : List (String × Json))
    (name : String)
    (outer : List Open) :
    Accepts limit [.closeObject] .separator
      (.object fields name :: outer)
      (deliver (object fields) outer) :=
  accepts_token fun _ => rfl

/- A comma leads to the next item or name. -/
theorem accepts_comma_array
    (reversed : List Json)
    (outer : List Open) :
    Accepts limit [.comma] .separator
      (.array reversed :: outer)
      (.nextItem, .array reversed :: outer) :=
  accepts_token fun _ => rfl

theorem accepts_comma_object
    (fields : List (String × Json))
    (name : String)
    (outer : List Open) :
    Accepts limit [.comma] .separator
      (.object fields name :: outer)
      (.nextName, .object fields name :: outer) :=
  accepts_token fun _ => rfl

/- A name that comes later is not there yet. -/
theorem not_mem_of_nodup
    {name : String}
    {before rest : List String}
    (hNames : (before ++ name :: rest).Nodup) :
    name ∉ before :=
  fun hOld =>
    (List.nodup_append.mp hNames).2.2 _ hOld _
      List.mem_cons_self rfl

/- A field whose value is delivered goes to the end. -/
theorem accepts_field
    {name : String}
    {value : Json}
    {before : List (String × Json)}
    {outer : List Open}
    (hGoal : goal.WantsName)
    (hNew : name ∉ before.map Prod.fst)
    (hValue :
      Accepts limit found .value (.object before name :: outer)
        (deliver value (.object before name :: outer)))
    (old : String) :
    Accepts limit (.text name :: .colon :: found) goal
      (.object before old :: outer)
      (.separator,
        .object (before ++ [(name, value)]) name :: outer) := by
  rw [deliver, put_of_not_mem hNew] at hValue
  exact (accepts_name hGoal name old before).append hValue

variable (limit)

mutual

/- The tokens of a value that is not too deep deliver it. -/
theorem accepts_spelled :
    (value : Json) → value.Legal →
      ∀ goal stack, goal.WantsValue →
        stack.length + value.depth ≤ limit →
          Accepts limit (spelled value) goal stack
            (deliver (reread value) stack)
| null, _, _, _, hGoal, _ => accepts_scalar hGoal _
| bool _, _, _, _, hGoal, _ => accepts_scalar hGoal _
| integer _, _, _, _, hGoal, _ => accepts_scalar hGoal _
| double _, _, _, _, hGoal, _ => accepts_scalar hGoal _
| string text, _, _, _, hGoal, _ => accepts_text hGoal text
| array [], _, _, stack, hGoal, hDepth => by
    rw [depth] at hDepth
    exact (accepts_openArray hGoal (by omega)).append
      (accepts_token fun _ => rfl)
| array (item :: rest), .array hItems, _, stack, hGoal,
    hDepth => by
    rw [depth] at hDepth
    exact (accepts_openArray hGoal (by omega)).append
      ((accepts_spelledItems (item :: rest)
        (List.cons_ne_nil _ _) hItems .firstItem [] stack
        .firstItem (by omega)).append
          (accepts_closeArray _ stack))
| object [], _, _, stack, hGoal, hDepth => by
    rw [depth] at hDepth
    exact (accepts_openObject hGoal (by omega)).append
      (accepts_token fun _ => rfl)
| object (entry :: rest), .object hNames hValues, _, stack,
    hGoal, hDepth => by
    rw [depth] at hDepth
    rcases accepts_spelledFields (entry :: rest)
      (List.cons_ne_nil _ _) hValues .firstName [] "" stack
      .firstName hNames (by omega) with ⟨name, hFields⟩
    exact (accepts_openObject hGoal (by omega)).append
      (hFields.append (accepts_closeObject _ name stack))

/- The tokens of items put them into their array. -/
theorem accepts_spelledItems :
    (items : List Json) → items ≠ [] →
      (∀ item ∈ items, Legal item) →
        ∀ goal reversed outer, goal.WantsValue →
          outer.length + 1 + depthItems items ≤ limit →
            Accepts limit (spelledItems items) goal
              (.array reversed :: outer)
              (.separator,
                .array ((rereadItems items).reverse ++ reversed) ::
                  outer)
| [item], _, hItems, goal, reversed, outer, hGoal, hDepth => by
    rw [depthItems] at hDepth
    exact accepts_spelled item (hItems _ List.mem_cons_self)
      goal (.array reversed :: outer) hGoal (by
        rw [List.length_cons]
        omega)
| item :: other :: others, _, hItems, goal, reversed, outer,
    hGoal, hDepth => by
    rw [depthItems] at hDepth
    have hFirst :=
      accepts_spelled item (hItems _ List.mem_cons_self)
        goal (.array reversed :: outer) hGoal (by
          rw [List.length_cons]
          omega)
    have hRest :=
      accepts_spelledItems (other :: others)
        (List.cons_ne_nil _ _)
        (fun _ hMem => hItems _ (List.mem_cons_of_mem _ hMem))
        .nextItem (reread item :: reversed) outer .nextItem
        (by omega)
    rw [rereadItems, List.reverse_cons, List.append_assoc]
    exact hFirst.append
      ((accepts_comma_array _ outer).append hRest)

/- The tokens of fields put them into their object. -/
theorem accepts_spelledFields :
    (fields : List (String × Json)) → fields ≠ [] →
      (∀ entry ∈ fields, Legal entry.2) →
        ∀ goal before name outer, goal.WantsName →
          (before.map Prod.fst ++ fields.map Prod.fst).Nodup →
            outer.length + 1 + depthFields fields ≤ limit →
              ∃ last,
                Accepts limit (spelledFields fields) goal
                  (.object before name :: outer)
                  (.separator,
                    .object (before ++ rereadFields fields)
                      last :: outer)
| [(name, value)], _, hValues, _, before, old, outer, hGoal,
    hNames, hDepth => by
    rw [depthFields] at hDepth
    have hValue :=
      accepts_spelled value (hValues _ List.mem_cons_self)
        .value (.object before name :: outer) .value (by
          rw [List.length_cons]
          omega)
    exact ⟨name,
      accepts_field hGoal (not_mem_of_nodup hNames) hValue old⟩
| (name, value) :: other :: others, _, hValues, _, before, old,
    outer, hGoal, hNames, hDepth => by
    rw [depthFields] at hDepth
    have hValue :=
      accepts_spelled value (hValues _ List.mem_cons_self)
        .value (.object before name :: outer) .value (by
          rw [List.length_cons]
          omega)
    have hOthers :
        ((before ++ [(name, reread value)]).map Prod.fst ++
          (other :: others).map Prod.fst).Nodup := by
      simpa using hNames
    rcases accepts_spelledFields (other :: others)
      (List.cons_ne_nil _ _)
      (fun _ hMem => hValues _ (List.mem_cons_of_mem _ hMem))
      .nextName (before ++ [(name, reread value)]) name outer
      .nextName hOthers (by omega) with ⟨last, hRest⟩
    rw [List.append_assoc] at hRest
    exact ⟨last,
      (accepts_field hGoal (not_mem_of_nodup hNames) hValue
        old).append
          ((accepts_comma_object _ name outer).append hRest)⟩

end

mutual

/- The tokens of a value that is too deep are refused. -/
theorem refuses_spelled :
    (value : Json) → value.Legal →
      ∀ goal stack, goal.WantsValue → stack.length ≤ limit →
        limit < stack.length + value.depth →
          Refuses limit (spelled value) goal stack
| null, _, _, _, _, hRoom, hDepth
| bool _, _, _, _, _, hRoom, hDepth
| integer _, _, _, _, _, hRoom, hDepth
| double _, _, _, _, _, hRoom, hDepth
| string _, _, _, _, _, hRoom, hDepth => by
    rw [depth] at hDepth
    omega
| array [], _, _, stack, hGoal, _, hDepth => by
    rw [depth, depthItems] at hDepth
    exact (refuses_openArray hGoal (by omega)).append _
| array (item :: rest), .array hItems, _, stack, hGoal, hRoom,
    hDepth => by
    rw [depth] at hDepth
    by_cases hFull : limit ≤ stack.length
    · exact (refuses_openArray hGoal hFull).append _
    · exact (accepts_openArray hGoal (by omega)).refuses
        ((refuses_spelledItems (item :: rest)
          (List.cons_ne_nil _ _) hItems .firstItem [] stack
          .firstItem (by omega) (by omega)).append _)
| object [], _, _, stack, hGoal, _, hDepth => by
    rw [depth, depthFields] at hDepth
    exact (refuses_openObject hGoal (by omega)).append _
| object (entry :: rest), .object hNames hValues, _, stack,
    hGoal, hRoom, hDepth => by
    rw [depth] at hDepth
    by_cases hFull : limit ≤ stack.length
    · exact (refuses_openObject hGoal hFull).append _
    · exact (accepts_openObject hGoal (by omega)).refuses
        ((refuses_spelledFields (entry :: rest)
          (List.cons_ne_nil _ _) hValues .firstName [] "" stack
          .firstName hNames (by omega) (by omega)).append _)

theorem refuses_spelledItems :
    (items : List Json) → items ≠ [] →
      (∀ item ∈ items, Legal item) →
        ∀ goal reversed outer, goal.WantsValue →
          outer.length + 1 ≤ limit →
            limit < outer.length + 1 + depthItems items →
              Refuses limit (spelledItems items) goal
                (.array reversed :: outer)
| [item], _, hItems, goal, reversed, outer, hGoal, hRoom,
    hDepth => by
    rw [depthItems, depthItems, Nat.max_zero] at hDepth
    exact refuses_spelled item (hItems _ List.mem_cons_self)
      goal (.array reversed :: outer) hGoal hRoom hDepth
| item :: other :: others, _, hItems, goal, reversed, outer,
    hGoal, hRoom, hDepth => by
    rw [depthItems] at hDepth
    by_cases hDeep : limit < outer.length + 1 + item.depth
    · exact (refuses_spelled item
        (hItems _ List.mem_cons_self) goal
        (.array reversed :: outer) hGoal hRoom hDeep).append _
    · have hFirst :=
        accepts_spelled limit item (hItems _ List.mem_cons_self) goal
          (.array reversed :: outer) hGoal (by
            rw [List.length_cons]
            omega)
      have hRest :=
        refuses_spelledItems (other :: others)
          (List.cons_ne_nil _ _)
          (fun _ hMem => hItems _ (List.mem_cons_of_mem _ hMem))
          .nextItem (reread item :: reversed) outer .nextItem
          hRoom (by omega)
      exact hFirst.refuses
        ((accepts_comma_array _ outer).refuses hRest)

theorem refuses_spelledFields :
    (fields : List (String × Json)) → fields ≠ [] →
      (∀ entry ∈ fields, Legal entry.2) →
        ∀ goal before name outer, goal.WantsName →
          (before.map Prod.fst ++ fields.map Prod.fst).Nodup →
            outer.length + 1 ≤ limit →
              limit < outer.length + 1 + depthFields fields →
                Refuses limit (spelledFields fields) goal
                  (.object before name :: outer)
| [(name, value)], _, hValues, _, before, old, outer, hGoal, _,
    hRoom, hDepth => by
    rw [depthFields, depthFields, Nat.max_zero] at hDepth
    exact (accepts_name hGoal name old before).refuses
      (refuses_spelled value (hValues _ List.mem_cons_self)
        .value (.object before name :: outer) .value hRoom
        hDepth)
| (name, value) :: other :: others, _, hValues, _, before, old,
    outer, hGoal, hNames, hRoom, hDepth => by
    rw [depthFields] at hDepth
    by_cases hDeep : limit < outer.length + 1 + value.depth
    · exact (accepts_name hGoal name old before).refuses
        ((refuses_spelled value (hValues _ List.mem_cons_self)
          .value (.object before name :: outer) .value hRoom
          hDeep).append _)
    · have hValue :=
        accepts_spelled limit value (hValues _ List.mem_cons_self)
          .value (.object before name :: outer) .value (by
            rw [List.length_cons]
            omega)
      have hOthers :
          ((before ++ [(name, reread value)]).map Prod.fst ++
            (other :: others).map Prod.fst).Nodup := by
        simpa using hNames
      have hRest :=
        refuses_spelledFields (other :: others)
          (List.cons_ne_nil _ _)
          (fun _ hMem => hValues _ (List.mem_cons_of_mem _ hMem))
          .nextName (before ++ [(name, reread value)]) name
          outer .nextName hOthers hRoom (by omega)
      exact (accepts_field hGoal (not_mem_of_nodup hNames)
        hValue old).refuses
          ((accepts_comma_object _ name outer).refuses hRest)

end

------------------------------------------------------------
-- Documents
------------------------------------------------------------

theorem tokens_compact
    {value : Json}
    (hLegal : value.Legal) :
    (tokens (compact value).toList).map Placed.token =
      spelled value := by
  rw [compact, String.toList_ofList, tokens_write hLegal]

variable {limit}

/- A document that is not too deep is read back. -/
theorem parse_compact
    {value : Json}
    (hLegal : value.Legal)
    (hDepth : value.depth ≤ limit) :
    parse limit (compact value) = .ok (reread value) := by
  have hRun :=
    accepts_spelled limit value hLegal .value [] .value (by
      rw [List.length_nil]
      omega) _ (tokens_compact hLegal)
      (utf8Length (compact value).toList) []
  rw [List.append_nil] at hRun
  exact hRun

/- A document that is too deep is refused for its depth. -/
theorem parse_compact_tooDeep
    {value : Json}
    (hLegal : value.Legal)
    (hDepth : limit < value.depth) :
    ∃ bytes,
      parse limit (compact value) =
        .error ⟨.tooDeep, bytes⟩ := by
  have hRun :=
    refuses_spelled limit value hLegal .value [] .value
      (Nat.zero_le limit) (by
        rw [List.length_nil]
        omega) _ (tokens_compact hLegal)
      (utf8Length (compact value).toList) []
  rw [List.append_nil] at hRun
  exact hRun

/- A place in a printable text is in its first line. -/
theorem positionAt_of_printable
    {cs : List Char}
    (hCs : Printable cs)
    (bytes line column : Nat) :
    (positionAt cs bytes line column).1 = line := by
  induction cs generalizing bytes column with
  | nil => rfl
  | cons c cs ih =>
      rcases List.forall_mem_cons.mp hCs with ⟨hChar, hRest⟩
      have hNot : c ≠ '\n' := by
        rintro rfl
        exact absurd hChar (by decide)
      rw [positionAt, if_neg hNot]
      split_ifs
      · rfl
      · rfl
      · exact ih hRest _ _

/- What is said of a document that is too deep. -/
theorem message_tooDeep
    (value : Json)
    (bytes : Nat) :
    ∃ column : Nat,
      Complaint.message ⟨.tooDeep, bytes⟩ (compact value) =
        "recursion limit exceeded at line 1 column " ++
          toString column := by
  have hLine :
      (positionAt (compact value).toList bytes 1 0).1 = 1 := by
    rw [compact, String.toList_ofList]
    exact positionAt_of_printable (write_printable value) _ _ _
  refine ⟨(positionAt (compact value).toList bytes 1 0).2, ?_⟩
  unfold Complaint.message
  dsimp only
  rw [hLine]
  rfl

end Json

end TracePlayer
