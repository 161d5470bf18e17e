import TracePlayer.Json.Parser

/-
  This file proves that no object of a document that was read
  has a name twice. The invariant is one of the machine that
  reads the document: of its open containers and of the value
  that it ends with.

  Main declarations:
    * `Json.WellFormed`
    * `Json.wellFormed_of_readNumber`
    * `Json.wellFormed_of_mem_tokensFrom`
    * `Json.Sound.take`
    * `Json.wellFormed_of_parse`
-/

namespace TracePlayer

namespace Json

------------------------------------------------------------
-- Well-Formed Values
------------------------------------------------------------

/- A value in which no object has a name twice. -/
inductive WellFormed : Json → Prop where
| null : WellFormed .null
| bool (value : Bool) : WellFormed (.bool value)
| integer (value : Int) : WellFormed (.integer value)
| double (value : Binary64) : WellFormed (.double value)
| string (value : String) : WellFormed (.string value)
| array {items : List Json}
    (hItems : ∀ item ∈ items, WellFormed item) :
    WellFormed (.array items)
| object {fields : List (String × Json)}
    (hNames : (fields.map Prod.fst).Nodup)
    (hValues : ∀ entry ∈ fields, WellFormed entry.2) :
    WellFormed (.object fields)

/- Well-formed fields stay so when one more is written. -/
theorem wellFormed_put
    {fields : List (String × Json)}
    {value : Json}
    (hValues : ∀ entry ∈ fields, WellFormed entry.2)
    (hValue : value.WellFormed)
    (name : String) :
    ∀ entry ∈ put name value fields, WellFormed entry.2 := by
  induction fields with
  | nil =>
      intro entry hMem
      rw [put, List.mem_singleton] at hMem
      rw [hMem]
      exact hValue
  | cons field rest ih =>
      rcases field with ⟨other, old⟩
      have hRest : ∀ entry ∈ rest, WellFormed entry.2 :=
        fun entry hMem =>
          hValues entry (List.mem_cons_of_mem _ hMem)
      intro entry hMem
      by_cases hSame : other = name
      · rw [put, if_pos hSame] at hMem
        rcases List.mem_cons.mp hMem with rfl | hLater
        · exact hValue
        · exact hRest entry hLater
      · rw [put, if_neg hSame] at hMem
        rcases List.mem_cons.mp hMem with rfl | hLater
        · exact hValues _ List.mem_cons_self
        · exact ih hRest entry hLater

------------------------------------------------------------
-- Numbers
------------------------------------------------------------

theorem wellFormed_signedInteger
    (negative : Bool)
    (significand : Nat) :
    (signedInteger negative significand).WellFormed := by
  unfold signedInteger
  split
  case isTrue => exact .integer _
  case isFalse =>
      split
      case isTrue => exact .double _
      case isFalse => exact .integer _

section

variable {negative : Bool}
variable {significand bytes : Nat}
variable {places exponent : Int}
variable {cs : List Char}
variable {number : NumberRead}

theorem wellFormed_of_endDouble
    (hRead :
      endDouble negative significand exponent bytes cs =
        .ok number) :
    number.value.WellFormed := by
  unfold endDouble at hRead
  split at hRead
  case h_1 x hScale =>
      cases hRead
      exact .double _
  case h_2 => cases hRead

theorem wellFormed_of_readExponent
    (hRead :
      readExponent negative significand places bytes cs =
        .ok number) :
    number.value.WellFormed := by
  unfold readExponent at hRead
  dsimp only at hRead
  -- The sign of the exponent decides nothing here.
  split at hRead
  all_goals
    split at hRead
    case isTrue =>
        split at hRead
        case h_1 => exact wellFormed_of_endDouble hRead
        case h_2 =>
            split at hRead
            case isTrue => cases hRead
            case isFalse =>
                cases hRead
                exact .double _
    case isFalse => cases hRead

theorem wellFormed_of_readTail
    (hRead :
      readTail negative significand places bytes cs =
        .ok number) :
    number.value.WellFormed := by
  unfold readTail at hRead
  split at hRead
  case h_1 => exact wellFormed_of_readExponent hRead
  case h_2 => exact wellFormed_of_readExponent hRead
  case h_3 => exact wellFormed_of_endDouble hRead

theorem wellFormed_of_readFraction
    (hRead :
      readFraction negative significand places bytes cs =
        .ok number) :
    number.value.WellFormed := by
  unfold readFraction at hRead
  split at hRead
  case isTrue => exact wellFormed_of_readTail hRead
  case isFalse => cases hRead

theorem wellFormed_of_readUnsigned
    (hRead : readUnsigned negative bytes cs = .ok number) :
    number.value.WellFormed := by
  unfold readUnsigned at hRead
  split at hRead
  case isTrue =>
      dsimp only at hRead
      -- A leading zero only shortens the digits.
      split at hRead
      all_goals
        split at hRead
        case isTrue => cases hRead
        case isFalse =>
            split at hRead
            case h_1 => exact wellFormed_of_readFraction hRead
            case h_2 =>
                split at hRead
                case isTrue =>
                    cases hRead
                    exact wellFormed_signedInteger _ _
                case isFalse =>
                    exact wellFormed_of_readTail hRead
  case isFalse => cases hRead

/- A number is an integer or a double. -/
theorem wellFormed_of_readNumber
    (hRead : readNumber bytes cs = .ok number) :
    number.value.WellFormed := by
  unfold readNumber at hRead
  split at hRead
  case h_1 => exact wellFormed_of_readUnsigned hRead
  case h_2 => exact wellFormed_of_readUnsigned hRead

end

------------------------------------------------------------
-- Tokens
------------------------------------------------------------

/- A scalar is well-formed; no other token has a value. -/
def Token.WellFormed (token : Token) : Prop :=
  ∀ value, token = .scalar value → value.WellFormed

theorem wellFormed_of_mark?
    {c : Char}
    {token : Token}
    (hMark : mark? c = some token) : token.WellFormed := by
  rintro value rfl
  unfold mark? at hMark
  split at hMark <;> cases hMark

theorem wellFormed_of_word?
    {c : Char}
    {letters : List Char}
    {value : Json}
    (hWord : word? c = some (letters, value)) :
    value.WellFormed := by
  unfold word? at hWord
  split at hWord
  case h_1 =>
      cases hWord
      exact .null
  case h_2 =>
      cases hWord
      exact .bool true
  case h_3 =>
      cases hWord
      exact .bool false
  case h_4 => cases hWord

/- Every token of a text is well-formed. -/
theorem wellFormed_of_mem_tokensFrom
    {fuel bytes : Nat}
    {cs : List Char} :
    ∀ placed ∈ tokensFrom fuel bytes cs,
      placed.token.WellFormed := by
  have hCons :
      ∀ {token : Token} {start : Nat} {rest : List Placed},
        token.WellFormed →
          (∀ placed ∈ rest, placed.token.WellFormed) →
            ∀ placed ∈ ⟨token, start⟩ :: rest,
              placed.token.WellFormed :=
    fun hToken hRest => List.forall_mem_cons.mpr ⟨hToken, hRest⟩
  have hLast :
      ∀ {token : Token} {start : Nat},
        (∀ value, token ≠ .scalar value) →
          ∀ placed ∈ [Placed.mk token start],
            placed.token.WellFormed :=
    fun hToken =>
      hCons (fun value hValue => absurd hValue (hToken value))
        (by simp)
  induction fuel generalizing bytes cs with
  | zero => simp [tokensFrom]
  | succ fuel ih =>
      cases cs with
      | nil => simp [tokensFrom]
      | cons c rest =>
          unfold tokensFrom
          split
          case isTrue => exact ih
          case isFalse =>
              split
              case h_1 token hMark =>
                  exact hCons (wellFormed_of_mark? hMark) ih
              case h_2 =>
                  split
                  case isTrue =>
                      split
                      case h_1 => exact hCons nofun ih
                      case h_2 => exact hLast nofun
                  case isFalse =>
                      split
                      case isTrue =>
                          split
                          case h_1 number hNumber =>
                              refine hCons ?_ ih
                              rintro _ ⟨⟩
                              exact wellFormed_of_readNumber hNumber
                          case h_2 => exact hLast nofun
                      case isFalse =>
                          split
                          case h_1 word value hWord =>
                              split
                              case h_1 =>
                                  refine hCons ?_ ih
                                  rintro _ ⟨⟩
                                  exact wellFormed_of_word? hWord
                              case h_2 => exact hLast nofun
                          case h_2 => exact hLast nofun

------------------------------------------------------------
-- The Machine
------------------------------------------------------------

/- What an open container holds already is well-formed. -/
def Open.WellFormed : Open → Prop
| .array reversed => ∀ item ∈ reversed, item.WellFormed
| .object fields _ =>
    (fields.map Prod.fst).Nodup ∧
      ∀ entry ∈ fields, entry.2.WellFormed

/-
  The invariant of the machine: what the open containers hold
  is well-formed, and so is the document once it is there.
-/
structure Sound
    (goal : Goal)
    (stack : List Open) : Prop where
  containers : ∀ container ∈ stack, container.WellFormed
  document : ∀ value, goal = .nothing value → value.WellFormed

namespace Sound

variable {goal next : Goal}
variable {stack outer : List Open}
variable {placed : Placed}
variable {value : Json}

/- A finished value goes where it belongs. -/
theorem deliver
    (hStack : ∀ container ∈ stack, container.WellFormed)
    (hValue : value.WellFormed)
    (hDeliver : deliver value stack = (next, outer)) :
    Sound next outer := by
  cases stack with
  | nil =>
      cases hDeliver
      refine ⟨by simp, ?_⟩
      rintro _ ⟨⟩
      exact hValue
  | cons innermost rest =>
      rcases List.forall_mem_cons.mp hStack with
        ⟨hInnermost, hRest⟩
      cases innermost with
      | array reversed =>
          cases hDeliver
          refine ⟨List.forall_mem_cons.mpr ⟨?_, hRest⟩, nofun⟩
          exact List.forall_mem_cons.mpr ⟨hValue, hInnermost⟩
      | object fields name =>
          cases hDeliver
          refine ⟨List.forall_mem_cons.mpr ⟨?_, hRest⟩, nofun⟩
          exact
            ⟨nodup_keys_put name value fields hInnermost.1,
              wellFormed_put hInnermost.2 hValue name⟩

theorem takeValue
    {limit : Nat}
    (hToken : placed.token.WellFormed)
    (hStack : ∀ container ∈ stack, container.WellFormed)
    (hTake : takeValue limit placed stack = .ok (next, outer)) :
    Sound next outer := by
  unfold Json.takeValue at hTake
  split at hTake
  case h_1 value hText =>
      exact deliver hStack (.string value)
        (Except.ok.inj hTake)
  case h_2 value hScalar =>
      exact deliver hStack (hToken value hScalar)
        (Except.ok.inj hTake)
  case h_3 =>
      split at hTake
      case isTrue => cases hTake
      case isFalse =>
          cases hTake
          refine ⟨List.forall_mem_cons.mpr ⟨?_, hStack⟩, nofun⟩
          simp [Open.WellFormed]
  case h_4 =>
      split at hTake
      case isTrue => cases hTake
      case isFalse =>
          cases hTake
          refine ⟨List.forall_mem_cons.mpr ⟨?_, hStack⟩, nofun⟩
          simp [Open.WellFormed]
  case h_5 => cases hTake
  case h_6 => cases hTake
  case h_7 => cases hTake

theorem takeName
    (hStack : ∀ container ∈ stack, container.WellFormed)
    (hTake : takeName placed stack = .ok (next, outer)) :
    Sound next outer := by
  unfold Json.takeName at hTake
  split at hTake
  case h_1 name fields old rest hText =>
      cases hTake
      rcases List.forall_mem_cons.mp hStack with
        ⟨hFields, hRest⟩
      exact ⟨List.forall_mem_cons.mpr ⟨hFields, hRest⟩, nofun⟩
  case h_2 => cases hTake
  case h_3 => cases hTake

theorem takeSeparator
    (hStack : ∀ container ∈ stack, container.WellFormed)
    (hTake : takeSeparator placed stack = .ok (next, outer)) :
    Sound next outer := by
  unfold Json.takeSeparator at hTake
  split at hTake
  case h_1 reversed rest =>
      rcases List.forall_mem_cons.mp hStack with
        ⟨hItems, hRest⟩
      split at hTake
      case h_1 =>
          cases hTake
          exact ⟨hStack, nofun⟩
      case h_2 =>
          refine deliver hRest (.array ?_) (Except.ok.inj hTake)
          intro item hMem
          exact hItems item (List.mem_reverse.mp hMem)
      case h_3 => cases hTake
  case h_2 fields name rest =>
      rcases List.forall_mem_cons.mp hStack with
        ⟨hFields, hRest⟩
      split at hTake
      case h_1 =>
          cases hTake
          exact ⟨hStack, nofun⟩
      case h_2 =>
          exact deliver hRest (.object hFields.1 hFields.2)
            (Except.ok.inj hTake)
      case h_3 => cases hTake
  case h_3 => cases hTake

/- Every token keeps the invariant. -/
theorem take
    {limit : Nat}
    (hSound : Sound goal stack)
    (hToken : placed.token.WellFormed)
    (hTake : take limit placed goal stack = .ok (next, outer)) :
    Sound next outer := by
  have hStack := hSound.containers
  have hTail :
      ∀ container ∈ stack.tail, container.WellFormed :=
    fun container hMem =>
      hStack container (List.mem_of_mem_tail hMem)
  unfold Json.take at hTake
  split at hTake
  case h_1 => exact takeValue hToken hStack hTake
  case h_2 =>
      exact deliver hTail (.array (by simp))
        (Except.ok.inj hTake)
  case h_3 => exact takeValue hToken hStack hTake
  case h_4 => cases hTake
  case h_5 => exact takeValue hToken hStack hTake
  case h_6 =>
      have hEmpty : (Json.object []).WellFormed :=
        .object (by simp) (by simp)
      exact deliver hTail hEmpty (Except.ok.inj hTake)
  case h_7 => exact takeName hStack hTake
  case h_8 => cases hTake
  case h_9 => exact takeName hStack hTake
  case h_10 =>
      cases hTake
      exact ⟨hStack, nofun⟩
  case h_11 => cases hTake
  case h_12 => exact takeSeparator hStack hTake
  case h_13 => cases hTake

/- A document is well-formed when its tokens are. -/
theorem ofTokens
    {limit length : Nat}
    {placeds : List Placed}
    (hSound : Sound goal stack)
    (hTokens : ∀ placed ∈ placeds, placed.token.WellFormed)
    (hRead :
      ofTokens limit length placeds goal stack = .ok value) :
    value.WellFormed := by
  induction placeds generalizing goal stack with
  | nil =>
      cases goal with
      | nothing result =>
          cases hRead
          exact hSound.document _ rfl
      | value | firstItem | nextItem | firstName => cases hRead
      | nextName | colon | separator => cases hRead
  | cons placed rest ih =>
      rcases List.forall_mem_cons.mp hTokens with
        ⟨hToken, hRest⟩
      unfold Json.ofTokens at hRead
      split at hRead
      case h_1 next outer hTake =>
          exact ih (hSound.take hToken hTake) hRest hRead
      case h_2 => cases hRead

end Sound

/- No object of a document that was read has a name twice. -/
theorem wellFormed_of_parse
    {limit : Nat}
    {text : String}
    {document : Json}
    (hParse : parse limit text = .ok document) :
    document.WellFormed := by
  have hStart : Sound .value [] := ⟨by simp, nofun⟩
  exact hStart.ofTokens wellFormed_of_mem_tokensFrom hParse

end Json

end TracePlayer
