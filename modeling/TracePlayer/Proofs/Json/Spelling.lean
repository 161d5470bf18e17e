import TracePlayer.Json.Token
import TracePlayer.Proofs.Json.Numerals
import TracePlayer.Proofs.Json.WellFormed

/-
  This file proves that the compact text of a legal value is
  split into the tokens of the value. Texts and integers come
  back as they were; a double comes back as the double that is
  read where it was written.

  Main declarations:
    * `Json.Legal`
    * `Json.reread`, `Json.spelled`
    * `Json.Spells`, `Json.Spells.append`
    * `Json.spells_quote`, `Json.spells_write`
    * `Json.tokens_write`
-/

namespace TracePlayer

namespace Json

------------------------------------------------------------
-- Legal Values
------------------------------------------------------------

/-
  The values that a document can hold: integers of 64 bits,
  finite doubles, and objects without a repeated name.
-/
inductive Legal : Json → Prop where
| null : Legal .null
| bool (value : Bool) : Legal (.bool value)
| integer {value : Int}
    (hFits : FitsWord value) : Legal (.integer value)
| double {value : Binary64}
    (hFinite : value.isFinite = true) : Legal (.double value)
| string (value : String) : Legal (.string value)
| array {items : List Json}
    (hItems : ∀ item ∈ items, Legal item) :
    Legal (.array items)
| object {fields : List (String × Json)}
    (hNames : (fields.map Prod.fst).Nodup)
    (hValues : ∀ entry ∈ fields, Legal entry.2) :
    Legal (.object fields)

/- What is read where a double was written. -/
def rereadDouble (x : Binary64) : Json :=
  match readNumber 0 (x.write Binary64.document).toList with
  | .ok number => number.value
  | .error _ => .null

theorem rereadDouble_eq
    {x y : Binary64}
    (hRead :
      ∀ bytes rest, Ends rest →
        readNumber bytes
            ((x.write Binary64.document).toList ++ rest) =
          .ok ⟨.double y,
            bytes + (x.write Binary64.document).toList.length,
            rest⟩) :
    rereadDouble x = .double y := by
  have hAlone := hRead 0 [] nofun
  rw [List.append_nil] at hAlone
  rw [rereadDouble, hAlone]

mutual

/- The value that is read where a value was written. -/
def reread : Json → Json
| null => null
| bool value => bool value
| integer value => integer value
| double value => rereadDouble value
| string value => string value
| array items => array (rereadItems items)
| object fields => object (rereadFields fields)

def rereadItems : List Json → List Json
| [] => []
| item :: rest => reread item :: rereadItems rest

def rereadFields :
    List (String × Json) → List (String × Json)
| [] => []
| (name, value) :: rest =>
    (name, reread value) :: rereadFields rest

end

theorem rereadItems_eq (items : List Json) :
    rereadItems items = items.map reread := by
  induction items with
  | nil => rfl
  | cons item rest ih => rw [rereadItems, ih, List.map_cons]

theorem rereadFields_eq (fields : List (String × Json)) :
    rereadFields fields =
      fields.map fun entry => (entry.1, reread entry.2) := by
  induction fields with
  | nil => rfl
  | cons entry rest ih =>
      rw [rereadFields, ih, List.map_cons]

------------------------------------------------------------
-- Tokens of Values
------------------------------------------------------------

mutual

/- The tokens of a written value. -/
def spelled : Json → List Token
| null => [.scalar .null]
| bool value => [.scalar (.bool value)]
| integer value => [.scalar (.integer value)]
| double value => [.scalar (rereadDouble value)]
| string value => [.text value]
| array items => .openArray :: (spelledItems items ++ [.closeArray])
| object fields =>
    .openObject :: (spelledFields fields ++ [.closeObject])

def spelledItems : List Json → List Token
| [] => []
| [item] => spelled item
| item :: rest => spelled item ++ .comma :: spelledItems rest

def spelledFields : List (String × Json) → List Token
| [] => []
| [(name, value)] => .text name :: .colon :: spelled value
| (name, value) :: rest =>
    .text name :: .colon :: (spelled value ++
      .comma :: spelledFields rest)

end

/-
  A text before the rest of a document is split into tokens,
  as long as there is fuel for the whole document.
-/
def Spells
    (rest cs : List Char)
    (found : List Token) : Prop :=
  ∀ fuel bytes, (cs ++ rest).length < fuel →
    ∃ placed left after,
      tokensFrom fuel bytes (cs ++ rest) =
          placed ++ tokensFrom left after rest ∧
        placed.map Placed.token = found ∧
        rest.length < left

/- Texts one after the other have their tokens in this order. -/
theorem Spells.append
    {cs ds rest : List Char}
    {first second : List Token}
    (hFirst : Spells (ds ++ rest) cs first)
    (hSecond : Spells rest ds second) :
    Spells rest (cs ++ ds) (first ++ second) := by
  intro fuel bytes hFuel
  rw [List.append_assoc] at hFuel ⊢
  rcases hFirst fuel bytes hFuel with
    ⟨early, middle, between, hEarly, hFound, hMiddle⟩
  rcases hSecond middle between hMiddle with
    ⟨late, left, after, hLate, hOthers, hLeft⟩
  refine ⟨early ++ late, left, after, ?_, ?_, hLeft⟩
  · rw [hEarly, hLate, List.append_assoc]
  · rw [List.map_append, hFound, hOthers]

theorem spells_nil (rest : List Char) : Spells rest [] [] :=
  fun fuel bytes hFuel =>
    ⟨[], fuel, bytes, rfl, rfl, hFuel⟩

/- A text that is one token. -/
theorem Spells.of_step
    {rest : List Char}
    {c : Char}
    {cs : List Char}
    {token : Token}
    (hStep :
      ∀ fuel bytes, (cs ++ rest).length < fuel →
        ∃ after,
          tokensFrom (fuel + 1) bytes (c :: (cs ++ rest)) =
            ⟨token, bytes⟩ :: tokensFrom fuel after rest) :
    Spells rest (c :: cs) [token] := by
  intro fuel bytes hFuel
  cases fuel with
  | zero => cases hFuel
  | succ fuel =>
      rw [List.cons_append, List.length_cons] at hFuel
      have hLess : (cs ++ rest).length < fuel := by
        omega
      rcases hStep fuel bytes hLess with ⟨after, hTokens⟩
      refine ⟨[⟨token, bytes⟩], fuel, after, hTokens, rfl, ?_⟩
      rw [List.length_append] at hLess
      omega

/- A mark is a token. -/
theorem spells_mark
    {c : Char}
    {token : Token}
    (hMark : mark? c = some token)
    (rest : List Char) : Spells rest [c] [token] := by
  refine Spells.of_step fun fuel bytes _ => ⟨bytes + 1, ?_⟩
  have hBlank : isBlank c = false := by
    unfold mark? at hMark
    split at hMark <;> first | rfl | cases hMark
  rw [List.nil_append, tokensFrom, hBlank, hMark]
  rfl

theorem readWord_append
    (word rest : List Char)
    (bytes : Nat) :
    readWord word bytes (word ++ rest) = .ok rest := by
  induction word generalizing bytes with
  | nil => rfl
  | cons c word ih =>
      rw [List.cons_append, readWord, if_pos rfl, ih]

/- The words of a document are tokens. -/
theorem spells_word
    {c : Char}
    {word : List Char}
    {value : Json}
    (hWord : word? c = some (word, value))
    (rest : List Char) :
    Spells rest (c :: word) [.scalar value] := by
  refine Spells.of_step fun fuel bytes _ =>
    ⟨bytes + 1 + word.length, ?_⟩
  have hOther :
      isBlank c = false ∧ mark? c = none ∧ c ≠ '"' ∧
        ¬ (c = '-' ∨ c.isDigit = true) := by
    unfold word? at hWord
    split at hWord <;> first | decide | cases hWord
  rcases hOther with ⟨hBlank, hMark, hQuote, hNumber⟩
  rw [tokensFrom, hBlank, if_neg Bool.false_ne_true, hMark]
  dsimp only
  rw [if_neg hQuote, if_neg hNumber, hWord]
  dsimp only
  rw [readWord_append]

/- The start of a number is nothing else. -/
theorem number_start
    {c : Char}
    (hNumber : c = '-' ∨ c.isDigit = true) :
    isBlank c = false ∧ mark? c = none ∧ c ≠ '"' := by
  refine ⟨?_, ?_, ?_⟩
  · have hNot : ∀ d, isBlank d = true → c ≠ d := by
      rintro d hBlank rfl
      unfold isBlank at hBlank
      simp only [Bool.or_eq_true, decide_eq_true_eq] at hBlank
      rcases hBlank with ((rfl | rfl) | rfl) | rfl <;>
        revert hNumber <;> decide
    exact Bool.eq_false_iff.mpr fun hBlank => hNot c hBlank rfl
  · unfold mark?
    split <;> first | rfl | (revert hNumber; decide)
  · rintro rfl
    revert hNumber
    decide

/- A number that is read starts with a minus or a digit. -/
theorem start_of_readNumber
    {cs : List Char}
    {bytes : Nat}
    {number : NumberRead}
    (hRead : readNumber bytes cs = .ok number) :
    ∃ c ds, cs = c :: ds ∧ (c = '-' ∨ c.isDigit = true) := by
  unfold readNumber at hRead
  split at hRead
  case h_1 ds => exact ⟨'-', ds, rfl, Or.inl rfl⟩
  case h_2 =>
      have hStart := startsWithDigit_of_ok hRead
      cases cs with
      | nil => cases hStart
      | cons c ds => exact ⟨c, ds, rfl, Or.inr hStart⟩

/- A number that is read wherever it stands is a token. -/
theorem spells_number
    {cs rest : List Char}
    {value : Json}
    (hRead :
      ∀ bytes rest, Ends rest →
        readNumber bytes (cs ++ rest) =
          .ok ⟨value, bytes + cs.length, rest⟩)
    (hEnds : Ends rest) :
    Spells rest cs [.scalar value] := by
  have hAlone := hRead 0 [] nofun
  rw [List.append_nil] at hAlone
  rcases start_of_readNumber hAlone with ⟨c, ds, rfl, hNumber⟩
  rcases number_start hNumber with ⟨hBlank, hMark, hQuote⟩
  refine Spells.of_step fun fuel bytes _ =>
    ⟨bytes + (c :: ds).length, ?_⟩
  rw [tokensFrom, hBlank, if_neg Bool.false_ne_true, hMark]
  dsimp only
  rw [if_neg hQuote, if_pos hNumber, ← List.cons_append,
    hRead bytes rest hEnds]

------------------------------------------------------------
-- Texts
------------------------------------------------------------

theorem hexValue?_hexDigit :
    ∀ n < 16, hexValue? (hexDigit n) = some n := by
  decide

/- The four digits of a control character. -/
theorem readHex_control
    {c : Char}
    (hLow : c.toNat < 0x20)
    (bytes : Nat)
    (rest : List Char) :
    readHex bytes
        ('0' :: '0' :: hexDigit (c.toNat / 16) ::
          hexDigit (c.toNat % 16) :: rest) =
      .ok (c.toNat, rest) := by
  have hDigits :
      (['0', '0', hexDigit (c.toNat / 16),
          hexDigit (c.toNat % 16)].filterMap hexValue?) =
        [0, 0, c.toNat / 16, c.toNat % 16] := by
    have hZero : hexValue? '0' = some 0 := rfl
    have hHigh := hexValue?_hexDigit (c.toNat / 16) (by omega)
    have hRest := hexValue?_hexDigit (c.toNat % 16) (by omega)
    simp only [List.filterMap_cons, List.filterMap_nil, hZero,
      hHigh, hRest]
  have hTake :
      ('0' :: '0' :: hexDigit (c.toNat / 16) ::
          hexDigit (c.toNat % 16) :: rest).take 4 =
        ['0', '0', hexDigit (c.toNat / 16),
          hexDigit (c.toNat % 16)] :=
    rfl
  unfold readHex
  rw [hTake, hDigits]
  simp only [List.length_cons, List.length_nil, if_pos,
    List.foldl_cons, List.foldl_nil, List.drop_succ_cons,
    List.drop_zero]
  congr 2
  omega

theorem readUnicode_control
    {c : Char}
    (hLow : c.toNat < 0x20)
    (bytes : Nat)
    (rest : List Char) :
    readUnicode bytes
        ('0' :: '0' :: hexDigit (c.toNat / 16) ::
          hexDigit (c.toNat % 16) :: rest) =
      .ok (c, bytes + 4, rest) := by
  unfold readUnicode
  rw [readHex_control hLow]
  have hTrail : ¬ (0xDC00 ≤ c.toNat ∧ c.toNat ≤ 0xDFFF) := by
    omega
  have hLead : c.toNat < 0xD800 ∨ 0xDBFF < c.toNat := by
    omega
  change (if _ then _ else _) = _
  rw [if_neg hTrail, if_pos hLead, Char.ofNat_toNat]

/- An escaped character is read as the character. -/
theorem readStringFrom_escape
    (c : Char)
    (fuel bytes : Nat)
    (reversed rest : List Char) :
    ∃ after,
      readStringFrom (fuel + 1) bytes reversed
          (escape c ++ rest) =
        readStringFrom fuel after (c :: reversed) rest := by
  unfold escape
  split_ifs with hQuote hSlash hBack hFeed hLine hReturn hTab hLow
  · subst hQuote
    exact ⟨_, rfl⟩
  · subst hSlash
    exact ⟨_, rfl⟩
  · subst hBack
    exact ⟨_, rfl⟩
  · subst hFeed
    exact ⟨_, rfl⟩
  · subst hLine
    exact ⟨_, rfl⟩
  · subst hReturn
    exact ⟨_, rfl⟩
  · subst hTab
    exact ⟨_, rfl⟩
  · refine ⟨bytes + 2 + 4, ?_⟩
    have hRead := readUnicode_control hLow (bytes + 2) rest
    rw [readStringFrom.eq_def]
    simp only [List.cons_append, List.nil_append]
    rw [if_neg (by decide), if_pos trivial, hRead]
    rfl
  · refine ⟨bytes + c.utf8Size, ?_⟩
    rw [List.singleton_append, readStringFrom.eq_def]
    dsimp only
    rw [if_neg hQuote, if_neg hSlash, if_neg hLow]

/- The text between quotes is read back. -/
theorem readStringFrom_escaped
    (text : List Char)
    (fuel bytes : Nat)
    (reversed rest : List Char)
    (hFuel : text.length < fuel) :
    ∃ after,
      readStringFrom fuel bytes reversed
          (text.flatMap escape ++ '"' :: rest) =
        .ok (String.ofList (reversed.reverse ++ text), after,
          rest) := by
  induction text generalizing fuel bytes reversed with
  | nil =>
      cases fuel with
      | zero => cases hFuel
      | succ fuel =>
          refine ⟨bytes + 1, ?_⟩
          rw [List.flatMap_nil, List.nil_append,
            readStringFrom.eq_def, List.append_nil]
          rfl
  | cons c text ih =>
      cases fuel with
      | zero => cases hFuel
      | succ fuel =>
          rcases readStringFrom_escape c fuel bytes reversed
            (text.flatMap escape ++ '"' :: rest) with
            ⟨between, hFirst⟩
          rcases ih fuel between (c :: reversed)
            (Nat.lt_of_succ_lt_succ hFuel) with
            ⟨after, hOthers⟩
          refine ⟨after, ?_⟩
          rw [List.flatMap_cons, List.append_assoc, hFirst,
            hOthers, List.reverse_cons, List.append_assoc,
            List.singleton_append]

/- Every character takes some space in a string. -/
theorem length_le_escaped (text : List Char) :
    text.length ≤ (text.flatMap escape).length := by
  induction text with
  | nil => exact Nat.le_refl 0
  | cons c text ih =>
      have hSome : 0 < (escape c).length := by
        unfold escape
        split_ifs <;> exact Nat.succ_pos _
      rw [List.flatMap_cons, List.length_append,
        List.length_cons]
      omega

/- A quoted text is a token. -/
theorem spells_quote
    (text : String)
    (rest : List Char) :
    Spells rest (quote text) [.text text] := by
  have hText :
      quote text =
        '"' :: (text.toList.flatMap escape ++ ['"']) :=
    rfl
  rw [hText]
  refine Spells.of_step fun fuel bytes _ => ?_
  rw [List.append_assoc, List.singleton_append]
  have hFuel :
      text.toList.length <
        (text.toList.flatMap escape ++ '"' :: rest).length + 1 := by
    have hLength := length_le_escaped text.toList
    rw [List.length_append]
    omega
  rcases readStringFrom_escaped text.toList _ (bytes + 1) []
    rest hFuel with ⟨after, hRead⟩
  rw [List.reverse_nil, List.nil_append, String.ofList_toList]
    at hRead
  refine ⟨after, ?_⟩
  have hBlank : isBlank '"' = false := rfl
  have hMark : mark? '"' = none := rfl
  rw [tokensFrom, hBlank, if_neg Bool.false_ne_true, hMark]
  dsimp only
  rw [if_pos rfl, readString, hRead]

------------------------------------------------------------
-- Values
------------------------------------------------------------

/- A mark ends what stands before it. -/
theorem ends_cons
    {c : Char}
    (hMark : c = ',' ∨ c = ']' ∨ c = '\x7d')
    (rest : List Char) : Ends (c :: rest) := by
  intro d hHead
  cases hHead
  exact hMark

theorem spells_null (rest : List Char) :
    Spells rest (write null) (spelled null) :=
  spells_word rfl rest

theorem spells_bool
    (value : Bool)
    (rest : List Char) :
    Spells rest (write (bool value)) (spelled (bool value)) := by
  cases value <;> exact spells_word rfl rest

theorem spells_integer
    {value : Int}
    (hFits : FitsWord value)
    {rest : List Char}
    (hEnds : Ends rest) :
    Spells rest (write (integer value))
      (spelled (integer value)) :=
  spells_number
    (fun bytes _ hEnds => readNumber_integer hFits bytes hEnds)
    hEnds

theorem spells_double
    {value : Binary64}
    (hFinite : value.isFinite = true)
    {rest : List Char}
    (hEnds : Ends rest) :
    Spells rest (write (double value))
      (spelled (double value)) := by
  rcases readNumber_double hFinite with ⟨y, hRead⟩
  rw [spelled, rereadDouble_eq hRead]
  exact spells_number hRead hEnds

mutual

/- The text of a legal value has the tokens of the value. -/
theorem spells_write :
    (value : Json) → value.Legal → ∀ rest, Ends rest →
      Spells rest (write value) (spelled value)
| null, _, rest, _ => spells_null rest
| bool value, _, rest, _ => spells_bool value rest
| integer _, .integer hFits, _, hEnds =>
    spells_integer hFits hEnds
| double _, .double hFinite, _, hEnds =>
    spells_double hFinite hEnds
| string value, _, rest, _ => spells_quote value rest
| array items, .array hItems, rest, _ =>
    (spells_mark rfl _).append
      ((spells_writeItems items hItems _
        (ends_cons (by decide) rest)).append
          (spells_mark rfl rest))
| object fields, .object _ hValues, rest, _ =>
    (spells_mark rfl _).append
      ((spells_writeFields fields hValues _
        (ends_cons (by decide) rest)).append
          (spells_mark rfl rest))

theorem spells_writeItems :
    (items : List Json) → (∀ item ∈ items, Legal item) →
      ∀ rest, Ends rest →
        Spells rest (writeItems items) (spelledItems items)
| [], _, rest, _ => spells_nil rest
| [item], hItems, rest, hEnds =>
    spells_write item (hItems _ List.mem_cons_self) rest hEnds
| item :: other :: others, hItems, rest, hEnds =>
    (spells_write item (hItems _ List.mem_cons_self) _
      (ends_cons (by decide) _)).append
        ((spells_mark rfl _).append
          (spells_writeItems (other :: others)
            (fun _ hMem => hItems _ (List.mem_cons_of_mem _ hMem))
            rest hEnds))

theorem spells_writeFields :
    (fields : List (String × Json)) →
      (∀ entry ∈ fields, Legal entry.2) →
        ∀ rest, Ends rest →
          Spells rest (writeFields fields)
            (spelledFields fields)
| [], _, rest, _ => spells_nil rest
| [(name, value)], hValues, rest, hEnds =>
    (spells_quote name _).append
      ((spells_mark rfl _).append
        (spells_write value (hValues _ List.mem_cons_self) rest
          hEnds))
| (name, value) :: other :: others, hValues, rest, hEnds =>
    ((spells_quote name _).append
      ((spells_mark rfl _).append
        (spells_write value (hValues _ List.mem_cons_self) _
          (ends_cons (by decide) _)))).append
      ((spells_mark rfl _).append
        (spells_writeFields (other :: others)
          (fun _ hMem => hValues _ (List.mem_cons_of_mem _ hMem))
          rest hEnds))

end

/- The tokens of a written value are the tokens of the value. -/
theorem tokens_write
    {value : Json}
    (hLegal : value.Legal) :
    (tokens (write value)).map Placed.token = spelled value := by
  have hEnds : Ends [] := nofun
  have hFuel :
      (write value ++ []).length < (write value).length + 1 := by
    rw [List.append_nil]
    exact Nat.lt_succ_self _
  rcases spells_write value hLegal [] hEnds _ 0 hFuel with
    ⟨placed, left, after, hTokens, hFound, hLeft⟩
  have hNothing : tokensFrom left after [] = [] := by
    cases left <;> rfl
  rw [List.append_nil, hNothing, List.append_nil] at hTokens
  rw [tokens, hTokens, hFound]

end Json

end TracePlayer
