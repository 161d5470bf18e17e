import Mathlib
import TracePlayer.Proofs.Json.Spelling
import TracePlayer.Proofs.Number.Characters
import TracePlayer.Proofs.Number.ReadBack

/-
  This file proves that no two values have the same compact
  text, not even when more text follows them in an array or an
  object. The first character tells texts, arrays and objects
  apart from all else, and a text is told by the reader of
  texts; numbers and words end where no value goes on.

  Main declarations:
    * `Json.Unended`, `Json.append_inj_of_unended`
    * `Json.scalar_append_inj`, `Json.quote_append_inj`
    * `Json.write_append_inj`
    * `Json.compact_injective`
-/

namespace TracePlayer

namespace Json

variable {rest more : List Char}

------------------------------------------------------------
-- Words and Numbers
------------------------------------------------------------

/- A character that ends what stands before it. -/
def EndsValue (c : Char) : Prop :=
  c = ',' ∨ c = ']' ∨ c = '\x7d'

instance (c : Char) : Decidable (EndsValue c) :=
  inferInstanceAs (Decidable (_ ∨ _ ∨ _))

/- A text that has no such character. -/
def Unended (text : List Char) : Prop :=
  ∀ c ∈ text, ¬ EndsValue c

instance (text : List Char) : Decidable (Unended text) :=
  List.decidableBAll (fun c => ¬ EndsValue c) text

/- Texts without such a character end at the first one. -/
theorem append_inj_of_unended
    {cs ds : List Char}
    (hCs : Unended cs)
    (hDs : Unended ds)
    (hRest : Ends rest)
    (hMore : Ends more)
    (hSame : cs ++ rest = ds ++ more) :
    cs = ds ∧ rest = more := by
  induction cs generalizing ds with
  | nil =>
      cases ds with
      | nil => exact ⟨rfl, hSame⟩
      | cons d ds =>
          rw [List.nil_append] at hSame
          rw [hSame] at hRest
          exact absurd (hRest d rfl) (hDs d List.mem_cons_self)
  | cons c cs ih =>
      cases ds with
      | nil =>
          rw [List.nil_append] at hSame
          rw [← hSame] at hMore
          exact absurd (hMore c rfl) (hCs c List.mem_cons_self)
      | cons d ds =>
          rcases List.cons.inj hSame with ⟨rfl, hTails⟩
          rcases ih (fun c hMem => hCs c (.tail _ hMem))
            (fun c hMem => hDs c (.tail _ hMem)) hTails with
            ⟨rfl, hRests⟩
          exact ⟨rfl, hRests⟩

/- Numbers have no such character. -/
theorem unended_of_numerals
    {text : List Char}
    (hText : Numerals text) : Unended text := by
  intro c hMem hEnds
  have hNumeral := hText c hMem
  rcases hEnds with rfl | rfl | rfl
  · exact absurd hNumeral (by decide)
  · exact absurd hNumeral (by decide)
  · exact absurd hNumeral (by decide)

/- A value that holds no text and no other value. -/
inductive Scalar : Json → Prop where
| null : Scalar .null
| bool (value : Bool) : Scalar (.bool value)
| integer (value : Int) : Scalar (.integer value)
| double (value : Binary64) : Scalar (.double value)

/- What the text of a word or number shows of its value. -/
inductive Shape where
| word
| integer
| double
deriving DecidableEq

namespace Shape

/- Integers have few characters, and numbers have no others. -/
def ofText (text : List Char) : Shape :=
  if SignedDigits text then integer
  else if Numerals text then double
  else word

def ofValue : Json → Shape
| .integer _ => integer
| .double _ => double
| _ => word

theorem ofText_write
    {value : Json}
    (hScalar : value.Scalar) :
    ofText value.write = ofValue value := by
  cases hScalar with
  | null => decide
  | bool value => cases value <;> decide
  | integer value => exact if_pos (signedDigits_toString value)
  | double value =>
      have hNumerals := value.numerals_write Binary64.document
      exact (if_neg value.not_signedDigits_write).trans
        (if_pos hNumerals)

end Shape

/- Words and numbers have no character that ends a value. -/
theorem unended_of_scalar
    {value : Json}
    (hScalar : value.Scalar) : Unended value.write := by
  cases hScalar with
  | null => decide
  | bool value => cases value <;> decide
  | integer value =>
      exact unended_of_numerals
        (signedDigits_toString value).numerals
  | double value =>
      exact unended_of_numerals
        (value.numerals_write Binary64.document)

/- Words and numbers are told by their texts. -/
theorem write_inj_of_scalar
    {a b : Json}
    (hA : a.Scalar)
    (hB : b.Scalar)
    (hSame : a.write = b.write) : a = b := by
  have hShape := congrArg Shape.ofText hSame
  rw [Shape.ofText_write hA, Shape.ofText_write hB] at hShape
  cases hA with
  | null =>
      cases hB with
      | null => rfl
      | bool value =>
          cases value <;> exact absurd hSame (by decide)
      | integer => cases hShape
      | double => cases hShape
  | bool value =>
      cases hB with
      | null => cases value <;> exact absurd hSame (by decide)
      | bool other =>
          cases value <;> cases other <;>
            first | rfl | exact absurd hSame (by decide)
      | integer => cases hShape
      | double => cases hShape
  | integer value =>
      cases hB with
      | null => cases hShape
      | bool => cases hShape
      | integer other =>
          rw [Int.repr_injective (String.toList_inj.mp hSame)]
      | double => cases hShape
  | double value =>
      cases hB with
      | null => cases hShape
      | bool => cases hShape
      | integer => cases hShape
      | double other =>
          rw [Binary64.write_injective _
            (String.toList_inj.mp hSame)]

/- Also when more text follows them. -/
theorem scalar_append_inj
    {a b : Json}
    (hA : a.Scalar)
    (hB : b.Scalar)
    (hRest : Ends rest)
    (hMore : Ends more)
    (hSame : a.write ++ rest = b.write ++ more) :
    a = b ∧ rest = more := by
  rcases append_inj_of_unended (unended_of_scalar hA)
    (unended_of_scalar hB) hRest hMore hSame with
    ⟨hWritten, hRests⟩
  exact ⟨write_inj_of_scalar hA hB hWritten, hRests⟩

------------------------------------------------------------
-- Texts
------------------------------------------------------------

/- A quoted text is told by its reader, whatever follows it. -/
theorem quote_append_inj
    {text other : String}
    (hSame : quote text ++ rest = quote other ++ more) :
    text = other ∧ rest = more := by
  have hQuote (text : String) (rest : List Char) :
      quote text ++ rest =
        '"' :: (text.toList.flatMap escape ++ '"' :: rest) := by
    simp [quote]
  rw [hQuote, hQuote] at hSame
  have hInside := (List.cons.inj hSame).2
  -- One amount of fuel is enough for both.
  have hFuel :
      text.toList.length <
        text.toList.length + other.toList.length + 1 := by
    omega
  have hOtherFuel :
      other.toList.length <
        text.toList.length + other.toList.length + 1 := by
    omega
  rcases readStringFrom_escaped text.toList _ 0 [] rest hFuel with
    ⟨after, hRead⟩
  rcases readStringFrom_escaped other.toList _ 0 [] more
    hOtherFuel with ⟨place, hOtherRead⟩
  rw [hInside, hOtherRead] at hRead
  simp only [List.reverse_nil, List.nil_append,
    String.ofList_toList, Except.ok.injEq, Prod.mk.injEq]
    at hRead
  exact ⟨hRead.1.symm, hRead.2.2.symm⟩

------------------------------------------------------------
-- Values
------------------------------------------------------------

/- What the first character of a value tells of it. -/
inductive Kind where
| scalar
| text
| array
| object

namespace Kind

def ofStart (c : Char) : Kind :=
  if c = '"' then text
  else if c = '[' then array
  else if c = '\x7b' then object
  else scalar

def ofValue : Json → Kind
| .string _ => text
| .array _ => array
| .object _ => object
| _ => scalar

theorem ofStart_of_numeral
    {c : Char}
    (hNumeral : Numeral c) : ofStart c = scalar := by
  have hOther {d : Char} (hNot : ¬ Numeral d) : c ≠ d := by
    rintro rfl
    exact hNot hNumeral
  unfold ofStart
  rw [if_neg (hOther (by decide)), if_neg (hOther (by decide)),
    if_neg (hOther (by decide))]

end Kind

theorem scalar_of_kind
    {value : Json}
    (hKind : Kind.ofValue value = .scalar) : value.Scalar := by
  cases value with
  | null => exact .null
  | bool value => exact .bool value
  | integer value => exact .integer value
  | double value => exact .double value
  | string | array | object => cases hKind

/- A text that starts as a value of some kind does. -/
def StartsAs
    (kind : Kind)
    (text : List Char) : Prop :=
  ∃ c ∈ text.head?, Kind.ofStart c = kind ∧ ¬ EndsValue c

theorem startsAs_of_numerals
    {text : List Char}
    (hText : Numerals text)
    (hSome : text ≠ []) : StartsAs .scalar text := by
  cases text with
  | nil => exact absurd rfl hSome
  | cons c text =>
      refine ⟨c, rfl,
        Kind.ofStart_of_numeral (hText c List.mem_cons_self), ?_⟩
      exact unended_of_numerals hText c List.mem_cons_self

/- A value starts as one of its kind. -/
theorem startsAs_write (value : Json) :
    StartsAs (Kind.ofValue value) value.write := by
  cases value with
  | null => exact ⟨'n', rfl, rfl, by decide⟩
  | bool value =>
      cases value with
      | true => exact ⟨'t', rfl, rfl, by decide⟩
      | false => exact ⟨'f', rfl, rfl, by decide⟩
  | integer value =>
      exact startsAs_of_numerals
        (signedDigits_toString value).numerals
        (toString_ne_nil value)
  | double value =>
      refine startsAs_of_numerals
        (value.numerals_write Binary64.document) fun hNil => ?_
      have hText :
          (value.write Binary64.document).toList = [] :=
        hNil
      exact value.not_signedDigits_write (hText ▸ nofun)
  | string value => exact ⟨'"', rfl, rfl, by decide⟩
  | array items => exact ⟨'[', rfl, rfl, by decide⟩
  | object fields => exact ⟨'\x7b', rfl, rfl, by decide⟩

/- Values of equal texts are of one kind. -/
theorem kind_eq_of_write
    {a b : Json}
    (hSame : a.write ++ rest = b.write ++ more) :
    Kind.ofValue a = Kind.ofValue b := by
  rcases startsAs_write a with ⟨c, hFirst, hKind, _⟩
  rcases startsAs_write b with ⟨d, hOther, hOtherKind, _⟩
  have hHead := congrArg List.head? hSame
  rw [List.head?_append, List.head?_append, hFirst, hOther,
    Option.some_or, Option.some_or, Option.some.injEq] at hHead
  rw [← hKind, ← hOtherKind, hHead]

/- A value does not start as what comes after a value. -/
theorem write_ne_of_endsValue
    {c : Char}
    (hEnds : EndsValue c)
    (value : Json) :
    c :: rest ≠ value.write ++ more := by
  rcases startsAs_write value with ⟨d, hFirst, _, hNot⟩
  intro hSame
  have hHead := congrArg List.head? hSame
  rw [List.head?_append, hFirst, Option.some_or,
    List.head?_cons, Option.some.injEq] at hHead
  exact hNot (hHead ▸ hEnds)

/- The other items of an array, and fields of an object. -/
def writeOtherItems : List Json → List Char
| [] => []
| items => ',' :: writeItems items

def writeOtherFields : List (String × Json) → List Char
| [] => []
| fields => ',' :: writeFields fields

theorem writeItems_cons
    (item : Json)
    (items : List Json) :
    writeItems (item :: items) =
      write item ++ writeOtherItems items := by
  cases items with
  | nil => exact (List.append_nil _).symm
  | cons other others => rfl

theorem writeFields_cons
    (name : String)
    (value : Json)
    (fields : List (String × Json)) :
    writeFields ((name, value) :: fields) =
      quote name ++
        (':' :: (write value ++ writeOtherFields fields)) := by
  cases fields with
  | nil => simp [writeFields, writeOtherFields]
  | cons other others => simp [writeFields, writeOtherFields]

theorem ends_otherItems
    (items : List Json)
    (rest : List Char) :
    Ends (writeOtherItems items ++ ']' :: rest) := by
  cases items with
  | nil => exact ends_cons (by decide) rest
  | cons item items => exact ends_cons (by decide) _

theorem ends_otherFields
    (fields : List (String × Json))
    (rest : List Char) :
    Ends (writeOtherFields fields ++ '\x7d' :: rest) := by
  cases fields with
  | nil => exact ends_cons (by decide) rest
  | cons field fields => exact ends_cons (by decide) _

mutual

/- No two values have the same text, whatever follows it. -/
theorem write_append_inj :
    (a b : Json) → (rest more : List Char) →
      Ends rest → Ends more →
        write a ++ rest = write b ++ more →
          a = b ∧ rest = more
| null, _, _, _, hRest, hMore, hSame =>
    scalar_append_inj .null
      (scalar_of_kind (kind_eq_of_write hSame).symm) hRest hMore
      hSame
| bool value, _, _, _, hRest, hMore, hSame =>
    scalar_append_inj (.bool value)
      (scalar_of_kind (kind_eq_of_write hSame).symm) hRest hMore
      hSame
| integer value, _, _, _, hRest, hMore, hSame =>
    scalar_append_inj (.integer value)
      (scalar_of_kind (kind_eq_of_write hSame).symm) hRest hMore
      hSame
| double value, _, _, _, hRest, hMore, hSame =>
    scalar_append_inj (.double value)
      (scalar_of_kind (kind_eq_of_write hSame).symm) hRest hMore
      hSame
| string text, b, _, _, _, _, hSame => by
    have hKind := kind_eq_of_write hSame
    cases b with
    | string other =>
        rcases quote_append_inj hSame with ⟨rfl, hRests⟩
        exact ⟨rfl, hRests⟩
    | null | bool | integer | double => cases hKind
    | array | object => cases hKind
| array items, b, rest, more, _, _, hSame => by
    have hKind := kind_eq_of_write hSame
    cases b with
    | array others =>
        simp only [write, List.cons_append, List.append_assoc,
          List.nil_append, List.cons.injEq, true_and] at hSame
        rcases writeItems_append_inj items others rest more hSame
          with ⟨rfl, hRests⟩
        exact ⟨rfl, hRests⟩
    | null | bool | integer | double => cases hKind
    | string | object => cases hKind
| object fields, b, rest, more, _, _, hSame => by
    have hKind := kind_eq_of_write hSame
    cases b with
    | object others =>
        simp only [write, List.cons_append, List.append_assoc,
          List.nil_append, List.cons.injEq, true_and] at hSame
        rcases writeFields_append_inj fields others rest more
          hSame with ⟨rfl, hRests⟩
        exact ⟨rfl, hRests⟩
    | null | bool | integer | double => cases hKind
    | string | array => cases hKind

theorem writeItems_append_inj :
    (items others : List Json) → (rest more : List Char) →
      writeItems items ++ ']' :: rest =
          writeItems others ++ ']' :: more →
        items = others ∧ rest = more
| [], [], _, _, hSame => ⟨rfl, (List.cons.inj hSame).2⟩
| [], other :: others, _, _, hSame => by
    rw [writeItems_cons, List.append_assoc] at hSame
    exact absurd hSame
      (write_ne_of_endsValue (by decide) other)
| item :: items, [], _, _, hSame => by
    rw [writeItems_cons, List.append_assoc] at hSame
    exact absurd hSame.symm
      (write_ne_of_endsValue (by decide) item)
| item :: items, other :: others, rest, more, hSame => by
    rw [writeItems_cons, writeItems_cons, List.append_assoc,
      List.append_assoc] at hSame
    rcases write_append_inj item other _ _
      (ends_otherItems items rest) (ends_otherItems others more)
      hSame with ⟨rfl, hOthers⟩
    cases items with
    | nil =>
        cases others with
        | nil => exact ⟨rfl, (List.cons.inj hOthers).2⟩
        | cons => cases hOthers
    | cons next items =>
        cases others with
        | nil => cases hOthers
        | cons =>
            rcases writeItems_append_inj (next :: items) _ rest
              more (List.cons.inj hOthers).2 with
              ⟨hItems, hRests⟩
            exact ⟨congrArg (item :: ·) hItems, hRests⟩

theorem writeFields_append_inj :
    (fields others : List (String × Json)) →
      (rest more : List Char) →
        writeFields fields ++ '\x7d' :: rest =
            writeFields others ++ '\x7d' :: more →
          fields = others ∧ rest = more
| [], [], _, _, hSame => ⟨rfl, (List.cons.inj hSame).2⟩
| [], (other, value) :: others, _, _, hSame => by
    rw [writeFields_cons] at hSame
    cases hSame
| (name, value) :: fields, [], _, _, hSame => by
    rw [writeFields_cons] at hSame
    cases hSame
| (name, value) :: fields, (other, given) :: others, rest, more,
  hSame => by
    rw [writeFields_cons, writeFields_cons, List.append_assoc,
      List.append_assoc] at hSame
    rcases quote_append_inj hSame with ⟨rfl, hValues⟩
    simp only [List.cons_append, List.append_assoc,
      List.cons.injEq, true_and] at hValues
    rcases write_append_inj value given _ _
      (ends_otherFields fields rest)
      (ends_otherFields others more) hValues with
      ⟨rfl, hOthers⟩
    cases fields with
    | nil =>
        cases others with
        | nil => exact ⟨rfl, (List.cons.inj hOthers).2⟩
        | cons => cases hOthers
    | cons next fields =>
        cases others with
        | nil => cases hOthers
        | cons =>
            rcases writeFields_append_inj (next :: fields) _ rest
              more (List.cons.inj hOthers).2 with
              ⟨hFields, hRests⟩
            exact
              ⟨congrArg ((name, value) :: ·) hFields, hRests⟩

end

/- No two values have the same compact text. -/
theorem compact_injective : Function.Injective compact := by
  intro a b hSame
  have hWritten := congrArg String.toList hSame
  rw [compact, compact, String.toList_ofList,
    String.toList_ofList] at hWritten
  have hEnds : Ends [] := nofun
  exact (write_append_inj a b [] [] hEnds hEnds
    (congrArg (· ++ []) hWritten)).1

end Json

end TracePlayer
