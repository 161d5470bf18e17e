import TracePlayer.Wire.Mismatch

/-
  This file defines the readers of plain JSON values, lists
  and maps. Values are read in the order of the document, and
  the first mismatch is the result.

  Key definitions include:
    * `Reading.text`, `Reading.word32`, `Reading.word64`
    * `Reading.optional`
    * `Reading.list`, `Reading.mapping`
    * `Reading.record`
    * `Reading.choice`
-/

namespace TracePlayer

namespace Reading

------------------------------------------------------------
-- Plain Values
------------------------------------------------------------

def text : Json → Except Mismatch String
| .string value => .ok value
| found => .error (.wrongType found .text)

/- A whole number below `limit`. -/
def word
    (limit : Nat)
    (expected : Expected) : Json → Except Mismatch Nat
| .integer value =>
    if 0 ≤ value ∧ value < limit then .ok value.toNat
    else .error (.outOfRange value expected)
| found => .error (.wrongType found expected)

def word32 (value : Json) : Except Mismatch UInt32 :=
  (word 0x100000000 .word32 value).map UInt32.ofNat

def word64 (value : Json) : Except Mismatch UInt64 :=
  (word 0x10000000000000000 .word64 value).map UInt64.ofNat

def unit : Json → Except Mismatch Unit
| .null => .ok ()
| found => .error (.wrongType found .unit)

/- Null, or a value that is read. -/
def optional
    {α : Type}
    (read : Json → Except Mismatch α) :
    Json → Except Mismatch (Option α)
| .null => .ok none
| value => (read value).map some

------------------------------------------------------------
-- Lists and Maps
------------------------------------------------------------

def list
    {α : Type}
    (read : Json → Except Mismatch α) :
    Json → Except Mismatch (List α)
| .array items => items.mapM read
| found => .error (.wrongType found .list)

/- A field whose value is read. -/
def field
    {α : Type}
    (read : Json → Except Mismatch α)
    (entry : String × Json) : Except Mismatch (String × α) :=
  (read entry.2).map fun value => (entry.1, value)

def mapping
    {α : Type}
    (read : Json → Except Mismatch α) :
    Json → Except Mismatch (Named α)
| .object fields =>
    (fields.mapM (field read)).map Named.ofList
| found => .error (.wrongType found .mapping)

------------------------------------------------------------
-- Records
------------------------------------------------------------

/-
  A record is an object, or an array of the fields in the
  order of `names`, whose last ones may be missing. `set`
  reads one field into what is read so far.
-/
def record
    {α : Type}
    (expected : Expected)
    (names : List String)
    (start : α)
    (set : α → String × Json → Except Mismatch α) :
    Json → Except Mismatch α
| .object fields => fields.foldlM set start
| .array items => do
    let value ← (names.zip items).foldlM set start
    if names.length < items.length then
      .error (.tooManyItems items.length)
    else
      .ok value
| found => .error (.wrongType found expected)

------------------------------------------------------------
-- Choices
------------------------------------------------------------

/- The choice that a word stands for. -/
def chosen
    {α : Type}
    (words : List (String × α))
    (word : String) : Except Mismatch α :=
  match words.lookup word with
  | some choice => .ok choice
  | none =>
      .error (.unknownVariant word (words.map Prod.fst))

/-
  One of several words: a string, or an object with that one
  name and the value null.
-/
def choice
    {α : Type}
    (words : List (String × α)) :
    Json → Except Mismatch α
| .string word => chosen words word
| .object [(word, value)] => do
    let choice ← chosen words word
    unit value
    .ok choice
| .object _ => .error .notOneKey
| found => .error (.wrongType found .variant)

end Reading

end TracePlayer
