import TracePlayer.Log.Level
import TracePlayer.Log.Pattern.Reading
import TracePlayer.Number.Written

/-
  This file defines rules on how much is said, and how they
  are read.

  Places in the text of a rule are counted from its first
  character that is not blank, and the parts of the rule are
  cut at these places from the whole text, with the blanks
  around it. A place inside a character cannot be cut at.

  Key definitions include:
    * `LogRule`, `LogRule.covers`
    * `LogRule.Fault`
    * `LogRule.read`
-/

namespace TracePlayer

------------------------------------------------------------
-- Rules
------------------------------------------------------------

/- A field that a rule asks for, perhaps with its value. -/
structure LogField where
  name : String
  value : Option String
deriving DecidableEq, Repr

/-
  How much is said in the areas whose names start with a text:
  everywhere, inside a span of work, or where a field is told.
-/
structure LogRule where
  area : String
  span : Option String
  field : Option LogField
  level : LogLevel
deriving DecidableEq, Repr

namespace LogRule

/- The rule that says everything everywhere. -/
def everything : LogRule :=
  ⟨"", none, none, .trace⟩

/- The name of the field that a rule asks for. -/
def fieldName? (rule : LogRule) : Option String :=
  rule.field.map LogField.name

/-
  Whether a rule is about messages of an area with fields. One
  with a span or a value is about what is inside a span, and
  no message is.
-/
def covers
    (rule : LogRule)
    (area : String)
    (fields : List String) : Bool :=
  rule.span.isNone &&
    (rule.field.bind LogField.value).isNone &&
    rule.area.isPrefixOf area &&
    rule.fieldName?.all fun name => fields.contains name

/-
  Whether another rule says more closely what it is about, or
  as closely but later: by the length of the area, then by the
  field, of which there is one or none.
-/
def yieldsTo (rule other : LogRule) : Bool :=
  if rule.area.utf8ByteSize = other.area.utf8ByteSize then
    match rule.fieldName?, other.fieldName? with
    | none, _ => true
    | some _, none => false
    | some name, some otherName => !decide (otherName < name)
  else
    rule.area.utf8ByteSize < other.area.utf8ByteSize

------------------------------------------------------------
-- Faults and Cuts
------------------------------------------------------------

/- Why a rule is not read. -/
inductive Fault where
| unreadable
| brokenCharacter
deriving DecidableEq, Repr

/- Whether a place in a text is between two characters. -/
def isEdge (bytes : ByteArray) (place : Nat) : Bool :=
  match bytes.data[place]? with
  | some byte => byte < 0x80 || 0xC0 ≤ byte
  | none => place = bytes.size

/- The part of a text between two places. -/
def cut
    (text : String)
    (first last : Nat) : Except Fault String :=
  let bytes := text.toUTF8
  if isEdge bytes first && isEdge bytes last then
    match String.fromUTF8? (bytes.extract first last) with
    | some part => .ok part
    | none => .error .brokenCharacter
  else
    .error .brokenCharacter

------------------------------------------------------------
-- Parts
------------------------------------------------------------

/- A level, or all where none is written. -/
def levelOf (text : String) : Except Fault LogLevel :=
  if text = "" then .ok .trace
  else
    match LogLevel.ofText? text with
    | some level => .ok level
    | none => .error .unreadable

/- A rule of one word: a level everywhere, or an area. -/
def ofWord (word : String) : LogRule :=
  match LogLevel.ofText? word with
  | some level => { everything with level := level }
  | none => { everything with area := word }

/-
  A field, with a value after the first sign for it and up to
  the second. The value is a number or a pattern.
-/
def fieldOf (text : String) : Except Fault LogField :=
  match text.splitOn "=" with
  | name :: value :: _ =>
      if (Binary64.read? value).isSome ||
          Pattern.isWellFormed value then
        .ok ⟨name, some value⟩
      else
        .error .unreadable
  | _ => .ok ⟨text, none⟩

/- Whether a rule can start with a character. -/
def isStart (c : Char) : Bool :=
  c = '-' || c = ':' || c = '_' || isAlphanumeric c

------------------------------------------------------------
-- Reading
------------------------------------------------------------

/- What is being read, and the place at which it started. -/
inductive Stage where
| start
| word (first : Nat)
| span (first : Nat)
| field (first : Nat)
| fieldRead
| spanRead
| level (first : Nat)
deriving DecidableEq, Repr

/- Read one character of the text of a rule at a place. -/
def step
    (text : String)
    (progress : Stage × LogRule)
    (place : Nat)
    (c : Char) : Except Fault (Stage × LogRule) :=
  let (stage, rule) := progress
  match stage, c with
  | .start, '[' => .ok (.span (place + 1), rule)
  | .start, _ =>
      if isStart c then .ok (.word place, rule)
      else .error .unreadable
  | .word first, '=' => do
      let area ← cut text first place
      .ok (.level (place + 1), { rule with area := area })
  | .word first, '[' => do
      let area ← cut text first place
      .ok (.span (place + 1), { rule with area := area })
  | .word _, _ => .ok progress
  | .span first, ']' => do
      let span ← cut text first place
      .ok (.spanRead, { rule with span := some span })
  | .span first, '\x7b' => do
      let span ← cut text first place
      .ok (.field (place + 1),
        { rule with
          span := if span = "" then none else some span })
  | .span _, _ => .ok progress
  | .field first, '\x7d' => do
      let part ← cut text first place
      if part = "" then .error .unreadable
      else
        let field ← fieldOf part
        .ok (.fieldRead, { rule with field := some field })
  | .field _, _ => .ok progress
  | .fieldRead, ']' => .ok (.spanRead, rule)
  | .fieldRead, _ => .error .unreadable
  | .spanRead, '=' => .ok (.level (place + 1), rule)
  | .spanRead, _ => .error .unreadable
  | .level _, _ => .ok progress

/- Read the characters of a rule from a place on. -/
def readFrom
    (text : String)
    (progress : Stage × LogRule)
    (place : Nat) :
    List Char → Except Fault (Stage × LogRule)
| [] => .ok progress
| c :: rest => do
    let progress ← step text progress place c
    readFrom text progress (place + c.utf8Size) rest

/- The rule that is read at the end of its text. -/
def finish
    (text : String) :
    Stage × LogRule → Except Fault LogRule
| (.word first, _) => do
    let word ← cut text first text.utf8ByteSize
    .ok (ofWord word)
| (.level first, rule) => do
    let part ← cut text first text.utf8ByteSize
    let level ← levelOf part
    .ok { rule with level := level }
| (.spanRead, rule) => .ok rule
| _ => .error .unreadable

/- Read a rule. -/
def read (text : String) : Except Fault LogRule :=
  (readFrom text (.start, everything) 0
    (trimSpace text).toList).bind (finish text)

end LogRule

end TracePlayer
