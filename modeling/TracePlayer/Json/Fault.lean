/-
  This file defines what can be wrong with the text of a JSON
  document, and where.

  Key definitions include:
    * `Json.Fault` and `Json.Fault.message`
    * `Json.Complaint`
    * `Json.positionAt`
    * `Json.Complaint.message`
-/

namespace TracePlayer

namespace Json

------------------------------------------------------------
-- Faults
------------------------------------------------------------

/- What is wrong at some place of a text. -/
inductive Fault where
| endInValue
| endInList
| endInObject
| endInString
| expectedValue
| expectedIdent
| expectedCommaOrBracket
| expectedCommaOrBrace
| expectedColon
| nameNotString
| trailingComma
| trailingCharacters
| invalidNumber
| numberOutOfRange
| invalidEscape
| loneSurrogate
| unfinishedSurrogate
| controlCharacter
| tooDeep
deriving DecidableEq, Repr

namespace Fault

/- Backticks around a piece of JSON text. -/
def quoted (text : String) : String :=
  "\x60" ++ text ++ "\x60"

/- The wording of a fault. -/
def message : Fault → String
| endInValue => "EOF while parsing a value"
| endInList => "EOF while parsing a list"
| endInObject => "EOF while parsing an object"
| endInString => "EOF while parsing a string"
| expectedValue => "expected value"
| expectedIdent => "expected ident"
| expectedCommaOrBracket =>
    "expected " ++ quoted "," ++ " or " ++ quoted "]"
| expectedCommaOrBrace =>
    "expected " ++ quoted "," ++ " or " ++ quoted "\x7d"
| expectedColon => "expected " ++ quoted ":"
| nameNotString => "key must be a string"
| trailingComma => "trailing comma"
| trailingCharacters => "trailing characters"
| invalidNumber => "invalid number"
| numberOutOfRange => "number out of range"
| invalidEscape => "invalid escape"
| loneSurrogate => "lone leading surrogate in hex escape"
| unfinishedSurrogate => "unexpected end of hex escape"
| controlCharacter =>
    "control character (\\u0000-\\u001F) found while parsing a string"
| tooDeep => "recursion limit exceeded"

end Fault

------------------------------------------------------------
-- Places
------------------------------------------------------------

/-
  A fault and the number of bytes read when it shows. A byte
  that may not stand where it does counts as read.
-/
structure Complaint where
  fault : Fault
  bytes : Nat
deriving DecidableEq, Repr

/-
  The line, from 1, and the bytes of it that are read after a
  number of bytes of the text.
-/
def positionAt :
    List Char → Nat → (line column : Nat) → Nat × Nat
| [], _, line, column => (line, column)
| c :: rest, bytes, line, column =>
    if bytes = 0 then (line, column)
    else if c = '\n' then
      positionAt rest (bytes - 1) (line + 1) 0
    else if bytes ≤ c.utf8Size then (line, column + bytes)
    else
      positionAt rest (bytes - c.utf8Size) line
        (column + c.utf8Size)

/- A complaint about a text, with its place in the text. -/
def Complaint.message
    (complaint : Complaint)
    (text : String) : String :=
  let (line, column) :=
    positionAt text.toList complaint.bytes 1 0
  complaint.fault.message ++ " at line " ++ toString line ++
    " column " ++ toString column

end Json

end TracePlayer
