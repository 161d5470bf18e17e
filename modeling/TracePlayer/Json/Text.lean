import TracePlayer.Json.Value
import TracePlayer.Number.Written

/-
  This file writes JSON values as text without white space. A
  string keeps every character but quotes, backslashes and the
  controls below the space.

  Key definitions include:
    * `Json.escape` and `Json.quote`
    * `Json.write`
    * `Json.compact`
-/

namespace TracePlayer

namespace Json

------------------------------------------------------------
-- Strings
------------------------------------------------------------

/- One hexadecimal digit in lower case. -/
def hexDigit (n : Nat) : Char :=
  Nat.digitChar n

/- A character inside a string. -/
def escape (c : Char) : List Char :=
  if c = '"' then ['\\', '"']
  else if c = '\\' then ['\\', '\\']
  else if c = '\x08' then ['\\', 'b']
  else if c = '\x0c' then ['\\', 'f']
  else if c = '\n' then ['\\', 'n']
  else if c = '\r' then ['\\', 'r']
  else if c = '\t' then ['\\', 't']
  else if c.toNat < 0x20 then
    ['\\', 'u', '0', '0',
      hexDigit (c.toNat / 16), hexDigit (c.toNat % 16)]
  else [c]

/- A string in quotes. -/
def quote (text : String) : List Char :=
  '"' :: text.toList.flatMap escape ++ ['"']

------------------------------------------------------------
-- Values
------------------------------------------------------------

mutual

/- The compact text of a value. -/
def write : Json → List Char
| null => ['n', 'u', 'l', 'l']
| bool true => ['t', 'r', 'u', 'e']
| bool false => ['f', 'a', 'l', 's', 'e']
| integer n => (toString n).toList
| double x => (x.write Binary64.document).toList
| string s => quote s
| array items => '[' :: writeItems items ++ [']']
| object fields => '\x7b' :: writeFields fields ++ ['\x7d']

def writeItems : List Json → List Char
| [] => []
| [item] => write item
| item :: rest => write item ++ ',' :: writeItems rest

def writeFields : List (String × Json) → List Char
| [] => []
| [(name, value)] => quote name ++ ':' :: write value
| (name, value) :: rest =>
    quote name ++ ':' :: write value ++ ',' :: writeFields rest

end

/- The compact text of a value as a string. -/
def compact (value : Json) : String :=
  String.ofList (write value)

end Json

end TracePlayer
