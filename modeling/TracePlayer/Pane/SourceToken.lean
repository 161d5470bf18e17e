import TracePlayer.Screen.Theme
import TracePlayer.Text.Alphanumeric
import TracePlayer.Text.Bytes

/-
  This file splits a line of a program into tokens and gives
  each its style. While a line is scanned, its tokens are
  known by the byte offsets at which they began, and their
  texts are cut out of the line once they end.

  Key definitions include:
    * `SourceToken`
    * `SourceToken.scan`
    * `SourceToken.ofLine?`, `SourceToken.ofLine`
    * `SourceToken.spans`
-/

namespace TracePlayer

------------------------------------------------------------
-- Tokens
------------------------------------------------------------

/- A part of a line of a program. -/
inductive SourceToken where
| comment (text : List Char)
| quoted (text : List Char)
| word (text : List Char)
| mark (c : Char)
deriving DecidableEq, Repr

namespace SourceToken

def text : SourceToken → List Char
| comment text => text
| quoted text => text
| word text => text
| mark c => [c]

/- Whether a character starts and ends a string. -/
def isQuote (c : Char) : Bool :=
  c = '"' || c = '\x27'

/- Whether a character belongs to a word. -/
def isWordChar (c : Char) : Bool :=
  isAlphanumeric c || c = '_'

------------------------------------------------------------
-- Scanning
------------------------------------------------------------

/-
  Where a scan is: in code, with the offset of the word it is
  in, in a string, or after a backslash in a string, with the
  offset of that string.
-/
inductive Mode where
| code (start : Option Nat)
| quoted (quote : Char) (start : Nat)
| escaped (quote : Char) (start : Nat)
deriving DecidableEq, Repr

/- The offset of the token that a scan is in. -/
def Mode.start? : Mode → Option Nat
| code start => start
| quoted _ start => some start
| escaped _ start => some start

/- The word that ends at an offset, if there is one. -/
def wordTo?
    (line : List Char)
    (start : Option Nat)
    (stop : Nat) : Option (List SourceToken) :=
  match start with
  | none => some []
  | some start => do
      let text ← slice? line start stop
      some (if text = [] then [] else [word text])

/-
  The tokens of the rest of a line, whose characters come with
  their offsets. A hash mark outside a string starts a comment
  up to the end of the line; a string ends at the next quote
  of its kind that no backslash escapes, or at the end of the
  line. There are no tokens if a cut would divide a character.
-/
def scan (line : List Char) :
    Mode → List (Nat × Char) → Option (List SourceToken)
| .code start, [] => wordTo? line start (byteLength line)
| .quoted _ start, [] => do
    let text ← slice? line start (byteLength line)
    some [quoted text]
| .escaped _ start, [] => do
    let text ← slice? line start (byteLength line)
    some [quoted text]
| .code start, (offset, c) :: rest =>
    if c = '#' then do
      let ended ← wordTo? line start offset
      let text ← slice? line offset (byteLength line)
      some (ended ++ [comment text])
    else if isQuote c then do
      let ended ← wordTo? line start offset
      let later ← scan line (.quoted c offset) rest
      some (ended ++ later)
    else if isWordChar c then
      scan line (.code (some (start.getD offset))) rest
    else do
      let ended ← wordTo? line start offset
      let later ← scan line (.code none) rest
      some (ended ++ mark c :: later)
| .quoted quote start, (offset, c) :: rest =>
    if c = '\\' then
      scan line (.escaped quote start) rest
    else if c = quote then do
      let text ← slice? line start (offset + c.utf8Size)
      let later ← scan line (.code none) rest
      some (quoted text :: later)
    else
      scan line (.quoted quote start) rest
| .escaped quote start, _ :: rest =>
    scan line (.quoted quote start) rest

/- The tokens of a line, if all cuts are between characters. -/
def ofLine? (line : List Char) : Option (List SourceToken) :=
  scan line (.code none) (offsetsFrom 0 line)

/-
  The tokens of a line. No cut ever divides a character, so
  there is no line without them.
-/
def ofLine (line : List Char) : List SourceToken :=
  (ofLine? line).getD []

------------------------------------------------------------
-- Styles
------------------------------------------------------------

/- The keywords of the traced language. -/
def keywords : List String :=
  [ "def", "class", "return", "if", "elif", "else", "while",
    "for", "in", "not", "and", "or", "is", "break", "continue",
    "pass", "del", "lambda", "import", "from", "global",
    "nonlocal", "try", "except", "finally", "raise", "with",
    "yield" ]

/- The constants of the traced language. -/
def constants : List String :=
  ["None", "True", "False"]

/- The style of a word; `called` when a parenthesis follows. -/
def wordStyle
    (word : List Char)
    (called : Bool) : Style :=
  let name := String.ofList word
  if keywords.contains name then
    (Style.colour Theme.keyword).strong
  else if constants.contains name then
    Style.colour Theme.number
  else if name = "self" then
    Style.colour Theme.name
  else if word.all Char.isDigit then
    Style.colour Theme.number
  else if called then
    Style.colour Theme.function
  else
    Style.colour Theme.text

/- The style of a single character between words. -/
def markStyle (c : Char) : Style :=
  if ['\x7b', '\x7d', '(', ')', '[', ']'].contains c then
    Style.colour Theme.primary
  else if [':', ',', '.', '+', '-', '*', '/', '=', '%', '!',
      '<', '>'].contains c then
    Style.colour Theme.text
  else
    Style.plain

/- The style of a token, given the tokens after it. -/
def style
    (token : SourceToken)
    (following : List SourceToken) : Style :=
  match token with
  | comment _ => Style.colour Theme.muted
  | quoted _ => Style.colour Theme.string
  | word text => wordStyle text (following.head? = some (mark '('))
  | mark c => markStyle c

/- One span for each token. -/
def spans : List SourceToken → List Span
| [] => []
| token :: rest =>
    ⟨String.ofList token.text, token.style rest⟩ :: spans rest

end SourceToken

end TracePlayer
