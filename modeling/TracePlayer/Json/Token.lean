import TracePlayer.Json.Numeral

/-
  This file splits a JSON text into tokens. A text that is no
  token ends the list with a token that says what is wrong;
  the parser decides whether that is what matters there.

  Key definitions include:
    * `Json.Token` and `Json.Placed`
    * `Json.readString`
    * `Json.tokens`
-/

namespace TracePlayer

namespace Json

------------------------------------------------------------
-- Tokens
------------------------------------------------------------

/-
  A token. A scalar is a number, a truth value or null; a
  broken string is told from other broken text, since it can
  stand where a name is expected.
-/
inductive Token where
| openArray
| closeArray
| openObject
| closeObject
| comma
| colon
| text (value : String)
| scalar (value : Json)
| brokenText (complaint : Complaint)
| broken (complaint : Complaint)

/- A token and the number of bytes before it. -/
structure Placed where
  token : Token
  start : Nat

/- White space of a document. -/
def isBlank (c : Char) : Bool :=
  c = ' ' || c = '\t' || c = '\n' || c = '\r'

def utf8Length (cs : List Char) : Nat :=
  cs.foldl (fun n c => n + c.utf8Size) 0

------------------------------------------------------------
-- Strings
------------------------------------------------------------

def hexValue? (c : Char) : Option Nat :=
  if c.isDigit then some (c.toNat - '0'.toNat)
  else if 'a' ≤ c ∧ c ≤ 'f' then some (c.toNat - 'a'.toNat + 10)
  else if 'A' ≤ c ∧ c ≤ 'F' then some (c.toNat - 'A'.toNat + 10)
  else none

/-
  Four hexadecimal digits after a number of bytes: their
  value and the rest. Four bytes are read before they are
  looked at, so the complaint counts all of them.
-/
def readHex
    (bytes : Nat)
    (cs : List Char) : Except Complaint (Nat × List Char) :=
  let digits := (cs.take 4).filterMap hexValue?
  if digits.length = 4 then
    .ok (digits.foldl (fun n d => n * 16 + d) 0, cs.drop 4)
  else if utf8Length (cs.take 4) < 4 then
    .error ⟨.endInString, bytes + utf8Length cs⟩
  else
    .error ⟨.invalidEscape, bytes + 4⟩

/-
  The escape after `\u`: one unit, or a leading surrogate and
  the trailing one that has to follow it. The result holds the
  character, the bytes read and the rest.
-/
def readUnicode
    (bytes : Nat)
    (cs : List Char) :
    Except Complaint (Char × Nat × List Char) := do
  let (lead, rest) ← readHex bytes cs
  let bytes := bytes + 4
  if 0xDC00 ≤ lead ∧ lead ≤ 0xDFFF then
    .error ⟨.loneSurrogate, bytes⟩
  else if lead < 0xD800 ∨ 0xDBFF < lead then
    .ok (Char.ofNat lead, bytes, rest)
  else
    match rest with
    | [] => .error ⟨.endInString, bytes⟩
    | '\\' :: [] => .error ⟨.endInString, bytes + 1⟩
    | '\\' :: 'u' :: more =>
        let (trail, after) ← readHex (bytes + 2) more
        if trail < 0xDC00 ∨ 0xDFFF < trail then
          .error ⟨.loneSurrogate, bytes + 6⟩
        else
          .ok
            (Char.ofNat
              ((lead - 0xD800) * 0x400 + (trail - 0xDC00) +
                0x10000),
              bytes + 6, after)
    | '\\' :: _ => .error ⟨.unfinishedSurrogate, bytes + 2⟩
    | _ => .error ⟨.unfinishedSurrogate, bytes + 1⟩

/- The character that a one-letter escape stands for. -/
def escapeValue? : Char → Option Char
| '"' => some '"'
| '\\' => some '\\'
| '/' => some '/'
| 'b' => some '\x08'
| 'f' => some '\x0c'
| 'n' => some '\n'
| 'r' => some '\r'
| 't' => some '\t'
| _ => none

/-
  The text after the opening quote of a string, with what was
  read of it in reverse. One character or one escape is read
  at a time, so the length of the text is fuel enough.
-/
def readStringFrom :
    Nat → (bytes : Nat) → (reversed cs : List Char) →
      Except Complaint (String × Nat × List Char)
| 0, bytes, _, _ => .error ⟨.endInString, bytes⟩
| _ + 1, bytes, _, [] => .error ⟨.endInString, bytes⟩
| fuel + 1, bytes, reversed, c :: rest =>
    if c = '"' then
      .ok (String.ofList reversed.reverse, bytes + 1, rest)
    else if c = '\\' then
      match rest with
      | [] => .error ⟨.endInString, bytes + 1⟩
      | 'u' :: more => do
          let (value, bytes, after) ←
            readUnicode (bytes + 2) more
          readStringFrom fuel bytes (value :: reversed) after
      | letter :: more =>
          match escapeValue? letter with
          | some value =>
              readStringFrom fuel (bytes + 2)
                (value :: reversed) more
          | none => .error ⟨.invalidEscape, bytes + 2⟩
    else if c.toNat < 0x20 then
      .error ⟨.controlCharacter, bytes + 1⟩
    else
      readStringFrom fuel (bytes + c.utf8Size)
        (c :: reversed) rest

/- A string after its opening quote. -/
def readString
    (bytes : Nat)
    (cs : List Char) :
    Except Complaint (String × Nat × List Char) :=
  readStringFrom (cs.length + 1) bytes [] cs

------------------------------------------------------------
-- Words
------------------------------------------------------------

/- The letters that have to follow the first one of a word. -/
def readWord :
    (word : List Char) → (bytes : Nat) → List Char →
      Except Complaint (List Char)
| [], _, rest => .ok rest
| _ :: _, bytes, [] => .error ⟨.endInValue, bytes⟩
| w :: word, bytes, c :: rest =>
    if c = w then
      readWord word (bytes + 1) rest
    else
      .error ⟨.expectedIdent, bytes + 1⟩

/- The word that a letter starts. -/
def word? : Char → Option (List Char × Json)
| 'n' => some (['u', 'l', 'l'], null)
| 't' => some (['r', 'u', 'e'], bool true)
| 'f' => some (['a', 'l', 's', 'e'], bool false)
| _ => none

/- The token of one mark. -/
def mark? : Char → Option Token
| '[' => some .openArray
| ']' => some .closeArray
| '\x7b' => some .openObject
| '\x7d' => some .closeObject
| ',' => some .comma
| ':' => some .colon
| _ => none

------------------------------------------------------------
-- Texts
------------------------------------------------------------

/-
  The tokens of a text after a number of bytes. Each step
  reads at least one character, so the length of the text is
  fuel enough.
-/
def tokensFrom : Nat → (bytes : Nat) → List Char → List Placed
| 0, _, _ => []
| _ + 1, _, [] => []
| fuel + 1, bytes, c :: rest =>
    if isBlank c then
      tokensFrom fuel (bytes + 1) rest
    else
      match mark? c with
      | some token =>
          ⟨token, bytes⟩ :: tokensFrom fuel (bytes + 1) rest
      | none =>
          if c = '"' then
            match readString (bytes + 1) rest with
            | .ok (value, after, more) =>
                ⟨.text value, bytes⟩ ::
                  tokensFrom fuel after more
            | .error complaint =>
                [⟨.brokenText complaint, bytes⟩]
          else if c = '-' ∨ c.isDigit then
            match readNumber bytes (c :: rest) with
            | .ok number =>
                ⟨.scalar number.value, bytes⟩ ::
                  tokensFrom fuel number.bytes number.rest
            | .error complaint =>
                [⟨.broken complaint, bytes⟩]
          else
            match word? c with
            | some (word, value) =>
                match readWord word (bytes + 1) rest with
                | .ok more =>
                    ⟨.scalar value, bytes⟩ ::
                      tokensFrom fuel
                        (bytes + 1 + word.length) more
                | .error complaint =>
                    [⟨.broken complaint, bytes⟩]
            | none =>
                [⟨.broken ⟨.expectedValue, bytes + 1⟩, bytes⟩]

/- The tokens of a text. -/
def tokens (cs : List Char) : List Placed :=
  tokensFrom (cs.length + 1) 0 cs

end Json

end TracePlayer
