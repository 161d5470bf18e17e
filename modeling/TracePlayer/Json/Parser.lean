import TracePlayer.Json.Token

/-
  This file reads a JSON document from its tokens. The open
  arrays and objects are kept on a stack, so that a document
  nests as deep as the given limit allows and no deeper.

  Key definitions include:
    * `Json.Open` and `Json.Goal`
    * `Json.ofTokens`
    * `Json.parse`
-/

namespace TracePlayer

namespace Json

------------------------------------------------------------
-- Open Containers
------------------------------------------------------------

/-
  An array or object that is not closed yet: the items in
  reverse, or the fields with the name whose value comes next.
-/
inductive Open where
| array (reversed : List Json)
| object (fields : List (String × Json)) (name : String)

/- What has to come next. -/
inductive Goal where
| value
| firstItem
| nextItem
| firstName
| nextName
| colon
| separator
| nothing (result : Json)

/- The fault of a text that ends where something has to come. -/
def Goal.faultAtEnd : Goal → List Open → Fault
| firstItem, _ => .endInList
| firstName, _ => .endInObject
| colon, _ => .endInObject
| separator, .array _ :: _ => .endInList
| separator, .object _ _ :: _ => .endInObject
| _, _ => .endInValue

------------------------------------------------------------
-- The Machine
------------------------------------------------------------

/-
  A finished value goes into the innermost open container, or
  is the document.
-/
def deliver
    (value : Json) : List Open → Goal × List Open
| [] => (.nothing value, [])
| .array reversed :: outer =>
    (.separator, .array (value :: reversed) :: outer)
| .object fields name :: outer =>
    (.separator, .object (put name value fields) name :: outer)

/-
  The token where a value has to come. At most `limit`
  containers may be open at once.
-/
def takeValue
    (limit : Nat)
    (placed : Placed)
    (stack : List Open) :
    Except Complaint (Goal × List Open) :=
  match placed.token with
  | .text value => .ok (deliver (string value) stack)
  | .scalar value => .ok (deliver value stack)
  | .openArray =>
      if limit ≤ stack.length then
        .error ⟨.tooDeep, placed.start + 1⟩
      else
        .ok (.firstItem, .array [] :: stack)
  | .openObject =>
      if limit ≤ stack.length then
        .error ⟨.tooDeep, placed.start + 1⟩
      else
        .ok (.firstName, .object [] "" :: stack)
  | .brokenText complaint => .error complaint
  | .broken complaint => .error complaint
  | _ => .error ⟨.expectedValue, placed.start + 1⟩

/- The token where a name has to come. -/
def takeName
    (placed : Placed)
    (stack : List Open) :
    Except Complaint (Goal × List Open) :=
  match placed.token, stack with
  | .text name, .object fields _ :: outer =>
      .ok (.colon, .object fields name :: outer)
  | .brokenText complaint, _ => .error complaint
  | _, _ => .error ⟨.nameNotString, placed.start + 1⟩

/- The token after a value of a container. -/
def takeSeparator
    (placed : Placed) :
    List Open → Except Complaint (Goal × List Open)
| .array reversed :: outer =>
    match placed.token with
    | .comma => .ok (.nextItem, .array reversed :: outer)
    | .closeArray =>
        .ok (deliver (array reversed.reverse) outer)
    | _ => .error ⟨.expectedCommaOrBracket, placed.start + 1⟩
| .object fields name :: outer =>
    match placed.token with
    | .comma => .ok (.nextName, .object fields name :: outer)
    | .closeObject => .ok (deliver (object fields) outer)
    | _ => .error ⟨.expectedCommaOrBrace, placed.start + 1⟩
| [] => .error ⟨.trailingCharacters, placed.start + 1⟩

/- One token. -/
def take
    (limit : Nat)
    (placed : Placed)
    (goal : Goal)
    (stack : List Open) :
    Except Complaint (Goal × List Open) :=
  match goal, placed.token with
  | .value, _ => takeValue limit placed stack
  | .firstItem, .closeArray =>
      .ok (deliver (array []) stack.tail)
  | .firstItem, _ => takeValue limit placed stack
  | .nextItem, .closeArray =>
      .error ⟨.trailingComma, placed.start + 1⟩
  | .nextItem, _ => takeValue limit placed stack
  | .firstName, .closeObject =>
      .ok (deliver (object []) stack.tail)
  | .firstName, _ => takeName placed stack
  | .nextName, .closeObject =>
      .error ⟨.trailingComma, placed.start + 1⟩
  | .nextName, _ => takeName placed stack
  | .colon, .colon => .ok (.value, stack)
  | .colon, _ => .error ⟨.expectedColon, placed.start + 1⟩
  | .separator, _ => takeSeparator placed stack
  | .nothing _, _ =>
      .error ⟨.trailingCharacters, placed.start + 1⟩

/-
  Read a document from its tokens, given the length of the
  text in bytes.
-/
def ofTokens
    (limit length : Nat) :
    List Placed → Goal → List Open → Except Complaint Json
| [], .nothing result, _ => .ok result
| [], goal, stack =>
    .error ⟨goal.faultAtEnd stack, length⟩
| placed :: rest, goal, stack =>
    match take limit placed goal stack with
    | .ok (next, stack) => ofTokens limit length rest next stack
    | .error complaint => .error complaint

/-
  Read a document in which at most `limit` arrays and objects
  are open at once.
-/
def parse
    (limit : Nat)
    (text : String) : Except Complaint Json :=
  let cs := text.toList
  ofTokens limit (utf8Length cs) (tokens cs) .value []

end Json

end TracePlayer
