import TracePlayer.Named
import TracePlayer.Number.Binary64

/-
  This file defines the values of a JSON document. A number
  is an integer or a double, and the two are never equal; the
  fields of an object keep their order, which equality of
  values ignores.

  Key definitions include:
    * `Json`
    * `Json.same`, the equality of values
    * `Json.field?`
-/

namespace TracePlayer

/-
  A JSON value. The integers are those that fit 64 bits, with
  or without a sign; every other number is a finite double.
-/
inductive Json where
| null
| bool (value : Bool)
| integer (value : Int)
| double (value : Binary64)
| string (value : String)
| array (items : List Json)
| object (fields : List (String × Json))

namespace Json

instance : Inhabited Json :=
  ⟨null⟩

------------------------------------------------------------
-- Identity
------------------------------------------------------------

mutual

/- Decide whether two values are one and the same term. -/
def decEq : (a b : Json) → Decidable (a = b)
| null, null => isTrue rfl
| bool a, bool b =>
    if h : a = b then isTrue (by rw [h])
    else isFalse (by simpa using h)
| integer a, integer b =>
    if h : a = b then isTrue (by rw [h])
    else isFalse (by simpa using h)
| double a, double b =>
    if h : a = b then isTrue (by rw [h])
    else isFalse (by simpa using h)
| string a, string b =>
    if h : a = b then isTrue (by rw [h])
    else isFalse (by simpa using h)
| array a, array b =>
    match decEqItems a b with
    | isTrue h => isTrue (by rw [h])
    | isFalse h => isFalse (by simpa using h)
| object a, object b =>
    match decEqFields a b with
    | isTrue h => isTrue (by rw [h])
    | isFalse h => isFalse (by simpa using h)
| null, bool _ | null, integer _ | null, double _
| null, string _ | null, array _ | null, object _
| bool _, null | bool _, integer _ | bool _, double _
| bool _, string _ | bool _, array _ | bool _, object _
| integer _, null | integer _, bool _ | integer _, double _
| integer _, string _ | integer _, array _ | integer _, object _
| double _, null | double _, bool _ | double _, integer _
| double _, string _ | double _, array _ | double _, object _
| string _, null | string _, bool _ | string _, integer _
| string _, double _ | string _, array _ | string _, object _
| array _, null | array _, bool _ | array _, integer _
| array _, double _ | array _, string _ | array _, object _
| object _, null | object _, bool _ | object _, integer _
| object _, double _ | object _, string _ | object _, array _ =>
    isFalse nofun

def decEqItems : (a b : List Json) → Decidable (a = b)
| [], [] => isTrue rfl
| [], _ :: _ => isFalse nofun
| _ :: _, [] => isFalse nofun
| a :: as, b :: bs =>
    match decEq a b with
    | isFalse h => isFalse (by simp [h])
    | isTrue h =>
        match decEqItems as bs with
        | isTrue hRest => isTrue (by rw [h, hRest])
        | isFalse hRest => isFalse (by simp [hRest])

def decEqFields :
    (a b : List (String × Json)) → Decidable (a = b)
| [], [] => isTrue rfl
| [], _ :: _ => isFalse nofun
| _ :: _, [] => isFalse nofun
| (name, a) :: as, (other, b) :: bs =>
    if hName : name = other then
      match decEq a b with
      | isFalse h => isFalse (by simp [h])
      | isTrue h =>
          match decEqFields as bs with
          | isTrue hRest => isTrue (by rw [hName, h, hRest])
          | isFalse hRest => isFalse (by simp [hRest])
    else
      isFalse (by simp [hName])

end

instance : DecidableEq Json :=
  decEq

------------------------------------------------------------
-- Equality of Values
------------------------------------------------------------

mutual

/-
  Two values are the same when they have the same kind and
  content: the zeros of both signs are the same double, an
  integer is never the same as a double, and two objects are
  the same when they have equally many fields and each name
  holds the same value in both.
-/
def same : Json → Json → Bool
| null, null => true
| bool a, bool b => a == b
| integer a, integer b => a == b
| double a, double b => a.same b
| string a, string b => a == b
| array a, array b => sameItems a b
| object a, object b =>
    a.length == b.length && fieldsWithin a b
| _, _ => false

def sameItems : List Json → List Json → Bool
| [], [] => true
| a :: as, b :: bs => same a b && sameItems as bs
| _, _ => false

/- Whether every field has the same value among others. -/
def fieldsWithin :
    List (String × Json) → List (String × Json) → Bool
| [], _ => true
| (name, a) :: rest, others =>
    (match others.lookup name with
      | some b => same a b
      | none => false) &&
      fieldsWithin rest others

end

instance : BEq Json :=
  ⟨same⟩

------------------------------------------------------------
-- Parts
------------------------------------------------------------

/- The value of a field of an object. -/
def field?
    (value : Json)
    (name : String) : Option Json :=
  match value with
  | object fields => fields.lookup name
  | _ => none

end Json

end TracePlayer
