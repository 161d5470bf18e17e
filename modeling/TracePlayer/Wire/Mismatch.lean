import TracePlayer.Json.Text
import TracePlayer.Text.Quoted

/-
  This file defines how a JSON value can differ from the shape
  that a reader expects, and the wording of each difference.

  Key definitions include:
    * `Expected`
    * `Mismatch`
    * `Mismatch.message`
-/

namespace TracePlayer

------------------------------------------------------------
-- Expectations
------------------------------------------------------------

/- What a reader expects at some place of a document. -/
inductive Expected where
| reply
| frame
| node
| list
| mapping
| text
| word32
| word64
| variant
| unit
deriving DecidableEq, Repr

/- The wording of an expectation. -/
def Expected.wording : Expected → String
| reply => "struct TraceResponse"
| frame => "struct Frame"
| node => "struct TreeNode"
| list => "a sequence"
| mapping => "a map"
| text => "a string"
| word32 => "u32"
| word64 => "u64"
| variant => "string or map"
| unit => "unit"

------------------------------------------------------------
-- Mismatches
------------------------------------------------------------

/- How a value differs from what is expected. -/
inductive Mismatch where
| wrongType (found : Json) (expected : Expected)
| outOfRange (found : Int) (expected : Expected)
| notOneKey
| tooManyItems (length : Nat)
| noItems
| missingField (name : String)
| unknownVariant (found : String) (known : List String)
deriving DecidableEq

namespace Mismatch

def ticked (text : String) : String :=
  "\x60" ++ text ++ "\x60"

/- The type of a value, with the value when it is small. -/
def describe : Json → String
| .null => "null"
| .bool value =>
    "boolean " ++ ticked (if value then "true" else "false")
| .integer value => "integer " ++ ticked (toString value)
| .double value =>
    "floating point " ++
      ticked (value.write Binary64.document)
| .string value => "string " ++ quoteVisible value
| .array _ => "sequence"
| .object _ => "map"

/- The wording of a mismatch. -/
def message : Mismatch → String
| wrongType found expected =>
    "invalid type: " ++ describe found ++
      ", expected " ++ expected.wording
| outOfRange found expected =>
    "invalid value: integer " ++ ticked (toString found) ++
      ", expected " ++ expected.wording
| notOneKey =>
    "invalid value: map, expected map with a single key"
| tooManyItems length =>
    "invalid length " ++ toString length ++
      ", expected fewer elements in array"
| noItems =>
    "invalid length 0, expected struct TreeNode with 5 elements"
| missingField name => "missing field " ++ ticked name
| unknownVariant found known =>
    "unknown variant " ++ ticked found ++
      ", expected one of " ++
      ", ".intercalate (known.map ticked)

end Mismatch

end TracePlayer
