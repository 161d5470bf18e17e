import TracePlayer.Json.Parser
import TracePlayer.Wire.Frame

/-
  This file defines what a tracer can answer, and reads its
  answers. A document with an error wins over everything else
  in it; a document that is neither an error nor a reply is
  refused as a whole.

  Key definitions include:
    * `Reply`, `TracerError`, `SessionError`
    * `Reply.ofJson`, `Reply.toJson`
    * `Reply.decode`
-/

namespace TracePlayer

------------------------------------------------------------
-- Failures
------------------------------------------------------------

/-
  What went wrong with a tracer: it could not be reached, the
  traced program failed, or the answer makes no sense.
-/
inductive TracerError where
| unreachable (message : String)
| execution (message : String) (line : Option UInt32)
| invalidReply (message : String)
deriving DecidableEq, Repr

namespace TracerError

/- The line at which the traced program failed. -/
def line? : TracerError → Option UInt32
| execution _ line => line
| unreachable _ => none
| invalidReply _ => none

def message : TracerError → String
| unreachable message => "Tracer unreachable: " ++ message
| execution message (some line) =>
    message ++ " (line " ++ toString line.toNat ++ ")"
| execution message none => message
| invalidReply message =>
    "Invalid tracer response: " ++ message

end TracerError

/- A failure as a session reports it. -/
structure SessionError where
  text : String
  line : Option UInt32
deriving DecidableEq, Repr

namespace SessionError

/-
  A failed program keeps its own message and line; every other
  failure is reported in full and has no line.
-/
def ofTracer : TracerError → SessionError
| .execution message line => ⟨message, line⟩
| .unreachable message =>
    ⟨(TracerError.unreachable message).message, none⟩
| .invalidReply message =>
    ⟨(TracerError.invalidReply message).message, none⟩

def message (error : SessionError) : String :=
  match error.line with
  | some line =>
      "Error on line " ++ toString line.toNat ++ ": " ++
        error.text
  | none => "Error: " ++ error.text

end SessionError

------------------------------------------------------------
-- Replies
------------------------------------------------------------

/- The trace of a program, with a label shown as it is. -/
structure Reply where
  frames : Trace
  complexity : Option String
deriving DecidableEq

namespace Reply

def empty : Reply :=
  ⟨[], none⟩

/- Read one field into a reply. -/
def setField
    (reply : Reply)
    (entry : String × Json) : Except Mismatch Reply :=
  let (name, value) := entry
  if name = "frames" then
    (Reading.list Frame.ofJson value).map fun frames =>
      { reply with frames := frames }
  else if name = "complexity" then
    (Reading.optional Reading.text value).map fun label =>
      { reply with complexity := label }
  else
    .ok reply

/- Read a reply. -/
def ofJson : Json → Except Mismatch Reply :=
  Reading.record .reply ["frames", "complexity"] empty setField

/- Write a reply; an absent label has no field. -/
def toJson (reply : Reply) : Json :=
  .object
    (("frames", .array (reply.frames.map Frame.toJson)) ::
      match reply.complexity with
      | some label => [("complexity", .string label)]
      | none => [])

------------------------------------------------------------
-- Answers of a Tracer
------------------------------------------------------------

/-
  The line of a failed program: a positive integer of 32 bits.
  Anything else is dropped, and the message still gets through.
-/
def errorLine? : Option Json → Option UInt32
| some (.integer value) =>
    if 0 < value ∧ value < 0x100000000 then
      some (UInt32.ofNat value.toNat)
    else
      none
| _ => none

/- The failure that a document with an error reports. -/
def executionError
    (document error : Json) : TracerError :=
  match Reading.text error with
  | .ok message =>
      .execution message (errorLine? (document.field? "line"))
  | .error mismatch => .invalidReply mismatch.message

/-
  Read an answer that is JSON. An error is reported whether or
  not the tracer claims success.
-/
def ofAnswer
    (success : Bool)
    (document : Json) : Except TracerError Reply :=
  match document.field? "error" with
  | some error => .error (executionError document error)
  | none =>
      if success then
        (ofJson document).mapError fun mismatch =>
          .invalidReply mismatch.message
      else
        .error (.invalidReply
          "error status without an error message")

/- At most this many arrays and objects are open at once. -/
def nestingLimit : Nat :=
  127

/- Read the answer of a tracer. -/
def decode
    (success : Bool)
    (body : String) : Except TracerError Reply :=
  match Json.parse nestingLimit body with
  | .ok document => ofAnswer success document
  | .error complaint =>
      .error (.invalidReply (complaint.message body))

end Reply

end TracePlayer
