import TracePlayer.Files.Failure
import TracePlayer.Wire.Reply

/-
  This file defines how a tracer is asked and what counts as
  its answer, over the web and from a saved file.

  Key definitions include:
    * `WebRequest`, `WebAnswer`
    * `Reply.ofWeb`, `Reply.ofSaved`
-/

namespace TracePlayer

------------------------------------------------------------
-- Requests
------------------------------------------------------------

/- A request that posts a document. -/
structure WebRequest where
  url : String
  contentType : String
  body : String
deriving DecidableEq, Repr

/- The request to trace a program. -/
def WebRequest.trace
    (url source : String) : WebRequest :=
  { url := url
    contentType := "application/json"
    body := (Json.object [("code", .string source)]).compact }

/- The first line of a request for a path, at least the root. -/
def WebRequest.firstLine (path : String) : String :=
  "POST " ++ (if path = "" then "/" else path) ++ " HTTP/1.1"

------------------------------------------------------------
-- Answers
------------------------------------------------------------

/- An answer with its status. -/
structure WebAnswer where
  status : Nat
  body : String
deriving DecidableEq, Repr

namespace WebAnswer

/- Whether the status claims success. -/
def isSuccess (answer : WebAnswer) : Bool :=
  200 ≤ answer.status && answer.status < 300

/- The body that comes with the status; two have none. -/
def received (answer : WebAnswer) : String :=
  if answer.status = 204 ∨ answer.status = 304 then ""
  else answer.body

end WebAnswer

namespace Reply

/- Read an answer, or report why there is none. -/
def ofWeb :
    Except String WebAnswer → Except TracerError Reply
| .ok answer => decode answer.isSuccess answer.received
| .error reason => .error (.unreachable reason)

/- Read an answer that is saved in a file. -/
def ofSaved
    (path : String)
    (content : Except FileFailure String) :
    Except TracerError Reply :=
  match content with
  | .ok body => decode true body
  | .error failure =>
      .error (.unreachable (path ++ ": " ++ failure.message))

end Reply

end TracePlayer
