import TracePlayer.Session
import TracePlayer.Wire.View

/-
  This file defines the dump of a trace: the view of every
  step in order, one line each.

  Key definitions include:
    * `Session.views`
    * `Session.dump`, `dumpText`
-/

namespace TracePlayer

namespace Session

/- The views of a number of steps from an index on. -/
def viewsFrom
    (s : Session)
    (index : Nat) : Nat → List View
| 0 => []
| count + 1 =>
    let (view, s) := (s.seek index).view
    view.toList ++ s.viewsFrom (index + 1) count

/- The views of all steps. -/
def views (s : Session) : List View :=
  s.viewsFrom 0 s.trace.length

/- Load a source at once and view all its steps. -/
def dump
    (s : Session)
    (tracer : Tracer)
    (source : String) : LoadOutcome × List View :=
  let (outcome, s) := s.loadNow tracer source
  (outcome, s.views)

end Session

/- Views as lines of text. -/
def dumpText (views : List View) : String :=
  String.join (views.map fun view =>
    view.toJson.compact ++ "\n")

end TracePlayer
