import TracePlayer.Pane.Status
import TracePlayer.Pane.Structures
import TracePlayer.Session

/-
  This file defines the viewer: a session with the source it
  traces, and the state of its panes. Drawing takes two steps:
  settling moves the panes to what fits, painting shows a
  settled viewer.

  Key definitions include:
    * `Pane`, `Viewer`
    * `Viewer.start`, `Viewer.takeOutcome`
    * `Viewer.settle`, `Viewer.screen`
    * `Viewer.drawable`
-/

namespace TracePlayer

------------------------------------------------------------
-- Viewers
------------------------------------------------------------

/- The panes that take the vertical arrow keys. -/
inductive Pane where
| source
| structures
deriving DecidableEq, Repr

/- The pane beside a pane. -/
def Pane.other : Pane → Pane
| source => structures
| structures => source

/-
  A viewer. `message` is what the status bar says when there
  is no error to show.
-/
structure Viewer where
  session : Session
  source : String
  focus : Pane
  sourceScroll : SourceScroll
  structuresScroll : Nat
  quitting : Bool
  message : String

namespace Viewer

/- A viewer that has not asked the tracer yet. -/
def new
    (session : Session)
    (source : String) : Viewer :=
  { session := session
    source := source
    focus := .source
    sourceScroll := SourceScroll.start
    structuresScroll := 0
    quitting := false
    message := "Ready!" }

/- Change what the status bar says. -/
def say
    (v : Viewer)
    (message : String) : Viewer :=
  { v with message := message }

/- Show the structures from their first line. -/
def rewind (v : Viewer) : Viewer :=
  { v with structuresScroll := 0 }

/- Ask the tracer for the source. -/
def start (v : Viewer) : Viewer :=
  { v with session := v.session.load v.source }.say
    "Tracing..."

/-
  What is said about an outcome; a failure is shown by the
  status bar itself.
-/
def outcomeText : LoadOutcome → String
| .loaded frames => "Loaded " ++ toString frames ++ " steps"
| .empty => "The tracer returned no steps"
| .failed _ => ""

/-
  Take notice of an outcome. The row of the line in focus is
  forgotten, so that it is in the middle again.
-/
def takeOutcome
    (v : Viewer)
    (outcome : LoadOutcome) : Viewer :=
  { v.rewind with
    sourceScroll := { v.sourceScroll with row := none } }.say
      (outcomeText outcome)

------------------------------------------------------------
-- Panes
------------------------------------------------------------

/- The line at which the traced program failed. -/
def errorLine? (v : Viewer) : Option Nat :=
  (v.session.lastError.bind SessionError.line).map UInt32.toNat

/- What the source pane shows beside a view. -/
def sourcePane
    (v : Viewer)
    (view : Option View) : SourcePane :=
  { source := v.source
    currentLine :=
      (view.bind View.line).map fun line => line.number.toNat
    errorLine := v.errorLine?
    focused := v.focus = .source }

/- What stands in the place of the structures. -/
def placeholder (v : Viewer) : String :=
  if v.session.pending then
    "Waiting for the tracer..."
  else if v.session.lastError.isSome then
    "No data: the program failed to trace"
  else
    "No steps to show"

/- What the structures pane shows of a view. -/
def structuresPane
    (v : Viewer)
    (view : Option View) : StructuresPane :=
  { view := view
    placeholder := v.placeholder
    focused := v.focus = .structures }

/- What the status bar shows. -/
def statusBar (v : Viewer) : StatusBar :=
  { message := v.message
    step := v.session.playback.index
    total := v.session.playback.length
    playing := v.session.playback.isPlaying
    speed := v.session.playback.speed
    complexity := v.session.complexity
    error := v.session.lastError
    pending := v.session.pending }

------------------------------------------------------------
-- Drawing
------------------------------------------------------------

/- Where everything is on a screen. -/
structure Layout where
  source : Area
  structures : Area
  status : Area
deriving DecidableEq, Repr

/-
  The status bar has the last row; the source has 45 percent
  of the columns above it and the structures the rest.
-/
def layout (width height : Nat) : Layout :=
  let (panes, status) :=
    (Area.mk 0 0 width height).splitLastRow
  let (source, structures) := panes.splitColumns 45
  ⟨source, structures, status⟩

/-
  What drawing on a screen changes in a viewer: the frames up
  to the current one are observed, and both panes scroll to
  what fits.
-/
def settle
    (v : Viewer)
    (width height : Nat) : Viewer :=
  let (view, session) := v.session.view
  let layout := layout width height
  { v with
    session := session
    sourceScroll :=
      (v.sourcePane view).settle layout.source.height
        v.sourceScroll
    structuresScroll :=
      (v.structuresPane view).settle layout.structures.height
        v.structuresScroll }

/- What a settled viewer shows on a screen. -/
def screen
    (v : Viewer)
    (width height : Nat) : Canvas :=
  let view := v.session.view.1
  let layout := layout width height
  let canvas := Canvas.blank width height
  let canvas :=
    (v.sourcePane view).draw canvas layout.source
      v.sourceScroll
  let canvas :=
    (v.structuresPane view).draw canvas layout.structures
      v.structuresScroll
  v.statusBar.draw canvas layout.status

/- Whether the view that a viewer shows can be drawn. -/
def drawable (v : Viewer) : Bool :=
  (v.structuresPane v.session.view.1).drawable

end Viewer

end TracePlayer
