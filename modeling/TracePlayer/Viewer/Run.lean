import TracePlayer.Screen.Terminal
import TracePlayer.Viewer.Key

/-
  This file runs a viewer on a terminal. Each round draws the
  screen, stops if that fails or the viewer is quitting, reads
  the answers of the tracer, lets the playback advance, and
  handles at most one key.

  Key definitions include:
    * `Viewer.refresh`
    * `Display`
    * `Display.draw`, `Display.idle`, `Display.run`
-/

namespace TracePlayer

------------------------------------------------------------
-- Rounds
------------------------------------------------------------

namespace Viewer

/- Read the answers that have arrived. -/
def takeAnswers (v : Viewer) : Viewer :=
  let (outcome, session) := v.session.poll
  let v := { v with session := session }
  match outcome with
  | some outcome => v.takeOutcome outcome
  | none => v

/- Let the playback advance if it is time. -/
def advance
    (v : Viewer)
    (now : Nat) : Except PlaybackError Viewer :=
  (v.session.tick now).map fun (moved, session) =>
    if moved then v.jump session "Playing..."
    else { v with session := session }

/- What a round does between the screen and the key. -/
def refresh
    (v : Viewer)
    (now : Nat) : Except PlaybackError Viewer :=
  v.takeAnswers.advance now

end Viewer

------------------------------------------------------------
-- Displays
------------------------------------------------------------

/- A viewer and the terminal on which it is drawn. -/
structure Display where
  viewer : Viewer
  terminal : Terminal

namespace Display

/-
  Settle the viewer and show it. A view that cannot be drawn
  leaves the terminal as it is.
-/
def draw (d : Display) : Display :=
  let viewer :=
    d.viewer.settle d.terminal.width d.terminal.height
  let picture :=
    viewer.screen d.terminal.width d.terminal.height
  { viewer := viewer
    terminal :=
      if viewer.drawable then d.terminal.present picture
      else d.terminal }

/- A round in which no key is pressed. -/
def idle
    (d : Display)
    (now : Nat) : Except PlaybackError Display :=
  let d := d.draw
  if d.viewer.drawable then
    (d.viewer.refresh now).map fun viewer =>
      { d with viewer := viewer }
  else
    .ok d

/-
  Run a viewer until it quits, cannot be drawn, or the keys
  are used up. The result is the display as it was drawn last,
  with the keys that it left unread.
-/
def run
    (now : Nat)
    (d : Display) :
    List Key → Except PlaybackError (Display × List Key)
| [] => .ok (d.draw, [])
| key :: rest =>
    let d := d.draw
    if d.viewer.quitting || !d.viewer.drawable then
      .ok (d, key :: rest)
    else do
      let viewer ← d.viewer.refresh now
      let viewer ← viewer.press now key
      Display.run now { d with viewer := viewer } rest

end Display

end TracePlayer
