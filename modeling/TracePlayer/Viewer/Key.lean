import TracePlayer.Settings.Speed
import TracePlayer.Viewer.Basic

/-
  This file defines what the keys of a viewer do. Times only
  matter to the deadline of the next advance.

  Key definitions include:
    * `Key`
    * `Viewer.jump`, `Viewer.changeSpeed`
    * `Viewer.press`
-/

namespace TracePlayer

/- The keys; `other` stands for all that have no meaning. -/
inductive Key where
| char (c : Char)
| left
| right
| up
| down
| home
| last
| enter
| backspace
| tab
| other
deriving DecidableEq, Repr

namespace Viewer

------------------------------------------------------------
-- Moving
------------------------------------------------------------

/- Change the session and show the new step from its top. -/
def jump
    (v : Viewer)
    (session : Session)
    (message : String) : Viewer :=
  ({ v with session := session }.rewind).say message

/- Move one step forward, unless that is impossible. -/
def moveForward (v : Viewer) : Viewer :=
  if v.session.playback.isAtEnd then
    v.say "Already at the last step"
  else
    v.jump (v.session.step 1) "Stepped forward"

/- Move one step back, unless that is impossible. -/
def moveBack (v : Viewer) : Viewer :=
  if v.session.playback.isAtStart then
    v.say "Already at the first step"
  else
    v.jump (v.session.step (-1)) "Stepped backward"

def moveToEnd (v : Viewer) : Viewer :=
  v.jump v.session.seekEnd "Jumped to end"

def moveToStart (v : Viewer) : Viewer :=
  v.jump (v.session.seek 0) "Jumped to start"

------------------------------------------------------------
-- Scrolling
------------------------------------------------------------

/-
  Scroll the pane in focus up. In the source the line in focus
  moves down, which only has an effect once its row is known.
-/
def scrollUp (v : Viewer) : Viewer :=
  match v.focus with
  | .source =>
      { v with
        sourceScroll :=
          { v.sourceScroll with
            row := v.sourceScroll.row.map
              fun row => saturatingAdd row 1 } }
  | .structures =>
      { v with structuresScroll := v.structuresScroll - 1 }

/- Scroll the pane in focus down. -/
def scrollDown (v : Viewer) : Viewer :=
  match v.focus with
  | .source =>
      { v with
        sourceScroll :=
          { v.sourceScroll with
            row := v.sourceScroll.row.map fun row => row - 1 } }
  | .structures =>
      { v with
        structuresScroll :=
          saturatingAdd v.structuresScroll 1 }

------------------------------------------------------------
-- Playing
------------------------------------------------------------

/- Start or pause playing. -/
def togglePlay
    (v : Viewer)
    (now : Nat) : Except PlaybackError Viewer :=
  (v.session.toggle now).map fun session =>
    { v with session := session }.say
      (if session.playback.isPlaying then "Playing..."
        else "Paused")

/-
  Go up or down the scale of speeds. A refused speed is said
  and changes nothing.
-/
def changeSpeed
    (v : Viewer)
    (now : Nat)
    (steps : Int) : Except PlaybackError Viewer :=
  let speed := adjustSpeed v.session.playback.speed steps
  match v.session.setSpeed speed now with
  | .ok session =>
      .ok ({ v with session := session }.say
        ("Speed " ++ speed.write Binary64.plain ++ "x"))
  | .error (.invalidSpeed speed) =>
      .ok (v.say (PlaybackError.invalidSpeed speed).message)
  | .error .timeOverflow => .error .timeOverflow

/- Ask the tracer again, unless it has not answered yet. -/
def restart (v : Viewer) : Viewer :=
  if v.session.pending then v else v.start

------------------------------------------------------------
-- Keys
------------------------------------------------------------

/- What a key with a character does. -/
def pressChar
    (v : Viewer)
    (now : Nat)
    (c : Char) : Except PlaybackError Viewer :=
  if c = 'q' ∨ c = 'Q' then .ok { v with quitting := true }
  else if c = ' ' then v.togglePlay now
  else if c = '+' ∨ c = '=' then v.changeSpeed now 1
  else if c = '-' ∨ c = '_' then v.changeSpeed now (-1)
  else if c = 'r' ∨ c = 'R' then .ok v.restart
  else .ok v

/- What a key does. -/
def press
    (v : Viewer)
    (now : Nat) : Key → Except PlaybackError Viewer
| .char c => v.pressChar now c
| .left => .ok v.moveBack
| .right => .ok v.moveForward
| .up => .ok v.scrollUp
| .down => .ok v.scrollDown
| .home | .backspace => .ok v.moveToStart
| .last | .enter => .ok v.moveToEnd
| .tab => .ok { v with focus := v.focus.other }
| .other => .ok v

end Viewer

end TracePlayer
