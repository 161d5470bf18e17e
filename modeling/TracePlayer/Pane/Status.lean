import TracePlayer.Screen.Theme
import TracePlayer.Screen.Widget
import TracePlayer.Wire.Reply

/-
  This file draws the status bar: the step and a message on
  the left, the keys and the state of playback on the right.

  Key definitions include:
    * `StatusBar`
    * `StatusBar.countable`
    * `StatusBar.stepText`, `StatusBar.messageText`
    * `StatusBar.draw`, `StatusBar.draw?`
-/

namespace TracePlayer

/- What the bar shows; the step is counted from zero. -/
structure StatusBar where
  message : String
  step : Nat
  total : Nat
  playing : Bool
  speed : Binary64
  complexity : Option String
  error : Option SessionError
  pending : Bool

namespace StatusBar

------------------------------------------------------------
-- Texts
------------------------------------------------------------

/-
  Whether the number of the step can be told: it is counted
  from one in words of 64 bits. Without steps there is nothing
  to count.
-/
def countable (bar : StatusBar) : Bool :=
  bar.total = 0 || bar.step < 0xFFFFFFFFFFFFFFFF

/- The step, or what stands for it while there is none. -/
def stepText (bar : StatusBar) : String :=
  if bar.pending then
    " Tracing… "
  else if bar.total = 0 then
    " Step -/- "
  else
    " Step " ++ toString (bar.step + 1) ++ "/" ++
      toString bar.total ++ " "

/- The message; an error wins over everything else. -/
def messageText (bar : StatusBar) : String :=
  match bar.error, bar.complexity with
  | some error, _ => error.message
  | none, some complexity =>
      bar.message ++ "  ·  " ++ complexity
  | none, none => bar.message

------------------------------------------------------------
-- Styles
------------------------------------------------------------

/- Black text on a colour. -/
def badge (paint : Paint) : Style :=
  (Style.colour .black).on paint

/- A colour on the background of the bar. -/
def onBar (paint : Paint) : Style :=
  (Style.colour paint).on Theme.bar

def background : Style :=
  Style.plain.on Theme.bar

------------------------------------------------------------
-- Sides
------------------------------------------------------------

/- The left side: the step and the message. -/
def left (bar : StatusBar) : Line :=
  let failed := bar.error.isSome
  let paint :=
    if failed then Theme.failure
    else if bar.pending then Theme.secondary
    else Theme.primary
  Line.ofSpans
    [ ⟨bar.stepText, (badge paint).strong⟩,
      ⟨" | ", onBar Theme.muted⟩,
      ⟨" " ++ bar.messageText ++ " ",
        onBar (if failed then Theme.failure else Theme.text)⟩ ]

def separator : Span :=
  ⟨"│", onBar Theme.muted⟩

/- A key and what it does. -/
def keyHint (key action : String) : List Span :=
  [⟨key, badge Theme.muted⟩, ⟨action, onBar Theme.text⟩]

/- The keys, with the current speed. -/
def keyHints (bar : StatusBar) : List Span :=
  let speed := bar.speed.write Binary64.plain
  let gap : List Span := [separator, ⟨" ", onBar Theme.text⟩]
  keyHint " ←/→ " " step " ++ gap ++
    keyHint " ⎵ " " play " ++ gap ++
    keyHint " +/- " (" " ++ speed ++ "x ") ++ gap ++
    keyHint " ↵ / ⌫ " " end/start " ++ gap ++
    keyHint " r " " rerun " ++ gap ++
    keyHint "q" " quit "

/- The state of playback: playing, at the end, or at the start. -/
def stateBadge (bar : StatusBar) : List Span :=
  if bar.playing then
    [separator, ⟨" ▶ PLAYING ", (badge Theme.secondary).strong⟩]
  else if 0 < bar.total ∧ bar.total ≤ bar.step + 1 then
    [separator, ⟨" END ", (badge Theme.failure).strong⟩]
  else if 0 < bar.total ∧ bar.step = 0 then
    [separator, ⟨" START ", (badge Theme.success).strong⟩]
  else
    []

/- The right side: the keys and the state of playback. -/
def right (bar : StatusBar) : Line :=
  Line.ofSpans (bar.keyHints ++ bar.stateBadge)

/- Draw both halves of the bar. -/
def draw
    (bar : StatusBar)
    (canvas : Canvas)
    (area : Area) : Canvas :=
  let (leftHalf, rightHalf) := area.splitColumns 50
  (canvas.drawBar leftHalf background .left bar.left).drawBar
    rightHalf background .right bar.right

/- Draw the bar if the number of its step can be told. -/
def draw?
    (bar : StatusBar)
    (canvas : Canvas)
    (area : Area) : Option Canvas :=
  if bar.countable then some (bar.draw canvas area) else none

end StatusBar

end TracePlayer
