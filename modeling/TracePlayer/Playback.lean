import TracePlayer.Number.Written

/-
  This file defines the playback of a trace: the position in
  it, the speed, and the one deadline of the next advance. The
  deadline is set when playback starts and when the speed
  changes, and dropped when playback stops. Times and
  durations are counted in nanoseconds.

  Key definitions include:
    * `intervalOf?`
    * `PlayState`, `Playback`, `PlaybackError`
    * `Playback.load`, `play`, `pause`, `toggle`
    * `Playback.step`, `seek`, `setSpeed`, `tick`
    * `Playback.Control`, `Playback.apply`
-/

namespace TracePlayer

------------------------------------------------------------
-- Words and Times
------------------------------------------------------------

/- The greatest index of a machine word. -/
def wordMax : Nat :=
  0xFFFFFFFFFFFFFFFF

/- A sum that stops at the greatest index. -/
def saturatingAdd (a b : Nat) : Nat :=
  min (a + b) wordMax

/- Nanoseconds in a second. -/
def second : Nat :=
  1000000000

/- The first duration that is too long to represent. -/
def durationLimit : Nat :=
  0x10000000000000000 * second

/- The first time that is too late to represent. -/
def timeLimit : Nat :=
  0x8000000000000000 * second

/- A number of seconds to the nearest nanosecond. -/
def nanoseconds? (seconds : Binary64) : Option Nat :=
  match seconds with
  | .finite false magnitude _ =>
      let duration :=
        Binary64.roundHalfEven (magnitude * second) Binary64.one
      if duration < durationLimit then some duration else none
  | .finite true magnitude _ =>
      if magnitude = 0 then some 0 else none
  | _ => none

/-
  The time between two advances at a speed: one second divided
  by the speed, when that can be represented.
-/
def intervalOf? (speed : Binary64) : Option Nat :=
  nanoseconds? ((Binary64.ofNat 1).div speed)

------------------------------------------------------------
-- Playback
------------------------------------------------------------

/-
  Nothing to play, ready to play for the first time, playing,
  or paused.
-/
inductive PlayState where
| stopped
| ready
| playing
| paused
deriving DecidableEq, Repr

/-
  A refused speed, or a deadline that cannot be represented.
-/
inductive PlaybackError where
| invalidSpeed (speed : Binary64)
| timeOverflow
deriving DecidableEq

def PlaybackError.message : PlaybackError → String
| invalidSpeed speed =>
    "Invalid playback speed " ++ speed.write Binary64.plain ++
      ": must be greater than 0"
| timeOverflow => "the next advance lies too far ahead"

/-
  The position in a trace of some length; the deadline of the
  next advance is there only while playing.
-/
structure Playback where
  length : Nat
  index : Nat
  speed : Binary64
  state : PlayState
  deadline : Option Nat
deriving DecidableEq

namespace Playback

/- Nothing loaded, at normal speed. -/
def new : Playback :=
  { length := 0
    index := 0
    speed := Binary64.ofNat 1
    state := .stopped
    deadline := none }

instance : Inhabited Playback :=
  ⟨new⟩

------------------------------------------------------------
-- Queries
------------------------------------------------------------

def isPlaying (p : Playback) : Bool :=
  p.state = .playing

/- The last index, zero for an empty trace. -/
def lastIndex (p : Playback) : Nat :=
  p.length - 1

def isAtStart (p : Playback) : Bool :=
  p.index = 0

def isAtEnd (p : Playback) : Bool :=
  p.index = p.lastIndex

/- The time between advances at the current speed. -/
def interval? (p : Playback) : Option Nat :=
  intervalOf? p.speed

/- The time that is left until the deadline. -/
def untilTick?
    (p : Playback)
    (now : Nat) : Option Nat :=
  p.deadline.map fun due => due - now

/- The deadline one interval from now. -/
def nextDeadline
    (p : Playback)
    (now : Nat) : Except PlaybackError Nat :=
  match p.interval? with
  | some interval =>
      if now + interval < timeLimit then .ok (now + interval)
      else .error .timeOverflow
  | none => .error .timeOverflow

------------------------------------------------------------
-- Loading
------------------------------------------------------------

/- Start over on a trace. The speed is kept. -/
def load
    (p : Playback)
    (length : Nat) : Playback :=
  { p with
    length := length
    index := 0
    state := if length = 0 then .stopped else .ready
    deadline := none }

/- Drop the trace. -/
def reset (p : Playback) : Playback :=
  p.load 0

------------------------------------------------------------
-- Playing
------------------------------------------------------------

/- Start playing; a playing or empty playback stays as it is. -/
def play
    (p : Playback)
    (now : Nat) : Except PlaybackError Playback :=
  match p.state with
  | .ready | .paused =>
      (p.nextDeadline now).map fun due =>
        { p with state := .playing, deadline := some due }
  | .playing | .stopped => .ok p

def pause (p : Playback) : Playback :=
  if p.isPlaying then
    { p with state := .paused, deadline := none }
  else
    p

def toggle
    (p : Playback)
    (now : Nat) : Except PlaybackError Playback :=
  if p.isPlaying then .ok p.pause else p.play now

------------------------------------------------------------
-- Moving
------------------------------------------------------------

/- Go to an index, at most the last one. -/
def seek
    (p : Playback)
    (index : Nat) : Playback :=
  { p with index := min index p.lastIndex }

/- Move by a number of frames in either direction. -/
def step
    (p : Playback)
    (delta : Int) : Playback :=
  p.seek
    (if delta < 0 then p.index - delta.natAbs
      else saturatingAdd p.index delta.natAbs)

------------------------------------------------------------
-- Time
------------------------------------------------------------

/- A speed has to be finite and greater than zero. -/
def acceptsSpeed (speed : Binary64) : Bool :=
  speed.isFinite && Binary64.zero.lt speed

/-
  Change the speed. While playing, the deadline is set anew
  with the new interval.
-/
def setSpeed
    (p : Playback)
    (speed : Binary64)
    (now : Nat) : Except PlaybackError Playback :=
  if acceptsSpeed speed then
    let faster := { p with speed := speed }
    match p.deadline with
    | some _ =>
        (faster.nextDeadline now).map fun due =>
          { faster with deadline := some due }
    | none => .ok faster
  else
    .error (.invalidSpeed speed)

/-
  Advance by one frame when the deadline has come, and set the
  next deadline; the result tells whether the index moved. The
  last frame does not end playback.
-/
def tick
    (p : Playback)
    (now : Nat) : Except PlaybackError (Bool × Playback) :=
  match p.deadline with
  | none => .ok (false, p)
  | some due =>
      if now < due then
        .ok (false, p)
      else
        (p.nextDeadline now).map fun next =>
          let index := min (p.index + 1) p.lastIndex
          (decide (index ≠ p.index),
            { p with index := index, deadline := some next })

------------------------------------------------------------
-- Controls
------------------------------------------------------------

/- Everything that can be done to a playback. -/
inductive Control where
| load (length : Nat)
| reset
| play (now : Nat)
| pause
| toggle (now : Nat)
| step (delta : Int)
| seek (index : Nat)
| setSpeed (speed : Binary64) (now : Nat)
| tick (now : Nat)
deriving DecidableEq

/- Use a control; only a tick can report a move. -/
def apply
    (p : Playback) :
    Control → Except PlaybackError (Bool × Playback)
| .load length => .ok (false, p.load length)
| .reset => .ok (false, p.reset)
| .play now => (p.play now).map fun q => (false, q)
| .pause => .ok (false, p.pause)
| .toggle now => (p.toggle now).map fun q => (false, q)
| .step delta => .ok (false, p.step delta)
| .seek index => .ok (false, p.seek index)
| .setSpeed speed now =>
    (p.setSpeed speed now).map fun q => (false, q)
| .tick now => p.tick now

end Playback

end TracePlayer
