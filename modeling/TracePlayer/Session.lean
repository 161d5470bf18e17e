import TracePlayer.Playback
import TracePlayer.View.Basic
import TracePlayer.Wire.Reply

/-
  This file defines a session: one trace with its playback,
  what is carried from the frames seen so far, and the
  requests to the tracer. Requests are numbered, and only the
  answer to the latest one is used. Answers that have arrived
  wait in a queue until the session reads them.

  Key definitions include:
    * `Tracer`, `Request`, `Answer`, `LoadOutcome`
    * `Session`
    * `Session.load`, `loadNow`, `rerun`
    * `Session.arrive`, `poll`, `wait`
    * `Session.observeTo`, `view`
    * `Session.Event`, `Session.handle`
-/

namespace TracePlayer

------------------------------------------------------------
-- Requests
------------------------------------------------------------

/- What a tracer answers to the source of a program. -/
abbrev Tracer :=
  String → Except TracerError Reply

/- A request that is under way. -/
structure Request where
  number : Nat
  source : String
deriving DecidableEq, Repr

/- The answer to the request of a number. -/
structure Answer where
  number : Nat
  result : Except TracerError Reply

/- What an answer did to the session. -/
inductive LoadOutcome where
| loaded (frames : Nat)
| empty
| failed (error : SessionError)
deriving DecidableEq, Repr

------------------------------------------------------------
-- Sessions
------------------------------------------------------------

/-
  A session. `observed` counts the leading frames that are in
  `carry`; `requests` are those that are not answered yet and
  `answers` those that have arrived and are not read yet.
-/
structure Session where
  trace : Trace
  complexity : Option String
  playback : Playback
  carry : Carry
  observed : Nat
  requestNumber : Nat
  pending : Bool
  lastError : Option SessionError
  source : Option String
  requests : List Request
  answers : List Answer

namespace Session

/- A session that has not loaded anything. -/
def new : Session :=
  { trace := []
    complexity := none
    playback := Playback.new
    carry := Carry.empty
    observed := 0
    requestNumber := 0
    pending := false
    lastError := none
    source := none
    requests := []
    answers := [] }

instance : Inhabited Session :=
  ⟨new⟩

------------------------------------------------------------
-- Loading
------------------------------------------------------------

/- Forget the trace and everything that came from it. -/
def clear (s : Session) : Session :=
  { s with
    trace := []
    complexity := none
    carry := Carry.empty
    observed := 0
    playback := s.playback.reset }

/- Begin a new request for a source. -/
def begin
    (s : Session)
    (source : String) : Session :=
  { s.clear with
    requestNumber := s.requestNumber + 1
    pending := true
    lastError := none
    source := some source }

/- Take over the result of the latest request. -/
def apply
    (s : Session)
    (result : Except TracerError Reply) :
    LoadOutcome × Session :=
  let s := { s.clear with pending := false }
  match result with
  | .ok reply =>
      let frames := reply.frames.length
      (if frames = 0 then .empty else .loaded frames,
        { s with
          trace := reply.frames
          complexity := reply.complexity
          playback := s.playback.load frames })
  | .error error =>
      let error := SessionError.ofTracer error
      (.failed error, { s with lastError := some error })

/- Send a request; its answer arrives later. -/
def load
    (s : Session)
    (source : String) : Session :=
  let s := s.begin source
  { s with
    requests := s.requests ++ [⟨s.requestNumber, source⟩] }

/- Ask the tracer and use its answer at once. -/
def loadNow
    (s : Session)
    (tracer : Tracer)
    (source : String) : LoadOutcome × Session :=
  (s.begin source).apply (tracer source)

/- Send a request for the last source, if there is one. -/
def rerun (s : Session) : Bool × Session :=
  match s.source with
  | some source => (true, s.load source)
  | none => (false, s)

------------------------------------------------------------
-- Answers
------------------------------------------------------------

/- The answer to a request arrives. -/
def arrive
    (s : Session)
    (number : Nat)
    (result : Except TracerError Reply) : Session :=
  { s with
    requests := s.requests.filter fun r => r.number ≠ number
    answers := s.answers ++ [⟨number, result⟩] }

/- Every request that is under way is answered, in order. -/
def arriveAll
    (s : Session)
    (tracer : Tracer) : Session :=
  s.requests.foldl
    (fun s request =>
      s.arrive request.number (tracer request.source)) s

/-
  Read one answer: that to the latest request is applied, one
  to an older request is dropped.
-/
def accept
    (s : Session)
    (answer : Answer) : Option LoadOutcome × Session :=
  if answer.number = s.requestNumber then
    let (outcome, s) := s.apply answer.result
    (some outcome, s)
  else
    (none, s)

/- Read a list of answers; the last outcome counts. -/
def acceptAll
    (s : Session)
    (outcome : Option LoadOutcome) :
    List Answer → Option LoadOutcome × Session
| [] => (outcome, s)
| answer :: rest =>
    let (new, s) := s.accept answer
    s.acceptAll (new.or outcome) rest

/- Read every answer that has arrived. -/
def poll (s : Session) : Option LoadOutcome × Session :=
  { s with answers := [] }.acceptAll none s.answers

/-
  Read answers up to the one that is applied, and leave the
  rest in the queue.
-/
def acceptFirst
    (s : Session) :
    List Answer → Option LoadOutcome × Session
| [] => (none, { s with answers := [] })
| answer :: rest =>
    match { s with answers := rest }.accept answer with
    | (some outcome, s) => (some outcome, s)
    | (none, s) => s.acceptFirst rest

/-
  Wait for the answer to the latest request, if it is pending;
  the wait ends when no more answers have arrived.
-/
def wait (s : Session) : Option LoadOutcome × Session :=
  if s.pending then s.acceptFirst s.answers else (none, s)

------------------------------------------------------------
-- Playback Controls
------------------------------------------------------------

/- Replace the playback of a session. -/
def withPlayback
    (s : Session)
    (playback : Playback) : Session :=
  { s with playback := playback }

def play
    (s : Session)
    (now : Nat) : Except PlaybackError Session :=
  (s.playback.play now).map s.withPlayback

def pause (s : Session) : Session :=
  s.withPlayback s.playback.pause

def toggle
    (s : Session)
    (now : Nat) : Except PlaybackError Session :=
  (s.playback.toggle now).map s.withPlayback

def step
    (s : Session)
    (delta : Int) : Session :=
  s.withPlayback (s.playback.step delta)

def seek
    (s : Session)
    (index : Nat) : Session :=
  s.withPlayback (s.playback.seek index)

/- Go to the last frame. -/
def seekEnd (s : Session) : Session :=
  s.seek wordMax

def setSpeed
    (s : Session)
    (speed : Binary64)
    (now : Nat) : Except PlaybackError Session :=
  (s.playback.setSpeed speed now).map s.withPlayback

def tick
    (s : Session)
    (now : Nat) : Except PlaybackError (Bool × Session) :=
  (s.playback.tick now).map fun (moved, playback) =>
    (moved, s.withPlayback playback)

------------------------------------------------------------
-- Views
------------------------------------------------------------

/- Observe one more frame. -/
def observeNext (s : Session) : Session :=
  { s with
    carry :=
      match s.trace[s.observed]? with
      | some frame => s.carry.observe frame
      | none => s.carry
    observed := s.observed + 1 }

/- Observe a number of frames, one after the other. -/
def observeMore (s : Session) : Nat → Session
| 0 => s
| more + 1 => s.observeNext.observeMore more

/-
  Observe the frames before an index that are not observed
  yet. Going back takes nothing away.
-/
def observeTo
    (s : Session)
    (index : Nat) : Session :=
  s.observeMore (min index s.trace.length - s.observed)

/- The view of the current frame, if there is one. -/
def view (s : Session) : Option View × Session :=
  let index := s.playback.index
  let s := s.observeTo index
  ((Trace.pair? s.trace index).map fun (previous, current) =>
      View.ofStep index current previous s.carry,
    s)

------------------------------------------------------------
-- Events
------------------------------------------------------------

/- Everything that can happen to a session. -/
inductive Event where
| load (source : String)
| loadNow (source : String)
| rerun
| arrive (number : Nat)
| poll
| wait
| play (now : Nat)
| pause
| toggle (now : Nat)
| step (delta : Int)
| seek (index : Nat)
| seekEnd
| setSpeed (speed : Binary64) (now : Nat)
| tick (now : Nat)
| view
deriving DecidableEq

/- What an event reports. -/
inductive Report where
| done
| flag (value : Bool)
| outcome (outcome : Option LoadOutcome)
| view (view : Option View)
deriving DecidableEq

/-
  What an event does, given the tracer. An answer arrives only
  for a request that is under way.
-/
def handle
    (tracer : Tracer)
    (s : Session) :
    Event → Except PlaybackError (Report × Session)
| .load source => .ok (.done, s.load source)
| .loadNow source =>
    let (outcome, s) := s.loadNow tracer source
    .ok (.outcome (some outcome), s)
| .rerun =>
    let (sent, s) := s.rerun
    .ok (.flag sent, s)
| .arrive number =>
    match s.requests.find? fun r => r.number = number with
    | some request =>
        .ok (.done, s.arrive number (tracer request.source))
    | none => .ok (.done, s)
| .poll =>
    let (outcome, s) := s.poll
    .ok (.outcome outcome, s)
| .wait =>
    let (outcome, s) := s.wait
    .ok (.outcome outcome, s)
| .play now => (s.play now).map fun s => (.done, s)
| .pause => .ok (.done, s.pause)
| .toggle now => (s.toggle now).map fun s => (.done, s)
| .step delta => .ok (.done, s.step delta)
| .seek index => .ok (.done, s.seek index)
| .seekEnd => .ok (.done, s.seekEnd)
| .setSpeed speed now =>
    (s.setSpeed speed now).map fun s => (.done, s)
| .tick now =>
    (s.tick now).map fun (moved, s) => (.flag moved, s)
| .view =>
    let (view, s) := s.view
    .ok (.view view, s)

end Session

end TracePlayer
