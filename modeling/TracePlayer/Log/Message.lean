import TracePlayer.Carry
import TracePlayer.Log.Filter
import TracePlayer.Log.Moment
import TracePlayer.Settings.Basic
import TracePlayer.Wire.Request

/-
  This file defines what a run tells its log.

  Key definitions include:
    * `LogMessage`, `LogMessage.line`
    * `LogMessage.takenBy`
    * `LogMessage.opening`, `requesting`, `calling`, `called`
    * `LogMessage.replied`, `walked`, `failed`
-/

namespace TracePlayer

/-
  Something that an area of the program tells: a text, and
  fields with their values.
-/
structure LogMessage where
  area : String
  level : LogLevel
  text : String
  fields : List (String × String)
deriving DecidableEq, Repr

namespace LogMessage

------------------------------------------------------------
-- Lines
------------------------------------------------------------

/- The names of the fields; the text is one of them. -/
def fieldNames (message : LogMessage) : List String :=
  "message" :: message.fields.map Prod.fst

/- Whether a filter takes a message. -/
def takenBy
    (message : LogMessage)
    (filter : LogFilter) : Bool :=
  filter.takes message.area message.level message.fieldNames

/- A label with blanks in front, up to the longest. -/
def levelColumn (level : LogLevel) : String :=
  String.ofList
    (List.replicate (5 - level.label.length) ' ') ++
      level.label

/- The line of a message at a moment. -/
def line
    (moment : Moment)
    (message : LogMessage) : String :=
  moment.text ++ " " ++ levelColumn message.level ++ " " ++
    message.area ++ ": " ++ message.text ++
    String.join (message.fields.map fun (name, value) =>
      " " ++ name ++ "=" ++ value) ++ "\n"

------------------------------------------------------------
-- Messages
------------------------------------------------------------

/- The text of a speed. -/
def speedText (settings : Settings) : String :=
  settings.speed.write Binary64.plain

/- The text of a tracer. -/
def tracerText : TracerTarget → String
| .http url _ => url
| .file path => path

/- A run starts: the speed is set first. -/
def opening (settings : Settings) : List LogMessage :=
  [ { area := "traceds::playback"
      level := .debug
      text := "playback speed changed"
      fields := [("speed", speedText settings)] },
    { area := "traceds"
      level := .info
      text := "starting"
      fields :=
        [ ("file", settings.sourcePath),
          ("tracer", tracerText settings.tracer) ] } ]

/- The playback takes a number of frames. -/
def playbackLoaded
    (settings : Settings)
    (frames : Nat) : LogMessage :=
  { area := "traceds::playback"
    level := .debug
    text := "playback loaded"
    fields :=
      [ ("len", toString frames),
        ("speed", speedText settings) ] }

/- A trace is asked for; nothing is played meanwhile. -/
def requesting (settings : Settings) : List LogMessage :=
  [ playbackLoaded settings 0,
    { area := "traceds::session"
      level := .info
      text := "trace requested"
      fields := [("generation", "1")] } ]

/- A tracer of the web is called. -/
def calling (url source : String) : List LogMessage :=
  [ { area := "traceds::session::tracer"
      level := .debug
      text := "requesting trace"
      fields :=
        [ ("endpoint", url),
          ("bytes", toString source.utf8ByteSize) ] } ]

/- A tracer of the web was called. -/
def called : Except String WebAnswer → List LogMessage
| .error reason =>
    [ { area := "traceds::session::tracer"
        level := .warn
        text := "tracer request failed"
        fields := [("error", reason)] } ]
| .ok answer =>
    [ { area := "traceds::session::tracer"
        level := .debug
        text := "tracer responded"
        fields :=
          [ ("status", toString answer.status),
            ("bytes",
              toString answer.received.utf8ByteSize) ] } ]

/- The reply to the request is applied. -/
def replied
    (settings : Settings) :
    Except TracerError Reply → List LogMessage
| .error error =>
    [ playbackLoaded settings 0,
      { area := "traceds::session"
        level := .warn
        text := "trace failed"
        fields := [("error", error.message)] } ]
| .ok reply =>
    let frames := reply.frames.length
    [ playbackLoaded settings 0,
      playbackLoaded settings frames,
      if frames = 0 then
        { area := "traceds::session"
          level := .info
          text := "tracer returned no frames"
          fields := [] }
      else
        { area := "traceds::session"
          level := .info
          text := "trace loaded"
          fields := [("frames", toString frames)] } ]

/- A frame is observed: what it shows anew, and the total. -/
def observed
    (before after : Carry) : List LogMessage :=
  (after.keys.drop before.size).map (fun (kind, name) =>
      { area := "traceds::diff::cache"
        level := .trace
        text := "caching new structure"
        fields := [("kind", kind.name), ("name", name)] }) ++
    [ { area := "traceds::diff::cache"
        level := .trace
        text := "observed frame into carry-forward cache"
        fields := [("entries", toString after.size)] } ]

/- Frames are observed one after the other. -/
def observedAll
    (carry : Carry) : List Frame → List LogMessage
| [] => []
| frame :: rest =>
    observed carry (carry.observe frame) ++
      observedAll (carry.observe frame) rest

/- All frames are viewed; each but the last is observed. -/
def walked
    (result : Except TracerError Reply) : List LogMessage :=
  match result with
  | .ok reply => observedAll Carry.empty reply.frames.dropLast
  | .error _ => []

/- A dump failed. -/
def failed (reason : String) : List LogMessage :=
  [ { area := "traceds"
      level := .error
      text := "dump failed"
      fields := [("error", reason)] } ]

end LogMessage

end TracePlayer
