import TracePlayer.Dump
import TracePlayer.Files.Store
import TracePlayer.Log.Message
import TracePlayer.Settings.Basic
import TracePlayer.Viewer.Basic
import TracePlayer.Wire.Request

/-
  This file defines a run of the program from its arguments to
  the text that it leaves, or to the viewer that it opens.
  Files, the web and the log are reached through operations
  that the surroundings of the program supply.

  Key definitions include:
    * `Surroundings`
    * `Ending`
    * `Program.run`
-/

namespace TracePlayer

------------------------------------------------------------
-- Surroundings
------------------------------------------------------------

/-
  What the program can do in its surroundings: read a text,
  make an empty file, add text to a file, look at the clock,
  and post a request that fails after a number of seconds.
-/
structure Surroundings (m : Type → Type) where
  read : String → m (Except FileFailure String)
  create : String → m (Except FileFailure Unit)
  append : String → String → m Unit
  now : m Moment
  post : WebRequest → Nat → m (Except String WebAnswer)

------------------------------------------------------------
-- Endings
------------------------------------------------------------

/-
  How a run ends: the arguments are refused, the program stops
  with an exit code and what it wrote, or it opens a viewer.
-/
inductive Ending where
| refused (error : ArgumentError)
| stopped (code : Nat) (output errors : String)
| opened (viewer : Viewer)

namespace Ending

/- A run that worked. -/
def success (output : String) : Ending :=
  .stopped 0 output ""

/- A run that did not work. -/
def failed
    (code : Nat)
    (text : String) : Ending :=
  .stopped code "" (text ++ "\n")

end Ending

------------------------------------------------------------
-- Texts
------------------------------------------------------------

namespace Program

def versionText : String :=
  "traceds 0.1.0\n"

def helpText : String :=
  String.join (List.map (· ++ "\n")
    [ "Step through the data structures of a traced program",
      "",
      "Usage: traceds [OPTIONS] <FILE>",
      "",
      "Arguments:",
      "  <FILE>  Program source to trace",
      "",
      "Options:",
      "      --tracer-url <TRACER_URL>      Tracer endpoint " ++
        "that accepts \x7b\"code\": ...\x7d and returns frames " ++
        "[env: TRACEDS_TRACER_URL=] " ++
        "[default: http://127.0.0.1:5000/trace]",
      "      --trace-file <TRACE_FILE>      Replay a saved " ++
        "tracer response instead of contacting the tracer",
      "      --speed <SPEED>                Initial playback " ++
        "speed multiplier [default: 1]",
      "      --timeout-secs <TIMEOUT_SECS>  Tracer request " ++
        "timeout in seconds [default: 10]",
      "      --log-file <LOG_FILE>          Write logs to this " ++
        "file (the viewer owns the terminal)",
      "      --dump                         Print every step's " ++
        "view as a JSON line instead of opening the viewer",
      "  -h, --help                         Print help",
      "  -V, --version                      Print version" ])

------------------------------------------------------------
-- Runs
------------------------------------------------------------

section

variable {m : Type → Type} [Monad m]

/- Write to the log, if there is one, what the filter takes. -/
def log
    (world : Surroundings m)
    (settings : Settings)
    (filter : LogFilter)
    (messages : List LogMessage) : m Unit :=
  match settings.logFile with
  | some path =>
      (messages.filter fun message =>
        message.takenBy filter).forM fun message => do
          world.append path (message.line (← world.now))
  | none => pure ()

/- Make the log empty, if there is one. -/
def openLog
    (world : Surroundings m)
    (settings : Settings) : m (Except FileFailure Unit) :=
  match settings.logFile with
  | some path => world.create path
  | none => pure (.ok ())

/- Ask the tracer of the settings. -/
def ask
    (world : Surroundings m)
    (filter : LogFilter)
    (settings : Settings)
    (source : String) : m (Except TracerError Reply) :=
  match settings.tracer with
  | .file path => do
      let content ← world.read path
      pure (Reply.ofSaved path content)
  | .http url timeoutSecs => do
      log world settings filter (LogMessage.calling url source)
      let answer ←
        world.post (WebRequest.trace url source) timeoutSecs
      log world settings filter (LogMessage.called answer)
      pure (Reply.ofWeb answer)

/- Dump the trace of a source. -/
def dump
    (world : Surroundings m)
    (filter : LogFilter)
    (settings : Settings)
    (session : Session)
    (source : String) : m Ending := do
  log world settings filter (LogMessage.requesting settings)
  let result ← ask world filter settings source
  log world settings filter
    (LogMessage.replied settings result)
  match session.dump (fun _ => result) source with
  | (.loaded _, views) => do
      log world settings filter (LogMessage.walked result)
      pure (.success (dumpText views))
  | (.empty, _) =>
      pure (.stopped 0 "" "The tracer returned no steps\n")
  | (.failed error, _) => do
      log world settings filter
        (LogMessage.failed error.message)
      pure (.failed 1 error.message)

/- Run with a source that is read. -/
def runSource
    (world : Surroundings m)
    (filter : LogFilter)
    (settings : Settings)
    (source : String) : m Ending :=
  match Session.new.setSpeed settings.speed 0 with
  | .error error => pure (.failed 1 ("Error: " ++ error.message))
  | .ok session => do
      log world settings filter (LogMessage.opening settings)
      if settings.dump then
        dump world filter settings session source
      else
        pure (.opened (Viewer.new session source).start)

/-
  The filter of the rules that are chosen, if it is needed and
  they are.
-/
def filterOf?
    (settings : Settings)
    (rules : Option String) : Option LogFilter :=
  match rules with
  | some text =>
      if settings.logFile.isSome || settings.dump then
        LogFilter.read? text
      else
        some LogFilter.standard
  | none => some LogFilter.standard

/- Run with checked settings and a filter for the log. -/
def runFiltered
    (world : Surroundings m)
    (filter : LogFilter)
    (settings : Settings) : m Ending := do
  match ← world.read settings.sourcePath with
  | .error failure =>
      pure (.failed 1
        ("Error: cannot read '" ++ settings.sourcePath ++
          "': " ++ failure.message))
  | .ok source => runSource world filter settings source

/-
  Run with checked settings. The log is emptied before its
  rules are read.
-/
def runSettings
    (world : Surroundings m)
    (rules : Option String)
    (settings : Settings) : m Ending := do
  match ← openLog world settings with
  | .error failure =>
      pure (.failed 1 ("Error: " ++ failure.record))
  | .ok () =>
      match filterOf? settings rules with
      | none =>
          pure (.failed 101
            "a rule of the log is cut inside a character")
      | some filter => runFiltered world filter settings

/- Run with the arguments of a command line. -/
def run
    (world : Surroundings m)
    (rules : Option String)
    (address : Option String)
    (texts : List String) : m Ending :=
  match Arguments.read texts with
  | .error .helpAsked => pure (.success helpText)
  | .error .versionAsked => pure (.success versionText)
  | .error error => pure (.refused error)
  | .ok arguments =>
      match Settings.ofArguments address arguments with
      | .error error =>
          pure (.failed 2 ("Error: " ++ error.message))
      | .ok settings => runSettings world rules settings

end

end Program

------------------------------------------------------------
-- Runs on Stored Files
------------------------------------------------------------

/-
  Files that are stored, a clock that stands still, and a web
  that nobody answers.
-/
def FileStore.surroundings :
    Surroundings (StateM FileStore) :=
  { read := fun path => do
      pure ((← get).read path)
    create := fun path => do
      match (← get).create path with
      | .ok store =>
          set store
          pure (.ok ())
      | .error failure => pure (.error failure)
    append := fun path text =>
      modify fun store => store.append path text
    now := pure ⟨0⟩
    post := fun request _ =>
      pure (.error
        ("error sending request for url (" ++ request.url ++
          ")")) }

end TracePlayer
