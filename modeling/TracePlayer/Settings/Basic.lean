import TracePlayer.Settings.Arguments
import TracePlayer.Settings.Speed
import TracePlayer.Text.Blank

/-
  This file defines the checked settings of a run.

  Key definitions include:
    * `TracerTarget`, `Settings`, `SettingsError`
    * `Settings.ofArguments`
-/

namespace TracePlayer

------------------------------------------------------------
-- Settings
------------------------------------------------------------

/- Where the tracer of a run is. -/
inductive TracerTarget where
| http (url : String) (timeoutSecs : Nat)
| file (path : String)
deriving DecidableEq, Repr

structure Settings where
  sourcePath : String
  tracer : TracerTarget
  speed : Binary64
  logFile : Option String
  dump : Bool
deriving DecidableEq

/- Why settings are refused. -/
inductive SettingsError where
| invalidSpeed (speed : Binary64)
| invalidTimeout
| invalidTracerUrl (url : String)
deriving DecidableEq

def SettingsError.message : SettingsError → String
| invalidSpeed speed =>
    "Invalid speed " ++ speed.write Binary64.plain ++
      ": expected a value between " ++
      minSpeed.write Binary64.plain ++ " and " ++
      maxSpeed.write Binary64.plain
| invalidTimeout => "Timeout must be at least one second"
| invalidTracerUrl url =>
    "Invalid tracer URL '" ++ url ++
      "': expected http:// or https://"

namespace Settings

/- The tracer that is asked when none is named. -/
def defaultTracerUrl : String :=
  "http://127.0.0.1:5000/trace"

def defaultTimeoutSecs : Nat :=
  10

def defaultSpeed : Binary64 :=
  Binary64.ofNat 1

------------------------------------------------------------
-- Checks
------------------------------------------------------------

/-
  The tracer at an address: the timeout is at least a second
  and the address one of the web.
-/
def httpTarget
    (url : String)
    (timeoutSecs : Nat) : Except SettingsError TracerTarget :=
  if timeoutSecs = 0 then
    .error .invalidTimeout
  else
    let url := trimSpace url
    if url.startsWith "http://" || url.startsWith "https://" then
      .ok (.http url timeoutSecs)
    else
      .error (.invalidTracerUrl url)

/-
  Check arguments. `address` is the tracer's address in the
  environment; a saved trace is used instead of any address.
-/
def ofArguments
    (address : Option String)
    (arguments : Arguments) : Except SettingsError Settings := do
  let speed := arguments.speed.getD defaultSpeed
  if onScale speed = false then
    .error (.invalidSpeed speed)
  else
    let tracer ←
      match arguments.traceFile with
      | some path => .ok (.file path)
      | none =>
          httpTarget
            ((arguments.tracerUrl.or address).getD
              defaultTracerUrl)
            (arguments.timeoutSecs.getD defaultTimeoutSecs)
    .ok
      { sourcePath := arguments.file.getD ""
        tracer := tracer
        speed := speed
        logFile := arguments.logFile
        dump := arguments.dump }

end Settings

end TracePlayer
