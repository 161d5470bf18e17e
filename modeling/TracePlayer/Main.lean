import TracePlayer.Program
import Std.Time.DateTime.Timestamp

/-
  This file is the command line of the program. It reads and
  writes files; the web and the terminal of the viewer are not
  within its reach.

  Key definitions include:
    * `CommandLine.surroundings`
    * `main`
-/

namespace TracePlayer

namespace CommandLine

/- The number of a failure, which may come negated. -/
def failureCode (code : UInt32) : Nat :=
  if code.toNat < 0x80000000 then code.toNat
  else 0x100000000 - code.toNat

/- The failure of a number, with the system's text for it. -/
def failureOfCode
    (code : UInt32)
    (text : String) : FileFailure :=
  match failureCode code with
  | 2 => .absent
  | 20 => .notDirectory
  | 21 => .isDirectory
  | 36 => .nameTooLong
  | n => .system n text

/- Why the system refused a file. -/
def failureOf : IO.Error → FileFailure
| .noFileOrDirectory _ code text => failureOfCode code text
| .inappropriateType _ code text => failureOfCode code text
| .invalidArgument _ code text => failureOfCode code text
| .permissionDenied _ code text => failureOfCode code text
| error => .system 5 (toString error)

def readText
    (path : String) : IO (Except FileFailure String) := do
  match ← (IO.FS.readBinFile path).toBaseIO with
  | .ok bytes =>
      match String.fromUTF8? bytes with
      | some text => pure (.ok text)
      | none => pure (.error .notText)
  | .error error => pure (.error (failureOf error))

def createFile
    (path : String) : IO (Except FileFailure Unit) := do
  match ← (IO.FS.writeFile path "").toBaseIO with
  | .ok () => pure (.ok ())
  | .error error => pure (.error (failureOf error))

def appendText
    (path text : String) : IO Unit :=
  IO.FS.withFile path .append fun file => file.putStr text

def currentMoment : IO Moment := do
  let time ← Std.Time.Timestamp.now
  pure ⟨(time.toNanosecondsSinceUnixEpoch.toInt / 1000).toNat⟩

/- The files of the system, without the web. -/
def surroundings : Surroundings IO :=
  { read := readText
    create := createFile
    append := appendText
    now := currentMoment
    post := fun request _ =>
      pure (.error
        ("error sending request for url (" ++ request.url ++
          ")")) }

/- What is said about refused arguments. -/
def complaint : ArgumentError → String
| .missing => "the file to trace is missing"
| .unknown => "there is an unknown argument"
| .noValue => "an argument has no value"
| .notNumber => "the value of an option is not a number"
| .repeated => "an option is given twice"
| .unneededValue => "an option takes no value"
| .helpAsked | .versionAsked => "nothing to do"

/- Write what a run left, and give its exit code. -/
def finish : Ending → IO UInt32
| .refused error => do
    IO.eprintln ("error: " ++ complaint error)
    pure 2
| .stopped code output errors => do
    IO.print output
    IO.eprint errors
    pure (UInt32.ofNat code)
| .opened _ => do
    IO.eprintln "Error: there is no terminal for the viewer"
    pure 1

end CommandLine

end TracePlayer

def main (arguments : List String) : IO UInt32 := do
  let address ← IO.getEnv "TRACEDS_TRACER_URL"
  let rules ← IO.getEnv "RUST_LOG"
  let ending ←
    TracePlayer.Program.run
      TracePlayer.CommandLine.surroundings rules address
      arguments
  TracePlayer.CommandLine.finish ending
