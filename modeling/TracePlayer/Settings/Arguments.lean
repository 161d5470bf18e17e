import TracePlayer.Number.Written

/-
  This file reads the arguments of the command line. They are
  read in order; the value of an option is taken up when the
  next argument is understood, and an argument that is not
  understood is reported first.

  Key definitions include:
    * `ArgumentError`
    * `Argument`, `Arguments`
    * `Arguments.read`
-/

namespace TracePlayer

------------------------------------------------------------
-- Errors
------------------------------------------------------------

/-
  Why the arguments are not used: one is missing, unknown,
  without a value, no number, given twice, or has a value it
  does not take; or help or the version is asked for.
-/
inductive ArgumentError where
| missing
| unknown
| noValue
| notNumber
| repeated
| unneededValue
| helpAsked
| versionAsked
deriving DecidableEq, Repr

------------------------------------------------------------
-- Arguments
------------------------------------------------------------

/- The arguments that carry a value. -/
inductive Argument where
| file
| tracerUrl
| traceFile
| speed
| timeoutSecs
| logFile
deriving DecidableEq, Repr

/- The option of a name. -/
def Argument.ofOption? : String → Option Argument
| "tracer-url" => some tracerUrl
| "trace-file" => some traceFile
| "speed" => some speed
| "timeout-secs" => some timeoutSecs
| "log-file" => some logFile
| _ => none

/- The arguments as they are given. -/
structure Arguments where
  file : Option String
  tracerUrl : Option String
  traceFile : Option String
  speed : Option Binary64
  timeoutSecs : Option Nat
  logFile : Option String
  dump : Bool
deriving DecidableEq

namespace Arguments

/- No arguments. -/
def empty : Arguments :=
  { file := none
    tracerUrl := none
    traceFile := none
    speed := none
    timeoutSecs := none
    logFile := none
    dump := false }

------------------------------------------------------------
-- Values
------------------------------------------------------------

/- A whole number of 64 bits with an optional plus sign. -/
def wholeNumber? (text : String) : Option Nat :=
  let digits :=
    match text.toList with
    | '+' :: rest => rest
    | cs => cs
  let n := Binary64.digitsValue digits
  if digits ≠ [] ∧ digits.all Char.isDigit ∧
      n < 0x10000000000000000 then
    some n
  else
    none

/- A path has at least one character. -/
def path (text : String) : Except ArgumentError String :=
  if text = "" then .error .noValue else .ok text

/- A field that may be given once. -/
def once
    {α : Type}
    (old : Option α)
    (new : Except ArgumentError α) :
    Except ArgumentError (Option α) :=
  match old with
  | some _ => .error .repeated
  | none => new.map some

/- The result of reading a number. -/
def number
    {α : Type}
    (read : Option α) : Except ArgumentError α :=
  match read with
  | some n => .ok n
  | none => .error .notNumber

/- Take up the value of an argument. -/
def set
    (arguments : Arguments)
    (value : String) :
    Argument → Except ArgumentError Arguments
| .file =>
    (once arguments.file (path value)).map fun file =>
      { arguments with file := file }
| .tracerUrl =>
    (once arguments.tracerUrl (.ok value)).map fun url =>
      { arguments with tracerUrl := url }
| .traceFile =>
    (once arguments.traceFile (path value)).map fun file =>
      { arguments with traceFile := file }
| .speed =>
    (once arguments.speed (number (Binary64.read? value))).map
      fun speed => { arguments with speed := speed }
| .timeoutSecs =>
    (once arguments.timeoutSecs
        (number (wholeNumber? value))).map
      fun seconds => { arguments with timeoutSecs := seconds }
| .logFile =>
    (once arguments.logFile (path value)).map fun file =>
      { arguments with logFile := file }

------------------------------------------------------------
-- Reading
------------------------------------------------------------

/-
  The state of reading: what is taken up, the argument that
  waits to be taken up with its value if that has come,
  whether the file was named, and whether options are over.
-/
structure Reader where
  arguments : Arguments
  waiting : Option (Argument × Option String)
  fileNamed : Bool
  optionsOver : Bool

namespace Reader

def start : Reader :=
  ⟨Arguments.empty, none, false, false⟩

/- Take up the waiting argument. -/
def settle (r : Reader) : Except ArgumentError Reader :=
  match r.waiting with
  | none => .ok r
  | some (_, none) => .error .noValue
  | some (argument, some value) =>
      (r.arguments.set value argument).map fun arguments =>
        { r with arguments := arguments, waiting := none }

/- A plain argument: a value that is due, or the file. -/
def plain
    (r : Reader)
    (text : String) : Except ArgumentError Reader :=
  match r.optionsOver, r.waiting with
  | false, some (argument, none) =>
      .ok { r with waiting := some (argument, some text) }
  | _, _ =>
      if r.fileNamed then
        .error .unknown
      else
        r.settle.map fun r =>
          { r with
            waiting := some (.file, some text)
            fileNamed := true }

/- An option that takes no value. -/
def switch
    (r : Reader)
    (attached : Option String)
    (act : Reader → Except ArgumentError Reader) :
    Except ArgumentError Reader :=
  match attached with
  | some _ => .error .unneededValue
  | none => r.settle.bind act

def askHelp (_ : Reader) : Except ArgumentError Reader :=
  .error .helpAsked

def askVersion (_ : Reader) : Except ArgumentError Reader :=
  .error .versionAsked

def setDump (r : Reader) : Except ArgumentError Reader :=
  if r.arguments.dump then
    .error .repeated
  else
    .ok { r with arguments := { r.arguments with dump := true } }

/- An option by its long name, with its attached value. -/
def long
    (r : Reader)
    (name : String)
    (attached : Option String) : Except ArgumentError Reader :=
  match Argument.ofOption? name with
  | some argument =>
      r.settle.bind fun r =>
        let next :=
          { r with waiting := some (argument, attached) }
        if attached.isSome then next.settle else .ok next
  | none =>
      if name = "help" then r.switch attached askHelp
      else if name = "version" then r.switch attached askVersion
      else if name = "dump" then r.switch attached setDump
      else .error .unknown

/- The first letter of a group of short options decides. -/
def short
    (r : Reader) : List Char → Except ArgumentError Reader
| 'h' :: _ => r.settle.bind askHelp
| 'V' :: _ => r.settle.bind askVersion
| _ => .error .unknown

/- An option text split at its first equals sign. -/
def splitAttached (cs : List Char) : String × Option String :=
  let name := cs.takeWhile (· ≠ '=')
  match cs.dropWhile (· ≠ '=') with
  | [] => (String.ofList name, none)
  | _ :: value => (String.ofList name, some (String.ofList value))

/- Read one argument. -/
def take
    (r : Reader)
    (text : String) : Except ArgumentError Reader :=
  if r.optionsOver then
    r.plain text
  else
    match text.toList with
    | ['-', '-'] => .ok { r with optionsOver := true }
    | '-' :: '-' :: rest =>
        let (name, attached) := splitAttached rest
        r.long name attached
    | '-' :: c :: rest => r.short (c :: rest)
    | _ => r.plain text

end Reader

/- Read all arguments; the file has to be named. -/
def read
    (texts : List String) : Except ArgumentError Arguments := do
  let r ← texts.foldlM Reader.take Reader.start
  let r ← r.settle
  if r.arguments.file.isNone then
    .error .missing
  else
    .ok r.arguments

end Arguments

end TracePlayer
