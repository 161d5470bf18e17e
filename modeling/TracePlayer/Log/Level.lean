/-
  This file defines how much is said.

  Key definitions include:
    * `LogLevel`
    * `LogLevel.rank`, `LogLevel.label`
    * `LogLevel.ofText?`
-/

namespace TracePlayer

/- How much is said, from nothing to everything. -/
inductive LogLevel where
| off
| error
| warn
| info
| debug
| trace
deriving DecidableEq, Repr

namespace LogLevel

------------------------------------------------------------
-- Order and Names
------------------------------------------------------------

/- The levels in order with their names. -/
def named : List (String × LogLevel) :=
  [ ("off", .off), ("error", .error), ("warn", .warn),
    ("info", .info), ("debug", .debug), ("trace", .trace) ]

/- The place of a level in the order. -/
def rank : LogLevel → Nat
| off => 0
| error => 1
| warn => 2
| info => 3
| debug => 4
| trace => 5

/- The name of a level in capitals. -/
def label : LogLevel → String
| off => "OFF"
| error => "ERROR"
| warn => "WARN"
| info => "INFO"
| debug => "DEBUG"
| trace => "TRACE"

------------------------------------------------------------
-- Texts
------------------------------------------------------------

/- The number that digits write, after at most one plus. -/
def number? (chars : List Char) : Option Nat :=
  let digits :=
    match chars with
    | '+' :: rest => rest
    | _ => chars
  if digits = [] ∨ digits.all Char.isDigit = false then none
  else
    some (digits.foldl
      (fun n c => 10 * n + (c.toNat - '0'.toNat)) 0)

/- The level of a place in the order. -/
def ofRank? (rank : Nat) : Option LogLevel :=
  named[rank]?.map Prod.snd

/- The level of a name in letters of either case. -/
def ofName? (name : String) : Option LogLevel :=
  (named.find? fun level => level.1 = name.toLower).map
    Prod.snd

/- The level that a text means, by place or by name. -/
def ofText? (text : String) : Option LogLevel :=
  ((number? text.toList).bind ofRank?).or (ofName? text)

end LogLevel

end TracePlayer
