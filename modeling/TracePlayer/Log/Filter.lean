import TracePlayer.Log.Rule

/-
  This file defines which messages a log takes. A filter is a
  list of rules, and the one that says most closely what it is
  about decides.

  Key definitions include:
    * `LogFilter`, `LogFilter.standard`
    * `LogFilter.read?`
    * `LogFilter.takes`
-/

namespace TracePlayer

abbrev LogFilter :=
  List LogRule

namespace LogFilter

/- The filter without a choice: what the program tells. -/
def standard : LogFilter :=
  [{ LogRule.everything with
      area := "traceds"
      level := .info }]

/-
  Read rules with commas between them. If one of them cannot
  be read, the standard filter is taken; if it would be cut
  inside a character, there is no filter.
-/
def read? (text : String) : Option LogFilter :=
  match ((text.splitOn ",").filter (· ≠ "")).mapM
      LogRule.read with
  | .ok rules => some rules
  | .error .unreadable => some standard
  | .error .brokenCharacter => none

/- The rule that decides about an area and its fields. -/
def deciding?
    (filter : LogFilter)
    (area : String)
    (fields : List String) : Option LogRule :=
  (filter.filter fun rule => rule.covers area fields).foldl
    (fun best rule =>
      match best with
      | some other =>
          if other.yieldsTo rule then some rule else best
      | none => some rule)
    none

/- Whether a log takes a message. -/
def takes
    (filter : LogFilter)
    (area : String)
    (level : LogLevel)
    (fields : List String) : Bool :=
  match filter.deciding? area fields with
  | some rule => level.rank ≤ rule.level.rank
  | none => false

end LogFilter

end TracePlayer
