/-
  This file defines moments and how a log writes them: the
  date, the time of day and the millionths of a second, in
  universal time.

  Key definitions include:
    * `Moment`
    * `Moment.date`
    * `Moment.text`
-/

namespace TracePlayer

/- A number of microseconds since the start of 1970. -/
structure Moment where
  micros : Nat
deriving DecidableEq, Repr

namespace Moment

/-
  The year, month and day of a number of days since the start
  of 1970. Years are counted from March, so that a leap day is
  the last of its year, and in eras of 400 years, which all
  have the same number of days.
-/
def date (days : Nat) : Nat × Nat × Nat :=
  let sinceMarch := days + 719468
  let era := sinceMarch / 146097
  let day := sinceMarch % 146097
  let year :=
    (day - day / 1460 + day / 36524 - day / 146096) / 365
  let day := day - (365 * year + year / 4 - year / 100)
  let month := (5 * day + 2) / 153
  ( 400 * era + year + (if month < 10 then 0 else 1),
    if month < 10 then month + 3 else month - 9,
    day - (153 * month + 2) / 5 + 1 )

/- A number with zeros in front, up to a width. -/
def padded (width number : Nat) : String :=
  let digits := Nat.toDigits 10 number
  String.ofList
    (List.replicate (width - digits.length) '0' ++ digits)

/- The text of a moment. -/
def text (moment : Moment) : String :=
  let seconds := moment.micros / 1000000
  let (year, month, day) := date (seconds / 86400)
  String.join
    [ padded 4 year, "-", padded 2 month, "-", padded 2 day,
      "T", padded 2 (seconds / 3600 % 24),
      ":", padded 2 (seconds / 60 % 60),
      ":", padded 2 (seconds % 60),
      ".", padded 6 (moment.micros % 1000000), "Z" ]

end Moment

end TracePlayer
