import ContentFinder.Calendar.Date

/-! Moments of universal time, from the year -262143 to the year 262142. -/

namespace ContentFinder.Calendar

/-- The first second of the year -262143. -/
def earliest : Int := -8334601228800

/-- The last second of the year 262142. -/
def latest : Int := 8210266876799

/-- Whole seconds since the first second of 1970, and nanoseconds. A leap second is the second
half of two seconds told as one, so it has a billion nanoseconds or more and ends a minute. -/
structure Moment where
  seconds : Int
  nanos : Nat
  inSpan : earliest ≤ seconds ∧ seconds ≤ latest
  leapEnds : nanos < 1000000000 ∨ nanos < 2000000000 ∧ seconds % 60 = 59
deriving DecidableEq

namespace Moment

def at? (seconds : Int) (nanos : Nat) : Option Moment :=
  if inSpan : earliest ≤ seconds ∧ seconds ≤ latest then
    if leapEnds : nanos < 1000000000 ∨ nanos < 2000000000 ∧ seconds % 60 = 59 then
      some ⟨seconds, nanos, inSpan, leapEnds⟩
    else none
  else none

def ofTimestamp? (timestamp : Int64) : Option Moment :=
  at? timestamp.toInt 0

def timestamp (moment : Moment) : Int64 :=
  Int64.ofInt moment.seconds

def dayNumber (moment : Moment) : Int :=
  moment.seconds / 86400

def date (moment : Moment) : Date :=
  .ofNumber moment.dayNumber

def weekday (moment : Moment) : Nat :=
  Date.weekday moment.dayNumber

def hour (moment : Moment) : Nat :=
  (moment.seconds % 86400).toNat / 3600

def minute (moment : Moment) : Nat :=
  (moment.seconds % 86400).toNat / 60 % 60

def second (moment : Moment) : Nat :=
  (moment.seconds % 60).toNat + moment.nanos / 1000000000

end Moment

def padded (width number : Nat) : String :=
  String.ofList ((Nat.toDigits 10 number).leftpad width '0')

/-- Years from 0 to 9999 have four digits, and others a sign before at least four. -/
def yearText (year : Int) : String :=
  if 0 ≤ year ∧ year ≤ 9999 then padded 4 year.toNat
  else (if year < 0 then "-" else "+") ++ padded 4 year.natAbs

def fractionText (nanos : Nat) : String :=
  if nanos = 0 then ""
  else if nanos % 1000000 = 0 then "." ++ padded 3 (nanos / 1000000)
  else if nanos % 1000 = 0 then "." ++ padded 6 (nanos / 1000)
  else "." ++ padded 9 nanos

def Moment.text (moment : Moment) : String :=
  let date := moment.date
  yearText date.year ++ "-" ++ padded 2 date.month ++ "-" ++ padded 2 date.day ++ "T" ++
    padded 2 moment.hour ++ ":" ++ padded 2 moment.minute ++ ":" ++ padded 2 moment.second ++
    fractionText (moment.nanos % 1000000000) ++ "Z"

end ContentFinder.Calendar
