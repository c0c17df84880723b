import ContentFinder.Calendar.Scan

/-! Dates after RFC 850, such as `Thursday, 01-Jan-70 00:00:00`, without their zone. -/

namespace ContentFinder.Calendar.Rfc850

open Scan

/-- Two digits of a year name one from 1970 to 2069. -/
def yearOf (digits : Nat) : Int :=
  if digits < 70 then 2000 + digits else 1900 + digits

/-- Names stand in any case, the weekday in full or short, and blanks before numbers are skipped.
The weekday must be that of the date. -/
def scan : Scan (Except DateFault Moment) := do
  let weekday ← weekday
  literal ','
  skipBlanks
  let day ← between 1 31 looseNumber
  literal '-'
  let month ← month
  literal '-'
  let year ← looseNumber
  skipBlanks
  let hour ← between 0 23 looseNumber
  literal ':'
  let minute ← between 0 59 looseNumber
  literal ':'
  let second ← between 0 60 looseNumber
  return do
    let date : Date := ⟨yearOf year, month, day⟩
    let moment ← momentOf date hour minute second 0 0
    if Date.weekday date.number = weekday then .ok moment else .error .impossible

def read (text : List Char) : Except DateFault Moment := do
  ← whole scan text

def write (moment : Moment) : String :=
  let date := moment.date
  weekdayNames.getD moment.weekday "" ++ ", " ++ padded 2 date.day ++ "-" ++
    monthNames.getD (date.month - 1) "" ++ "-" ++ padded 2 (date.year % 100).toNat ++ " " ++
    padded 2 moment.hour ++ ":" ++ padded 2 moment.minute ++ ":" ++ padded 2 moment.second

end ContentFinder.Calendar.Rfc850
