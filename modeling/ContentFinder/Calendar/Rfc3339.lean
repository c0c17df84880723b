import ContentFinder.Calendar.Scan

/-! Dates after RFC 3339, in two readings: an exact one, and a loose one that allows blanks between
the parts, years of any length behind a sign, and the name of universal time. -/

namespace ContentFinder.Calendar.Rfc3339

open Scan

def isDateEnd (c : Char) : Bool :=
  c == 'T' || c == 't' || c == ' '

def exact : Scan (Except DateFault Moment) := do
  let year ← digits 4 4
  literal '-'
  let month ← between 1 12 (digits 2 2)
  literal '-'
  let day ← between 1 31 (digits 2 2)
  oneOf isDateEnd
  let hour ← between 0 23 (digits 2 2)
  literal ':'
  let minute ← between 0 59 (digits 2 2)
  literal ':'
  let second ← between 0 60 (digits 2 2)
  let nanos ← fraction
  let offset ← zoneOffset (literal ':')
  if 86400 ≤ offset.natAbs then throw .outOfRange
  return momentOf ⟨year, month, day⟩ hour minute second nanos offset

def read (text : String) : Except DateFault Moment := do
  ← whole exact text.toList

def looseYear : Scan Int := do
  skipBlanks
  match ← get with
  | '-' :: rest =>
    set rest
    return -(← digits 1 rest.length : Nat)
  | '+' :: rest =>
    set rest
    return (← digits 1 rest.length : Nat)
  | _ => return (← digits 1 4 : Nat)

def looseLiteral (c : Char) : Scan Unit := do
  skipBlanks
  literal c

def looseOffset : Scan Int := do
  match stripWord "UTC".toList (← get) with
  | some rest =>
    set rest
    return 0
  | none => zoneOffset (modify (·.dropWhile fun c => c == ':' || Text.isBlank c))

def loose : Scan (Except DateFault Moment) := do
  let year ← looseYear
  looseLiteral '-'
  let month ← between 1 12 looseNumber
  looseLiteral '-'
  let day ← between 1 31 looseNumber
  oneOf isDateEnd
  let hour ← between 0 23 looseNumber
  looseLiteral ':'
  let minute ← between 0 59 looseNumber
  looseLiteral ':'
  let second ← between 0 60 looseNumber
  let nanos ← fraction
  skipBlanks
  let offset ← looseOffset
  skipBlanks
  if 86400 ≤ offset.natAbs then throw .outOfRange
  return momentOf ⟨year, month, day⟩ hour minute second nanos offset

def readLoose (text : String) : Except DateFault Moment := do
  ← whole loose text.toList

end ContentFinder.Calendar.Rfc3339
