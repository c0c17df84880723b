import ContentFinder.Calendar.Moment
import ContentFinder.Number.Integer
import ContentFinder.Text.Blank

/-! Reading the parts of a date from the front of a text. -/

namespace ContentFinder.Calendar

inductive DateFault where
  | outOfRange
  | impossible
  | invalid
  | tooShort
  | tooLong
deriving DecidableEq, Repr

def DateFault.message : DateFault → String
  | .outOfRange => "input is out of range"
  | .impossible => "no possible date and time matching input"
  | .invalid => "input contains invalid characters"
  | .tooShort => "premature end of input"
  | .tooLong => "trailing input"

/-- A step that takes what it needs from the front of a text. -/
abbrev Scan := StateT (List Char) (Except DateFault)

namespace Scan

open Text Number

def skipBlanks : Scan Unit :=
  modify trimLeft

def literal (c : Char) : Scan Unit := do
  match ← get with
  | [] => throw .tooShort
  | d :: rest => if d = c then set rest else throw .invalid

def oneOf (class? : Char → Bool) : Scan Unit := do
  match ← get with
  | [] => throw .tooShort
  | c :: rest => if class? c then set rest else throw .invalid

def digits (least most : Nat) : Scan Nat := do
  let text ← get
  let run := (text.take most).takeWhile Char.isDigit
  if run.length < least then throw (if text.length < least then .tooShort else .invalid)
  set (text.drop run.length)
  return ofDigits run

def between (low high : Nat) (scan : Scan Nat) : Scan Nat := do
  let number ← scan
  if number < low ∨ high < number then throw .outOfRange
  return number

def looseNumber : Scan Nat := do
  skipBlanks
  digits 1 2

def byteCount (text : List Char) : Nat :=
  text.foldl (fun size c => size + c.utf8Size) 0

def stripWord (word text : List Char) : Option (List Char) :=
  if (text.take word.length).map Char.toLower = word.map Char.toLower then
    some (text.drop word.length)
  else none

def shortName (names : List String) : Scan Nat := do
  let text ← get
  if byteCount text < 3 then throw .tooShort
  match names.findIdx? fun name => (stripWord (name.toList.take 3) text).isSome with
  | none => throw .invalid
  | some index =>
    set (text.drop 3)
    return index

def weekday : Scan Nat := do
  let index ← shortName weekdayNames
  let rest := (weekdayNames.getD index "").toList.drop 3
  modify fun text => (stripWord rest text).getD text
  return index

def month : Scan Nat :=
  return (← shortName monthNames) + 1

def fraction : Scan Nat := do
  match ← get with
  | '.' :: rest =>
    set rest
    let before := rest.length
    let number ← digits 1 9
    let taken := before - (← get).length
    modify (·.dropWhile Char.isDigit)
    return number * Nat.pow 10 (9 - taken)
  | _ => return 0

/-- The distance from universal time in seconds. Both hours and minutes are told in two digits,
and what may stand between them is taken by `separator`. -/
def zoneOffset (separator : Scan Unit) : Scan Int := do
  match ← get with
  | [] => throw .tooShort
  | c :: rest =>
    if c = 'Z' ∨ c = 'z' then
      set rest
      return 0
    if c ≠ '+' ∧ c ≠ '-' ∧ c ≠ '−' then throw .invalid
    set rest
    let hours ← digits 2 2
    separator
    let minutes ← between 0 59 (digits 2 2)
    let offset : Int := hours * 3600 + minutes * 60
    return if c = '+' then offset else -offset

def finish : Scan Unit := do
  unless (← get).isEmpty do throw .tooLong

def whole {α : Type} (scan : Scan α) (text : List Char) : Except DateFault α :=
  (do let value ← scan; finish; return value : Scan α).run' text

end Scan

def momentOf (date : Date) (hour minute second nanos : Nat) (offset : Int) :
    Except DateFault Moment :=
  if !date.exists? then .error .outOfRange
  else
    let ofMinute := min second 59
    let seconds := date.number * 86400 + hour * 3600 + minute * 60 + ofMinute
    let leap := (second - ofMinute) * 1000000000
    if seconds < earliest ∨ latest < seconds then .error .outOfRange
    else
      match Moment.at? (seconds - offset) (nanos + leap) with
      | some moment => .ok moment
      | none => .error .outOfRange

end ContentFinder.Calendar
