import ContentFinder.Calendar.Rfc850
import ContentFinder.Failure

/-! Dates as external storage keeps them: a timestamp beside a text after RFC 850. -/

namespace ContentFinder

open Calendar

structure DateHash where
  timestamp : Int64
  rfc850 : Option String
deriving DecidableEq

def momentOfTimestamp (timestamp : Int64) : Except Failure Moment :=
  match Moment.ofTimestamp? timestamp with
  | some moment => .ok moment
  | none => .error (.invalidArgument (.timestampOutside timestamp))

def withoutZone? (text : List Char) : Option (List Char) :=
  let cut := text.length - 4
  if text.drop cut = " UTC".toList ∨ text.drop cut = " GMT".toList then some (text.take cut)
  else none

def momentOfRfc850 (text : String) : Except Failure Moment :=
  match withoutZone? text.toList with
  | none => .error (.serialization (.unknownZone text))
  | some date => (Rfc850.read date).mapError fun fault => .serialization (.date text fault)

namespace DateHash

/-- The moment of a hash. A text goes before the timestamp, and no hash stands for no moment. -/
def moment? : Option DateHash → Except Failure (Option Moment)
  | none => .ok none
  | some hash =>
    match hash.rfc850 with
    | some text =>
      if text = "" then return ← momentOfTimestamp hash.timestamp
      else return ← momentOfRfc850 text
    | none => return ← momentOfTimestamp hash.timestamp

def ofMoment (moment : Moment) : DateHash :=
  ⟨moment.timestamp, some (Rfc850.write moment ++ " UTC")⟩

end DateHash

end ContentFinder
