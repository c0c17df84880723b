import ContentFinder.Content.Basic
import ContentFinder.Criterion.Leaf
import ContentFinder.Index.Value

/-! How field values of each kind become index values, and how they are read back. -/

namespace ContentFinder

namespace FieldKind

def refuse (kind : FieldKind) (value : FieldValue) : Except Failure (List IndexValue) :=
  .error (.invalidArgument (.notIndexable value.typeName kind))

def encode (kind : FieldKind) (value : FieldValue) : Except Failure (List IndexValue) :=
  match kind, value with
  | .string, .text words | .text, .text words => .ok [.string words]
  | .integer, .integer number => .ok [.integer number]
  | .float, .float number => .ok [.float number]
  | .float, .integer number => .ok [.float (.ofInt number.toInt)]
  | .boolean, .boolean flag => .ok [.boolean flag]
  | .date, .dateTime moment => .ok (moment.toList.map fun moment => .date moment.timestamp)
  | .date, .integer timestamp => .ok [.date timestamp]
  | .geoLocation, .mapLocation latitude longitude _ =>
    if isOnGlobe latitude longitude then .ok [.point latitude longitude]
    else .error (.invalidArgument (.pointOutside latitude longitude))
  | kind, value => kind.refuse value

def fullText? (kind : FieldKind) (value : FieldValue) : Option String :=
  match kind, value with
  | .string, .text words | .text, .text words => if words = "" then none else some words
  | .geoLocation, .mapLocation _ _ address => address.filter (· ≠ "")
  | _, _ => none

def decode (kind : FieldKind) (values : List IndexValue) : Option FieldValue := do
  let value ← values.head?
  match kind with
  | .string | .text => value.string?.map .text
  | .integer => value.integer?.map .integer
  | .float => value.number?.map .float
  | .boolean => value.boolean?.map .boolean
  | .date => (value.integer?.bind Calendar.Moment.ofTimestamp?).map fun moment =>
      .dateTime (some moment)
  | .geoLocation => value.point?.map fun point => .mapLocation point.1 point.2 none

end FieldKind

end ContentFinder
