import ContentFinder.Calendar.Rfc3339
import ContentFinder.Failure
import ContentFinder.Index.Value
import ContentFinder.Text.Blank

/-! From scalars to index values of a field kind. -/

namespace ContentFinder

open Number

namespace Scalar

def plain : Scalar → IndexValue
  | .boolean value => .boolean value
  | .integer value => .integer value
  | .float value => .float value
  | .string value => .string value

def wholeWord? (value : Double) : Option Int64 :=
  value.whole?.map Int64.ofIntClamp

def readBoolean (text : List Char) : Option Bool :=
  if text = ['1'] ∨ text = "true".toList then some true
  else if text = ['0'] ∨ text = "false".toList then some false
  else none

def readTimestamp (text : List Char) : Option Int64 :=
  match readWord text with
  | some timestamp => some timestamp
  | none => (Calendar.Rfc3339.read (String.ofList text)).toOption.map (·.timestamp)

def coerce? (kind : FieldKind) (scalar : Scalar) : Option IndexValue :=
  match kind, scalar with
  | .string, _ | .text, _ => some (.string scalar.text)
  | .integer, .integer value => some (.integer value)
  | .integer, .float value => (wholeWord? value).map .integer
  | .integer, .string value => (readWord (Text.trim value.toList)).map .integer
  | .float, .integer value => some (.float (.ofInt value.toInt))
  | .float, .float value => some (.float value)
  | .float, .string value => (readBinary .double (Text.trim value.toList)).map .float
  | .boolean, .boolean value => some (.boolean value)
  | .boolean, .integer value =>
    if value = 0 then some (.boolean false)
    else if value = 1 then some (.boolean true)
    else none
  | .boolean, .string value => (readBoolean (Text.trim value.toList)).map .boolean
  | .date, .integer value => some (.date value)
  | .date, .string value => (readTimestamp (Text.trim value.toList)).map .date
  | _, _ => none

/-- The index value of a scalar on a field. Where the kind is not known the scalar's own type is
kept. -/
def coerce (kind : Option FieldKind) (scalar : Scalar) : Except Failure IndexValue :=
  match kind with
  | none => .ok scalar.plain
  | some kind =>
    match scalar.coerce? kind with
    | some value => .ok value
    | none => .error (.invalidArgument (.unfitValue scalar kind))

end Scalar

end ContentFinder
