import ContentFinder.Index.Query
import ContentFinder.Lowering.Coercion
import ContentFinder.Text.Wildcard

/-! From one comparison to a query over one index field. -/

namespace ContentFinder

open Number

namespace Operand

def one (operand : Operand) (field : String) : Except Failure Scalar :=
  match operand with
  | .single value => .ok value
  | .list _ => .error (.invalidArgument (.oneValueNeeded field))

def two (operand : Operand) (field : String) : Except Failure (Scalar × Scalar) :=
  match operand with
  | .list [low, high] => .ok (low, high)
  | _ => .error (.invalidArgument (.twoValuesNeeded field))

end Operand

namespace IndexQuery

def above (field : String) (value : IndexValue) (inclusive : Bool) : IndexQuery :=
  .range field ⟨some value, none, inclusive, inclusive⟩

def beneath (field : String) (value : IndexValue) (inclusive : Bool) : IndexQuery :=
  .range field ⟨none, some value, inclusive, inclusive⟩

/-- A pattern is not coerced, so it is asked for on texts and on fields of unknown kind only. -/
def likePattern (field : String) (kind : Option FieldKind) (operand : Operand) :
    Except Failure IndexQuery := do
  if !kind.all FieldKind.isTextual then throw (.invalidArgument (.patternOnOtherKind field))
  match ← operand.one field with
  | .string pattern => return .wildcard field pattern
  | value => throw (.invalidArgument (.patternNotText field value))

def comparing (field : String) (kind : Option FieldKind) (operator : Operator) (operand : Operand) :
    Except Failure IndexQuery :=
  match operator with
  | .eq | .contains => return .term field (← (← operand.one field).coerce kind)
  | .isIn => return .terms field (← operand.scalars.mapM (Scalar.coerce kind))
  | .gt => return above field (← (← operand.one field).coerce kind) false
  | .gte => return above field (← (← operand.one field).coerce kind) true
  | .lt => return beneath field (← (← operand.one field).coerce kind) false
  | .lte => return beneath field (← (← operand.one field).coerce kind) true
  | .between => do
    let (low, high) ← operand.two field
    return .range field ⟨some (← low.coerce kind), some (← high.coerce kind), true, true⟩
  | .like => likePattern field kind operand

def kilometres (field : String) (value : Scalar) : Except Failure Double :=
  match value.number? with
  | some number => .ok number
  | none => .error (.invalidArgument (.distanceNotNumeric field value))

def comparingDistance (field : String) (latitude longitude : Double) (operator : Operator)
    (operand : Operand) : Except Failure IndexQuery := do
  let one : Except Failure Double := do kilometres field (← operand.one field)
  match operator with
  | .gt => return .geoDistance field ⟨latitude, longitude, some (← one), none, false, false⟩
  | .gte => return .geoDistance field ⟨latitude, longitude, some (← one), none, true, false⟩
  | .lt => return .geoDistance field ⟨latitude, longitude, none, some (← one), false, false⟩
  | .lte => return .geoDistance field ⟨latitude, longitude, none, some (← one), false, true⟩
  | .between => do
    let (low, high) ← operand.two field
    return .geoDistance field ⟨latitude, longitude, some (← kilometres field low),
      some (← kilometres field high), true, true⟩
  | other => throw (.invalidOperator "MapLocationDistance" other.name)

def pathUnder (path : String) : IndexQuery :=
  .wildcard IndexName.path (String.ofList (Text.escapeWildcards path.toList ++ ['*']))

end IndexQuery

end ContentFinder
