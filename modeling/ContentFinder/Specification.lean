import ContentFinder.Failure

/-! What the operators of a kind of criterion accept. Every kind has a table with one row per
operator, and a leaf is built only from an operator and an operand that its table accepts. -/

namespace ContentFinder

inductive OperandShape where
  | single
  | list
deriving DecidableEq, Repr

structure Specification where
  operator : Operator
  shape : OperandShape
  /-- The accepted types of scalars; all of them if none are listed. -/
  types : Option (List ScalarType)
  /-- The number of scalars in a list; any but zero if none is given. -/
  count : Option Nat
deriving DecidableEq, Repr

namespace Specification

def typeBits (spec : Specification) : Option Nat :=
  spec.types.map fun types => types.foldl (fun bits type => bits + type.bit) 0

def validateShape (spec : Specification) (target : String) : Operand → Except ArgumentFault Unit
  | .single _ =>
    match spec.shape with
    | .single => .ok ()
    | .list => .error (.singleGiven target spec.operator)
  | .list values =>
    match spec.shape with
    | .single => .error (.listGiven target spec.operator)
    | .list =>
      if values.isEmpty then .error (.noValues target spec.operator)
      else match spec.count with
        | none => .ok ()
        | some count =>
          if values.length = count then .ok ()
          else .error (.valueCount target spec.operator count values.length)

def validateTypes (spec : Specification) (target : String) (operand : Operand) :
    Except ArgumentFault Unit :=
  match spec.types with
  | none => .ok ()
  | some types =>
    match operand.scalars.find? fun value => !types.contains value.type with
    | none => .ok ()
    | some value => .error (.valueType target spec.operator value)

def validate (spec : Specification) (target : String) (operand : Operand) :
    Except Failure Unit :=
  (do spec.validateShape target operand; spec.validateTypes target operand).mapError
    .invalidArgument

end Specification

structure SpecificationTable where
  criterion : String
  rows : List Specification
deriving DecidableEq, Repr

namespace SpecificationTable

def operators (table : SpecificationTable) : List Operator :=
  table.rows.map (·.operator)

def supports (table : SpecificationTable) (operator : Operator) : Bool :=
  table.operators.contains operator

def row (table : SpecificationTable) (operator : Operator) : Except Failure Specification :=
  match table.rows.find? (·.operator == operator) with
  | some spec => .ok spec
  | none => .error (.invalidOperator table.criterion operator.name)

def validate (table : SpecificationTable) (target : String) (operator : Operator)
    (operand : Operand) : Except Failure Unit := do
  (← table.row operator).validate target operand

end SpecificationTable

def idRows : List Specification := [
  ⟨.isIn, .list, some [.integer, .string], none⟩,
  ⟨.eq, .single, some [.integer, .string], none⟩]

def stringIdRows : List Specification := [
  ⟨.isIn, .list, some [.string], none⟩,
  ⟨.eq, .single, some [.string], none⟩]

def dateRows : List Specification := [
  ⟨.eq, .single, some [.integer], none⟩,
  ⟨.gt, .single, some [.integer], none⟩,
  ⟨.gte, .single, some [.integer], none⟩,
  ⟨.lt, .single, some [.integer], none⟩,
  ⟨.lte, .single, some [.integer], none⟩,
  ⟨.isIn, .list, some [.integer], none⟩,
  ⟨.between, .list, some [.integer], some 2⟩]

def fieldRows : List Specification := [
  ⟨.isIn, .list, none, none⟩,
  ⟨.eq, .single, none, none⟩,
  ⟨.gt, .single, none, none⟩,
  ⟨.gte, .single, none, none⟩,
  ⟨.lt, .single, none, none⟩,
  ⟨.lte, .single, none, none⟩,
  ⟨.like, .single, none, none⟩,
  ⟨.contains, .single, none, none⟩,
  ⟨.between, .list, none, some 2⟩]

def fullTextRows : List Specification := [
  ⟨.like, .single, some [.string], none⟩]

def distanceRows : List Specification := [
  ⟨.gt, .single, some [.integer, .float], none⟩,
  ⟨.gte, .single, some [.integer, .float], none⟩,
  ⟨.lt, .single, some [.integer, .float], none⟩,
  ⟨.lte, .single, some [.integer, .float], none⟩,
  ⟨.between, .list, some [.integer, .float], some 2⟩]

end ContentFinder
