import ContentFinder.Number.Decimal

/-! The values that criteria carry. -/

namespace ContentFinder

open Number

inductive Scalar where
  | boolean (value : Bool)
  | integer (value : Int64)
  | float (value : Double)
  | string (value : String)
deriving DecidableEq

inductive ScalarType where
  | integer
  | string
  | boolean
  | float
deriving DecidableEq, Repr

def ScalarType.bit : ScalarType → Nat
  | .integer => 1
  | .string => 2
  | .boolean => 4
  | .float => 8

def boolText (value : Bool) : String :=
  if value then "true" else "false"

namespace Scalar

def type : Scalar → ScalarType
  | .boolean _ => .boolean
  | .integer _ => .integer
  | .float _ => .float
  | .string _ => .string

def number? : Scalar → Option Double
  | .integer value => some (.ofInt value.toInt)
  | .float value => some value
  | _ => none

def text : Scalar → String
  | .boolean value => boolText value
  | .integer value => wordText value
  | .float value => value.text
  | .string value => value

end Scalar

inductive Operand where
  | single (value : Scalar)
  | list (values : List Scalar)
deriving DecidableEq

namespace Operand

def scalars : Operand → List Scalar
  | .single value => [value]
  | .list values => values

def text : Operand → String
  | .single value => value.text
  | .list values => "[" ++ String.intercalate ", " (values.map Scalar.text) ++ "]"

end Operand

end ContentFinder
