import ContentFinder.Scalar

/-! The values of index fields, and the two orders on them. -/

namespace ContentFinder

open Number

inductive IndexValue where
  | string (value : String)
  | integer (value : Int64)
  | float (value : Double)
  | boolean (value : Bool)
  /-- A whole second, counted from the start of 1970. -/
  | date (timestamp : Int64)
  | point (latitude longitude : Double)
deriving DecidableEq

namespace IndexValue

def number? : IndexValue → Option Double
  | .integer value | .date value => some (.ofInt value.toInt)
  | .float value => some value
  | _ => none

def integer? : IndexValue → Option Int64
  | .integer value | .date value => some value
  | _ => none

def string? : IndexValue → Option String
  | .string value => some value
  | _ => none

def boolean? : IndexValue → Option Bool
  | .boolean value => some value
  | _ => none

def point? : IndexValue → Option (Double × Double)
  | .point latitude longitude => some (latitude, longitude)
  | _ => none

def text : IndexValue → String
  | .string value => value
  | .integer value | .date value => wordText value
  | .float value => value.text
  | .boolean value => boolText value
  | .point latitude longitude => latitude.text ++ "," ++ longitude.text

/-- The order of two values that can be compared. Integers and dates are compared as integers, and
all other pairs of numbers as floating point numbers. -/
def compare? : IndexValue → IndexValue → Option Ordering
  | .string x, .string y => some (compare x y)
  | .boolean x, .boolean y => some (compare x y)
  | x, y =>
    match x.integer?, y.integer? with
    | some i, some j => some (compare i.toInt j.toInt)
    | _, _ =>
      match x.number?, y.number? with
      | some a, some b => some (a.compareTotal b)
      | _, _ => none

def rank : IndexValue → Nat
  | .boolean _ => 0
  | .integer _ | .float _ | .date _ => 1
  | .string _ => 2
  | .point .. => 3

/-- An order for all pairs of values. Values of one class that cannot be compared are equal. -/
def order (x y : IndexValue) : Ordering :=
  (compare x.rank y.rank).then ((compare? x y).getD .eq)

def equals (x y : IndexValue) : Bool :=
  compare? x y == some .eq

end IndexValue

end ContentFinder
