/-! The kinds of content fields. A kind decides how values are indexed and compared. -/

namespace ContentFinder

inductive FieldKind where
  | string
  | text
  | integer
  | float
  | boolean
  | date
  | geoLocation
deriving DecidableEq, Repr

namespace FieldKind

def suffix : FieldKind → String
  | .string => "s"
  | .text => "t"
  | .integer => "i"
  | .float => "f"
  | .boolean => "b"
  | .date => "dt"
  | .geoLocation => "gl"

def isTextual (kind : FieldKind) : Bool :=
  kind == .string || kind == .text

def name : FieldKind → String
  | .string => "string"
  | .text => "text"
  | .integer => "integer"
  | .float => "float"
  | .boolean => "boolean"
  | .date => "date"
  | .geoLocation => "geo_location"

def title : FieldKind → String
  | .string => "String"
  | .text => "Text"
  | .integer => "Integer"
  | .float => "Float"
  | .boolean => "Boolean"
  | .date => "Date"
  | .geoLocation => "GeoLocation"

def all : List FieldKind :=
  [.string, .text, .integer, .float, .boolean, .date, .geoLocation]

end FieldKind

end ContentFinder
