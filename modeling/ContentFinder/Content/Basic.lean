import ContentFinder.Calendar.Moment
import ContentFinder.Number.Binary

/-! Contents: what is known about an object, its version, its locations, and its fields in every
language. -/

namespace ContentFinder

open Calendar Number

structure ContentInfo where
  id : Int64
  contentTypeId : Int64
  contentType : String
  name : String
  sectionId : Int64
  remoteId : String
  mainLanguage : String
  alwaysAvailable : Bool
  modified : Moment
  published : Moment
deriving DecidableEq

inductive VersionStatus where
  | draft
  | published
  | archived
deriving DecidableEq, Repr

namespace VersionStatus

def code : VersionStatus → Int64
  | .draft => 0
  | .published => 1
  | .archived => 3

def ofCode? (code : Int64) : Option VersionStatus :=
  if code = 0 then some .draft
  else if code = 1 then some .published
  else if code = 3 then some .archived
  else none

def name : VersionStatus → String
  | .draft => "draft"
  | .published => "published"
  | .archived => "archived"

def all : List VersionStatus := [.draft, .published, .archived]

end VersionStatus

structure VersionInfo where
  number : Int64
  status : VersionStatus
  creator : Int64
  languages : List String
deriving DecidableEq

structure Location where
  id : Int64
  path : String
  depth : Int64
  parent : Int64
  remoteId : String
deriving DecidableEq

inductive FieldValue where
  | text (value : String)
  | integer (value : Int64)
  | float (value : Double)
  | boolean (value : Bool)
  | dateTime (value : Option Moment)
  | mapLocation (latitude longitude : Double) (address : Option String)
deriving DecidableEq

def FieldValue.typeName : FieldValue → String
  | .text _ => "text"
  | .integer _ => "integer"
  | .float _ => "float"
  | .boolean _ => "boolean"
  | .dateTime _ => "date_time"
  | .mapLocation .. => "map_location"

structure Field where
  identifier : String
  language : String
  value : FieldValue
deriving DecidableEq

structure Content where
  info : ContentInfo
  version : VersionInfo
  locations : List Location
  fields : List Field
deriving DecidableEq

namespace Content

def id (content : Content) : Int64 := content.info.id

def field? (content : Content) (identifier : String) : Option Field :=
  content.fields.find? (·.identifier == identifier)

def fieldIn? (content : Content) (identifier language : String) : Option Field :=
  content.fields.find? fun field => field.identifier == identifier && field.language == language

def hasLanguage (content : Content) (language : String) : Bool :=
  content.version.languages.contains language

end Content

end ContentFinder
