import ContentFinder.Field.Table
import ContentFinder.Specification
import ContentFinder.Text.Blank

/-! The leaves of criteria. A leaf compares one property of a content with an operand. It keeps
the fact that its table accepts the operator with the operand, so it is well formed once built. -/

namespace ContentFinder

open Number

inductive Property where
  | contentTypeId
  | contentTypeIdentifier
  | sectionId
  | remoteId
  | locationId
  | parentLocationId
  | locationRemoteId
  | subtree
  | dateModified
  | datePublished
deriving DecidableEq, Repr

namespace Property

def name : Property → String
  | .contentTypeId => "content_type_id"
  | .contentTypeIdentifier => "content_type_identifier"
  | .sectionId => "section_id"
  | .remoteId => "remote_id"
  | .locationId => "location_id"
  | .parentLocationId => "parent_location_id"
  | .locationRemoteId => "location_remote_id"
  | .subtree => "subtree"
  | .dateModified => "date_modified"
  | .datePublished => "date_published"

def title : Property → String
  | .contentTypeId => "ContentTypeId"
  | .contentTypeIdentifier => "ContentTypeIdentifier"
  | .sectionId => "SectionId"
  | .remoteId => "RemoteId"
  | .locationId => "LocationId"
  | .parentLocationId => "ParentLocationId"
  | .locationRemoteId => "LocationRemoteId"
  | .subtree => "Subtree"
  | .dateModified => "DateModified"
  | .datePublished => "DatePublished"

def all : List Property := [.contentTypeId, .contentTypeIdentifier, .sectionId, .remoteId,
  .locationId, .parentLocationId, .locationRemoteId, .subtree, .dateModified, .datePublished]

def rows : Property → List Specification
  | .contentTypeId | .sectionId | .locationId | .parentLocationId => idRows
  | .contentTypeIdentifier | .remoteId | .locationRemoteId | .subtree => stringIdRows
  | .dateModified | .datePublished => dateRows

def table (property : Property) : SpecificationTable :=
  ⟨property.title, property.rows⟩

end Property

namespace SpecificationTable

def contentId : SpecificationTable := ⟨"ContentId", idRows⟩

def languageCode : SpecificationTable := ⟨"LanguageCode", stringIdRows⟩

def field : SpecificationTable := ⟨"Field", fieldRows⟩

def indexField : SpecificationTable := ⟨"CustomField", fieldRows⟩

def fullText : SpecificationTable := ⟨"FullText", fullTextRows⟩

def distance : SpecificationTable := ⟨"MapLocationDistance", distanceRows⟩

end SpecificationTable

/-- An operator with an operand that a table accepts. -/
structure Comparison (table : SpecificationTable) (target : String) where
  operator : Operator
  operand : Operand
  accepted : table.validate target operator operand = .ok ()

def Comparison.make (table : SpecificationTable) (target : String) (operator : Operator)
    (operand : Operand) : Except Failure (Comparison table target) :=
  match accepted : table.validate target operator operand with
  | .ok () => .ok ⟨operator, operand, accepted⟩
  | .error failure => .error failure

structure ContentIdLeaf where
  comparison : Comparison .contentId "id"

def ContentIdLeaf.make (operator : Operator) (operand : Operand) : Except Failure ContentIdLeaf :=
  return ⟨← Comparison.make _ _ operator operand⟩

def isSubtreePath (path : String) : Bool :=
  path.toList.head? == some '/' && path.toList.getLast? == some '/'

def malformedPath? (operand : Operand) : Option String :=
  operand.scalars.findSome? fun value =>
    match value with
    | .string path => if isSubtreePath path then none else some path
    | _ => none

structure PropertyLeaf where
  property : Property
  comparison : Comparison property.table property.title
  pathsFormed : property = .subtree → malformedPath? comparison.operand = none

def PropertyLeaf.make (property : Property) (operator : Operator) (operand : Operand) :
    Except Failure PropertyLeaf := do
  let comparison ← Comparison.make property.table property.title operator operand
  if pathsFormed : property = .subtree → malformedPath? comparison.operand = none then
    return ⟨property, comparison, pathsFormed⟩
  else
    throw (.invalidArgument (.malformedPath ((malformedPath? comparison.operand).getD "")))

/-- Asks for contents in some languages, and also for those that are always available. -/
structure LanguageLeaf where
  comparison : Comparison .languageCode "language_code"
  orAlwaysAvailable : Bool

def LanguageLeaf.make (operator : Operator) (operand : Operand) (orAlwaysAvailable : Bool) :
    Except Failure LanguageLeaf :=
  return ⟨← Comparison.make _ _ operator operand, orAlwaysAvailable⟩

/-- Compares a field that the schema knows or that has index names of its own. -/
structure FieldLeaf where
  identifier : String
  named : identifier ≠ ""
  comparison : Comparison .field identifier
  overrides : Overrides

def FieldLeaf.make (identifier : String) (operator : Operator) (operand : Operand)
    (overrides : Overrides) : Except Failure FieldLeaf :=
  if named : identifier = "" then .error (.invalidArgument .unnamedField)
  else return ⟨identifier, named, ← Comparison.make _ _ operator operand, overrides⟩

structure IndexFieldLeaf where
  field : String
  named : field ≠ ""
  comparison : Comparison .indexField field

def IndexFieldLeaf.make (field : String) (operator : Operator) (operand : Operand) :
    Except Failure IndexFieldLeaf :=
  if named : field = "" then .error (.invalidArgument .unnamedIndexField)
  else return ⟨field, named, ← Comparison.make _ _ operator operand⟩

def isBlankText (text : String) : Bool :=
  (Text.trim text.toList).isEmpty

structure FullTextLeaf where
  text : String
  hasText : isBlankText text = false

def FullTextLeaf.make (operator : Operator) (operand : Operand) : Except Failure FullTextLeaf := do
  SpecificationTable.fullText.validate "text" operator operand
  match operand with
  | .single (.string text) =>
    if blank : isBlankText text = true then throw (.invalidArgument .blankSearch)
    else return ⟨text, Bool.eq_false_iff.2 blank⟩
  | _ => throw (.invalidArgument .blankSearch)

def isOnGlobe (latitude longitude : Double) : Bool :=
  latitude.liesWithin (-90) 90 && longitude.liesWithin (-180) 180

def isNegativeDistance (value : Scalar) : Bool :=
  value.number?.any (·.below .zero)

structure DistanceLeaf where
  identifier : String
  comparison : Comparison .distance identifier
  latitude : Double
  longitude : Double
  notNegative : comparison.operand.scalars.any isNegativeDistance = false
  onGlobe : isOnGlobe latitude longitude = true
  overrides : Overrides

def DistanceLeaf.make (identifier : String) (operator : Operator) (operand : Operand)
    (latitude longitude : Double) (overrides : Overrides) : Except Failure DistanceLeaf := do
  let comparison ← Comparison.make .distance identifier operator operand
  if negative : comparison.operand.scalars.any isNegativeDistance = true then
    throw (.invalidArgument (.negativeDistance identifier))
  else if onGlobe : isOnGlobe latitude longitude = true then
    return ⟨identifier, comparison, latitude, longitude, Bool.eq_false_iff.2 negative, onGlobe,
      overrides⟩
  else throw (.invalidArgument (.originOutside identifier latitude longitude))

end ContentFinder
