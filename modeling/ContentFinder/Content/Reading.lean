import ContentFinder.Content.Encoding
import ContentFinder.Field.Schema
import ContentFinder.Index.Document

/-! From an index document back to the content. -/

namespace ContentFinder

open Calendar

namespace Document

def fault {α : Type} (doc : Document) (field : String) (fault : DocumentFault) :
    Except Failure α :=
  .error (.serialization (.document doc.id field fault))

def integer (doc : Document) (field : String) : Except Failure Int64 :=
  match (doc.first? field).bind IndexValue.integer? with
  | some value => .ok value
  | none => doc.fault field .notInteger

def string (doc : Document) (field : String) : Except Failure String :=
  match (doc.first? field).bind IndexValue.string? with
  | some value => .ok value
  | none => doc.fault field .notString

def moment (doc : Document) (field : String) : Except Failure Moment := do
  match Moment.ofTimestamp? (← doc.integer field) with
  | some moment => return moment
  | none => doc.fault field .notDate

/-- A content is not always available unless its document says so. -/
def alwaysAvailable (doc : Document) : Bool :=
  ((doc.first? IndexName.alwaysAvailable).bind IndexValue.boolean?).getD false

def info (doc : Document) : Except Failure ContentInfo := do
  return {
    id := ← doc.integer IndexName.id
    contentTypeId := ← doc.integer IndexName.type
    contentType := ← doc.string IndexName.typeIdentifier
    name := ← doc.string IndexName.name
    sectionId := ← doc.integer IndexName.sectionId
    remoteId := ← doc.string IndexName.remoteId
    mainLanguage := ← doc.string IndexName.mainLanguage
    alwaysAvailable := doc.alwaysAvailable
    modified := ← doc.moment IndexName.modified
    published := ← doc.moment IndexName.published }

def version (doc : Document) : Except Failure VersionInfo := do
  let code ← doc.integer IndexName.status
  let number ← doc.integer IndexName.version
  let some status := VersionStatus.ofCode? code
    | doc.fault IndexName.status (.unknownStatus code)
  let creator ← doc.integer IndexName.creator
  return ⟨number, status, creator, doc.strings IndexName.language⟩

def zipLocations? : List IndexValue → List IndexValue → List IndexValue → List IndexValue →
    List IndexValue → Option (List Location)
  | path :: paths, id :: ids, depth :: depths, parent :: parents, remoteId :: remoteIds => do
    let location : Location := {
      id := ← id.integer?
      path := ← path.string?
      depth := ← depth.integer?
      parent := ← parent.integer?
      remoteId := ← remoteId.string? }
    return location :: (← zipLocations? paths ids depths parents remoteIds)
  | _, _, _, _, _ => some []

def locations (doc : Document) : Except Failure (List Location) :=
  let paths := doc.get IndexName.path
  let ids := doc.get IndexName.location
  let depths := doc.get IndexName.depth
  let parents := doc.get IndexName.parent
  let remoteIds := doc.get IndexName.locationRemoteId
  if [ids, depths, parents, remoteIds].any (·.length != paths.length) then
    doc.fault IndexName.location .misaligned
  else
    match zipLocations? paths ids depths parents remoteIds with
    | some locations => .ok locations
    | none => doc.fault IndexName.location .wrongType

/-- The fields of a definition that a document holds: one per language, or one in the main
language if the field is language-neutral. -/
def fieldsOf (doc : Document) (mainLanguage : String) (languages : List String)
    (definition : FieldDefinition) : List Field :=
  let kind := definition.traits.kind
  let base := definition.baseName
  if !definition.traits.searchable then []
  else if definition.traits.multilingual then
    languages.filterMap fun language =>
      (kind.decode (doc.get ((Projection.code language).apply base))).map fun value =>
        ⟨definition.identifier, language, value⟩
  else
    ((kind.decode (doc.get base)).map fun value =>
      ⟨definition.identifier, mainLanguage, value⟩).toList

def toContent (schema : Schema) (doc : Document) : Except Failure Content := do
  let info ← doc.info
  let version ← doc.version
  let locations ← doc.locations
  let fields := (schema.fieldsOf info.contentType).flatMap
    (doc.fieldsOf info.mainLanguage version.languages)
  return ⟨info, version, locations, fields⟩

end Document

end ContentFinder
