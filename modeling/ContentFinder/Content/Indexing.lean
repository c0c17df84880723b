import ContentFinder.Content.Encoding
import ContentFinder.Field.Schema
import ContentFinder.Index.Query

/-! From a content to its index document. -/

namespace ContentFinder

namespace Content

def systemFields (content : Content) : List (String × IndexValue) :=
  let info := content.info
  [(IndexName.id, .integer info.id),
    (IndexName.type, .integer info.contentTypeId),
    (IndexName.typeIdentifier, .string info.contentType),
    (IndexName.version, .integer content.version.number),
    (IndexName.status, .integer content.version.status.code),
    (IndexName.name, .string info.name),
    (IndexName.creator, .integer content.version.creator),
    (IndexName.sectionId, .integer info.sectionId),
    (IndexName.remoteId, .string info.remoteId),
    (IndexName.modified, .date info.modified.timestamp),
    (IndexName.published, .date info.published.timestamp),
    (IndexName.mainLanguage, .string info.mainLanguage),
    (IndexName.alwaysAvailable, .boolean info.alwaysAvailable)]

def languageFields (content : Content) : List (String × IndexValue) :=
  (IndexQuery.distinct content.version.languages).map fun code =>
    (IndexName.language, .string code)

def locationFields (location : Location) : List (String × IndexValue) :=
  [(IndexName.path, .string location.path),
    (IndexName.location, .integer location.id),
    (IndexName.depth, .integer location.depth),
    (IndexName.parent, .integer location.parent),
    (IndexName.locationRemoteId, .string location.remoteId)]

def header (content : Content) : Document :=
  (content.systemFields ++ content.languageFields ++ content.locations.flatMap locationFields).foldl
    (fun doc entry => doc.add entry.1 entry.2) (.new (Number.wordText content.id))

def mainFirst (content : Content) : List Field :=
  let isMain := fun field : Field => field.language == content.info.mainLanguage
  content.fields.filter isMain ++ content.fields.filter (! isMain ·)

end Content

/-- A document under construction, and the language-neutral fields that it already holds. -/
structure Draft where
  doc : Document
  neutral : List String

namespace Draft

def addProjected (doc : Document) (base language : String) (isMain : Bool)
    (values : List IndexValue) : Document :=
  let doc := doc.extend ((Projection.code language).apply base) values
  let doc := doc.extend (Projection.any.apply base) values
  if isMain then doc.extend (Projection.main.apply base) values else doc

/-- Adds a field. Of a language-neutral field only the first value is kept. A field that the schema
does not know, or that is not searchable, is passed over. -/
def addField (schema : Schema) (content : Content) (draft : Draft) (field : Field) :
    Except Failure Draft :=
  match schema.definition? content.info.contentType field.identifier with
  | none => .ok draft
  | some definition =>
    if !definition.traits.searchable then .ok draft
    else do
      let kind := definition.traits.kind
      let values ← kind.encode field.value
      let base := definition.baseName
      let isMain := field.language == content.info.mainLanguage
      let draft :=
        if definition.traits.multilingual then
          { draft with doc := addProjected draft.doc base field.language isMain values }
        else if field.identifier ∈ draft.neutral then draft
        else ⟨draft.doc.extend base values, field.identifier :: draft.neutral⟩
      return match kind.fullText? field.value with
        | none => draft
        | some text =>
          { draft with
            doc := addProjected draft.doc IndexName.text field.language isMain [.string text] }

end Draft

def Content.toDocument (schema : Schema) (content : Content) : Except Failure Document := do
  let draft ← content.mainFirst.foldlM (Draft.addField schema content) ⟨content.header, []⟩
  return draft.doc

end ContentFinder
