import ContentFinder.Data.Decode

/-! Writing the things of the library as plain data. -/

namespace ContentFinder

open Number

namespace Data

def ofWord (word : Int64) : Data := .integer word.toInt

def ofTexts (texts : List String) : Data := .list (texts.map .text)

def ofList {α : Type} (write : α → Data) (items : List α) : Data := .list (items.map write)

def ofOption {α : Type} (write : α → Data) (value : Option α) : Data := value.elim .null write

end Data

def Scalar.toData : Scalar → Data
  | .boolean value => .boolean value
  | .integer value => .ofWord value
  | .float value => .float value
  | .string value => .text value

def Operand.toData : Operand → Data
  | .single value => value.toData
  | .list values => .ofList Scalar.toData values

def FieldDefinition.toData (definition : FieldDefinition) : Data := .record [
  ("content_type", .text definition.contentType),
  ("identifier", .text definition.identifier),
  ("kind", .text definition.traits.kind.name),
  ("translatable", .boolean definition.traits.multilingual),
  ("searchable", .boolean definition.traits.searchable)]

def LanguageFilter.toData (filter : LanguageFilter) : Data := .record [
  ("languages", .ofTexts filter.languages),
  ("useAlwaysAvailable", .boolean filter.useAlwaysAvailable)]

def IndexValue.toData : IndexValue → Data
  | .string value => .record [("string", .text value)]
  | .integer value => .record [("integer", .ofWord value)]
  | .float value => .record [("float", .float value)]
  | .boolean value => .record [("boolean", .boolean value)]
  | .date timestamp => .record [("date", .ofWord timestamp)]
  | .point latitude longitude =>
    .record [("geo_point", .record [("lat", .float latitude), ("lon", .float longitude)])]

def Document.toData (doc : Document) : Data := .record [
  ("id", .text doc.id),
  ("fields", .record (doc.fields.entries.map fun (name, values) =>
    (name, .ofList IndexValue.toData values)))]

def SortTarget.members : SortTarget → List (String × Data)
  | .contentId => [("target", .text "content_id")]
  | .contentName => [("target", .text "content_name")]
  | .dateModified => [("target", .text "date_modified")]
  | .datePublished => [("target", .text "date_published")]
  | .sectionId => [("target", .text "section_id")]
  | .locationDepth => [("target", .text "location_depth")]
  | .locationPath => [("target", .text "location_path")]
  | .score => [("target", .text "score")]
  | .field contentType name language => [
    ("target", .text "field"), ("content_type", .text contentType), ("field", .text name),
    ("language", .ofOption .text language)]
  | .distance contentType name latitude longitude language => [
    ("target", .text "map_location_distance"), ("content_type", .text contentType),
    ("field", .text name), ("latitude", .float latitude), ("longitude", .float longitude),
    ("language", .ofOption .text language)]

def SortClause.toData (clause : SortClause) : Data :=
  .record (clause.target.members ++ [("direction", .text clause.direction.name)])

def FacetClause.toData (clause : FacetClause) : Data := .record [
  ("type", .text clause.subject.name),
  ("name", .text clause.name),
  ("limit", .integer clause.limit)]

namespace IndexQuery

mutual

def toData : IndexQuery → Data
  | .matchAll => .record [("type", .text "match_all")]
  | .matchNone => .record [("type", .text "match_none")]
  | .term field value =>
    .record [("type", .text "term"), ("field", .text field), ("value", value.toData)]
  | .terms field values => .record [("type", .text "terms"), ("field", .text field),
    ("values", .ofList IndexValue.toData values)]
  | .range field ends => .record [("type", .text "range"), ("field", .text field),
    ("lower", .ofOption IndexValue.toData ends.lower),
    ("upper", .ofOption IndexValue.toData ends.upper),
    ("include_lower", .boolean ends.includeLower), ("include_upper", .boolean ends.includeUpper)]
  | .wildcard field pattern =>
    .record [("type", .text "wildcard"), ("field", .text field), ("pattern", .text pattern)]
  | .fullText fields text =>
    .record [("type", .text "full_text"), ("fields", .ofTexts fields), ("text", .text text)]
  | .geoDistance field radius => .record [("type", .text "geo_distance"), ("field", .text field),
    ("latitude", .float radius.latitude), ("longitude", .float radius.longitude),
    ("min_km", .ofOption .float radius.least), ("max_km", .ofOption .float radius.most),
    ("include_min", .boolean radius.includeLeast), ("include_max", .boolean radius.includeMost)]
  | .present field => .record [("type", .text "exists"), ("field", .text field)]
  | .allOf queries => .record [("type", .text "and"), ("queries", .list (toDataList queries))]
  | .anyOf queries => .record [("type", .text "or"), ("queries", .list (toDataList queries))]
  | .notOf query => .record [("type", .text "not"), ("query", toData query)]

def toDataList : List IndexQuery → List Data
  | [] => []
  | query :: rest => toData query :: toDataList rest

end

end IndexQuery

def IndexSort.toData : IndexSort → Data
  | .field name direction => .record [("type", .text "field"), ("field", .text name),
    ("direction", .text direction.name)]
  | .geoDistance name latitude longitude direction => .record [("type", .text "geo_distance"),
    ("field", .text name), ("latitude", .float latitude), ("longitude", .float longitude),
    ("direction", .text direction.name)]
  | .score direction => .record [("type", .text "score"), ("direction", .text direction.name)]

def FacetRequest.toData (request : FacetRequest) : Data := .record [
  ("name", .text request.name), ("field", .text request.field), ("limit", .integer request.limit)]

def Facet.toData (facet : Facet) : Data := .record [
  ("name", .text facet.name),
  ("entries", .list (facet.entries.map fun (text, count) => .list [.text text, .integer count]))]

def SearchRequest.toData (request : SearchRequest) : Data := .record [
  ("filter", request.filter.toData),
  ("query", request.query.toData),
  ("sort", .ofList IndexSort.toData request.sorts),
  ("offset", .integer request.offset),
  ("limit", .integer request.limit),
  ("facets", .ofList FacetRequest.toData request.facets),
  ("timeout_ms", .integer request.budget)]

def FieldValue.toData : FieldValue → Data
  | .text value => .record [("type", .text "text"), ("value", .text value)]
  | .integer value => .record [("type", .text "integer"), ("value", .ofWord value)]
  | .float value => .record [("type", .text "float"), ("value", .float value)]
  | .boolean value => .record [("type", .text "boolean"), ("value", .boolean value)]
  | .dateTime moment => .record [("type", .text "date_time"),
    ("value", .ofOption (fun moment => .text moment.text) moment)]
  | .mapLocation latitude longitude address => .record [("type", .text "map_location"),
    ("value", .record [("latitude", .float latitude), ("longitude", .float longitude),
      ("address", .ofOption .text address)])]

def ContentInfo.toData (info : ContentInfo) : Data := .record [
  ("id", .ofWord info.id),
  ("content_type_id", .ofWord info.contentTypeId),
  ("content_type_identifier", .text info.contentType),
  ("name", .text info.name),
  ("section_id", .ofWord info.sectionId),
  ("remote_id", .text info.remoteId),
  ("main_language_code", .text info.mainLanguage),
  ("always_available", .boolean info.alwaysAvailable),
  ("modification_date", .text info.modified.text),
  ("publication_date", .text info.published.text)]

def VersionInfo.toData (version : VersionInfo) : Data := .record [
  ("version_no", .ofWord version.number),
  ("status", .text version.status.name),
  ("creator_id", .ofWord version.creator),
  ("language_codes", .ofTexts version.languages)]

def Location.toData (location : Location) : Data := .record [
  ("id", .ofWord location.id),
  ("path_string", .text location.path),
  ("depth", .ofWord location.depth),
  ("parent_id", .ofWord location.parent),
  ("remote_id", .text location.remoteId)]

def Field.toData (field : Field) : Data := .record [
  ("identifier", .text field.identifier),
  ("language_code", .text field.language),
  ("value", field.value.toData)]

def Content.toData (content : Content) : Data := .record [
  ("info", content.info.toData),
  ("version", content.version.toData),
  ("locations", .ofList Location.toData content.locations),
  ("fields", .ofList Field.toData content.fields)]

def Settings.toData (settings : Settings) : Data := .record [
  ("search", .record [("max_limit", .integer settings.search.maxLimit),
    ("request_timeout_ms", .integer settings.search.timeout)]),
  ("indexing", .record [("commit_mode", .text settings.commitMode.name)]),
  ("logging", .record [("level", .text settings.log.level),
    ("format", .text settings.log.format)]),
  ("fields", .ofList FieldDefinition.toData settings.fields)]

def Overrides.toData (overrides : Overrides) : Data :=
  .record (overrides.types.entries.map fun (contentType, fields) =>
    (contentType, .record (fields.entries.map fun (identifier, name) => (identifier, .text name))))

namespace Criterion

def comparisonMembers {table : SpecificationTable} {target : String}
    (comparison : Comparison table target) : List (String × Data) :=
  [("operator", .text comparison.operator.name), ("value", comparison.operand.toData)]

mutual

def toData : Criterion → Data
  | .matchAll => .record [("type", .text "match_all")]
  | .matchNone => .record [("type", .text "match_none")]
  | .contentId leaf =>
    .record (("type", .text "content_id") :: comparisonMembers leaf.comparison)
  | .property leaf => .record (("type", .text "metadata") ::
    ("target", .text leaf.property.name) :: comparisonMembers leaf.comparison)
  | .language leaf => .record (("type", .text "language_code") ::
    ("match_always_available", .boolean leaf.orAlwaysAvailable) ::
    comparisonMembers leaf.comparison)
  | .field leaf => .record (("type", .text "field") :: ("target", .text leaf.identifier) ::
    ("custom_fields", Overrides.toData leaf.overrides) :: comparisonMembers leaf.comparison)
  | .indexField leaf => .record (("type", .text "custom_field") ::
    ("target", .text leaf.field) :: comparisonMembers leaf.comparison)
  | .fullText leaf => .record [("type", .text "full_text"), ("text", .text leaf.text)]
  | .distance leaf => .record (("type", .text "map_location_distance") ::
    ("target", .text leaf.identifier) :: ("latitude", .float leaf.latitude) ::
    ("longitude", .float leaf.longitude) ::
    ("custom_fields", Overrides.toData leaf.overrides) :: comparisonMembers leaf.comparison)
  | .allOf children =>
    .record [("type", .text "logical_and"), ("criteria", .list (toDataList children))]
  | .anyOf children =>
    .record [("type", .text "logical_or"), ("criteria", .list (toDataList children))]
  | .notOf child => .record [("type", .text "logical_not"), ("criterion", toData child)]

def toDataList : List Criterion → List Data
  | [] => []
  | child :: rest => toData child :: toDataList rest

end

end Criterion

end ContentFinder
