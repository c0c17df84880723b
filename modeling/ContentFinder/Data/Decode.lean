import ContentFinder.Calendar.Rfc3339
import ContentFinder.Content.Visibility
import ContentFinder.Data.Basic
import ContentFinder.Index.Store
import ContentFinder.Query
import ContentFinder.Settings.Basic

/-! Reading the things of the library from plain data. -/

namespace ContentFinder

open Calendar

/-- Where the form of a part hangs on another part, both are taken up as a whole before they are
read. Such a whole lies in at most this many lists and records, those around it counted. -/
def Data.nestingLimit : Nat := 127

namespace Scalar

def ofData? : Data → Option Scalar
  | .boolean value => some (.boolean value)
  | .integer value =>
    some ((Number.word? value).elim (.float (.ofInt value)) .integer)
  | .float value => some (.float value)
  | .text value => some (.string value)
  | _ => none

end Scalar

def Operand.ofData? : Data → Option Operand
  | .list items => (items.mapM Scalar.ofData?).map .list
  | data => (Scalar.ofData? data).map .single

def Operator.ofData? : Data → Option Operator := Data.choice? Operator.all Operator.name

def FieldKind.ofData? : Data → Option FieldKind := Data.choice? FieldKind.all FieldKind.name

def CommitMode.ofData? : Data → Option CommitMode := Data.choice? CommitMode.all CommitMode.name

def VersionStatus.ofData? : Data → Option VersionStatus :=
  Data.choice? VersionStatus.all VersionStatus.name

def Direction.name : Direction → String
  | .ascending => "ASC"
  | .descending => "DESC"

def Direction.ofData? : Data → Option Direction :=
  Data.choice? [.ascending, .descending] Direction.name

namespace FieldDefinition

def ofDataBy? (pick : List String → Data → Option Members) (data : Data) :
    Option FieldDefinition := do
  let members ← pick ["content_type", "identifier", "kind", "translatable", "searchable"] data
  return {
    contentType := ← members.required "content_type" Data.text?
    identifier := ← members.required "identifier" Data.text?
    traits := {
      kind := ← members.required "kind" FieldKind.ofData?
      multilingual := ← members.defaulted "translatable" true Data.boolean?
      searchable := ← members.defaulted "searchable" true Data.boolean? } }

def ofData? : Data → Option FieldDefinition := ofDataBy? Data.members?

end FieldDefinition

namespace LanguageFilter

def unify : Data → Data
  | .record members => .record <| members.map fun (name, value) =>
      (if name = "use_always_available" then "useAlwaysAvailable" else name, value)
  | data => data

def ofData? (data : Data) : Option LanguageFilter := do
  let members ← (unify data).members? ["languages", "useAlwaysAvailable"]
  return {
    languages := ← members.defaulted "languages" [] (Data.listOf? Data.text?)
    useAlwaysAvailable := ← members.defaulted "useAlwaysAvailable" false Data.boolean? }

end LanguageFilter

namespace IndexValue

def pointOfData? (data : Data) : Option IndexValue := do
  let members ← data.members? ["lat", "lon"]
  return .point (← members.required "lat" Data.double?) (← members.required "lon" Data.double?)

def ofData? : Data → Option IndexValue
  | .record [("string", data)] => data.text?.map .string
  | .record [("integer", data)] => data.word?.map .integer
  | .record [("float", data)] => data.double?.map .float
  | .record [("boolean", data)] => data.boolean?.map .boolean
  | .record [("date", data)] => data.word?.map .date
  | .record [("geo_point", data)] => pointOfData? data
  | _ => none

end IndexValue

namespace Document

def fieldsOfData? : Data → Option (Dict (List IndexValue))
  | .record members => do
    let entries ← members.mapM fun (name, data) => do
      return (name, ← data.listOf? IndexValue.ofData?)
    return .ofList entries
  | _ => none

def ofData? (data : Data) : Option Document := do
  let members ← data.members? ["id", "fields"]
  return ⟨← members.required "id" Data.text?, ← members.required "fields" fieldsOfData?⟩

end Document

namespace SortTarget

def variantNames : List String := ["content_id", "content_name", "date_modified",
  "date_published", "section_id", "location_depth", "location_path", "score", "field",
  "map_location_distance"]

def ofVariant? (variant : String) (data : Data) : Option SortTarget :=
  match variant with
  | "content_id" => data.bare?.map fun _ => .contentId
  | "content_name" => data.bare?.map fun _ => .contentName
  | "date_modified" => data.bare?.map fun _ => .dateModified
  | "date_published" => data.bare?.map fun _ => .datePublished
  | "section_id" => data.bare?.map fun _ => .sectionId
  | "location_depth" => data.bare?.map fun _ => .locationDepth
  | "location_path" => data.bare?.map fun _ => .locationPath
  | "score" => data.bare?.map fun _ => .score
  | "field" => do
    let members ← data.members? ["content_type", "field", "language"]
    return .field (← members.required "content_type" Data.text?)
      (← members.required "field" Data.text?) (← members.optional "language" Data.text?)
  | "map_location_distance" => do
    let members ← data.members? ["content_type", "field", "latitude", "longitude", "language"]
    return .distance (← members.required "content_type" Data.text?)
      (← members.required "field" Data.text?) (← members.required "latitude" Data.double?)
      (← members.required "longitude" Data.double?) (← members.optional "language" Data.text?)
  | _ => none

end SortTarget

/-- The members of the target stand beside the direction, and all of them are its parts. -/
def SortClause.ofData? : Data → Option SortClause
  | .record members => do
    let rest := Data.record (members.filter (·.1 != "direction"))
    if !rest.isSound Data.nestingLimit then none
    let (variant, data) ← rest.variant? "target" SortTarget.variantNames .part
    let target ← SortTarget.ofVariant? variant data
    let direction ← match members.filter (·.1 == "direction") with
      | [] => some .ascending
      | [(_, direction)] => Direction.ofData? direction
      | _ => none
    return ⟨target, direction⟩
  | _ => none

def FacetSubject.name : FacetSubject → String
  | .contentType => "content_type"
  | .section => "section"
  | .language => "language"

def FacetSubject.all : List FacetSubject := [.contentType, .section, .language]

def FacetClause.ofData? (data : Data) : Option FacetClause := do
  if !data.isSound Data.nestingLimit then none
  let (variant, data) ← data.variant? "type" (FacetSubject.all.map (·.name)) .whole
  let subject ← FacetSubject.all.find? (·.name == variant)
  let members ← data.members? ["name", "limit"]
  return ⟨subject, ← members.required "name" Data.text?, ← members.required "limit" Data.count?⟩

namespace IndexQuery

def rangeOfData? (data : Data) : Option IndexQuery := do
  let members ← data.members? ["field", "lower", "upper", "include_lower", "include_upper"]
  return .range (← members.required "field" Data.text?) {
    lower := ← members.optional "lower" IndexValue.ofData?
    upper := ← members.optional "upper" IndexValue.ofData?
    includeLower := ← members.required "include_lower" Data.boolean?
    includeUpper := ← members.required "include_upper" Data.boolean? }

def distanceOfData? (data : Data) : Option IndexQuery := do
  let members ← data.members?
    ["field", "latitude", "longitude", "min_km", "max_km", "include_min", "include_max"]
  return .geoDistance (← members.required "field" Data.text?) {
    latitude := ← members.required "latitude" Data.double?
    longitude := ← members.required "longitude" Data.double?
    least := ← members.optional "min_km" Data.double?
    most := ← members.optional "max_km" Data.double?
    includeLeast := ← members.required "include_min" Data.boolean?
    includeMost := ← members.required "include_max" Data.boolean? }

def leafOfData? (variant : String) (data : Data) : Option IndexQuery :=
  match variant with
  | "match_all" => data.bare?.map fun _ => .matchAll
  | "match_none" => data.bare?.map fun _ => .matchNone
  | "term" => do
    let members ← data.members? ["field", "value"]
    return .term (← members.required "field" Data.text?)
      (← members.required "value" IndexValue.ofData?)
  | "terms" => do
    let members ← data.members? ["field", "values"]
    return .terms (← members.required "field" Data.text?)
      (← members.required "values" (Data.listOf? IndexValue.ofData?))
  | "range" => rangeOfData? data
  | "wildcard" => do
    let members ← data.members? ["field", "pattern"]
    return .wildcard (← members.required "field" Data.text?)
      (← members.required "pattern" Data.text?)
  | "full_text" => do
    let members ← data.members? ["fields", "text"]
    return .fullText (← members.required "fields" (Data.listOf? Data.text?))
      (← members.required "text" Data.text?)
  | "geo_distance" => distanceOfData? data
  | "exists" => do
    let members ← data.members? ["field"]
    return .present (← members.required "field" Data.text?)
  | _ => none

def variantNames : List String := ["match_all", "match_none", "term", "terms", "range", "wildcard",
  "full_text", "geo_distance", "exists", "and", "or", "not"]

def ofDataWithin? : Nat → Data.Standing → Data → Option IndexQuery
  | 0, _, _ => none
  | depth + 1, standing, data => do
    let (variant, data) ← data.variant? "type" variantNames standing
    match variant with
    | "and" => do
      let members ← data.members? ["queries"]
      return .allOf (← members.required "queries" (Data.listOf? (ofDataWithin? depth .part)))
    | "or" => do
      let members ← data.members? ["queries"]
      return .anyOf (← members.required "queries" (Data.listOf? (ofDataWithin? depth .part)))
    | "not" => do
      let members ← data.members? ["query"]
      return .notOf (← members.required "query" (ofDataWithin? depth .part))
    | _ => leafOfData? variant data

def ofData? (data : Data) : Option IndexQuery :=
  if data.isSound Data.nestingLimit then ofDataWithin? Data.nestingLimit .whole data else none

end IndexQuery

namespace IndexSort

def ofData? (data : Data) : Option IndexSort := do
  if !data.isSound Data.nestingLimit then none
  let (variant, data) ← data.variant? "type" ["field", "geo_distance", "score"] .whole
  match variant with
  | "field" => do
    let members ← data.members? ["field", "direction"]
    return .field (← members.required "field" Data.text?)
      (← members.required "direction" Direction.ofData?)
  | "geo_distance" => do
    let members ← data.members? ["field", "latitude", "longitude", "direction"]
    return .geoDistance (← members.required "field" Data.text?)
      (← members.required "latitude" Data.double?) (← members.required "longitude" Data.double?)
      (← members.required "direction" Direction.ofData?)
  | "score" => do
    let members ← data.members? ["direction"]
    return .score (← members.required "direction" Direction.ofData?)
  | _ => none

end IndexSort

def FacetRequest.ofData? (data : Data) : Option FacetRequest := do
  let members ← data.members? ["name", "field", "limit"]
  return ⟨← members.required "name" Data.text?, ← members.required "field" Data.text?,
    ← members.required "limit" Data.count?⟩

namespace Facet

def entryOfData? : Data → Option (String × Nat)
  | .list [text, count] => do return (← text.text?, ← count.count?)
  | _ => none

def ofData? (data : Data) : Option Facet := do
  let members ← data.members? ["name", "entries"]
  return ⟨← members.required "name" Data.text?,
    ← members.required "entries" (Data.listOf? entryOfData?)⟩

end Facet

def Calendar.Moment.ofData? (data : Data) : Option Moment :=
  data.text?.bind fun text => (Rfc3339.readLoose text).toOption

namespace FieldValue

def mapLocationOfData? : Data → Option FieldValue
  | .record parts => do
    let members ← (Data.record parts).members? ["latitude", "longitude", "address"]
    return .mapLocation (← members.required "latitude" Data.double?)
      (← members.required "longitude" Data.double?) (← members.optional "address" Data.text?)
  | _ => none

def dateTimeOfData? : Data → Option FieldValue
  | .null => some (.dateTime none)
  | data => (Moment.ofData? data).map fun moment => .dateTime (some moment)

def ofVariant? (variant : String) (data : Data) : Option FieldValue :=
  match variant with
  | "text" => data.text?.map .text
  | "integer" => data.word?.map .integer
  | "float" => data.double?.map .float
  | "boolean" => data.boolean?.map .boolean
  | "date_time" => dateTimeOfData? data
  | "map_location" => mapLocationOfData? data
  | _ => none

def variantNames : List String :=
  ["text", "integer", "float", "boolean", "date_time", "map_location"]

def ofTagged? (tag value : Data) : Option FieldValue := do
  ofVariant? (← Data.choice? variantNames id tag) value

/-- Reads a value that lies in few enough lists and records for a limit. A value that comes before
its type is taken up as a whole. -/
def ofDataWithin? (limit : Nat) : Data → Option FieldValue
  | .record members =>
    match members.filter fun member => member.1 == "type" || member.1 == "value" with
    | [("type", tag), ("value", value)] => ofTagged? tag value
    | [("value", value), ("type", tag)] =>
      if value.isSound (limit - 1) then ofTagged? tag value else none
    | _ => none
  | .list [tag, value] => ofTagged? tag value
  | _ => none

def ofData? : Data → Option FieldValue := ofDataWithin? Data.nestingLimit

end FieldValue

def ContentInfo.ofData? (data : Data) : Option ContentInfo := do
  let members ← data.members? ["id", "content_type_id", "content_type_identifier", "name",
    "section_id", "remote_id", "main_language_code", "always_available", "modification_date",
    "publication_date"]
  return {
    id := ← members.required "id" Data.word?
    contentTypeId := ← members.required "content_type_id" Data.word?
    contentType := ← members.required "content_type_identifier" Data.text?
    name := ← members.required "name" Data.text?
    sectionId := ← members.required "section_id" Data.word?
    remoteId := ← members.required "remote_id" Data.text?
    mainLanguage := ← members.required "main_language_code" Data.text?
    alwaysAvailable := ← members.required "always_available" Data.boolean?
    modified := ← members.required "modification_date" Moment.ofData?
    published := ← members.required "publication_date" Moment.ofData? }

def VersionInfo.ofData? (data : Data) : Option VersionInfo := do
  let members ← data.members? ["version_no", "status", "creator_id", "language_codes"]
  return {
    number := ← members.required "version_no" Data.word?
    status := ← members.required "status" VersionStatus.ofData?
    creator := ← members.required "creator_id" Data.word?
    languages := ← members.required "language_codes" (Data.listOf? Data.text?) }

def Location.ofData? (data : Data) : Option Location := do
  let members ← data.members? ["id", "path_string", "depth", "parent_id", "remote_id"]
  return {
    id := ← members.required "id" Data.word?
    path := ← members.required "path_string" Data.text?
    depth := ← members.required "depth" Data.word?
    parent := ← members.required "parent_id" Data.word?
    remoteId := ← members.required "remote_id" Data.text? }

def Field.ofDataWithin? (limit : Nat) (data : Data) : Option Field := do
  let members ← data.members? ["identifier", "language_code", "value"]
  return {
    identifier := ← members.required "identifier" Data.text?
    language := ← members.required "language_code" Data.text?
    value := ← members.required "value" (FieldValue.ofDataWithin? (limit - 1)) }

def Content.ofData? (data : Data) : Option Content := do
  let members ← data.members? ["info", "version", "locations", "fields"]
  return {
    info := ← members.required "info" ContentInfo.ofData?
    version := ← members.required "version" VersionInfo.ofData?
    locations := ← members.required "locations" (Data.listOf? Location.ofData?)
    fields := ← members.required "fields"
      (Data.listOf? (Field.ofDataWithin? (Data.nestingLimit - 2))) }

namespace Settings

variable (pick : List String → Data → Option Members)

def searchOfDataBy? (data : Data) : Option SearchSettings := do
  let members ← pick ["max_limit", "request_timeout_ms"] data
  return {
    maxLimit := ← members.defaulted "max_limit" standard.search.maxLimit Data.count?
    timeout := ← members.defaulted "request_timeout_ms" standard.search.timeout Data.count? }

def commitModeOfDataBy? (data : Data) : Option CommitMode := do
  let members ← pick ["commit_mode"] data
  members.defaulted "commit_mode" standard.commitMode CommitMode.ofData?

def logOfDataBy? (data : Data) : Option LogSettings := do
  let members ← pick ["level", "format"] data
  return {
    level := ← members.defaulted "level" standard.log.level Data.text?
    format := ← members.defaulted "format" standard.log.format Data.text? }

def ofDataBy? (data : Data) : Option Settings := do
  let members ← pick ["search", "indexing", "logging", "fields"] data
  return {
    search := ← members.defaulted "search" standard.search (searchOfDataBy? pick)
    commitMode := ← members.defaulted "indexing" standard.commitMode (commitModeOfDataBy? pick)
    log := ← members.defaulted "logging" standard.log (logOfDataBy? pick)
    fields := ← members.defaulted "fields" [] (Data.listOf? (FieldDefinition.ofDataBy? pick)) }

def ofData? : Data → Option Settings := ofDataBy? Data.members?

end Settings

end ContentFinder
