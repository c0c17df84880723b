import ContentFinder.Content.Reading
import ContentFinder.Proofs.Distinct
import ContentFinder.Proofs.IndexedFields

/-! Reading a content back from its index document. The header comes back whole, save that dates
lose what is less than a second and that languages come back once; the fields come back as far as
their stored values tell. -/

namespace ContentFinder

open Outcome

namespace Calendar.Moment

def wholeSecond (moment : Moment) : Moment :=
  ⟨moment.seconds, 0, moment.inSpan, .inl (by decide)⟩

theorem toInt_timestamp (moment : Moment) : moment.timestamp.toInt = moment.seconds := by
  obtain ⟨notBefore, notAfter⟩ := moment.inSpan
  unfold earliest at notBefore
  unfold latest at notAfter
  exact Int64.toInt_ofInt_of_le (by omega) (by omega)

theorem ofTimestamp?_timestamp (moment : Moment) :
    ofTimestamp? moment.timestamp = some moment.wholeSecond := by
  have positive : (0 : Nat) < 1000000000 ∨ (0 : Nat) < 2000000000 ∧ moment.seconds % 60 = 59 :=
    .inl (by decide)
  rw [ofTimestamp?, toInt_timestamp, at?, dif_pos moment.inSpan, dif_pos positive]
  rfl

end Calendar.Moment

theorem VersionStatus.ofCode?_code (status : VersionStatus) :
    ofCode? status.code = some status := by
  cases status <;> decide

/-- The value that stored fields are read back as: the first that they store, if it can be read. -/
def FieldKind.restore? (kind : FieldKind) (fields : List Field) : Option FieldValue :=
  (fields.flatMap fun field => kind.stored field.value).head?.bind fun first => kind.decode [first]

theorem FieldKind.decode_eq (kind : FieldKind) (values : List IndexValue) :
    kind.decode values = values.head?.bind fun first => kind.decode [first] := by
  cases values <;> rfl

namespace Content

/-- What is left of the fields of a definition: one for each language that has a value, or one in
the main language for a language-neutral definition. -/
def restoredFields (content : Content) (definition : FieldDefinition) : List Field :=
  let kind := definition.traits.kind
  if definition.traits.multilingual then
    content.version.languages.eraseDups.filterMap fun language =>
      (kind.restore? (content.fields.filter fun field =>
        field.identifier == definition.identifier && field.language == language)).map
          fun value => ⟨definition.identifier, language, value⟩
  else
    ((kind.restore? (content.neutralField? definition.identifier).toList).map fun value =>
      ⟨definition.identifier, content.info.mainLanguage, value⟩).toList

/-- What is left of a content in an index whose schema has the given definitions. -/
def restored (definitions : List FieldDefinition) (content : Content) : Content where
  info := { content.info with
    modified := content.info.modified.wholeSecond
    published := content.info.published.wholeSecond }
  version := { content.version with languages := content.version.languages.eraseDups }
  locations := content.locations
  fields := (FieldDefinition.searchableOf definitions content.info.contentType).flatMap
    content.restoredFields

end Content

namespace Document

variable {doc : Document} {field : String}

theorem integer_of_get {number : Int64} (got : doc.get field = [.integer number]) :
    doc.integer field = .ok number := by
  rw [integer, first?, got]
  rfl

theorem string_of_get {words : String} (got : doc.get field = [.string words]) :
    doc.string field = .ok words := by
  rw [string, first?, got]
  rfl

theorem moment_of_get {moment : Calendar.Moment}
    (got : doc.get field = [.date moment.timestamp]) :
    doc.moment field = .ok moment.wholeSecond := by
  have number : doc.integer field = .ok moment.timestamp := by
    rw [integer, first?, got]
    rfl
  simp only [Document.moment, number, bind, Except.bind, Calendar.Moment.ofTimestamp?_timestamp]
  rfl

theorem zipLocations?_map (locations : List Location) :
    zipLocations? (locations.map fun location => .string location.path)
      (locations.map fun location => .integer location.id)
      (locations.map fun location => .integer location.depth)
      (locations.map fun location => .integer location.parent)
      (locations.map fun location => .string location.remoteId) = some locations := by
  induction locations with
  | nil => rfl
  | cons location rest ih =>
    simp only [List.map_cons, zipLocations?, ih]
    rfl

section Header

variable {schema : Schema} {content : Content} (mapped : content.toDocument schema = .ok doc)

include mapped

theorem info_toDocument :
    doc.info = .ok { content.info with
      modified := content.info.modified.wholeSecond
      published := content.info.published.wholeSecond } := by
  have values : ∀ entry ∈ content.systemFields, doc.get entry.1 = [entry.2] :=
    fun entry member => Content.get_single member mapped
  simp only [Content.systemFields, List.forall_mem_cons] at values
  obtain ⟨id, type, typeIdentifier, -, -, name, -, sectionId, remoteId, modified, published, main,
    always, -⟩ := values
  have available : doc.alwaysAvailable = content.info.alwaysAvailable := by
    rw [alwaysAvailable, first?, always]
    rfl
  rw [info, integer_of_get id, integer_of_get type, string_of_get typeIdentifier,
    string_of_get name, integer_of_get sectionId, string_of_get remoteId, string_of_get main,
    available, moment_of_get modified, moment_of_get published]
  rfl

theorem strings_language :
    doc.strings IndexName.language = content.version.languages.eraseDups := by
  rw [strings, Content.get_language mapped, IndexQuery.distinct_eq_eraseDups, List.filterMap_map]
  exact List.filterMap_some

theorem version_toDocument :
    doc.version =
      .ok { content.version with languages := content.version.languages.eraseDups } := by
  have values : ∀ entry ∈ content.systemFields, doc.get entry.1 = [entry.2] :=
    fun entry member => Content.get_single member mapped
  simp only [Content.systemFields, List.forall_mem_cons] at values
  obtain ⟨-, -, -, number, status, -, creator, -⟩ := values
  rw [version, integer_of_get status, integer_of_get number, integer_of_get creator,
    strings_language mapped]
  simp only [bind, Except.bind, VersionStatus.ofCode?_code]
  rfl

theorem locations_toDocument : doc.locations = .ok content.locations := by
  have paths : doc.get IndexName.path = content.locations.map (.string ·.path) :=
    Content.get_ofLocation (by decide) (fun _ => rfl) mapped
  have ids : doc.get IndexName.location = content.locations.map (.integer ·.id) :=
    Content.get_ofLocation (by decide) (fun _ => rfl) mapped
  have depths : doc.get IndexName.depth = content.locations.map (.integer ·.depth) :=
    Content.get_ofLocation (by decide) (fun _ => rfl) mapped
  have parents : doc.get IndexName.parent = content.locations.map (.integer ·.parent) :=
    Content.get_ofLocation (by decide) (fun _ => rfl) mapped
  have remoteIds : doc.get IndexName.locationRemoteId =
      content.locations.map (.string ·.remoteId) :=
    Content.get_ofLocation (by decide) (fun _ => rfl) mapped
  simp [locations, paths, ids, depths, parents, remoteIds, zipLocations?_map]

theorem toContent_eq : doc.toContent schema = .ok {
    info := { content.info with
      modified := content.info.modified.wholeSecond
      published := content.info.published.wholeSecond }
    version := { content.version with languages := content.version.languages.eraseDups }
    locations := content.locations
    fields := (schema.fieldsOf content.info.contentType).flatMap
      (doc.fieldsOf content.info.mainLanguage content.version.languages.eraseDups) } := by
  rw [toContent, info_toDocument mapped, version_toDocument mapped, locations_toDocument mapped]
  rfl

theorem fieldsOf_toDocument {definition : FieldDefinition}
    (known : schema.definition? content.info.contentType definition.identifier = some definition)
    (searchable : definition.traits.searchable = true)
    (plainFields : ∀ field ∈ content.fields, IsPlainCode field.language)
    (plainVersion : ∀ code ∈ content.version.languages, IsPlainCode code) :
    doc.fieldsOf content.info.mainLanguage content.version.languages.eraseDups definition =
      content.restoredFields definition := by
  unfold fieldsOf Content.restoredFields
  rw [searchable]
  by_cases multilingual : definition.traits.multilingual = true
  · simp only [multilingual, Bool.not_true, Bool.false_eq_true, if_false, if_true]
    refine List.filterMap_congr fun language member => ?_
    have plain : (Projection.code language).IsPlain :=
      plainVersion language (List.mem_eraseDups.1 member)
    have order := content.filter_mainFirst definition.identifier language
    rw [Content.get_projected_own known searchable multilingual plainFields plain mapped,
      FieldKind.decode_eq, FieldKind.restore?, ← order]
    rfl
  · have neutral : definition.traits.multilingual = false := by simpa using multilingual
    simp only [neutral, Bool.not_true, Bool.false_eq_true, if_false]
    rw [Content.get_neutral_own known searchable neutral plainFields mapped,
      FieldKind.decode_eq, FieldKind.restore?]
    cases content.neutralField? definition.identifier <;> simp

end Header

/-- A document of a content reads back as what is left of the content. -/
theorem toContent_toDocument {definitions : List FieldDefinition} {schema : Schema}
    {content : Content} {doc : Document}
    (built : Schema.ofDefinitions definitions = .ok schema)
    (plainFields : ∀ field ∈ content.fields, IsPlainCode field.language)
    (plainVersion : ∀ code ∈ content.version.languages, IsPlainCode code)
    (mapped : content.toDocument schema = .ok doc) :
    doc.toContent schema = .ok (content.restored definitions) := by
  have fields : (schema.fieldsOf content.info.contentType).flatMap
      (doc.fieldsOf content.info.mainLanguage content.version.languages.eraseDups) =
      (FieldDefinition.searchableOf definitions content.info.contentType).flatMap
        content.restoredFields := by
    rw [← Schema.searchable_fieldsOf built, flatMap_filter]
    refine List.flatMap_congr fun definition member => ?_
    by_cases searchable : definition.traits.searchable = true
    · rw [if_pos searchable]
      exact fieldsOf_toDocument mapped (Schema.mem_fieldsOf.1 member) searchable plainFields
        plainVersion
    · simp [fieldsOf, searchable]
  rw [toContent, info_toDocument mapped, version_toDocument mapped, locations_toDocument mapped]
  change Except.ok _ = Except.ok _
  rw [fields]
  rfl

theorem toContent_sample :
    Sample.document.toContent Sample.schema = .ok (Sample.content.restored Sample.definitions) ∧
      (Sample.content.restored Sample.definitions).fields = [
        ⟨"code", "eng", .integer 6⟩,
        ⟨"title", "ger", .text "Tee"⟩,
        ⟨"title", "eng", .text "Tea"⟩] := by
  have sorted : FieldDefinition.searchableOf Sample.definitions Sample.content.info.contentType =
      [⟨"article", "code", .integer, false, true⟩, ⟨"article", "title", .string, true, true⟩] := by
    simp [FieldDefinition.searchableOf, Sample.definitions, Sample.content, List.mergeSort]
  refine ⟨toContent_toDocument Sample.built (by decide) (by decide) Sample.mapped, ?_⟩
  rw [Content.restored, sorted]
  decide

end Document

end ContentFinder
