import Mathlib.Data.List.Nodup
import ContentFinder.Proofs.Expansion

/-! What a criterion on a field means for a content. The reader's languages admit some fields of the
content, and the criterion holds when one of these has a value that the operator accepts. Lowering
and indexing name index fields without regard to each other, so the names have to agree. -/

namespace ContentFinder

open Outcome

namespace Content

variable {schema : Schema} {content : Content} {doc : Document} {filter : LanguageFilter}
  {target : FieldDefinition} {projection : Projection}

/-- Whether a field of the content counts for a reader, under a definition. -/
def Admits (content : Content) (filter : LanguageFilter) (definition : FieldDefinition)
    (field : Field) : Prop :=
  if definition.traits.multilingual then
    filter.languages = [] ∨ field.language ∈ filter.languages ∨
      filter.useAlwaysAvailable = true ∧ content.info.alwaysAvailable = true ∧
        field.language = content.info.mainLanguage
  else content.neutralField? definition.identifier = some field

def Shows (content : Content) (definition : FieldDefinition) (projection : Projection)
    (field : Field) : Prop :=
  if definition.traits.multilingual then projection.covers content field = true
  else content.neutralField? definition.identifier = some field

theorem mem_of_neutralField? {identifier : String} {field : Field}
    (found : content.neutralField? identifier = some field) :
    field ∈ content.fields ∧ field.identifier = identifier := by
  rw [← find?_mainFirst] at found
  exact ⟨mem_mainFirst.1 (List.mem_of_find?_eq_some found), by simpa using List.find?_some found⟩

/-- A field counts for a reader when some projection of the reader shows it. -/
theorem admits_iff {field : Field} :
    content.Admits filter target field ↔
      ∃ projection ∈ filter.projections target.traits.multilingual content.info.alwaysAvailable,
        content.Shows target projection field := by
  unfold Admits Shows LanguageFilter.projections LanguageFilter.isUnrestricted
  by_cases multilingual : target.traits.multilingual = true
  · simp only [multilingual, Bool.not_true, Bool.false_eq_true, if_false, if_true]
    cases languages : filter.languages with
    | nil => simp [Projection.covers]
    | cons first rest =>
      rw [← languages]
      have restricted : filter.languages ≠ [] := by simp [languages]
      have notEmpty : filter.languages.isEmpty = false := by simp [languages]
      simp only [restricted, notEmpty, false_or, Bool.false_eq_true, if_false, List.mem_append,
        List.mem_map, or_and_right, exists_or]
      refine or_congr ?_ ?_
      · simp [Projection.covers]
      · by_cases both : filter.useAlwaysAvailable = true ∧ content.info.alwaysAvailable = true
        · simp [both, Projection.covers]
        · have never : (filter.useAlwaysAvailable && content.info.alwaysAvailable) = false := by
            rwa [← Bool.and_eq_true, Bool.not_eq_true] at both
          simp only [never, Bool.false_eq_true, if_false, List.not_mem_nil, false_and, exists_false,
            iff_false]
          rintro ⟨use, always, -⟩
          exact both ⟨use, always⟩
  · simp [multilingual]

/-- Under a name that no definition of the content type has, a document holds nothing. -/
theorem get_indexName_apart
    (apart : ∀ field definition, content.definition? schema field = some definition →
      definition.baseName ≠ target.baseName)
    (plainFields : ∀ field ∈ content.fields, IsPlainCode field.language)
    (plain : projection.IsPlain) (mapped : content.toDocument schema = .ok doc) :
    doc.get (target.indexName projection) = [] := by
  unfold FieldDefinition.indexName
  split
  · rw [get_projected plainFields plain target mapped, List.flatMap_eq_nil_iff]
    intro field _
    unfold projectedShare
    cases found : content.definition? schema field with
    | none => rfl
    | some definition => simp [apart field definition found]
  · have share : ∀ field ∈ content.fields, ∀ isFirst,
        Document.written target.baseName (content.entriesOf schema isFirst field) = [] := by
      intro field member isFirst
      rw [written_entriesOf_baseName (plainFields field member)]
      cases found : content.definition? schema field with
      | none => rfl
      | some definition => simp [apart field definition found]
    rw [get_toDocument share mapped, get_header_other (IndexName.baseName_not_system target)]
    simp

theorem mem_get_indexName
    (known : schema.definition? content.info.contentType target.identifier = some target)
    (searchable : target.traits.searchable = true)
    (plainFields : ∀ field ∈ content.fields, IsPlainCode field.language)
    (plain : projection.IsPlain) (mapped : content.toDocument schema = .ok doc)
    {value : IndexValue} :
    value ∈ doc.get (target.indexName projection) ↔
      ∃ field ∈ content.fields, field.identifier = target.identifier ∧
        content.Shows target projection field ∧ value ∈ target.traits.kind.stored field.value := by
  unfold FieldDefinition.indexName Shows
  by_cases multilingual : target.traits.multilingual = true
  · rw [if_pos multilingual, get_projected_own known searchable multilingual plainFields plain
      mapped]
    simp [multilingual, List.mem_flatMap, List.mem_filter, mem_mainFirst, and_assoc]
  · have neutral : target.traits.multilingual = false := by simpa using multilingual
    rw [if_neg multilingual, get_neutral_own known searchable neutral plainFields mapped]
    simp only [multilingual]
    cases found : content.neutralField? target.identifier with
    | none => simp
    | some field =>
      obtain ⟨member, same⟩ := mem_of_neutralField? found
      constructor
      · exact fun inside => ⟨field, member, same, rfl, inside⟩
      · rintro ⟨other, -, -, equal, inside⟩
        cases equal
        exact inside

end Content

namespace FieldLeaf

variable {schema : Schema} {content : Content} {doc : Document} {filter : LanguageFilter}
  {leaf : FieldLeaf} {target : FieldDefinition}
  (plainFields : ∀ field ∈ content.fields, IsPlainCode field.language)
  (plainFilter : ∀ language ∈ filter.languages, IsPlainCode language)
  (mapped : content.toDocument schema = .ok doc)

include plainFields plainFilter mapped

theorem findsIn_apart
    (apart : ∀ field definition, content.definition? schema field = some definition →
      definition.baseName ≠ target.baseName) : leaf.findsIn filter doc target = false := by
  unfold findsIn
  rw [List.any_eq_false]
  intro projection member
  rw [Content.get_indexName_apart apart plainFields
    (LanguageFilter.plain_projections plainFilter member) mapped]
  simp

theorem findsIn_iff
    (known : schema.definition? content.info.contentType target.identifier = some target)
    (searchable : target.traits.searchable = true) :
    leaf.findsIn filter doc target = true ↔
      ∃ field ∈ content.fields, field.identifier = target.identifier ∧
        content.Admits filter target field ∧
        ∃ value ∈ target.traits.kind.stored field.value,
          leaf.comparison.operator.accepts (some target.traits.kind) leaf.comparison.operand
            value = true := by
  unfold findsIn
  rw [isMatch_isAlwaysAvailable mapped]
  simp only [List.any_eq_true]
  constructor
  · rintro ⟨projection, looked, value, held, accepted⟩
    have plain := LanguageFilter.plain_projections plainFilter looked
    obtain ⟨field, member, same, shown, stored⟩ :=
      (Content.mem_get_indexName known searchable plainFields plain mapped).1 held
    exact ⟨field, member, same, Content.admits_iff.2 ⟨projection, looked, shown⟩, value, stored,
      accepted⟩
  · rintro ⟨field, member, same, admitted, value, stored, accepted⟩
    obtain ⟨projection, looked, shown⟩ := Content.admits_iff.1 admitted
    have plain := LanguageFilter.plain_projections plainFilter looked
    exact ⟨projection, looked, value,
      (Content.mem_get_indexName known searchable plainFields plain mapped).2
        ⟨field, member, same, shown, stored⟩, accepted⟩

end FieldLeaf

/-- A definition of another type shares its base name with none of the content's type. -/
theorem Schema.baseName_apart {definitions : List FieldDefinition} {schema : Schema}
    {content : Content} {definition : FieldDefinition}
    (built : Schema.ofDefinitions definitions = .ok schema)
    (distinct : (definitions.map FieldDefinition.baseName).Nodup)
    (inList : definition ∈ definitions)
    (otherType : definition.contentType ≠ content.info.contentType) (field : Field)
    (other : FieldDefinition) (found : content.definition? schema field = some other) :
    other.baseName ≠ definition.baseName := by
  intro names
  obtain ⟨otherInList, ownType, -⟩ :=
    (Schema.definition?_ofDefinitions built).1 (Content.definition?_eq_some.1 found).1
  have same := List.inj_on_of_nodup_map distinct otherInList inList names
  exact otherType (same ▸ ownType)

/-- The query of a criterion on a field matches the document of a content if the content type has a
searchable definition of the field, and a field of the content that counts for the reader has a
value that the operator accepts. -/
theorem Criterion.isMatch_field_iff {definitions : List FieldDefinition} {schema : Schema}
    {content : Content} {doc : Document} {filter : LanguageFilter} {leaf : FieldLeaf}
    {query : IndexQuery}
    (built : Schema.ofDefinitions definitions = .ok schema)
    (distinct : (definitions.map FieldDefinition.baseName).Nodup)
    (mapped : content.toDocument schema = .ok doc)
    (own : ∀ contentType, leaf.overrides.get? contentType leaf.identifier = none)
    (lowered : (Criterion.field leaf).lower schema filter = .ok query)
    (plainFields : ∀ field ∈ content.fields, IsPlainCode field.language)
    (plainFilter : ∀ language ∈ filter.languages, IsPlainCode language) :
    query.isMatch doc = true ↔
      ∃ definition ∈ definitions, definition.contentType = content.info.contentType ∧
        definition.identifier = leaf.identifier ∧ definition.traits.searchable = true ∧
        ∃ field ∈ content.fields, field.identifier = leaf.identifier ∧
          content.Admits filter definition field ∧
          ∃ values, definition.traits.kind.encode field.value = .ok values ∧
            ∃ value ∈ values, leaf.comparison.operator.accepts (some definition.traits.kind)
              leaf.comparison.operand value = true := by
  rw [Criterion.lower] at lowered
  rw [FieldLeaf.isMatch_lower own lowered, List.any_eq_true]
  constructor
  · rintro ⟨definition, member, found⟩
    obtain ⟨inSchema, searchable⟩ := List.mem_filter.1 member
    obtain ⟨inList, -, identifier⟩ :=
      (Schema.definition?_ofDefinitions built).1 (Schema.mem_definitionsFor.1 inSchema)
    by_cases type : definition.contentType = content.info.contentType
    · have known : schema.definition? content.info.contentType definition.identifier =
          some definition := (Schema.definition?_ofDefinitions built).2 ⟨inList, type, rfl⟩
      obtain ⟨field, here, same, admitted, value, stored, accepted⟩ :=
        (FieldLeaf.findsIn_iff plainFields plainFilter mapped known searchable).1 found
      have encoded := Content.encode_toDocument mapped here
        (Content.definition?_of_known known searchable same)
      exact ⟨definition, inList, type, identifier, searchable, field, here,
        same.trans identifier, admitted, _, encoded, value, stored, accepted⟩
    · rw [FieldLeaf.findsIn_apart plainFields plainFilter mapped
        (Schema.baseName_apart built distinct inList type)] at found
      cases found
  · rintro ⟨definition, inList, type, identifier, searchable, field, here, same, admitted, values,
      encoded, value, inside, accepted⟩
    have known : schema.definition? content.info.contentType definition.identifier =
        some definition := (Schema.definition?_ofDefinitions built).2 ⟨inList, type, rfl⟩
    refine ⟨definition, List.mem_filter.2 ⟨?_, searchable⟩, ?_⟩
    · rw [Schema.mem_definitionsFor, Schema.definition?_ofDefinitions built]
      exact ⟨inList, rfl, identifier⟩
    · refine (FieldLeaf.findsIn_iff plainFields plainFilter mapped known searchable).2
        ⟨field, here, same.trans identifier.symm, admitted, value, ?_, accepted⟩
      rw [FieldKind.stored_of_encode encoded]
      exact inside

namespace Sample

def titleLeaf : FieldLeaf where
  identifier := "title"
  named := by decide
  comparison := ⟨.eq, .single (.string "Tea"), rfl⟩
  overrides := .empty

def titleQuery : IndexQuery :=
  ((Criterion.field titleLeaf).lower schema ⟨["ger"], true⟩).toOption.getD .matchNone

theorem lowered_titleLeaf :
    (Criterion.field titleLeaf).lower schema ⟨["ger"], true⟩ = .ok titleQuery := rfl

end Sample

theorem Criterion.isMatch_titleQuery : Sample.titleQuery.isMatch Sample.document = true :=
  (Criterion.isMatch_field_iff Sample.built (by decide) Sample.mapped (fun _ => rfl)
    Sample.lowered_titleLeaf (by decide) (by decide)).2
    ⟨⟨"article", "title", .string, true, true⟩, by decide, rfl, rfl, rfl,
      ⟨"title", "eng", .text "Tea"⟩, by decide, rfl, .inr (.inr ⟨rfl, rfl, rfl⟩),
      [.string "Tea"], rfl, .string "Tea", List.mem_singleton_self _, by decide⟩

end ContentFinder
