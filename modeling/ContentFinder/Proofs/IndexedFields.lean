import Mathlib.Data.List.Find
import ContentFinder.Proofs.Definitions
import ContentFinder.Proofs.IndexEntries

/-! What the index document of a content holds under a name: first what the header has, then what
the fields in the main language give, then what the others give. The names of the header, of texts
and of the fields of different definitions do not meet as long as language codes are plain. -/

namespace ContentFinder

open Outcome

theorem flatMap_filter {α β : Type} (keep : α → Bool) (f : α → List β) (items : List α) :
    (items.filter keep).flatMap f = items.flatMap fun item => if keep item then f item else [] := by
  induction items with
  | nil => rfl
  | cons item rest ih => by_cases kept : keep item = true <;> simp [kept, ih]

namespace Content

variable {schema : Schema} {content : Content} {field : Field} {doc : Document}

theorem mem_mainFirst : field ∈ content.mainFirst ↔ field ∈ content.fields := by
  by_cases isMain : field.language = content.info.mainLanguage <;> simp [mainFirst, isMain]

theorem filter_mainFirst (content : Content) (identifier language : String) :
    (content.mainFirst.filter fun field =>
      field.identifier == identifier && field.language == language) =
      content.fields.filter fun field =>
        field.identifier == identifier && field.language == language := by
  rw [mainFirst, List.filter_append, List.filter_filter, List.filter_filter]
  by_cases isMain : language = content.info.mainLanguage
  · have none : (content.fields.filter fun field =>
        (field.identifier == identifier && field.language == language) &&
          !(field.language == content.info.mainLanguage)) = [] := by
      simp [isMain]
    rw [none, List.append_nil]
    refine List.filter_congr fun field _ => ?_
    by_cases same : field.language = language <;> simp [same, isMain]
  · have none : (content.fields.filter fun field =>
        (field.identifier == identifier && field.language == language) &&
          field.language == content.info.mainLanguage) = [] := by
      rw [List.filter_eq_nil_iff]
      intro field _ kept
      simp only [Bool.and_eq_true, beq_iff_eq] at kept
      exact isMain (kept.1.2.symm.trans kept.2)
    rw [none, List.nil_append]
    refine List.filter_congr fun field _ => ?_
    by_cases same : field.language = language <;> simp [same, isMain]

theorem toDocument_eq_ok :
    content.toDocument schema = .ok doc ↔ ∃ final,
      content.mainFirst.foldlM (Draft.addField schema content) ⟨content.header, []⟩ = .ok final ∧
        final.doc = doc := by
  simp only [toDocument, bind_eq_ok, pure, Except.pure, Except.ok.injEq]

theorem id_toDocument (mapped : content.toDocument schema = .ok doc) :
    doc.id = Number.wordText content.id := by
  obtain ⟨final, run, rfl⟩ := toDocument_eq_ok.1 mapped
  rw [Draft.id_foldlM run]
  exact Document.id_foldl_add _ _

/-- What holds of the header and stays true when the entries of a field are added holds of the
document. -/
theorem toDocument_induction {motive : Document → Prop}
    (mapped : content.toDocument schema = .ok doc) (start : motive content.header)
    (step : ∀ field ∈ content.fields, ∀ (isFirst : Bool) (before after : Document),
      (∀ name, after.get name =
        before.get name ++ Document.written name (content.entriesOf schema isFirst field)) →
      motive before → motive after) : motive doc := by
  obtain ⟨final, run, rfl⟩ := toDocument_eq_ok.1 mapped
  generalize content.header = header at run start
  refine Draft.foldlM_induction (motive := motive) ?_ run start
  intro field member
  exact step field (mem_mainFirst.1 member)

theorem get_toDocument {name : String} {share : Field → List IndexValue}
    (each : ∀ field ∈ content.fields, ∀ isFirst,
      Document.written name (content.entriesOf schema isFirst field) = share field)
    (mapped : content.toDocument schema = .ok doc) :
    doc.get name = content.header.get name ++ content.mainFirst.flatMap share := by
  obtain ⟨final, run, rfl⟩ := toDocument_eq_ok.1 mapped
  have held := Draft.get_foldlM (fun field member => each field (mem_mainFirst.1 member)) run
  dsimp only at held
  exact held

/-! The header. -/

theorem get_header (content : Content) (name : String) :
    content.header.get name = Document.listed name content.systemFields ++
      Document.listed name content.languageFields ++
        Document.listed name (content.locations.flatMap locationFields) := by
  rw [header, Document.get_foldl_add, Document.get_new, List.nil_append, Document.listed_append,
    Document.listed_append]

theorem map_systemFields (content : Content) :
    content.systemFields.map (·.1) = IndexName.single := rfl

theorem listed_systemFields {name : String} {value : IndexValue}
    (member : (name, value) ∈ content.systemFields) :
    Document.listed name content.systemFields = [value] := by
  have apart : (content.systemFields.map (·.1)).Pairwise (· ≠ ·) := by
    rw [map_systemFields]
    decide
  exact Document.listed_of_mem (List.pairwise_map.1 apart) member

theorem listed_systemFields_other {name : String} (other : name ∉ IndexName.single) :
    Document.listed name content.systemFields = [] := by
  refine Document.listed_eq_nil fun entry member same => other ?_
  rw [← same, ← map_systemFields content]
  exact List.mem_map_of_mem member

theorem listed_languageFields (content : Content) :
    Document.listed IndexName.language content.languageFields =
      (IndexQuery.distinct content.version.languages).map .string := by
  simp [Document.listed, languageFields]

theorem listed_languageFields_other {name : String} (other : name ≠ IndexName.language) :
    Document.listed name content.languageFields = [] := by
  refine Document.listed_eq_nil fun entry member same => other ?_
  obtain ⟨code, -, rfl⟩ := List.mem_map.1 member
  exact same.symm

theorem listed_locations {name : String} {value : Location → IndexValue}
    (each : ∀ location, Document.listed name (locationFields location) = [value location])
    (locations : List Location) :
    Document.listed name (locations.flatMap locationFields) = locations.map value := by
  induction locations with
  | nil => rfl
  | cons location rest ih =>
    rw [List.flatMap_cons, Document.listed_append, each, ih, List.map_cons, List.singleton_append]

theorem listed_locations_other {name : String} (other : name ∉ IndexName.ofLocation)
    (locations : List Location) :
    Document.listed name (locations.flatMap locationFields) = [] := by
  refine Document.listed_eq_nil fun entry member same => other ?_
  obtain ⟨location, -, inside⟩ := List.mem_flatMap.1 member
  have names : (locationFields location).map (·.1) = IndexName.ofLocation := rfl
  rw [← same, ← names]
  exact List.mem_map_of_mem inside

theorem get_header_other {name : String} (other : name ∉ IndexName.system) :
    content.header.get name = [] := by
  simp only [IndexName.system, List.mem_append, List.mem_cons, not_or] at other
  obtain ⟨notSingle, notLanguage, notLocation⟩ := other
  rw [get_header, listed_systemFields_other notSingle, listed_languageFields_other notLanguage,
    listed_locations_other notLocation]
  rfl

/-! The fields. -/

def projectedShare (schema : Schema) (content : Content) (projection : Projection)
    (base : String) (field : Field) : List IndexValue :=
  match content.definition? schema field with
  | none => []
  | some definition =>
    if definition.traits.multilingual && definition.baseName == base &&
        projection.covers content field then
      definition.traits.kind.stored field.value
    else []

def textShare (schema : Schema) (content : Content) (projection : Projection) (field : Field) :
    List IndexValue :=
  match content.definition? schema field with
  | none => []
  | some definition =>
    if projection.covers content field then
      (definition.traits.kind.fullText? field.value).toList.map .string
    else []

theorem written_entriesOf_projected (plainField : IsPlainCode field.language)
    {projection : Projection} (plain : projection.IsPlain) (target : FieldDefinition)
    (isFirst : Bool) :
    Document.written (projection.apply target.baseName) (content.entriesOf schema isFirst field) =
      content.projectedShare schema projection target.baseName field := by
  unfold entriesOf projectedShare
  cases content.definition? schema field with
  | none => rfl
  | some definition =>
    have text : Document.written (projection.apply target.baseName)
        (content.textEntries definition field) = [] := by
      unfold textEntries
      split
      · rfl
      · refine written_projected_apart (fun other member same => ?_) _
        exact target.baseName_ne_text
          ((Projection.apply_inj (plain_of_mem plainField member) plain _ _).1 same).2.symm
    rw [Document.written_append, text, List.append_nil]
    unfold valueEntries
    by_cases multilingual : definition.traits.multilingual = true
    · rw [if_pos multilingual, written_projected plain plainField]
      simp [multilingual]
    · have apart : definition.baseName ≠ projection.apply target.baseName :=
        definition.baseName_ne_apply target (Projection.label_free plain)
      rw [if_neg multilingual]
      cases isFirst <;> simp [multilingual, Document.written, apart]

theorem written_entriesOf_text (plainField : IsPlainCode field.language)
    {projection : Projection} (plain : projection.IsPlain) (isFirst : Bool) :
    Document.written (projection.apply IndexName.text) (content.entriesOf schema isFirst field) =
      content.textShare schema projection field := by
  unfold entriesOf textShare
  cases content.definition? schema field with
  | none => rfl
  | some definition =>
    have values : Document.written (projection.apply IndexName.text)
        (content.valueEntries definition isFirst field
          (definition.traits.kind.stored field.value)) = [] := by
      unfold valueEntries
      split
      · refine written_projected_apart (fun other member same => ?_) _
        exact definition.baseName_ne_text
          ((Projection.apply_inj (plain_of_mem plainField member) plain _ _).1 same).2
      · split
        · simp [Document.written, definition.baseName_ne_apply_text (Projection.label_free plain)]
        · rfl
    rw [Document.written_append, values, List.nil_append]
    unfold textEntries
    cases text : definition.traits.kind.fullText? field.value with
    | none => simp [text, Document.written]
    | some words => simp [text, written_projected plain plainField]

theorem written_entriesOf_baseName (plainField : IsPlainCode field.language)
    (target : FieldDefinition) (isFirst : Bool) :
    Document.written target.baseName (content.entriesOf schema isFirst field) =
      match content.definition? schema field with
      | none => []
      | some definition =>
        if definition.baseName = target.baseName ∧ definition.traits.multilingual = false ∧
            isFirst = true then
          definition.traits.kind.stored field.value
        else [] := by
  unfold entriesOf
  cases content.definition? schema field with
  | none => rfl
  | some definition =>
    have text : Document.written target.baseName (content.textEntries definition field) = [] := by
      unfold textEntries
      split
      · rfl
      · refine written_projected_apart (fun other member same => ?_) _
        exact target.baseName_ne_apply_text
          (Projection.label_free (plain_of_mem plainField member)) same.symm
    rw [Document.written_append, text, List.append_nil]
    unfold valueEntries
    by_cases multilingual : definition.traits.multilingual = true
    · rw [if_pos multilingual, written_projected_apart]
      · simp [multilingual]
      · intro other member same
        exact target.baseName_ne_apply definition
          (Projection.label_free (plain_of_mem plainField member)) same.symm
    · rw [if_neg multilingual]
      cases isFirst <;> simp [multilingual, Document.written]

theorem written_entriesOf_system {name : String} (system : name ∈ IndexName.system)
    (isFirst : Bool) : Document.written name (content.entriesOf schema isFirst field) = [] := by
  unfold entriesOf
  cases content.definition? schema field with
  | none => rfl
  | some definition =>
    have text : Document.written name (content.textEntries definition field) = [] := by
      unfold textEntries
      split
      · rfl
      · exact written_projected_apart
          (fun other _ same => IndexName.apply_text_not_system other (same ▸ system)) _
    rw [Document.written_append, text, List.append_nil]
    unfold valueEntries
    split
    · exact written_projected_apart
        (fun other _ same => IndexName.apply_baseName_not_system other definition (same ▸ system)) _
    · split
      · refine Document.written_eq_nil fun entry member same => ?_
        obtain rfl := List.mem_singleton.1 member
        subst same
        exact IndexName.baseName_not_system definition system
      · rfl

/-! What a document holds. -/

theorem get_projected (plainFields : ∀ field ∈ content.fields, IsPlainCode field.language)
    {projection : Projection} (plain : projection.IsPlain) (target : FieldDefinition)
    (mapped : content.toDocument schema = .ok doc) :
    doc.get (projection.apply target.baseName) =
      content.mainFirst.flatMap (content.projectedShare schema projection target.baseName) := by
  rw [get_toDocument (fun field member isFirst =>
    written_entriesOf_projected (plainFields field member) plain target isFirst) mapped,
    get_header_other (IndexName.apply_baseName_not_system projection target), List.nil_append]

theorem get_text (plainFields : ∀ field ∈ content.fields, IsPlainCode field.language)
    {projection : Projection} (plain : projection.IsPlain)
    (mapped : content.toDocument schema = .ok doc) :
    doc.get (projection.apply IndexName.text) =
      content.mainFirst.flatMap (content.textShare schema projection) := by
  rw [get_toDocument (fun field member isFirst =>
    written_entriesOf_text (plainFields field member) plain isFirst) mapped,
    get_header_other (IndexName.apply_text_not_system projection), List.nil_append]

theorem get_system {name : String} (system : name ∈ IndexName.system)
    (mapped : content.toDocument schema = .ok doc) : doc.get name = content.header.get name := by
  rw [get_toDocument (fun field _ isFirst => written_entriesOf_system system isFirst) mapped,
    List.flatMap_eq_nil_iff.2 fun _ _ => rfl, List.append_nil]

theorem get_single {name : String} {value : IndexValue}
    (member : (name, value) ∈ content.systemFields) (mapped : content.toDocument schema = .ok doc) :
    doc.get name = [value] := by
  have single : name ∈ IndexName.single := by
    rw [← map_systemFields content]
    exact List.mem_map_of_mem member
  have apart : ∀ name ∈ IndexName.single, name ≠ IndexName.language ∧
      name ∉ IndexName.ofLocation := by decide
  obtain ⟨notLanguage, notLocation⟩ := apart name single
  rw [get_system (List.mem_append_left _ single) mapped, get_header, listed_systemFields member,
    listed_languageFields_other notLanguage, listed_locations_other notLocation]
  rfl

theorem get_language (mapped : content.toDocument schema = .ok doc) :
    doc.get IndexName.language =
      (IndexQuery.distinct content.version.languages).map .string := by
  have notSingle : IndexName.language ∉ IndexName.single := by decide
  have notLocation : IndexName.language ∉ IndexName.ofLocation := by decide
  rw [get_system (by decide) mapped, get_header, listed_systemFields_other notSingle,
    listed_languageFields, listed_locations_other notLocation, List.nil_append, List.append_nil]

theorem get_ofLocation {name : String} {value : Location → IndexValue}
    (member : name ∈ IndexName.ofLocation)
    (each : ∀ location, Document.listed name (locationFields location) = [value location])
    (mapped : content.toDocument schema = .ok doc) :
    doc.get name = content.locations.map value := by
  have apart : ∀ name ∈ IndexName.ofLocation, name ∉ IndexName.single ∧
      name ≠ IndexName.language := by decide
  obtain ⟨notSingle, notLanguage⟩ := apart name member
  rw [get_system (List.mem_append_right _ (List.mem_cons_of_mem _ member)) mapped, get_header,
    listed_systemFields_other notSingle, listed_languageFields_other notLanguage,
    listed_locations each, List.nil_append, List.nil_append]

theorem encode_toDocument (mapped : content.toDocument schema = .ok doc)
    (member : field ∈ content.fields) {definition : FieldDefinition}
    (found : content.definition? schema field = some definition) :
    definition.traits.kind.encode field.value =
      .ok (definition.traits.kind.stored field.value) := by
  obtain ⟨final, run, -⟩ := toDocument_eq_ok.1 mapped
  exact Draft.encode_foldlM run field (mem_mainFirst.2 member) definition found

theorem covers_of_mem_projected
    (plainFields : ∀ field ∈ content.fields, IsPlainCode field.language)
    {projection : Projection} (plain : projection.IsPlain) (target : FieldDefinition)
    (mapped : content.toDocument schema = .ok doc) {value : IndexValue}
    (member : value ∈ doc.get (projection.apply target.baseName)) :
    ∃ field ∈ content.fields, projection.covers content field = true := by
  rw [get_projected plainFields plain target mapped] at member
  obtain ⟨field, inside, share⟩ := List.mem_flatMap.1 member
  refine ⟨field, mem_mainFirst.1 inside, ?_⟩
  unfold projectedShare at share
  split at share
  · cases share
  · split at share
    · simp_all
    · cases share

theorem covers_of_mem_text
    (plainFields : ∀ field ∈ content.fields, IsPlainCode field.language)
    {projection : Projection} (plain : projection.IsPlain)
    (mapped : content.toDocument schema = .ok doc) {value : IndexValue}
    (member : value ∈ doc.get (projection.apply IndexName.text)) :
    ∃ field ∈ content.fields, projection.covers content field = true := by
  rw [get_text plainFields plain mapped] at member
  obtain ⟨field, inside, share⟩ := List.mem_flatMap.1 member
  refine ⟨field, mem_mainFirst.1 inside, ?_⟩
  unfold textShare at share
  split at share
  · cases share
  · split at share
    · assumption
    · cases share

/-! The fields of one definition of the content type. -/

/-- The field that a language-neutral definition is indexed by: the first in the main language, or
else the first. -/
def neutralField? (content : Content) (identifier : String) : Option Field :=
  (content.fieldIn? identifier content.info.mainLanguage).or (content.field? identifier)

theorem find?_filter_language (content : Content) (identifier language : String) :
    (content.fields.filter (·.language == language)).find? (·.identifier == identifier) =
      content.fieldIn? identifier language := by
  rw [List.find?_filter, fieldIn?]
  congr 1
  funext field
  rw [Bool.decide_and, Bool.decide_eq_true, Bool.decide_eq_true, Bool.and_comm]

theorem find?_mainFirst (content : Content) (identifier : String) :
    content.mainFirst.find? (·.identifier == identifier) = content.neutralField? identifier := by
  rw [mainFirst, List.find?_append, find?_filter_language, neutralField?]
  cases main : content.fieldIn? identifier content.info.mainLanguage with
  | some field => rfl
  | none =>
    rw [Option.none_or, Option.none_or, List.find?_filter, field?]
    have noMain := List.find?_eq_none.1 main
    refine List.find?_congr fun field member => ?_
    have here := noMain field member
    by_cases same : field.identifier = identifier
    · simp_all
    · simp [same]

section Own

variable {target : FieldDefinition}
  (known : schema.definition? content.info.contentType target.identifier = some target)
  (searchable : target.traits.searchable = true)

include known searchable

theorem definition?_of_known (same : field.identifier = target.identifier) :
    content.definition? schema field = some target :=
  definition?_eq_some.2 ⟨same ▸ known, searchable⟩

theorem baseName_eq_iff {definition : FieldDefinition}
    (found : content.definition? schema field = some definition) :
    definition.baseName = target.baseName ↔ field.identifier = target.identifier := by
  obtain ⟨type, identifier⟩ := Schema.names_of_definition? (definition?_eq_some.1 found).1
  obtain ⟨targetType, -⟩ := Schema.names_of_definition? known
  constructor
  · intro same
    rw [← identifier]
    exact (FieldDefinition.baseName_inj (type.trans targetType.symm) same).1
  · intro same
    rw [definition?_of_known known searchable same] at found
    rw [Option.some.inj found]

theorem get_projected_own (multilingual : target.traits.multilingual = true)
    (plainFields : ∀ field ∈ content.fields, IsPlainCode field.language)
    {projection : Projection} (plain : projection.IsPlain)
    (mapped : content.toDocument schema = .ok doc) :
    doc.get (projection.apply target.baseName) =
      (content.mainFirst.filter fun field => field.identifier == target.identifier &&
        projection.covers content field).flatMap (target.traits.kind.stored ·.value) := by
  rw [get_projected plainFields plain target mapped, flatMap_filter]
  congr 1
  funext field
  unfold projectedShare
  cases found : content.definition? schema field with
  | none =>
    have apart : field.identifier ≠ target.identifier := fun same => by
      rw [definition?_of_known known searchable same] at found
      cases found
    simp [apart]
  | some definition =>
    by_cases same : field.identifier = target.identifier
    · rw [definition?_of_known known searchable same] at found
      cases found
      simp [same, multilingual]
    · have apart : definition.baseName ≠ target.baseName :=
        fun names => same ((baseName_eq_iff known searchable found).1 names)
      simp [same, apart]

theorem get_neutral_own (neutral : target.traits.multilingual = false)
    (plainFields : ∀ field ∈ content.fields, IsPlainCode field.language)
    (mapped : content.toDocument schema = .ok doc) :
    doc.get target.baseName =
      (content.neutralField? target.identifier).elim [] (target.traits.kind.stored ·.value) := by
  obtain ⟨final, run, rfl⟩ := toDocument_eq_ok.1 mapped
  have held := Draft.get_foldlM_neutral
    (fun field _ same => definition?_of_known known searchable same) neutral
    (fun field member isFirst => ?_) run
  · dsimp only at held
    rw [held, get_header_other (IndexName.baseName_not_system target), List.nil_append,
      if_neg List.not_mem_nil, find?_mainFirst]
  · rw [written_entriesOf_baseName (plainFields field (mem_mainFirst.1 member))]
    cases found : content.definition? schema field with
    | none =>
      have apart : field.identifier ≠ target.identifier := fun same => by
        rw [definition?_of_known known searchable same] at found
        cases found
      simp [apart]
    | some definition =>
      by_cases same : field.identifier = target.identifier
      · rw [definition?_of_known known searchable same] at found
        cases found
        simp [same, neutral]
      · have apart : definition.baseName ≠ target.baseName :=
          fun names => same ((baseName_eq_iff known searchable found).1 names)
        simp [same, apart]

end Own

end Content

/-! A small schema, and a content with a language-neutral field and a field in two languages. -/

namespace Sample

def definitions : List FieldDefinition := [
  ⟨"article", "title", .string, true, true⟩,
  ⟨"article", "code", .integer, false, true⟩,
  ⟨"note", "title", .text, true, true⟩]

def content : Content where
  info := {
    id := 7
    contentTypeId := 2
    contentType := "article"
    name := "Tea"
    sectionId := 1
    remoteId := "r7"
    mainLanguage := "eng"
    alwaysAvailable := true
    modified := ⟨1700000000, 5, by decide, by decide⟩
    published := ⟨1600000000, 0, by decide, by decide⟩ }
  version := ⟨3, .published, 14, ["ger", "eng", "ger"]⟩
  locations := [⟨42, "/1/42/", 2, 1, "l42"⟩]
  fields := [
    ⟨"title", "ger", .text "Tee"⟩,
    ⟨"code", "ger", .integer 5⟩,
    ⟨"title", "eng", .text "Tea"⟩,
    ⟨"code", "eng", .integer 6⟩]

def schema : Schema :=
  (Schema.ofDefinitions definitions).toOption.getD .empty

def document : Document :=
  (content.toDocument schema).toOption.getD (.new "")

theorem built : Schema.ofDefinitions definitions = .ok schema := rfl

theorem mapped : content.toDocument schema = .ok document := rfl

end Sample

end ContentFinder
