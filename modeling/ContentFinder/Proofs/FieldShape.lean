import ContentFinder.Proofs.IndexedFields

/-! Every index name has values of one shape. A name tells the kind of the field that it belongs to,
so all documents of contents hold values of the same shape under it, and these can be compared. -/

namespace ContentFinder

open Outcome

inductive Shape where
  | string
  | integer
  | float
  | boolean
  | date
  | point
deriving DecidableEq

def IndexValue.shape : IndexValue → Shape
  | .string _ => .string
  | .integer _ => .integer
  | .float _ => .float
  | .boolean _ => .boolean
  | .date _ => .date
  | .point .. => .point

namespace FieldKind

def shape : FieldKind → Shape
  | .string | .text => .string
  | .integer => .integer
  | .float => .float
  | .boolean => .boolean
  | .date => .date
  | .geoLocation => .point

theorem shape_encode {kind : FieldKind} {value : FieldValue} {values : List IndexValue}
    (encoded : kind.encode value = .ok values) : ∀ stored ∈ values, stored.shape = kind.shape := by
  unfold encode at encoded
  split at encoded
  case h_7 moment =>
    cases encoded
    cases moment <;> simp [shape, IndexValue.shape]
  case h_9 latitude longitude _ =>
    split at encoded
    · cases encoded
      simp [shape, IndexValue.shape]
    · cases encoded
  case h_10 => cases encoded
  all_goals
    cases encoded
    simp [shape, IndexValue.shape]

theorem shape_stored {kind : FieldKind} {value : FieldValue} :
    ∀ stored ∈ kind.stored value, stored.shape = kind.shape := by
  unfold FieldKind.stored
  cases encoded : kind.encode value with
  | error failure => exact nofun
  | ok values => exact shape_encode encoded

end FieldKind

namespace IndexName

def header : List (String × Shape) :=
  [(id, .integer), (type, .integer), (typeIdentifier, .string), (version, .integer),
    (status, .integer), (name, .string), (creator, .integer), (sectionId, .integer),
    (remoteId, .string), (modified, .date), (published, .date), (mainLanguage, .string),
    (alwaysAvailable, .boolean), (language, .string), (path, .string), (location, .integer),
    (depth, .integer), (parent, .integer), (locationRemoteId, .string)]

/-- A name and the shape of what may stand under it, when no language code has an underscore. -/
inductive Holds : String → Shape → Prop where
  | header {name : String} {shape : Shape} (listed : (name, shape) ∈ header) : Holds name shape
  | text (projection : Projection) (free : '_' ∉ projection.label.toList) :
      Holds (projection.apply IndexName.text) .string
  | neutral (definition : FieldDefinition) :
      Holds definition.baseName definition.traits.kind.shape
  | projected (definition : FieldDefinition) (projection : Projection)
      (free : '_' ∉ projection.label.toList) :
      Holds (projection.apply definition.baseName) definition.traits.kind.shape

theorem mem_system_of_header {name : String} {shape : Shape} (listed : (name, shape) ∈ header) :
    name ∈ system :=
  List.mem_map_of_mem (f := (·.1)) listed

end IndexName

namespace FieldDefinition

/-- Two definitions with one base name are of one kind, even in different content types. -/
theorem kind_of_baseName {definition other : FieldDefinition}
    (same : definition.baseName = other.baseName) :
    definition.traits.kind = other.traits.kind := by
  rw [baseName_eq, baseName_eq, append_underscore_inj (FieldKind.suffix_free _)
    (FieldKind.suffix_free _)] at same
  exact FieldKind.suffix_injective same.2

end FieldDefinition

theorem Projection.base_of_apply {projection other : Projection} {base otherBase : String}
    (free : '_' ∉ projection.label.toList) (otherFree : '_' ∉ other.label.toList)
    (same : projection.apply base = other.apply otherBase) : base = otherBase := by
  rw [apply_eq, apply_eq, append_underscore_inj free otherFree] at same
  exact same.1

namespace IndexName.Holds

variable {name : String} {shape other : Shape}

theorem shape_of_header (listed : (name, shape) ∈ IndexName.header) (holds : Holds name other) :
    other = shape := by
  have system := mem_system_of_header listed
  cases holds with
  | header again =>
    have unique : ∀ entry ∈ IndexName.header, ∀ second ∈ IndexName.header,
        entry.1 = second.1 → entry.2 = second.2 := by decide
    exact unique _ again _ listed rfl
  | text projection free => exact absurd system (apply_text_not_system projection)
  | neutral definition => exact absurd system (baseName_not_system definition)
  | projected definition projection free =>
    exact absurd system (apply_baseName_not_system projection definition)

theorem shape_of_text {projection : Projection} (free : '_' ∉ projection.label.toList)
    (same : name = projection.apply IndexName.text) (holds : Holds name other) :
    other = .string := by
  cases holds with
  | header listed => exact absurd (same ▸ mem_system_of_header listed) (apply_text_not_system _)
  | text => rfl
  | neutral definition => exact absurd same (definition.baseName_ne_apply_text free)
  | projected definition second secondFree =>
    exact absurd (Projection.base_of_apply secondFree free same) definition.baseName_ne_text

theorem shape_of_neutral {definition : FieldDefinition} (same : name = definition.baseName)
    (holds : Holds name other) : other = definition.traits.kind.shape := by
  cases holds with
  | header listed => exact absurd (same ▸ mem_system_of_header listed) (baseName_not_system _)
  | text projection free => exact absurd same.symm (definition.baseName_ne_apply_text free)
  | neutral second => rw [FieldDefinition.kind_of_baseName same]
  | projected second projection free =>
    exact absurd same.symm (definition.baseName_ne_apply second free)

theorem shape_of_projected {definition : FieldDefinition} {projection : Projection}
    (free : '_' ∉ projection.label.toList) (same : name = projection.apply definition.baseName)
    (holds : Holds name other) : other = definition.traits.kind.shape := by
  cases holds with
  | header listed =>
    exact absurd (same ▸ mem_system_of_header listed) (apply_baseName_not_system _ _)
  | text second secondFree =>
    exact absurd (Projection.base_of_apply secondFree free same).symm definition.baseName_ne_text
  | neutral second => exact absurd same (second.baseName_ne_apply definition free)
  | projected second secondProjection secondFree =>
    rw [FieldDefinition.kind_of_baseName (Projection.base_of_apply secondFree free same)]

theorem unique (holds : Holds name shape) (second : Holds name other) : other = shape := by
  cases holds with
  | header listed => exact shape_of_header listed second
  | text projection free => exact shape_of_text free rfl second
  | neutral definition => exact shape_of_neutral rfl second
  | projected definition projection free => exact shape_of_projected free rfl second

end IndexName.Holds

namespace Document

def Shaped (doc : Document) : Prop :=
  ∀ name, ∀ value ∈ doc.get name, IndexName.Holds name value.shape

theorem mem_listed {name : String} {value : IndexValue} {entries : List (String × IndexValue)} :
    value ∈ listed name entries ↔ (name, value) ∈ entries := by
  simp only [listed, List.mem_filterMap]
  constructor
  · rintro ⟨entry, member, found⟩
    split_ifs at found with here
    cases found
    exact here ▸ member
  · intro member
    exact ⟨(name, value), member, if_pos rfl⟩

theorem exists_of_mem_written {name : String} {value : IndexValue}
    {entries : List (String × List IndexValue)} (member : value ∈ written name entries) :
    ∃ entry ∈ entries, entry.1 = name ∧ value ∈ entry.2 := by
  obtain ⟨entry, inside, found⟩ := List.mem_flatMap.1 member
  split_ifs at found with here
  · exact ⟨entry, inside, here, found⟩
  · cases found

end Document

namespace Content

variable {schema : Schema} {content : Content} {field : Field}

theorem holds_header : ∀ entry ∈ content.systemFields ++ content.languageFields ++
    content.locations.flatMap locationFields, (entry.1, entry.2.shape) ∈ IndexName.header := by
  intro entry member
  simp only [List.mem_append, List.mem_flatMap] at member
  rcases member with (single | language) | ⟨location, -, ofLocation⟩
  · have each : ∀ entry ∈ content.systemFields,
        (entry.1, entry.2.shape) ∈ IndexName.header := by
      simp [systemFields, IndexName.header, IndexValue.shape]
    exact each entry single
  · obtain ⟨code, -, rfl⟩ := List.mem_map.1 language
    simp [IndexName.header, IndexValue.shape]
  · have each : ∀ entry ∈ locationFields location,
        (entry.1, entry.2.shape) ∈ IndexName.header := by
      simp [locationFields, IndexName.header, IndexValue.shape]
    exact each entry ofLocation

theorem shaped_header (content : Content) : content.header.Shaped := by
  intro name value member
  rw [header, Document.get_foldl_add, Document.get_new, List.nil_append,
    Document.mem_listed] at member
  exact .header (holds_header _ member)

theorem holds_projected {base : String} {shape : Shape} {values : List IndexValue}
    (free : '_' ∉ field.language.toList)
    (holds : ∀ projection : Projection, '_' ∉ projection.label.toList →
      IndexName.Holds (projection.apply base) shape)
    (shapes : ∀ value ∈ values, value.shape = shape) :
    ∀ entry ∈ content.projected base field values, ∀ value ∈ entry.2,
      IndexName.Holds entry.1 value.shape := by
  intro entry member value held
  obtain ⟨projection, listed, rfl⟩ := exists_of_mem_projected member
  rw [shapes value held]
  exact holds projection (label_free_of_mem free listed)

theorem holds_entriesOf (free : '_' ∉ field.language.toList) (isFirst : Bool) :
    ∀ entry ∈ content.entriesOf schema isFirst field, ∀ value ∈ entry.2,
      IndexName.Holds entry.1 value.shape := by
  unfold entriesOf
  cases content.definition? schema field with
  | none => exact nofun
  | some definition =>
    have shapes := @FieldKind.shape_stored definition.traits.kind field.value
    refine List.forall_mem_append.2 ⟨?_, ?_⟩
    · unfold valueEntries
      split_ifs
      · exact holds_projected free (fun projection => .projected definition projection) shapes
      · refine List.forall_mem_singleton.2 fun value member => ?_
        rw [shapes value member]
        exact .neutral definition
      · exact nofun
    · unfold textEntries
      split
      · exact nofun
      · exact holds_projected free .text (List.forall_mem_singleton.2 rfl)

end Content

theorem Content.shaped_toDocument {schema : Schema} {content : Content} {doc : Document}
    (mapped : content.toDocument schema = .ok doc)
    (free : ∀ field ∈ content.fields, '_' ∉ field.language.toList) : doc.Shaped := by
  refine toDocument_induction mapped content.shaped_header ?_
  intro field member isFirst before after gained shaped name value held
  rw [gained name] at held
  obtain old | new := List.mem_append.1 held
  · exact shaped name value old
  · obtain ⟨entry, inside, rfl, listed⟩ := Document.exists_of_mem_written new
    exact holds_entriesOf (free field member) isFirst entry inside value listed

end ContentFinder
