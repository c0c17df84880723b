import ContentFinder.Field.Schema
import ContentFinder.Index.Document

/-! The names of index fields. An underscore joins the parts of a name, so a name can be taken
apart from its end as long as the language code that stands there has no underscore itself. -/

namespace ContentFinder

/-- A language code that is no other part of an index name. -/
structure IsPlainCode (code : String) : Prop where
  free : '_' ∉ code.toList
  notMain : code ≠ "main"
  notAll : code ≠ "all"

instance (code : String) : Decidable (IsPlainCode code) :=
  decidable_of_iff ('_' ∉ code.toList ∧ code ≠ "main" ∧ code ≠ "all")
    ⟨fun ⟨free, notMain, notAll⟩ => ⟨free, notMain, notAll⟩,
      fun plain => ⟨plain.free, plain.notMain, plain.notAll⟩⟩

theorem append_underscore_inj {front other back rest : String} (free : '_' ∉ back.toList)
    (otherFree : '_' ∉ rest.toList) :
    front ++ "_" ++ back = other ++ "_" ++ rest ↔ front = other ∧ back = rest := by
  constructor
  · intro same
    have chars : front.toList ++ '_' :: back.toList = other.toList ++ '_' :: rest.toList := by
      simpa using congrArg String.toList same
    rcases List.append_eq_append_iff.1 chars with ⟨middle, first, second⟩ | ⟨middle, first, second⟩
    · cases middle with
      | nil =>
        rw [List.append_nil] at first
        exact ⟨String.toList_inj.1 first.symm, String.toList_inj.1 (List.cons.inj second).2⟩
      | cons c middle =>
        have inside : '_' ∈ back.toList := by rw [(List.cons.inj second).2]; simp
        exact absurd inside free
    · cases middle with
      | nil =>
        rw [List.append_nil] at first
        exact ⟨String.toList_inj.1 first, String.toList_inj.1 (List.cons.inj second).2.symm⟩
      | cons c middle =>
        have inside : '_' ∈ rest.toList := by rw [(List.cons.inj second).2]; simp
        exact absurd inside otherFree
  · rintro ⟨rfl, rfl⟩
    rfl

namespace FieldKind

theorem suffix_free (kind : FieldKind) : '_' ∉ kind.suffix.toList := by
  cases kind <;> decide

theorem suffix_injective {kind other : FieldKind} (same : kind.suffix = other.suffix) :
    kind = other := by
  cases kind <;> cases other <;> first | rfl | exact absurd same (by decide)

end FieldKind

namespace Projection

def label : Projection → String
  | .code language => language
  | .main => "main"
  | .any => "all"

def IsPlain : Projection → Prop
  | .code language => IsPlainCode language
  | .main | .any => True

theorem apply_eq (projection : Projection) (base : String) :
    projection.apply base = base ++ "_" ++ projection.label := by
  cases projection <;> simp [apply, label, String.append_assoc]

theorem label_free {projection : Projection} (plain : projection.IsPlain) :
    '_' ∉ projection.label.toList := by
  cases projection with
  | code language => exact plain.free
  | main => decide
  | any => decide

theorem label_injective {projection other : Projection} (plain : projection.IsPlain)
    (otherPlain : other.IsPlain) (same : projection.label = other.label) : projection = other := by
  cases projection <;> cases other
  case code.code => exact congrArg code same
  case code.main => exact absurd same plain.notMain
  case code.any => exact absurd same plain.notAll
  case main.code => exact absurd same.symm otherPlain.notMain
  case any.code => exact absurd same.symm otherPlain.notAll
  case main.any => exact absurd same (by decide)
  case any.main => exact absurd same (by decide)
  all_goals rfl

theorem apply_inj {projection other : Projection} (plain : projection.IsPlain)
    (otherPlain : other.IsPlain) (base otherBase : String) :
    projection.apply base = other.apply otherBase ↔ projection = other ∧ base = otherBase := by
  rw [apply_eq, apply_eq, append_underscore_inj (label_free plain) (label_free otherPlain)]
  constructor
  · rintro ⟨sameBase, sameLabel⟩
    exact ⟨label_injective plain otherPlain sameLabel, sameBase⟩
  · rintro ⟨rfl, rfl⟩
    exact ⟨rfl, rfl⟩

end Projection

namespace FieldDefinition

def stem (definition : FieldDefinition) : String :=
  definition.contentType ++ "_" ++ definition.identifier ++ "_value"

theorem baseName_eq (definition : FieldDefinition) :
    definition.baseName = definition.stem ++ "_" ++ definition.traits.kind.suffix := by
  have split : "_value_" = "_value" ++ "_" := by decide
  simp only [baseName, stem, split, String.append_assoc]

/-- Within a content type a base name tells the field. -/
theorem baseName_inj {definition other : FieldDefinition}
    (sameType : definition.contentType = other.contentType)
    (same : definition.baseName = other.baseName) :
    definition.identifier = other.identifier ∧ definition.traits.kind = other.traits.kind := by
  rw [baseName_eq, baseName_eq, append_underscore_inj (FieldKind.suffix_free _)
    (FieldKind.suffix_free _), stem, stem, sameType] at same
  exact ⟨by simpa using same.1, FieldKind.suffix_injective same.2⟩

/-- A base name ends in a kind that stands behind the word "value", and a projected name has the
kind in the place of that word. -/
theorem baseName_ne_apply (definition other : FieldDefinition) {projection : Projection}
    (free : '_' ∉ projection.label.toList) :
    definition.baseName ≠ projection.apply other.baseName := by
  intro same
  rw [baseName_eq, Projection.apply_eq, append_underscore_inj (FieldKind.suffix_free _) free,
    stem, baseName_eq] at same
  have word : "_value" = "_" ++ "value" := by decide
  rw [word, ← String.append_assoc, append_underscore_inj (by decide)
    (FieldKind.suffix_free _)] at same
  have different : ∀ kind : FieldKind, "value" ≠ kind.suffix := by
    intro kind
    cases kind <;> decide
  exact different _ same.1.2

theorem count_baseName (definition : FieldDefinition) :
    3 ≤ definition.baseName.toList.count '_' := by
  have word : "_value_".toList.count '_' = 2 := by decide
  have bar : "_".toList.count '_' = 1 := by decide
  simp only [baseName, String.toList_append, List.count_append, word, bar]
  omega

end FieldDefinition

theorem Projection.count_apply_baseName (projection : Projection) (definition : FieldDefinition) :
    3 ≤ (projection.apply definition.baseName).toList.count '_' := by
  have base := definition.count_baseName
  rw [apply_eq]
  simp only [String.toList_append, List.count_append]
  omega

theorem Projection.count_apply_text {projection : Projection}
    (free : '_' ∉ projection.label.toList) :
    (projection.apply IndexName.text).toList.count '_' = 1 := by
  have base : IndexName.text.toList.count '_' = 0 := by decide
  have bar : "_".toList.count '_' = 1 := by decide
  have label := List.count_eq_zero.2 free
  rw [apply_eq]
  simp only [String.toList_append, List.count_append, base, bar, label]

theorem FieldDefinition.baseName_ne_text (definition : FieldDefinition) :
    definition.baseName ≠ IndexName.text := by
  intro same
  have count := definition.count_baseName
  rw [same] at count
  exact absurd count (by decide)

theorem FieldDefinition.baseName_ne_apply_text (definition : FieldDefinition)
    {projection : Projection} (free : '_' ∉ projection.label.toList) :
    definition.baseName ≠ projection.apply IndexName.text := by
  intro same
  have count := definition.count_baseName
  rw [same, Projection.count_apply_text free] at count
  omega

namespace IndexName

def single : List String :=
  [id, type, typeIdentifier, version, status, name, creator, sectionId, remoteId, modified,
    published, mainLanguage, alwaysAvailable]

def ofLocation : List String :=
  [path, location, depth, parent, locationRemoteId]

def system : List String :=
  single ++ language :: ofLocation

theorem count_system {field : String} (member : field ∈ system) :
    field.toList.count '_' ≤ 2 := by
  have every : ∀ field ∈ system, field.toList.count '_' ≤ 2 := by decide
  exact every field member

theorem baseName_not_system (definition : FieldDefinition) : definition.baseName ∉ system := by
  intro member
  have most := count_system member
  have least := definition.count_baseName
  omega

theorem apply_baseName_not_system (projection : Projection) (definition : FieldDefinition) :
    projection.apply definition.baseName ∉ system := by
  intro member
  have most := count_system member
  have least := projection.count_apply_baseName definition
  omega

theorem apply_text_not_system (projection : Projection) : projection.apply text ∉ system := by
  intro member
  have opening : (projection.apply text).toList.take 5 = "text_".toList := by
    rw [Projection.apply_eq, String.toList_append]
    rfl
  have every : ∀ field ∈ system, field.toList.take 5 ≠ "text_".toList := by decide
  exact every _ member opening

end IndexName

end ContentFinder
