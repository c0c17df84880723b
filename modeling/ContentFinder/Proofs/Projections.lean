import ContentFinder.Proofs.Distinct
import ContentFinder.Proofs.IndexedFields

/-! What a content is indexed by for its main language, and for all languages together, repeats what
it is indexed by in single languages. -/

namespace ContentFinder

open scoped List

namespace Content

variable {schema : Schema} {content : Content} {doc : Document} {base : String}

def fieldLanguages (content : Content) : List String :=
  IndexQuery.distinct (content.mainFirst.map (·.language))

/-- What a document holds under a base name for the main language and for all languages is what it
holds for the codes of these languages. -/
structure Agrees (content : Content) (doc : Document) (base : String) : Prop where
  main : doc.get (Projection.main.apply base) =
    doc.get ((Projection.code content.info.mainLanguage).apply base)
  all : (doc.get (Projection.any.apply base)).Perm
    (content.fieldLanguages.flatMap fun language =>
      doc.get ((Projection.code language).apply base))

theorem mem_fieldLanguages {language : String} :
    language ∈ content.fieldLanguages ↔ ∃ field ∈ content.fields, field.language = language := by
  simp only [fieldLanguages, IndexQuery.mem_distinct, List.mem_map, mem_mainFirst]

theorem perm_byLanguage (content : Content) :
    (content.fieldLanguages.flatMap fun language =>
      content.mainFirst.filter (·.language == language)).Perm content.mainFirst := by
  have groups := perm_flatMap_filter (IndexQuery.nodup_distinct (content.mainFirst.map (·.language)))
    Field.language content.mainFirst
  have every : content.mainFirst.filter (·.language ∈ content.fieldLanguages) =
      content.mainFirst := by
    rw [List.filter_eq_self]
    intro field member
    rw [decide_eq_true_iff, mem_fieldLanguages]
    exact ⟨field, mem_mainFirst.1 member, rfl⟩
  exact groups.trans (.of_eq every)

/-- Projections agree if each of them holds what the fields in its languages give. -/
theorem agrees_of_covers {share : Field → List IndexValue}
    (plainMain : IsPlainCode content.info.mainLanguage)
    (plainFields : ∀ field ∈ content.fields, IsPlainCode field.language)
    (held : ∀ projection : Projection, projection.IsPlain → doc.get (projection.apply base) =
      (content.mainFirst.filter (projection.covers content)).flatMap share) :
    content.Agrees doc base := by
  have codes : ∀ language ∈ content.fieldLanguages,
      doc.get ((Projection.code language).apply base) =
        (content.mainFirst.filter (·.language == language)).flatMap share := by
    intro language listed
    obtain ⟨field, member, rfl⟩ := mem_fieldLanguages.1 listed
    exact held (.code field.language) (plainFields field member)
  constructor
  case main =>
    -- Both cover the fields in the main language.
    exact (held .main trivial).trans (held (.code content.info.mainLanguage) plainMain).symm
  case all =>
    calc doc.get (Projection.any.apply base)
      _ = content.mainFirst.flatMap share := by
        rw [held .any trivial]
        congr 1
        exact List.filter_eq_self.2 fun _ _ => rfl
      _ ~ (content.fieldLanguages.flatMap fun language =>
            content.mainFirst.filter (·.language == language)).flatMap share :=
        (perm_byLanguage content).symm.flatMap_right share
      _ = content.fieldLanguages.flatMap fun language =>
            (content.mainFirst.filter (·.language == language)).flatMap share :=
        List.flatMap_assoc
      _ = content.fieldLanguages.flatMap fun language =>
            doc.get ((Projection.code language).apply base) :=
        List.flatMap_congr fun language listed => (codes language listed).symm

section Mapped

variable (plainFields : ∀ field ∈ content.fields, IsPlainCode field.language)
  (mapped : content.toDocument schema = .ok doc) {projection : Projection}
  (plain : projection.IsPlain)

include plainFields mapped plain

theorem get_projected_covers {target : FieldDefinition}
    (known : schema.definition? content.info.contentType target.identifier = some target)
    (searchable : target.traits.searchable = true)
    (multilingual : target.traits.multilingual = true) :
    doc.get (projection.apply target.baseName) =
      (content.mainFirst.filter (projection.covers content)).flatMap fun field =>
        if field.identifier == target.identifier then target.traits.kind.stored field.value
        else [] := by
  rw [get_projected_own known searchable multilingual plainFields plain mapped,
    ← List.filter_filter, flatMap_filter]

theorem get_text_covers :
    doc.get (projection.apply IndexName.text) =
      (content.mainFirst.filter (projection.covers content)).flatMap
        (content.textShare schema .any) := by
  rw [get_text plainFields plain mapped, flatMap_filter]
  congr 1
  funext field
  unfold textShare
  cases content.definition? schema field with
  | none => exact (ite_self _).symm
  | some definition => rfl

end Mapped

/-- In the document of a content with plain languages, the projections of each field that is
searched by language agree, and so do those of the text. -/
theorem projections_agree (mapped : content.toDocument schema = .ok doc)
    (plainMain : IsPlainCode content.info.mainLanguage)
    (plainFields : ∀ field ∈ content.fields, IsPlainCode field.language) :
    (∀ definition : FieldDefinition,
      schema.definition? content.info.contentType definition.identifier = some definition →
      definition.traits.searchable = true → definition.traits.multilingual = true →
      content.Agrees doc definition.baseName) ∧
    content.Agrees doc IndexName.text := by
  constructor
  · intro definition known searchable multilingual
    apply agrees_of_covers plainMain plainFields
    intro projection plain
    exact get_projected_covers plainFields mapped plain known searchable multilingual
  · apply agrees_of_covers plainMain plainFields
    intro projection plain
    exact get_text_covers plainFields mapped plain

theorem projections_agree_sample :
    Sample.content.Agrees Sample.document "article_title_value_s" ∧
    Sample.content.Agrees Sample.document IndexName.text ∧
    Sample.content.fieldLanguages = ["eng", "ger"] ∧
    Sample.document.get "article_title_value_s_main" = [.string "Tea"] ∧
    Sample.document.get "article_title_value_s_all" = [.string "Tea", .string "Tee"] := by
  have agree := projections_agree Sample.mapped (by decide) (by decide)
  have title := agree.1 ⟨"article", "title", .string, true, true⟩ rfl rfl rfl
  exact ⟨title, agree.2, by decide, rfl, rfl⟩

end Content

end ContentFinder
