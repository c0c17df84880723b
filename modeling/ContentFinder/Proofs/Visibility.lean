import ContentFinder.Proofs.FieldCriteria
import ContentFinder.Proofs.Reading
import ContentFinder.Proofs.Searching
import ContentFinder.Proofs.StoreRun

/-! Contents that a reader may see. A criterion whose leaves are all asked in the languages of the
reader finds only contents that have one of these languages, so what a search shows is visible. -/

namespace ContentFinder

open Outcome

namespace Content

variable {schema : Schema} {content : Content} {doc : Document} {filter : LanguageFilter}

def KeepsToVersion (content : Content) : Prop :=
  ∀ field ∈ content.fields,
    field.language ∈ content.version.languages ∧ IsPlainCode field.language

instance (content : Content) : Decidable content.KeepsToVersion :=
  inferInstanceAs (Decidable (∀ field ∈ content.fields,
    field.language ∈ content.version.languages ∧ IsPlainCode field.language))

theorem isVisible_iff (restricted : filter.languages ≠ []) :
    content.isVisible filter = true ↔
      (∃ language ∈ filter.languages, language ∈ content.version.languages) ∨
        filter.useAlwaysAvailable = true ∧ content.info.alwaysAvailable = true ∧
          content.info.mainLanguage ∈ content.version.languages := by
  have notEmpty := LanguageFilter.isUnrestricted_eq_false restricted
  have asked : filter.languages.filter content.hasLanguage ≠ [] ↔
      ∃ language ∈ filter.languages, language ∈ content.version.languages := by
    rw [ne_eq, List.filter_eq_nil_iff]
    simp [hasLanguage]
  unfold isVisible visibleLanguages
  rw [notEmpty, ← asked]
  cases kept : filter.languages.filter content.hasLanguage with
  | nil =>
    dsimp only
    split_ifs with fallback <;> simp_all [hasLanguage]
  | cons first rest => simp

theorem isVisible_of_covers (restricted : filter.languages ≠ []) (keeps : content.KeepsToVersion)
    {projection : Projection}
    (looked : projection ∈ filter.projections true content.info.alwaysAvailable)
    {field : Field} (member : field ∈ content.fields)
    (covered : projection.covers content field = true) : content.isVisible filter = true := by
  have listed := (keeps field member).1
  have notEmpty := LanguageFilter.isUnrestricted_eq_false restricted
  unfold LanguageFilter.projections at looked
  rw [notEmpty] at looked
  rw [isVisible_iff restricted]
  rcases List.mem_append.1 looked with asked | fallback
  · obtain ⟨language, requested, rfl⟩ := List.mem_map.1 asked
    have same : field.language = language := by simpa [Projection.covers] using covered
    exact .inl ⟨language, requested, same ▸ listed⟩
  · split at fallback
    · rename_i allowed
      obtain rfl := List.mem_singleton.1 fallback
      have same : field.language = content.info.mainLanguage := by
        simpa [Projection.covers] using covered
      rw [Bool.and_eq_true] at allowed
      exact .inr ⟨allowed.1, allowed.2, same ▸ listed⟩
    · cases fallback

theorem isVisible_toContent (restricted : filter.languages ≠ [])
    (mapped : content.toDocument schema = .ok doc) {read : Content}
    (back : doc.toContent schema = .ok read) :
    read.isVisible filter = content.isVisible filter := by
  rw [Document.toContent_eq mapped] at back
  cases back
  rw [Bool.eq_iff_iff, isVisible_iff restricted, isVisible_iff restricted]
  simp only [List.mem_eraseDups]

end Content

namespace Criterion

variable {schema : Schema}

/-- Criteria that look at nothing but fields and texts in the languages of the reader. -/
inductive Expanded (schema : Schema) : Criterion → Prop where
  | matchNone : Expanded schema .matchNone
  | fullText (leaf : FullTextLeaf) : Expanded schema (.fullText leaf)
  | field (leaf : FieldLeaf)
      (own : ∀ contentType, leaf.overrides.get? contentType leaf.identifier = none)
      (multilingual : ∀ definition ∈ schema.definitionsFor leaf.identifier,
        definition.traits.searchable = true → definition.traits.multilingual = true) :
      Expanded schema (.field leaf)
  | allOf (children : List Criterion) (nonempty : children ≠ [])
      (each : ∀ child ∈ children, Expanded schema child) : Expanded schema (.allOf children)
  | anyOf (children : List Criterion)
      (each : ∀ child ∈ children, Expanded schema child) : Expanded schema (.anyOf children)

variable {content : Content} {doc : Document} {filter : LanguageFilter} {criterion : Criterion}
  {query : IndexQuery}

section Found

variable (restricted : filter.languages ≠ [])
  (plainFilter : ∀ language ∈ filter.languages, IsPlainCode language)
  (keeps : content.KeepsToVersion) (mapped : content.toDocument schema = .ok doc)

include restricted plainFilter keeps mapped

theorem isVisible_of_fullText {leaf : FullTextLeaf} (lowered : leaf.lower filter = .ok query)
    (matched : query.isMatch doc = true) : content.isVisible filter = true := by
  rw [FullTextLeaf.isMatch_lower lowered, isMatch_isAlwaysAvailable mapped] at matched
  obtain ⟨projection, looked, found⟩ := List.any_eq_true.1 matched
  obtain ⟨name, only, value, held⟩ := IndexQuery.exists_of_fullText found
  obtain rfl := List.mem_singleton.1 only
  obtain ⟨field, member, covered⟩ := Content.covers_of_mem_text
    (fun field member => (keeps field member).2)
    (LanguageFilter.plain_projections plainFilter looked) mapped held
  exact Content.isVisible_of_covers restricted keeps looked member covered

theorem isVisible_of_field {leaf : FieldLeaf}
    (own : ∀ contentType, leaf.overrides.get? contentType leaf.identifier = none)
    (multilingual : ∀ definition ∈ schema.definitionsFor leaf.identifier,
      definition.traits.searchable = true → definition.traits.multilingual = true)
    (lowered : leaf.lower schema filter = .ok query) (matched : query.isMatch doc = true) :
    content.isVisible filter = true := by
  rw [FieldLeaf.isMatch_lower own lowered] at matched
  obtain ⟨definition, listed, found⟩ := List.any_eq_true.1 matched
  obtain ⟨inSchema, searchable⟩ := List.mem_filter.1 listed
  have everyLanguage := multilingual definition inSchema searchable
  rw [FieldLeaf.findsIn, everyLanguage, isMatch_isAlwaysAvailable mapped] at found
  obtain ⟨projection, looked, found⟩ := List.any_eq_true.1 found
  obtain ⟨value, held, -⟩ := List.any_eq_true.1 found
  rw [FieldDefinition.indexName, if_pos everyLanguage] at held
  obtain ⟨field, member, covered⟩ := Content.covers_of_mem_projected
    (fun field member => (keeps field member).2)
    (LanguageFilter.plain_projections plainFilter looked) definition mapped held
  exact Content.isVisible_of_covers restricted keeps looked member covered

/-- What such a criterion finds is visible: some leaf was met under a projection of the reader, and
then a field of the content is in a language of the projection. -/
theorem isVisible_of_isMatch (expanded : criterion.Expanded schema)
    (lowered : criterion.lower schema filter = .ok query)
    (matched : query.isMatch doc = true) : content.isVisible filter = true := by
  induction expanded generalizing query with
  | matchNone =>
    cases lowered
    cases matched
  | fullText leaf =>
    exact isVisible_of_fullText restricted plainFilter keeps mapped lowered matched
  | field leaf own multilingual =>
    exact isVisible_of_field restricted plainFilter keeps mapped own multilingual lowered matched
  | allOf children nonempty each ih =>
    rw [lower_allOf] at lowered
    obtain ⟨queries, done, same⟩ := bind_eq_ok.1 lowered
    cases same
    rw [IndexQuery.isMatch_all, List.all_eq_true] at matched
    -- A conjunction has a member, and its query is met as well.
    cases mapM_eq_ok.1 done with
    | nil => exact absurd rfl nonempty
    | cons first later =>
      exact ih _ List.mem_cons_self first (matched _ List.mem_cons_self)
  | anyOf children each ih =>
    rw [lower_anyOf] at lowered
    obtain ⟨queries, done, same⟩ := bind_eq_ok.1 lowered
    cases same
    rw [IndexQuery.isMatch_any, List.any_eq_true] at matched
    obtain ⟨member, listed, found⟩ := matched
    obtain ⟨child, inside, made⟩ := exists_of_mem_mapM done listed
    exact ih child inside made found

end Found

end Criterion

/-- A criterion that is asked in the languages of the reader finds visible contents only. So a
search with it, over a store that was written through the finder, never lacks a language. -/
theorem Criterion.expanded_finds_visible {schema : Schema} {filter : LanguageFilter}
    {criterion : Criterion} (expanded : criterion.Expanded schema)
    (restricted : filter.languages ≠ [])
    (plainFilter : ∀ language ∈ filter.languages, IsPlainCode language) :
    (∀ (content : Content) (doc : Document) (query : IndexQuery), content.KeepsToVersion →
      content.toDocument schema = .ok doc → criterion.lower schema filter = .ok query →
      query.isMatch doc = true → content.isVisible filter = true) ∧
    ∀ finder : Finder, finder.schema = schema →
      ∀ acts : List Finder.Act,
        (∀ act ∈ acts, ∀ content ∈ act.contents, content.KeepsToVersion) →
      ∀ query : Query, query.filter = some criterion ∨ query.query = some criterion →
      ∀ missing,
        finder.find (finder.performAll acts) query filter ≠ .error (.notFound missing) := by
  have seen : ∀ (content : Content) (doc : Document) (query : IndexQuery),
      content.KeepsToVersion → content.toDocument schema = .ok doc →
      criterion.lower schema filter = .ok query → query.isMatch doc = true →
      content.isVisible filter = true :=
    fun content doc query keeps mapped lowered matched =>
      isVisible_of_isMatch restricted plainFilter keeps mapped expanded lowered matched
  refine ⟨seen, ?_⟩
  rintro finder rfl acts keeps query asked missing failed
  obtain ⟨request, doc, read, lowered, committed, filtered, matched, back, hidden⟩ :=
    Finder.find_eq_notFound failed
  have written : (finder.performAll acts).HoldsOnly fun doc => ∃ content : Content,
      content.KeepsToVersion ∧ content.toDocument finder.schema = .ok doc :=
    Finder.holdsOnly_performAll fun act member content given doc mapped =>
      ⟨content, keeps act member content given, mapped⟩
  obtain ⟨content, kept, mapped⟩ := written.committed doc committed
  have visible : content.isVisible filter = true := by
    obtain ⟨loweredFilter, loweredQuery, -⟩ := Query.lower_eq_ok lowered
    rcases asked with asFilter | asQuery
    · rw [asFilter] at loweredFilter
      exact seen content doc _ kept mapped loweredFilter filtered
    · rw [asQuery] at loweredQuery
      exact seen content doc _ kept mapped loweredQuery matched
  rw [Content.isVisible_toContent restricted mapped back, visible] at hidden
  cases hidden

namespace Sample

def finder : Finder := ⟨.direct, schema, ⟨100, 1000⟩, .sync⟩

def frenchFilter : LanguageFilter := ⟨["fre"], true⟩

def titleSearch : Query := Finder.singleQuery (.field titleLeaf)

theorem expanded_titleLeaf : (Criterion.field titleLeaf).Expanded schema :=
  .field titleLeaf (fun _ => rfl) (by decide)

end Sample

theorem Criterion.titleSearch_finds_visible :
    Sample.content.isVisible Sample.frenchFilter = true ∧
      ∀ missing, Sample.finder.find
        (Sample.finder.performAll [.index [Sample.content] .sync]) Sample.titleSearch
          Sample.frenchFilter ≠ .error (.notFound missing) :=
  have restricted : Sample.frenchFilter.languages ≠ [] := by decide
  have visible := Criterion.expanded_finds_visible Sample.expanded_titleLeaf restricted (by decide)
  ⟨visible.1 Sample.content Sample.document _ (by decide) Sample.mapped rfl (by decide),
    visible.2 Sample.finder rfl [.index [Sample.content] .sync] (by decide) Sample.titleSearch
      (.inl rfl)⟩

end ContentFinder
