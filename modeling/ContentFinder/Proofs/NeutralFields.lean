import ContentFinder.Proofs.VisibleLanguages

/-! What is shown of the language-neutral fields of a hit. They are read back in the main language
of the content, so a reader is shown them just when the content is shown in that language. -/

namespace ContentFinder

open Outcome

namespace Document

variable {doc : Document} {main : String} {languages : List String} {definition : FieldDefinition}

theorem identifier_of_fieldsOf {field : Field}
    (member : field ∈ doc.fieldsOf main languages definition) :
    field.identifier = definition.identifier := by
  unfold fieldsOf at member
  dsimp only at member
  split_ifs at member
  · cases member
  · obtain ⟨language, -, made⟩ := List.mem_filterMap.1 member
    obtain ⟨value, -, rfl⟩ := Option.map_eq_some_iff.1 made
    rfl
  · obtain ⟨value, -, rfl⟩ := Option.map_eq_some_iff.1 (Option.mem_toList.1 member)
    rfl

theorem filter_fieldsOf {definitions : List FieldDefinition}
    (apart : definitions.Pairwise fun a b => a.identifier ≠ b.identifier)
    (member : definition ∈ definitions) :
    (definitions.flatMap (doc.fieldsOf main languages)).filter
        (·.identifier == definition.identifier) = doc.fieldsOf main languages definition := by
  have others : ∀ other : FieldDefinition, other.identifier ≠ definition.identifier →
      (doc.fieldsOf main languages other).filter (·.identifier == definition.identifier) = [] := by
    intro other different
    refine List.filter_eq_nil_iff.2 fun field inside => ?_
    rw [identifier_of_fieldsOf inside]
    simpa using different
  induction definitions with
  | nil => cases member
  | cons first rest ih =>
    obtain ⟨fromFirst, tail⟩ := List.pairwise_cons.1 apart
    rw [List.flatMap_cons, List.filter_append]
    rcases List.mem_cons.1 member with rfl | later
    · have own : (doc.fieldsOf main languages definition).filter
          (·.identifier == definition.identifier) = doc.fieldsOf main languages definition := by
        refine List.filter_eq_self.2 fun field inside => ?_
        simp [identifier_of_fieldsOf inside]
      have none : (rest.flatMap (doc.fieldsOf main languages)).filter
          (·.identifier == definition.identifier) = [] := by
        rw [List.filter_flatMap, List.flatMap_eq_nil_iff]
        exact fun other inside => others other (fromFirst other inside).symm
      rw [own, none, List.append_nil]
    · rw [others first (fromFirst definition later), List.nil_append, ih tail later]

theorem fieldsOf_neutral (searchable : definition.traits.searchable = true)
    (neutral : definition.traits.multilingual = false) {value : FieldValue}
    (decoded : definition.traits.kind.decode (doc.get definition.baseName) = some value) :
    doc.fieldsOf main languages definition = [⟨definition.identifier, main, value⟩] := by
  simp [fieldsOf, searchable, neutral, decoded]

theorem fields_of_toContent {schema : Schema} {content : Content}
    (read : doc.toContent schema = .ok content) :
    content.fields = (schema.fieldsOf content.info.contentType).flatMap
      (doc.fieldsOf content.info.mainLanguage content.version.languages) := by
  obtain ⟨info, -, read⟩ := bind_eq_ok.1 read
  obtain ⟨version, -, read⟩ := bind_eq_ok.1 read
  obtain ⟨locations, -, same⟩ := bind_eq_ok.1 read
  cases same
  rfl

theorem neutral_of_toContent {schema : Schema} {content : Content}
    (read : doc.toContent schema = .ok content)
    (known : schema.definition? content.info.contentType definition.identifier = some definition)
    (searchable : definition.traits.searchable = true)
    (neutral : definition.traits.multilingual = false) {value : FieldValue}
    (decoded : definition.traits.kind.decode (doc.get definition.baseName) = some value) :
    content.fields.filter (·.identifier == definition.identifier) =
      [⟨definition.identifier, content.info.mainLanguage, value⟩] := by
  have apart : (schema.fieldsOf content.info.contentType).Pairwise
      fun a b => a.identifier ≠ b.identifier :=
    (schema.fieldsOf_ascending content.info.contentType).imp fun below => String.ne_of_lt below
  rw [fields_of_toContent read, filter_fieldsOf apart (Schema.mem_fieldsOf.2 known)]
  exact fieldsOf_neutral searchable neutral decoded

end Document

namespace Finder

variable {finder : Finder} {acts : List Act} {query : Query} {filter : LanguageFilter}
  {result : SearchResult} {hit : SearchHit}

theorem exists_raw_of_find {store : Store} (found : finder.find store query filter = .ok result)
    (member : hit ∈ result.hits) :
    ∃ request raw first, query.lower finder.schema finder.bounds filter = .ok request ∧
      finder.execute store request = .ok raw ∧ first ∈ raw.hits ∧
      SearchResult.showHit filter first = .ok hit := by
  obtain ⟨request, lowered, found⟩ := bind_eq_ok.1 found
  obtain ⟨raw, executed, found⟩ := bind_eq_ok.1 found
  obtain ⟨shown, done, same⟩ := bind_eq_ok.1 found
  cases same
  obtain ⟨first, listed, made⟩ := exists_of_mem_mapM done member
  exact ⟨request, raw, first, lowered, executed, SearchResult.mem_firstHits listed, made⟩

theorem get?_of_live {content : Content} {doc : Document} (live : finder.Live acts content)
    (mapped : content.toDocument finder.schema = .ok doc) :
    (finder.performAll acts).get? (Number.wordText content.id) = some doc := by
  rw [← Content.id_toDocument mapped]
  exact ((replays_performAll finder acts).standing doc.id doc).2 ⟨rfl, content, mapped, live⟩

/-- A hit has the neutral values that its document stores when it is shown in the main language of
its content, and else it has none of them. -/
theorem neutral_fields_shown
    (found : finder.find (finder.performAll acts) query filter = .ok result) :
    ∀ hit ∈ result.hits, ∃ doc,
      (finder.performAll acts).get? (Number.wordText hit.content.id) = some doc ∧
      ∀ definition, finder.schema.definition? hit.content.info.contentType
          definition.identifier = some definition →
        definition.traits.searchable = true → definition.traits.multilingual = false →
        ∀ value, definition.traits.kind.decode (doc.get definition.baseName) = some value →
          (hit.content.ShowsMain filter →
            hit.content.field? definition.identifier =
              some ⟨definition.identifier, hit.content.info.mainLanguage, value⟩) ∧
          (¬hit.content.ShowsMain filter → hit.content.field? definition.identifier = none) := by
  intro hit member
  obtain ⟨request, raw, first, -, executed, listed, made⟩ := exists_raw_of_find found member
  obtain ⟨content, ⟨live, -⟩, sameId, doc, mapped, read⟩ := matching_of_hit executed listed
  have shown := SearchResult.content_showHit made
  refine ⟨doc, ?_, fun definition known searchable neutral value decoded => ?_⟩
  · rw [SearchResult.id_showHit made, sameId]
    exact get?_of_live live mapped
  · rw [shown] at known ⊢
    let field : Field := ⟨definition.identifier, first.content.info.mainLanguage, value⟩
    have only : first.content.fields.filter (·.identifier == field.identifier) = [field] :=
      Document.neutral_of_toContent read known searchable neutral decoded
    have kept := Content.field?_restrict only (first.content.visibleLanguages filter)
    have inMain : field.language ∈ first.content.visibleLanguages filter ↔
        first.content.ShowsMain filter := Content.mainLanguage_mem_visibleLanguages
    constructor
    · intro shows
      rwa [if_pos (inMain.2 shows)] at kept
    · intro hidden
      rwa [if_neg fun listed => hidden (inMain.1 listed)] at kept

end Finder

theorem Finder.neutral_fields_shown_titleSearch :
    ∃ result hit, Sample.finder.find (Sample.finder.performAll Sample.acts) Sample.titleSearch
        Sample.frenchFilter = .ok result ∧
      result.hits = [hit] ∧ hit.content.ShowsMain Sample.frenchFilter ∧
      hit.content.field? "code" = some ⟨"code", "eng", .integer 6⟩ := by
  have found : Sample.finder.find (Sample.finder.performAll Sample.acts) Sample.titleSearch
      Sample.frenchFilter = .ok _ := rfl
  obtain ⟨doc, stored, neutral⟩ := neutral_fields_shown found _ (List.mem_singleton_self _)
  cases stored
  refine ⟨_, _, found, rfl, ?shows, ?shown⟩
  case shows => decide
  case shown =>
    exact (neutral ⟨"article", "code", .integer, false, true⟩ rfl rfl rfl (.integer 6) rfl).1
      (by decide)

/-- A document stores the code of its content, and the hit that is shown in German is without. -/
theorem Finder.neutral_field_hidden :
    ∃ result hit doc definition value,
      Sample.finder.find (Sample.finder.performAll Sample.acts) Sample.firstPage
        Sample.germanFilter = .ok result ∧
      hit ∈ result.hits ∧
      (Sample.finder.performAll Sample.acts).get? (Number.wordText hit.content.id) = some doc ∧
      Sample.finder.schema.definition? hit.content.info.contentType definition.identifier =
        some definition ∧
      definition.traits.searchable = true ∧ definition.traits.multilingual = false ∧
      definition.traits.kind.decode (doc.get definition.baseName) = some value ∧
      hit.content.field? definition.identifier = none :=
  ⟨_, _, _, ⟨"article", "code", .integer, false, true⟩, .integer 6, rfl,
    List.mem_singleton_self _, rfl, rfl, rfl, rfl, rfl, rfl⟩

end ContentFinder
