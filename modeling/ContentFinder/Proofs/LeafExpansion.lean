import ContentFinder.Proofs.FieldCriteria

/-! The language formula of a leaf, on every document. A leaf on a field, on distances or on texts
is asked in all content types that it applies to, and in each of them under the names that the
reader's languages give. Its query matches a document when it is met under one of these names. -/

namespace ContentFinder

open Outcome

namespace IndexQuery

def isMet (doc : Document) : Except Failure IndexQuery → Bool
  | .ok query => query.isMatch doc
  | .error _ => false

variable {doc : Document} {built : Except Failure IndexQuery} {query : IndexQuery}

theorem isMet_of_ok (done : built = .ok query) : isMet doc built = query.isMatch doc := by
  rw [done, isMet]

theorem isMet_iff :
    isMet doc built = true ↔ ∃ query, built = .ok query ∧ query.isMatch doc = true := by
  cases built <;> simp [isMet]

theorem isMatch_any_mapM {α : Type} {items : List α} {build : α → Except Failure IndexQuery}
    {queries : List IndexQuery} (done : items.mapM build = .ok queries) :
    (any queries).isMatch doc = true ↔ ∃ item ∈ items, isMet doc (build item) = true := by
  rw [isMatch_any, any_mapM done fun item _ query made => (isMet_of_ok made).symm,
    List.any_eq_true]

end IndexQuery

theorem isMatch_isAlwaysAvailable_iff {doc : Document} :
    isAlwaysAvailable.isMatch doc = true ↔
      IndexValue.boolean true ∈ doc.get IndexName.alwaysAvailable := by
  have equal : ∀ value : IndexValue,
      value.equals (.boolean true) = true ↔ value = .boolean true := by
    intro value
    cases value with
    | boolean flag => cases flag <;> decide
    | _ => simp [IndexValue.equals, IndexValue.compare?, IndexValue.integer?, IndexValue.number?]
  simp only [isAlwaysAvailable, IndexQuery.isMatch_term, List.any_eq_true, equal, exists_eq_right]

namespace Schema

/-- The base of the names of a field in a content type is the name that the caller gave, or else
that of a searchable definition. A content type without either has no part in a search for the
field. -/
inductive HasBase (schema : Schema) (overrides : Overrides) (contentType identifier : String) :
    String → Prop where
  | given (name : String) (named : overrides.get? contentType identifier = some name) :
    HasBase schema overrides contentType identifier name
  | defined (definition : FieldDefinition)
    (unnamed : overrides.get? contentType identifier = none)
    (known : schema.definition? contentType identifier = some definition)
    (searchable : definition.traits.searchable = true) :
    HasBase schema overrides contentType identifier definition.baseName

def kind? (schema : Schema) (contentType identifier : String) : Option FieldKind :=
  (schema.definition? contentType identifier).map (·.traits.kind)

variable {schema : Schema} {overrides : Overrides} {contentType identifier base name : String}
  {projection : Projection}

theorem baseName_eq_ok :
    schema.baseName overrides contentType identifier = .ok base ↔
      schema.HasBase overrides contentType identifier base := by
  unfold baseName
  constructor
  · intro found
    split at found
    · rename_i named
      cases found
      exact .given _ named
    · rename_i unnamed
      split at found
      · rename_i definition kept
        cases found
        obtain ⟨known, searchable⟩ := Option.filter_eq_some_iff.1 kept
        exact .defined definition unnamed known searchable
      · cases found
  · intro hasBase
    cases hasBase with
    | given _ named => rw [named]
    | defined definition unnamed known searchable =>
      rw [unnamed, known, Option.filter_some, if_pos searchable]

theorem resolve_eq_ok :
    schema.resolve overrides contentType identifier projection = .ok name ↔
      ∃ base, schema.HasBase overrides contentType identifier base ∧
        name = if schema.isMultilingual contentType identifier then projection.apply base
          else base := by
  unfold resolve
  rw [bind_eq_ok]
  refine exists_congr fun base => and_congr baseName_eq_ok ?_
  constructor
  · exact fun same => (Except.ok.inj same).symm
  · rintro rfl
    rfl

theorem exists_hasBase_iff :
    (∃ base, schema.HasBase overrides contentType identifier base) ↔
      (∃ definition, schema.definition? contentType identifier = some definition ∧
        definition.traits.searchable = true) ∨
      ∃ name, overrides.get? contentType identifier = some name := by
  constructor
  · rintro ⟨base, hasBase⟩
    cases hasBase with
    | given _ named => exact .inr ⟨base, named⟩
    | defined definition unnamed known searchable => exact .inl ⟨definition, known, searchable⟩
  · rintro (⟨definition, known, searchable⟩ | ⟨name, named⟩)
    · cases named : overrides.get? contentType identifier with
      | some name => exact ⟨name, .given name named⟩
      | none => exact ⟨_, .defined definition named known searchable⟩
    · exact ⟨name, .given name named⟩

theorem mem_searchableTypes :
    contentType ∈ ((schema.definitionsFor identifier).filter (·.traits.searchable)).map
        (·.contentType) ↔
      ∃ definition, schema.definition? contentType identifier = some definition ∧
        definition.traits.searchable = true := by
  rw [List.mem_map]
  constructor
  · rintro ⟨definition, listed, rfl⟩
    obtain ⟨inSchema, searchable⟩ := List.mem_filter.1 listed
    exact ⟨definition, mem_definitionsFor.1 inSchema, searchable⟩
  · rintro ⟨definition, known, searchable⟩
    obtain ⟨rfl, -⟩ := names_of_definition? known
    exact ⟨definition, List.mem_filter.2 ⟨mem_definitionsFor.2 known, searchable⟩, rfl⟩

theorem mem_namedTypes :
    contentType ∈ (overrides.having identifier).map (·.1) ↔
      ∃ name, overrides.get? contentType identifier = some name := by
  rw [List.mem_map]
  constructor
  · rintro ⟨⟨type, name⟩, listed, rfl⟩
    exact ⟨name, FieldTable.mem_having.1 listed⟩
  · rintro ⟨name, named⟩
    exact ⟨(contentType, name), FieldTable.mem_having.2 named, rfl⟩

theorem mem_definedOrNamed :
    contentType ∈ ((schema.definitionsFor identifier).filter (·.traits.searchable)).map
          (·.contentType) ++
        ((overrides.having identifier).map (·.1)).filter
          (! (((schema.definitionsFor identifier).filter (·.traits.searchable)).map
            (·.contentType)).contains ·) ↔
      ∃ base, schema.HasBase overrides contentType identifier base := by
  rw [exists_hasBase_iff, ← mem_searchableTypes, ← mem_namedTypes, List.mem_append,
    List.mem_filter]
  by_cases known : contentType ∈ ((schema.definitionsFor identifier).filter
      (·.traits.searchable)).map (·.contentType) <;> simp [known]

theorem mem_typesFor {types : List String}
    (found : schema.typesFor overrides identifier = .ok types) :
    contentType ∈ types ↔ ∃ base, schema.HasBase overrides contentType identifier base := by
  rw [← mem_definedOrNamed]
  unfold typesFor at found
  dsimp only at found
  split at found
  · cases found
  · cases found
    rfl

theorem typesFor_eq_error {failure : Failure} :
    schema.typesFor overrides identifier = .error failure ↔ failure = .unknownField identifier ∧
      ∀ contentType base, ¬schema.HasBase overrides contentType identifier base := by
  unfold typesFor
  dsimp only
  split
  · rename_i empty
    have none : ∀ contentType base, ¬schema.HasBase overrides contentType identifier base := by
      intro contentType base hasBase
      have member := mem_definedOrNamed.2 ⟨base, hasBase⟩
      rw [List.isEmpty_iff.1 empty] at member
      cases member
    simp [none, eq_comm]
  · rename_i some
    obtain ⟨contentType, member⟩ :=
      List.exists_mem_of_ne_nil _ (mt List.isEmpty_iff.2 some)
    obtain ⟨base, hasBase⟩ := mem_definedOrNamed.1 member
    constructor
    · nofun
    · rintro ⟨-, none⟩
      exact absurd hasBase (none contentType base)

end Schema

namespace LanguageFilter

/-- The names under which a reader looks into a document, for a base. Names without languages are
their base. A reader who asked for no language looks at all of them together. Otherwise there is a
name for each language that was asked for, and that for the main language if it may stand in and
the document says that its content is always available. -/
def LooksUp (filter : LanguageFilter) (doc : Document) (multilingual : Bool)
    (base name : String) : Prop :=
  if multilingual = false then name = base
  else if filter.languages = [] then name = Projection.any.apply base
  else (∃ language ∈ filter.languages, name = (Projection.code language).apply base) ∨
    filter.useAlwaysAvailable = true ∧ IndexValue.boolean true ∈ doc.get IndexName.alwaysAvailable ∧
      name = Projection.main.apply base

variable {filter : LanguageFilter} {doc : Document} {multilingual : Bool} {base name : String}

theorem looksUp_iff :
    filter.LooksUp doc multilingual base name ↔
      ∃ projection ∈ filter.projections multilingual (isAlwaysAvailable.isMatch doc),
        name = if multilingual then projection.apply base else base := by
  unfold LooksUp projections
  cases multilingual with
  | false => simp
  | true =>
    by_cases unrestricted : filter.languages = []
    · simp [unrestricted, isUnrestricted_eq_true unrestricted]
    · rw [← isMatch_isAlwaysAvailable_iff]
      cases filter.useAlwaysAvailable <;> cases isAlwaysAvailable.isMatch doc <;>
        simp [unrestricted, isUnrestricted_eq_false unrestricted, or_and_right, exists_or]

end LanguageFilter

/-! Leaves. -/

namespace Schema

variable {schema : Schema} {overrides : Overrides} {filter : LanguageFilter} {doc : Document}
  {identifier : String}

/-- Whether something holds of an index name under which a reader looks for a field in a document,
in some content type that the field is compared in. -/
def SomeName (schema : Schema) (overrides : Overrides) (filter : LanguageFilter) (doc : Document)
    (identifier : String) (holds : String → String → Prop) : Prop :=
  ∃ contentType base name, schema.HasBase overrides contentType identifier base ∧
    filter.LooksUp doc (schema.isMultilingual contentType identifier) base name ∧
    holds contentType name

/-- A query that is built for every name of a field in a content type matches a document when it is
met under some name that the reader looks up. -/
theorem isMatch_expand_resolve {contentType : String}
    {compile : String → Except Failure IndexQuery} {query : IndexQuery}
    (expanded : filter.expand (schema.isMultilingual contentType identifier) (fun projection => do
      compile (← schema.resolve overrides contentType identifier projection)) = .ok query) :
    query.isMatch doc = true ↔ ∃ base name,
      schema.HasBase overrides contentType identifier base ∧
      filter.LooksUp doc (schema.isMultilingual contentType identifier) base name ∧
      IndexQuery.isMet doc (compile name) = true := by
  rw [LanguageFilter.isMatch_expand
    (fun projection query built => (IndexQuery.isMet_of_ok built).symm) expanded, List.any_eq_true]
  constructor
  · rintro ⟨projection, looked, met⟩
    obtain ⟨query, built, matched⟩ := IndexQuery.isMet_iff.1 met
    obtain ⟨name, resolved, compiled⟩ := bind_eq_ok.1 built
    obtain ⟨base, hasBase, same⟩ := resolve_eq_ok.1 resolved
    exact ⟨base, name, hasBase, LanguageFilter.looksUp_iff.2 ⟨projection, looked, same⟩,
      IndexQuery.isMet_iff.2 ⟨query, compiled, matched⟩⟩
  · rintro ⟨base, name, hasBase, looksUp, met⟩
    obtain ⟨query, compiled, matched⟩ := IndexQuery.isMet_iff.1 met
    obtain ⟨projection, looked, same⟩ := LanguageFilter.looksUp_iff.1 looksUp
    exact ⟨projection, looked, IndexQuery.isMet_iff.2 ⟨query, bind_eq_ok.2 ⟨name,
      resolve_eq_ok.2 ⟨base, hasBase, same⟩, compiled⟩, matched⟩⟩

/-- Queries of all content types together match a document when that of one type does. -/
theorem isMatch_any_types {types : List String} {queries : List IndexQuery}
    {lowerIn : String → Except Failure IndexQuery}
    {compile : String → String → Except Failure IndexQuery}
    (found : schema.typesFor overrides identifier = .ok types)
    (done : types.mapM lowerIn = .ok queries)
    (expands : ∀ contentType query, lowerIn contentType = .ok query →
      filter.expand (schema.isMultilingual contentType identifier) (fun projection => do
        compile contentType (← schema.resolve overrides contentType identifier projection)) =
          .ok query) :
    (IndexQuery.any queries).isMatch doc = true ↔
      schema.SomeName overrides filter doc identifier fun contentType name =>
        ∃ part, compile contentType name = .ok part ∧ part.isMatch doc = true := by
  unfold SomeName
  simp only [← IndexQuery.isMet_iff]
  rw [IndexQuery.isMatch_any_mapM done]
  refine exists_congr fun contentType => ⟨?_, ?_⟩
  · rintro ⟨-, met⟩
    obtain ⟨query, lowered, matched⟩ := IndexQuery.isMet_iff.1 met
    exact (isMatch_expand_resolve (expands contentType query lowered)).1 matched
  · rintro ⟨base, name, hasBase, looksUp, met⟩
    have listed : contentType ∈ types := (mem_typesFor found).2 ⟨base, hasBase⟩
    obtain ⟨query, -, lowered⟩ := exists_of_mem_items done listed
    exact ⟨listed, IndexQuery.isMet_iff.2 ⟨query, lowered,
      (isMatch_expand_resolve (expands contentType query lowered)).2
        ⟨base, name, hasBase, looksUp, met⟩⟩⟩

end Schema

section Leaf

variable {schema : Schema} {filter : LanguageFilter} {doc : Document} {query : IndexQuery}

theorem FieldLeaf.isMatch_lower_iff {leaf : FieldLeaf}
    (lowered : leaf.lower schema filter = .ok query) :
    query.isMatch doc = true ↔
      schema.SomeName leaf.overrides filter doc leaf.identifier fun contentType name =>
        ∃ part, IndexQuery.comparing name (schema.kind? contentType leaf.identifier)
          leaf.comparison.operator leaf.comparison.operand = .ok part ∧
            part.isMatch doc = true := by
  obtain ⟨types, found, lowered⟩ := bind_eq_ok.1 lowered
  obtain ⟨queries, done, same⟩ := bind_eq_ok.1 lowered
  cases same
  exact Schema.isMatch_any_types found done fun contentType query inType => inType

theorem DistanceLeaf.expand_of_lowerIn {leaf : DistanceLeaf} {contentType : String}
    (lowered : leaf.lowerIn schema filter contentType = .ok query) :
    filter.expand (schema.isMultilingual contentType leaf.identifier) (fun projection => do
      IndexQuery.comparingDistance
        (← schema.resolve leaf.overrides contentType leaf.identifier projection)
        leaf.latitude leaf.longitude leaf.comparison.operator leaf.comparison.operand) =
          .ok query := by
  unfold lowerIn at lowered
  split at lowered
  · split at lowered
    · cases lowered
    · exact lowered
  · exact lowered

theorem DistanceLeaf.isMatch_lower_iff {leaf : DistanceLeaf}
    (lowered : leaf.lower schema filter = .ok query) :
    query.isMatch doc = true ↔
      schema.SomeName leaf.overrides filter doc leaf.identifier fun _ name =>
        ∃ part, IndexQuery.comparingDistance name leaf.latitude leaf.longitude
          leaf.comparison.operator leaf.comparison.operand = .ok part ∧
            part.isMatch doc = true := by
  obtain ⟨types, found, lowered⟩ := bind_eq_ok.1 lowered
  obtain ⟨queries, done, same⟩ := bind_eq_ok.1 lowered
  cases same
  exact Schema.isMatch_any_types found done fun contentType query => expand_of_lowerIn

theorem FullTextLeaf.isMatch_lower_iff {leaf : FullTextLeaf}
    (lowered : leaf.lower filter = .ok query) :
    query.isMatch doc = true ↔ ∃ name, filter.LooksUp doc true IndexName.text name ∧
      (IndexQuery.fullText [name] leaf.text).isMatch doc = true := by
  simp only [FullTextLeaf.isMatch_lower lowered, List.any_eq_true, LanguageFilter.looksUp_iff,
    if_true]
  constructor
  · rintro ⟨projection, looked, found⟩
    exact ⟨_, ⟨projection, looked, rfl⟩, found⟩
  · rintro ⟨-, ⟨projection, looked, rfl⟩, found⟩
    exact ⟨projection, looked, found⟩

end Leaf

/-- The query of a leaf matches a document when the leaf is met under some name: for a field or for
distances in some content type that defines the field or has a name for it from the caller, compared
by the kind that the field has there, and for a text under the names of texts. The names are those
that the languages of the reader give. -/
theorem Criterion.isMatch_leaf_iff (schema : Schema) (filter : LanguageFilter) (doc : Document) :
    (∀ (leaf : FieldLeaf) (query : IndexQuery),
      (Criterion.field leaf).lower schema filter = .ok query →
      (query.isMatch doc = true ↔
        schema.SomeName leaf.overrides filter doc leaf.identifier fun contentType name =>
          ∃ part, IndexQuery.comparing name (schema.kind? contentType leaf.identifier)
            leaf.comparison.operator leaf.comparison.operand = .ok part ∧
              part.isMatch doc = true)) ∧
    (∀ (leaf : DistanceLeaf) (query : IndexQuery),
      (Criterion.distance leaf).lower schema filter = .ok query →
      (query.isMatch doc = true ↔
        schema.SomeName leaf.overrides filter doc leaf.identifier fun _ name =>
          ∃ part, IndexQuery.comparingDistance name leaf.latitude leaf.longitude
            leaf.comparison.operator leaf.comparison.operand = .ok part ∧
              part.isMatch doc = true)) ∧
    ∀ (leaf : FullTextLeaf) (query : IndexQuery),
      (Criterion.fullText leaf).lower schema filter = .ok query →
      (query.isMatch doc = true ↔ ∃ name, filter.LooksUp doc true IndexName.text name ∧
        (IndexQuery.fullText [name] leaf.text).isMatch doc = true) := by
  simp only [Criterion.lower]
  exact ⟨fun leaf query => FieldLeaf.isMatch_lower_iff,
    fun leaf query => DistanceLeaf.isMatch_lower_iff,
    fun leaf query => FullTextLeaf.isMatch_lower_iff⟩

namespace Sample

def renamedLeaf : FieldLeaf :=
  { titleLeaf with overrides := FieldTable.empty.insert "note" "title" "headline" }

def nearLeaf : DistanceLeaf where
  identifier := "place"
  comparison := ⟨.lte, .single (.integer 5), rfl⟩
  latitude := .zero
  longitude := .zero
  notNegative := by decide +kernel
  onGlobe := by decide +kernel
  overrides := FieldTable.empty.insert "shop" "place" "position"

def teaLeaf : FullTextLeaf := ⟨"tea", by decide⟩

def germanOrMain : LanguageFilter := ⟨["ger"], true⟩

def headed : Document :=
  ((Document.new "1").add "headline_main" (.string "Tea")).add IndexName.alwaysAvailable
    (.boolean true)

theorem hasBase_code {contentType base : String}
    (hasBase : schema.HasBase .empty contentType "code" base) :
    contentType = "article" ∧ base = "article_code_value_i" := by
  cases hasBase with
  | given name named => cases named
  | defined definition unnamed known searchable =>
    have only : schema.definitionsFor "code" = [⟨"article", "code", .integer, false, true⟩] := rfl
    obtain ⟨rfl, -⟩ := Schema.names_of_definition? known
    have member := Schema.mem_definitionsFor.2 known
    rw [only, List.mem_singleton] at member
    subst member
    exact ⟨rfl, rfl⟩

end Sample

theorem Criterion.isMatch_renamedLeaf :
    (∃ query, (Criterion.field Sample.renamedLeaf).lower Sample.schema Sample.germanOrMain =
        .ok query ∧ query.isMatch Sample.headed = true) ∧
    (∃ query, (Criterion.distance Sample.nearLeaf).lower Sample.schema Sample.germanOrMain =
        .ok query ∧
      (query.isMatch Sample.headed = true ↔ Sample.schema.SomeName Sample.nearLeaf.overrides
        Sample.germanOrMain Sample.headed "place" fun _ name =>
          ∃ part, IndexQuery.comparingDistance name .zero .zero .lte (.single (.integer 5)) =
            .ok part ∧ part.isMatch Sample.headed = true)) ∧
    ∃ query, (Criterion.fullText Sample.teaLeaf).lower Sample.schema Sample.germanOrMain =
        .ok query ∧ query.isMatch Sample.document = true ∧
      ∃ name, Sample.germanOrMain.LooksUp Sample.document true IndexName.text name ∧
        (IndexQuery.fullText [name] "tea").isMatch Sample.document = true := by
  obtain ⟨fields, distances, -⟩ :=
    isMatch_leaf_iff Sample.schema Sample.germanOrMain Sample.headed
  obtain ⟨-, -, texts⟩ := isMatch_leaf_iff Sample.schema Sample.germanOrMain Sample.document
  refine ⟨⟨_, rfl, ?_⟩, ⟨_, rfl, distances Sample.nearLeaf _ rfl⟩, ⟨_, rfl, ?_, ?_⟩⟩
  · apply (fields Sample.renamedLeaf _ rfl).2
    exact ⟨"note", "headline", "headline_main", .given _ rfl, .inr ⟨rfl, by decide, rfl⟩, _, rfl,
      by decide⟩
  · decide
  · apply (texts Sample.teaLeaf _ rfl).1
    decide

end ContentFinder
