import ContentFinder.Lowering.Basic
import ContentFinder.Proofs.Comparison
import ContentFinder.Proofs.IndexedFields

/-! What the queries of leaves on fields and texts look at. A reader's languages turn into
projections, and a leaf is asked once under each of them. -/

namespace ContentFinder

open Outcome

namespace LanguageFilter

/-- The projections that a reader looks at in the document of a content. -/
def projections (filter : LanguageFilter) (multilingual alwaysAvailable : Bool) :
    List Projection :=
  if !multilingual then [.main]
  else if filter.isUnrestricted then [.any]
  else filter.languages.map .code ++
    if filter.useAlwaysAvailable && alwaysAvailable then [.main] else []

theorem isUnrestricted_eq_true {filter : LanguageFilter} (unrestricted : filter.languages = []) :
    filter.isUnrestricted = true := by
  rw [isUnrestricted, unrestricted]
  rfl

theorem isUnrestricted_eq_false {filter : LanguageFilter} (restricted : filter.languages ≠ []) :
    filter.isUnrestricted = false := by
  simpa [isUnrestricted] using restricted

theorem plain_projections {filter : LanguageFilter}
    (plain : ∀ language ∈ filter.languages, IsPlainCode language)
    {multilingual alwaysAvailable : Bool} {projection : Projection}
    (member : projection ∈ filter.projections multilingual alwaysAvailable) :
    projection.IsPlain := by
  cases projection with
  | main => trivial
  | any => trivial
  | code language =>
    refine plain language ?_
    unfold projections at member
    split_ifs at member <;> simp_all

section Expand

variable {filter : LanguageFilter} {doc : Document} {query : IndexQuery}
  {build : Projection → Except Failure IndexQuery} {holds : Projection → Bool}
  (meaning : ∀ projection query, build projection = .ok query →
    query.isMatch doc = holds projection)

include meaning

/-- An expanded query matches what some projection of the reader shows. -/
theorem isMatch_expand {multilingual : Bool}
    (expanded : filter.expand multilingual build = .ok query) :
    query.isMatch doc =
      (filter.projections multilingual (isAlwaysAvailable.isMatch doc)).any holds := by
  unfold expand at expanded
  unfold projections
  split at expanded
  · rename_i neutral
    rw [if_pos neutral, meaning _ _ expanded]
    simp
  · rename_i multilingual
    rw [if_neg multilingual]
    split at expanded
    · rename_i unrestricted
      rw [if_pos unrestricted, meaning _ _ expanded]
      simp
    · rename_i restricted
      rw [if_neg restricted]
      obtain ⟨branches, built, expanded⟩ := bind_eq_ok.1 expanded
      have inLanguages : branches.any (·.isMatch doc) =
          filter.languages.any fun language => holds (.code language) :=
        any_mapM built fun language _ query made => meaning _ _ made
      by_cases fallback : filter.useAlwaysAvailable = true
      · rw [if_pos fallback] at expanded
        obtain ⟨main, builtMain, same⟩ := bind_eq_ok.1 expanded
        have inMain : (IndexQuery.all [isAlwaysAvailable, main]).isMatch doc =
            (isAlwaysAvailable.isMatch doc && holds .main) := by
          rw [IndexQuery.isMatch_all]
          simp [meaning _ _ builtMain]
        rw [← Except.ok.inj same, IndexQuery.isMatch_any, List.any_append, inLanguages,
          List.any_append, List.any_map, List.any_cons, List.any_nil, inMain]
        cases isAlwaysAvailable.isMatch doc <;> simp [fallback, Function.comp_def]
      · rw [if_neg fallback] at expanded
        rw [← Except.ok.inj expanded, IndexQuery.isMatch_any, inLanguages]
        simp [fallback, Function.comp_def]

end Expand

end LanguageFilter

def FieldDefinition.indexName (definition : FieldDefinition) (projection : Projection) : String :=
  if definition.traits.multilingual then projection.apply definition.baseName
  else definition.baseName

section Own

variable {schema : Schema} {overrides : Overrides} {identifier : String}
  (own : ∀ contentType, overrides.get? contentType identifier = none)

include own

theorem Schema.typesFor_own {types : List String}
    (found : schema.typesFor overrides identifier = .ok types) :
    types = ((schema.definitionsFor identifier).filter (·.traits.searchable)).map
      (·.contentType) := by
  have unnamed : overrides.having identifier = [] := by
    refine List.eq_nil_iff_forall_not_mem.2 fun entry member => ?_
    have got := FieldTable.mem_having.1 member
    rw [own] at got
    cases got
  unfold typesFor at found
  rw [unnamed] at found
  dsimp only at found
  split at found
  · cases found
  · cases found
    exact List.append_nil _

theorem Schema.resolve_own {definition : FieldDefinition}
    (known : schema.definition? definition.contentType identifier = some definition)
    (searchable : definition.traits.searchable = true) (projection : Projection) :
    schema.resolve overrides definition.contentType identifier projection =
      .ok (definition.indexName projection) := by
  unfold resolve baseName isMultilingual
  rw [own, known, Option.filter_some, if_pos searchable]
  rfl

end Own

def FieldLeaf.findsIn (leaf : FieldLeaf) (filter : LanguageFilter) (doc : Document)
    (definition : FieldDefinition) : Bool :=
  (filter.projections definition.traits.multilingual (isAlwaysAvailable.isMatch doc)).any
    fun projection => (doc.get (definition.indexName projection)).any
      (leaf.comparison.operator.accepts (some definition.traits.kind) leaf.comparison.operand)

namespace FieldLeaf

variable {schema : Schema} {filter : LanguageFilter} {doc : Document} {leaf : FieldLeaf}
  {query : IndexQuery}
  (own : ∀ contentType, leaf.overrides.get? contentType leaf.identifier = none)

include own

theorem isMatch_lowerIn {definition : FieldDefinition}
    (known : schema.definition? definition.contentType leaf.identifier = some definition)
    (searchable : definition.traits.searchable = true)
    (lowered : leaf.lowerIn schema filter definition.contentType = .ok query) :
    query.isMatch doc = leaf.findsIn filter doc definition := by
  unfold lowerIn at lowered
  have multilingual : schema.isMultilingual definition.contentType leaf.identifier =
      definition.traits.multilingual := by
    rw [Schema.isMultilingual, known]
    rfl
  rw [multilingual, known] at lowered
  refine LanguageFilter.isMatch_expand (fun projection query built => ?_) lowered
  obtain ⟨name, resolved, compared⟩ := bind_eq_ok.1 built
  rw [Schema.resolve_own own known searchable] at resolved
  cases resolved
  exact IndexQuery.isMatch_comparing compared

theorem isMatch_lower (lowered : leaf.lower schema filter = .ok query) :
    query.isMatch doc =
      ((schema.definitionsFor leaf.identifier).filter (·.traits.searchable)).any
        (leaf.findsIn filter doc) := by
  obtain ⟨types, found, lowered⟩ := bind_eq_ok.1 lowered
  obtain ⟨queries, inTypes, same⟩ := bind_eq_ok.1 lowered
  rw [Schema.typesFor_own own found, List.mapM_map] at inTypes
  rw [← Except.ok.inj same, IndexQuery.isMatch_any]
  refine any_mapM inTypes fun definition member query made => ?_
  obtain ⟨inSchema, searchable⟩ := List.mem_filter.1 member
  exact isMatch_lowerIn own (Schema.mem_definitionsFor.1 inSchema) searchable made

end FieldLeaf

theorem FullTextLeaf.isMatch_lower {filter : LanguageFilter} {leaf : FullTextLeaf}
    {query : IndexQuery} {doc : Document} (lowered : leaf.lower filter = .ok query) :
    query.isMatch doc =
      (filter.projections true (isAlwaysAvailable.isMatch doc)).any fun projection =>
        (IndexQuery.fullText [projection.apply IndexName.text] leaf.text).isMatch doc := by
  refine LanguageFilter.isMatch_expand (fun projection query built => ?_) lowered
  rw [← Except.ok.inj built]

theorem isMatch_isAlwaysAvailable {schema : Schema} {content : Content} {doc : Document}
    (mapped : content.toDocument schema = .ok doc) :
    isAlwaysAvailable.isMatch doc = content.info.alwaysAvailable := by
  have value : doc.get IndexName.alwaysAvailable = [.boolean content.info.alwaysAvailable] :=
    Content.get_single (by simp [Content.systemFields]) mapped
  rw [isAlwaysAvailable, IndexQuery.isMatch_term, value]
  cases content.info.alwaysAvailable <;> rfl

end ContentFinder
