import ContentFinder.Proofs.MissingLanguage
import ContentFinder.Proofs.OperandFit
import ContentFinder.Proofs.VisibleLanguages

/-! Asking for contents by their languages. The criterion finds what a reader of the same languages
may see, and besides the contents that are always available in a main language they do not have.
These cannot be shown to anyone who asked for other languages. -/

namespace ContentFinder

open Outcome

namespace Content

variable {content : Content} {filter : LanguageFilter}

/-- Nothing that was asked for is there, and the main language that may be shown instead is not
there either. -/
def IsStranded (content : Content) (filter : LanguageFilter) : Prop :=
  content.FallsBack filter ∧ content.info.mainLanguage ∉ content.version.languages

instance : Decidable (content.IsStranded filter) :=
  inferInstanceAs (Decidable (_ ∧ _))

theorem not_isVisible_of_stranded (restricted : filter.languages ≠ [])
    (stranded : content.IsStranded filter) : ¬content.isVisible filter = true := by
  obtain ⟨⟨-, -, absent⟩, noMain⟩ := stranded
  rw [isVisible_iff restricted]
  rintro (⟨language, requested, listed⟩ | ⟨-, -, main⟩)
  · exact absent language requested listed
  · exact noMain main

/-- A content has a language that was asked for, or is one that may be shown in its main language,
just when it is visible or stranded. -/
theorem visible_or_stranded_iff (restricted : filter.languages ≠ []) :
    content.isVisible filter = true ∨ content.IsStranded filter ↔
      (∃ language ∈ filter.languages, language ∈ content.version.languages) ∨
        filter.useAlwaysAvailable = true ∧ content.info.alwaysAvailable = true := by
  rw [isVisible_iff restricted]
  constructor
  · rintro ((asked | ⟨use, available, -⟩) | ⟨⟨use, available, -⟩, -⟩)
    · exact .inl asked
    · exact .inr ⟨use, available⟩
    · exact .inr ⟨use, available⟩
  · rintro (asked | ⟨use, available⟩)
    · exact .inl (.inl asked)
    by_cases asked : ∃ language ∈ filter.languages, language ∈ content.version.languages
    · exact .inl (.inl asked)
    by_cases main : content.info.mainLanguage ∈ content.version.languages
    · exact .inl (.inr ⟨use, available, main⟩)
    · exact .inr ⟨⟨use, available, fun language requested listed =>
        asked ⟨language, requested, listed⟩⟩, main⟩

end Content

theorem SpecificationTable.validate_codes {codes : List String} (nonempty : codes ≠ []) :
    languageCode.validate "language_code" .isIn (.list (codes.map .string)) = .ok () := by
  refine bind_eq_ok.2 ⟨⟨.isIn, .list, some [.string], none⟩, rfl, mapError_eq_ok.2 ?_⟩
  refine bind_eq_ok.2 ⟨(), ?shape, ?types⟩
  case shape =>
    cases codes with
    | nil => exact absurd rfl nonempty
    | cons first rest => rfl
  case types =>
    have texts : (codes.map Scalar.string).find?
        (fun value => !List.contains [ScalarType.string] value.type) = none := by
      rw [List.find?_eq_none]
      intro value member
      obtain ⟨code, -, rfl⟩ := List.mem_map.1 member
      simp [Scalar.type]
    rw [Specification.validateTypes]
    dsimp only [Operand.scalars]
    rw [texts]

namespace LanguageLeaf

variable {codes : List String}

def ofCodes (codes : List String) (nonempty : codes ≠ []) (orAlwaysAvailable : Bool) :
    LanguageLeaf :=
  ⟨⟨.isIn, .list (codes.map .string), SpecificationTable.validate_codes nonempty⟩,
    orAlwaysAvailable⟩

theorem inLanguages_codes (nonempty : codes ≠ []) (orAlwaysAvailable : Bool) :
    Criterion.inLanguages (.list (codes.map .string)) orAlwaysAvailable =
      .ok (.language (ofCodes codes nonempty orAlwaysAvailable)) := by
  have accepted := SpecificationTable.validate_codes nonempty
  rw [Criterion.inLanguages, make, Comparison.make_eq_ok accepted]
  rfl

theorem comparing_codes (codes : List String) :
    IndexQuery.comparing IndexName.language (some .string) .isIn (.list (codes.map .string)) =
      .ok (.terms IndexName.language (codes.map .string)) := by
  have coerced : (codes.map Scalar.string).mapM (Scalar.coerce (some .string)) =
      .ok (codes.map IndexValue.string) := by
    refine mapM_eq_ok.2 ?_
    rw [List.forall₂_map_left_iff, List.forall₂_map_right_iff]
    exact List.forall₂_same.2 fun _ _ => rfl
  exact bind_eq_ok.2 ⟨_, coerced, rfl⟩

theorem isMatch_codes {schema : Schema} {content : Content} {doc : Document}
    (mapped : content.toDocument schema = .ok doc) (codes : List String) :
    IndexQuery.isMatch (.terms IndexName.language (codes.map .string)) doc = true ↔
      ∃ code ∈ codes, code ∈ content.version.languages := by
  have equal : ∀ x y : String, (IndexValue.string x).equals (.string y) = true ↔ x = y := by
    intro x y
    simp [IndexValue.equals, IndexValue.compare?]
  rw [IndexQuery.isMatch_terms, Content.get_language mapped, IndexQuery.distinct_eq_eraseDups]
  simp only [List.any_map, List.any_eq_true, Function.comp_apply, equal, List.mem_eraseDups]
  constructor
  · rintro ⟨language, listed, code, asked, rfl⟩
    exact ⟨language, asked, listed⟩
  · rintro ⟨code, asked, listed⟩
    exact ⟨code, listed, code, asked, rfl⟩

theorem lower_ofCodes (nonempty : codes ≠ []) (orAlwaysAvailable : Bool) :
    ∃ query, (ofCodes codes nonempty orAlwaysAvailable).lower = .ok query ∧
      ∀ (schema : Schema) (content : Content) (doc : Document),
        content.toDocument schema = .ok doc →
        (query.isMatch doc = true ↔ (∃ code ∈ codes, code ∈ content.version.languages) ∨
          orAlwaysAvailable = true ∧ content.info.alwaysAvailable = true) := by
  refine ⟨_, bind_eq_ok.2 ⟨_, comparing_codes codes, rfl⟩, fun schema content doc mapped => ?_⟩
  rw [← isMatch_codes mapped]
  cases orAlwaysAvailable with
  | false => simp [ofCodes]
  | true =>
    have available := isMatch_isAlwaysAvailable mapped
    simp [ofCodes, IndexQuery.isMatch_any, available]

end LanguageLeaf

namespace Criterion

/-- A criterion holds nowhere but where a wanted one does: it is the wanted one, or it asks for some
criterion that demands it, or leaves the choice between such criteria. -/
inductive Demands (wanted : Criterion) : Criterion → Prop
  | self : Demands wanted wanted
  | allOf (children : List Criterion) (child : Criterion) (member : child ∈ children)
    (demands : Demands wanted child) : Demands wanted (.allOf children)
  | anyOf (children : List Criterion) (each : ∀ child ∈ children, Demands wanted child) :
    Demands wanted (.anyOf children)

theorem Demands.isMatch {schema : Schema} {filter : LanguageFilter} {wanted criterion : Criterion}
    {query : IndexQuery} {doc : Document} (demands : wanted.Demands criterion)
    (lowered : criterion.lower schema filter = .ok query) (matched : query.isMatch doc = true) :
    ∃ inner, wanted.lower schema filter = .ok inner ∧ inner.isMatch doc = true := by
  induction demands generalizing query with
  | self => exact ⟨query, lowered, matched⟩
  | allOf children child member demands ih =>
    rw [lower_allOf] at lowered
    obtain ⟨queries, done, same⟩ := bind_eq_ok.1 lowered
    cases same
    rw [IndexQuery.isMatch_all, List.all_eq_true] at matched
    obtain ⟨part, inside, made⟩ := exists_of_mem_items done member
    exact ih made (matched part inside)
  | anyOf children each ih =>
    rw [lower_anyOf] at lowered
    obtain ⟨queries, done, same⟩ := bind_eq_ok.1 lowered
    cases same
    rw [IndexQuery.isMatch_any, List.any_eq_true] at matched
    obtain ⟨part, inside, found⟩ := matched
    obtain ⟨child, member, made⟩ := exists_of_mem_mapM done inside
    exact ih child member made found

theorem isMatch_of_lower {schema : Schema} {filter : LanguageFilter} {bounds : RequestBounds}
    {query : Query} {request : SearchRequest} {wanted : Criterion} {doc : Document}
    (asked : ∃ part, (query.filter = some part ∨ query.query = some part) ∧ wanted.Demands part)
    (lowered : query.lower schema bounds filter = .ok request)
    (filtered : request.filter.isMatch doc = true) (matched : request.query.isMatch doc = true) :
    ∃ inner, wanted.lower schema filter = .ok inner ∧ inner.isMatch doc = true := by
  obtain ⟨loweredFilter, loweredQuery, -⟩ := Query.lower_eq_ok lowered
  obtain ⟨part, asFilter | asQuery, demands⟩ := asked
  · rw [asFilter] at loweredFilter
    exact demands.isMatch loweredFilter filtered
  · rw [asQuery] at loweredQuery
    exact demands.isMatch loweredQuery matched

end Criterion

/-- The criterion for the languages of a reader has a query, whatever the schema. It matches the
contents that have one of the languages, and with the fallback all that are always available. For
every content that is not stranded this means that the reader may see it. So a search that demands
the criterion lacks a language only at a stranded content, which it names. -/
theorem Criterion.inLanguages_finds {filter : LanguageFilter} (restricted : filter.languages ≠ []) :
    ∃ criterion, Criterion.inLanguages (.list (filter.languages.map .string))
        filter.useAlwaysAvailable = .ok criterion ∧
      (∀ (schema : Schema) (reader : LanguageFilter), ∃ query,
        criterion.lower schema reader = .ok query ∧
        ∀ (content : Content) (doc : Document), content.toDocument schema = .ok doc →
          (query.isMatch doc = true ↔
            (∃ language ∈ filter.languages, language ∈ content.version.languages) ∨
              filter.useAlwaysAvailable = true ∧ content.info.alwaysAvailable = true) ∧
          (query.isMatch doc = content.isVisible filter ↔ ¬content.IsStranded filter)) ∧
      ∀ (finder : Finder) (acts : List Finder.Act) (query : Query),
        (∃ part, (query.filter = some part ∨ query.query = some part) ∧ criterion.Demands part) →
        ∀ missing, finder.find (finder.performAll acts) query filter = .error (.notFound missing) →
          ∃ content, finder.Live acts content ∧ content.IsStranded filter ∧
            missing = .visibleLanguage content.id filter.languages := by
  obtain ⟨inner, lowered, meaning⟩ :=
    LanguageLeaf.lower_ofCodes restricted filter.useAlwaysAvailable
  refine ⟨_, LanguageLeaf.inLanguages_codes restricted _, fun schema reader =>
    ⟨inner, lowered, fun content doc mapped => ⟨meaning schema content doc mapped, ?_⟩⟩, ?_⟩
  · have found := (meaning schema content doc mapped).trans
      (Content.visible_or_stranded_iff restricted).symm
    have apart := @Content.not_isVisible_of_stranded content filter restricted
    rw [Bool.eq_iff_iff, found]
    constructor
    · intro same stranded
      exact apart stranded (same.1 (.inr stranded))
    · intro settled
      exact or_iff_left settled
  · intro finder acts query asked missing failed
    obtain ⟨request, loweredQuery, content, ⟨live, doc, mapped, filtered, matched⟩, hidden, same⟩ :=
      Finder.exists_hidden_of_find failed
    obtain ⟨again, loweredAgain, answered⟩ :=
      isMatch_of_lower asked loweredQuery filtered matched
    obtain rfl : inner = again := Except.ok.inj (lowered.symm.trans loweredAgain)
    have found := (Content.visible_or_stranded_iff restricted).2
      ((meaning finder.schema content doc mapped).1 answered)
    rw [hidden] at found
    exact ⟨content, live, found.resolve_left Bool.false_ne_true, same⟩

theorem Criterion.inLanguages_finds_french :
    ∃ criterion, Criterion.inLanguages (.list [.string "fre"]) true = .ok criterion ∧
      (∃ query, criterion.lower Sample.schema Sample.frenchFilter = .ok query ∧
        query.isMatch Sample.document = Sample.content.isVisible Sample.frenchFilter) ∧
      ∀ missing, Sample.finder.find (Sample.finder.performAll Sample.bothActs)
        (Finder.singleQuery criterion) Sample.frenchFilter ≠ .error (.notFound missing) := by
  have restricted : Sample.frenchFilter.languages ≠ [] := by decide
  obtain ⟨criterion, made, lowers, searches⟩ := inLanguages_finds restricted
  refine ⟨criterion, made, ?_, fun missing failed => ?_⟩
  · obtain ⟨query, lowered, meaning⟩ := lowers Sample.schema Sample.frenchFilter
    exact ⟨query, lowered, (meaning Sample.content Sample.document Sample.mapped).2.2 (by decide)⟩
  · obtain ⟨content, live, stranded, -⟩ := searches Sample.finder Sample.bothActs
      (Finder.singleQuery criterion) ⟨criterion, .inl rfl, .self⟩ missing failed
    rcases (Sample.live_bothActs content).1 live with rfl | rfl
    · exact absurd stranded (by decide)
    · exact absurd stranded (by decide)

def Sample.frenchless : Content where
  info := { content.info with mainLanguage := "fre" }
  version := ⟨1, .published, 14, ["eng"]⟩
  locations := []
  fields := []

/-- A reader of German finds such a content by the criterion for German or always available, and it
cannot be shown. -/
theorem Criterion.inLanguages_finds_hidden :
    ∃ criterion query doc, Criterion.inLanguages (.list [.string "ger"]) true = .ok criterion ∧
      criterion.lower Sample.schema ⟨["ger"], true⟩ = .ok query ∧
      Sample.frenchless.toDocument Sample.schema = .ok doc ∧ query.isMatch doc = true ∧
      Sample.frenchless.isVisible ⟨["ger"], true⟩ = false ∧
      Sample.finder.find (Sample.finder.performAll [.index [Sample.frenchless] .sync])
        (Finder.singleQuery criterion) ⟨["ger"], true⟩ =
          .error (.notFound (.visibleLanguage 7 ["ger"])) :=
  ⟨_, _, _, rfl, rfl, rfl, by decide, rfl, rfl⟩

end ContentFinder
