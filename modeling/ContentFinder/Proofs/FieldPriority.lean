import ContentFinder.Proofs.FirstHits
import ContentFinder.Proofs.VisibleLanguages

/-! In which order a content shows its fields to a reader: by the priority of their languages, and
within a language in their own order. So the first field of an identifier is the best translation
that the reader can get. -/

namespace ContentFinder

open Outcome

namespace Content

variable {content : Content} {filter : LanguageFilter} {languages : List String}

inductive ShownIn (content : Content) (filter : LanguageFilter) : List String → Prop where
  /-- Where none was asked for, these are all languages of the content, its main one before the
  others. -/
  | own (unrestricted : filter.languages = []) :
    ShownIn content filter
      ((if content.info.mainLanguage ∈ content.version.languages then [content.info.mainLanguage]
        else []) ++
        (content.version.languages.filter (· ≠ content.info.mainLanguage)).eraseDups)
  /-- Of those asked for, these are the ones that the content has. -/
  | asked (has : ∃ language ∈ filter.languages, language ∈ content.version.languages) :
    ShownIn content filter (filter.languages.filter (· ∈ content.version.languages))
  /-- Where it has none of them, the main one may stand in for them. -/
  | fallback (restricted : filter.languages ≠ []) (available : content.FallsBack filter)
      (has : content.info.mainLanguage ∈ content.version.languages) :
    ShownIn content filter [content.info.mainLanguage]

/-- The fields that a content shows of another one in some languages, best first. -/
structure Surfaces (shown raw : Content) (languages : List String) : Prop where
  kept : shown.fields.Perm (raw.fields.filter (·.language ∈ languages))
  ordered : shown.fields.Pairwise fun field later =>
    languages.idxOf field.language ≤ languages.idxOf later.language
  stable : ∀ language ∈ languages, shown.fields.filter (·.language == language) =
    raw.fields.filter (·.language == language)
  found : ∀ identifier,
    shown.field? identifier = languages.findSome? (raw.fieldIn? identifier)

theorem allLanguages_eq (content : Content) :
    content.allLanguages =
      (if content.info.mainLanguage ∈ content.version.languages then [content.info.mainLanguage]
        else []) ++
        (content.version.languages.filter (· ≠ content.info.mainLanguage)).eraseDups := by
  rw [allLanguages, IndexQuery.distinct_eq_eraseDups]
  by_cases has : content.info.mainLanguage ∈ content.version.languages
  · rw [if_pos (hasLanguage_iff.2 has), if_pos has, List.singleton_append, List.eraseDups_cons,
      List.singleton_append]
    congr 2
    apply List.filter_congr
    intro language _
    by_cases same : language = content.info.mainLanguage <;> simp [same]
  · have others : content.version.languages.filter (· ≠ content.info.mainLanguage) =
        content.version.languages := by
      rw [List.filter_eq_self]
      intro language member
      rw [decide_eq_true_iff]
      intro same
      exact has (same ▸ member)
    rw [if_neg fun present => has (hasLanguage_iff.1 present), if_neg has, others,
      List.nil_append, List.nil_append]

theorem shownIn_visibleLanguages (visible : content.visibleLanguages filter ≠ []) :
    content.ShownIn filter (content.visibleLanguages filter) := by
  by_cases unrestricted : filter.languages = []
  · rw [visibleLanguages_of_unrestricted unrestricted, allLanguages_eq]
    exact .own unrestricted
  by_cases has : ∃ language ∈ filter.languages, language ∈ content.version.languages
  · have same : filter.languages.filter content.hasLanguage =
        filter.languages.filter (· ∈ content.version.languages) := by
      apply List.filter_congr
      intro language _
      rw [Bool.eq_iff_iff, hasLanguage_iff, decide_eq_true_iff]
    have asked : filter.languages.filter content.hasLanguage ≠ [] := by
      obtain ⟨language, requested, listed⟩ := has
      exact List.ne_nil_of_mem (List.mem_filter.2 ⟨requested, hasLanguage_iff.2 listed⟩)
    rw [visibleLanguages_of_asked unrestricted asked, same]
    exact .asked has
  · have absent : ∀ language ∈ filter.languages, language ∉ content.version.languages :=
      fun language requested listed => has ⟨language, requested, listed⟩
    rw [visibleLanguages_of_absent unrestricted absent] at visible ⊢
    split_ifs at visible ⊢ with stands
    · exact .fallback unrestricted stands.1 stands.2
    · exact absurd rfl visible

theorem surfaces_restrict (content : Content) (languages : List String) :
    (content.restrict languages).Surfaces content languages := by
  have distinct := IndexQuery.nodup_distinct languages
  constructor
  case kept =>
    have groups := perm_flatMap_filter distinct Field.language content.fields
    simp only [IndexQuery.mem_distinct] at groups
    exact groups
  case ordered =>
    show List.Pairwise _ (List.flatMap _ _)
    rw [List.pairwise_flatMap]
    constructor
    · intro language _
      apply List.pairwise_of_forall_mem_list
      intro field member later laterMember
      rw [List.mem_filter, beq_iff_eq] at member laterMember
      rw [member.2, laterMember.2]
    · apply (IndexQuery.distinct_pairwise languages).imp
      intro language other before field member later laterMember
      rw [List.mem_filter, beq_iff_eq] at member laterMember
      rw [member.2, laterMember.2]
      exact before.le
  case stable =>
    intro language listed
    exact filter_flatMap_filter distinct Field.language content.fields
      (IndexQuery.mem_distinct.2 listed)
  case found =>
    intro identifier
    rw [field?, restrict, List.find?_flatMap]
    simp only [find?_filter_language]
    exact IndexQuery.findSome?_distinct _ _

end Content

namespace SearchResult

/-- A result whose first hits are visible shows each of them in the languages of the reader: its
fields by the priority of their languages, so that of an identifier the best translation is found
first. -/
theorem fields_by_priority (result : SearchResult) (filter : LanguageFilter)
    (visible : ∀ hit ∈ leading result.hits, hit.content.isVisible filter = true) :
    ∃ shown, result.shownTo filter = .ok shown ∧
      List.Forall₂ (fun raw hit =>
        raw.content.ShownIn filter (raw.content.visibleLanguages filter) ∧
        hit.content.Surfaces raw.content (raw.content.visibleLanguages filter))
        (leading result.hits) shown.hits := by
  obtain ⟨shown, answered⟩ := exists_shownTo.2 visible
  obtain ⟨hits, done, rfl⟩ := shownTo_eq_ok.1 answered
  refine ⟨_, answered, (mapM_eq_ok.1 done).imp fun raw hit made => ?_⟩
  rw [content_showHit made]
  exact ⟨Content.shownIn_visibleLanguages (isVisible_iff_ne_nil.1 (showHit_eq_ok.1 made).1),
    Content.surfaces_restrict _ _⟩

end SearchResult

def Sample.repeatedFilter : LanguageFilter :=
  ⟨["eng", "fre", "ger", "eng"], false⟩

theorem SearchResult.fields_by_priority_sample :
    ∃ shown hit, shown.hits = [hit] ∧
      SearchResult.shownTo ⟨1, [⟨.ofNat 1, Sample.content⟩], []⟩ Sample.repeatedFilter =
        .ok shown ∧
      hit.content.Surfaces Sample.content ["eng", "ger", "eng"] ∧
      hit.content.field? "title" = some ⟨"title", "eng", .text "Tea"⟩ := by
  obtain ⟨shown, answered, each⟩ := fields_by_priority
    ⟨1, [⟨.ofNat 1, Sample.content⟩], []⟩ Sample.repeatedFilter (by decide)
  have one : leading [⟨.ofNat 1, Sample.content⟩] = [⟨.ofNat 1, Sample.content⟩] := by decide
  rw [one, List.forall₂_cons_left_iff] at each
  obtain ⟨hit, others, ⟨-, surfaces⟩, none, hits⟩ := each
  rw [List.forall₂_nil_left_iff.1 none] at hits
  exact ⟨shown, hit, hits, answered, surfaces, (surfaces.found "title").trans (by decide)⟩

end ContentFinder
