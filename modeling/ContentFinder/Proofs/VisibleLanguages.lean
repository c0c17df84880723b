import ContentFinder.Proofs.VisibleTotal

/-! In which languages a reader is shown a content: in those asked for that it has, or else in its
main one if that may stand in for them. Of its fields, the ones in these languages are shown. -/

namespace ContentFinder

namespace Content

variable {content : Content} {filter : LanguageFilter} {language : String}

/-- Nothing that was asked for is there, but the main language may be shown instead. -/
def FallsBack (content : Content) (filter : LanguageFilter) : Prop :=
  filter.useAlwaysAvailable = true ∧ content.info.alwaysAvailable = true ∧
    ∀ language ∈ filter.languages, language ∉ content.version.languages

/-- The content has its main language, and the reader is shown that language: because none was asked
for, because this one was, or for want of all that were. -/
def ShowsMain (content : Content) (filter : LanguageFilter) : Prop :=
  content.info.mainLanguage ∈ content.version.languages ∧
    (filter.languages = [] ∨ content.info.mainLanguage ∈ filter.languages ∨
      content.FallsBack filter)

instance : Decidable (content.FallsBack filter) :=
  inferInstanceAs (Decidable (_ ∧ _ ∧ _))

instance : Decidable (content.ShowsMain filter) :=
  inferInstanceAs (Decidable (_ ∧ (_ ∨ _ ∨ _)))

theorem hasLanguage_iff :
    content.hasLanguage language = true ↔ language ∈ content.version.languages :=
  List.contains_iff_mem

theorem mem_allLanguages :
    language ∈ content.allLanguages ↔ language ∈ content.version.languages := by
  rw [allLanguages, IndexQuery.distinct_eq_eraseDups, List.mem_eraseDups, List.mem_append]
  constructor
  · rintro (isMain | listed)
    · split at isMain
      · rename_i listed
        rw [List.mem_singleton.1 isMain]
        exact hasLanguage_iff.1 listed
      · cases isMain
    · exact listed
  · exact Or.inr

theorem visibleLanguages_of_asked (restricted : filter.languages ≠ [])
    (asked : filter.languages.filter content.hasLanguage ≠ []) :
    content.visibleLanguages filter = filter.languages.filter content.hasLanguage := by
  rw [visibleLanguages, LanguageFilter.isUnrestricted_eq_false restricted,
    if_neg Bool.false_ne_true]
  split
  · rename_i none
    exact absurd none asked
  · rfl

theorem visibleLanguages_of_absent (restricted : filter.languages ≠ [])
    (absent : ∀ language ∈ filter.languages, language ∉ content.version.languages) :
    content.visibleLanguages filter =
      if content.FallsBack filter ∧ content.info.mainLanguage ∈ content.version.languages then
        [content.info.mainLanguage]
      else [] := by
  have none : filter.languages.filter content.hasLanguage = [] := by
    rw [List.filter_eq_nil_iff]
    intro language requested listed
    exact absent language requested (hasLanguage_iff.1 listed)
  rw [visibleLanguages, LanguageFilter.isUnrestricted_eq_false restricted,
    if_neg Bool.false_ne_true, none]
  apply if_congr _ rfl rfl
  rw [Bool.and_eq_true, Bool.and_eq_true, hasLanguage_iff, FallsBack, and_iff_left absent]

theorem mem_visibleLanguages_of_absent (restricted : filter.languages ≠ [])
    (absent : ∀ language ∈ filter.languages, language ∉ content.version.languages) :
    language ∈ content.visibleLanguages filter ↔ language ∈ content.version.languages ∧
      language = content.info.mainLanguage ∧ content.FallsBack filter := by
  rw [visibleLanguages_of_absent restricted absent]
  split_ifs with stands
  · rw [List.mem_singleton]
    constructor
    · rintro rfl
      exact ⟨stands.2, rfl, stands.1⟩
    · exact fun shown => shown.2.1
  · constructor
    · intro impossible
      cases impossible
    · rintro ⟨listed, rfl, fallback⟩
      exact absurd ⟨fallback, listed⟩ stands

theorem mem_visibleLanguages :
    language ∈ content.visibleLanguages filter ↔ language ∈ content.version.languages ∧
      (filter.languages = [] ∨ language ∈ filter.languages ∨
        language = content.info.mainLanguage ∧ content.FallsBack filter) := by
  by_cases unrestricted : filter.languages = []
  · simp [visibleLanguages_of_unrestricted unrestricted, mem_allLanguages, unrestricted]
  by_cases absent : ∀ language ∈ filter.languages, language ∉ content.version.languages
  · have elsewhere : language ∈ content.version.languages → language ∉ filter.languages :=
      fun listed requested => absent language requested listed
    rw [mem_visibleLanguages_of_absent unrestricted absent]
    constructor
    · rintro ⟨listed, fallback⟩
      exact ⟨listed, .inr (.inr fallback)⟩
    · rintro ⟨listed, none | requested | fallback⟩
      · exact absurd none unrestricted
      · exact absurd requested (elsewhere listed)
      · exact ⟨listed, fallback⟩
  · have present : ¬content.FallsBack filter := fun fallback => absent fallback.2.2
    have asked : filter.languages.filter content.hasLanguage ≠ [] := by
      rw [ne_eq, List.filter_eq_nil_iff]
      simpa [hasLanguage_iff] using absent
    rw [visibleLanguages_of_asked unrestricted asked, List.mem_filter, hasLanguage_iff]
    simp [unrestricted, present, and_comm]

theorem mainLanguage_mem_visibleLanguages :
    content.info.mainLanguage ∈ content.visibleLanguages filter ↔ content.ShowsMain filter := by
  rw [mem_visibleLanguages, ShowsMain]
  simp

theorem filter_restrict (content : Content) (languages : List String) (identifier : String) :
    (content.restrict languages).fields.filter (·.identifier == identifier) =
      languages.eraseDups.flatMap fun language =>
        (content.fields.filter (·.identifier == identifier)).filter (·.language == language) := by
  rw [restrict, IndexQuery.distinct_eq_eraseDups, List.filter_flatMap]
  congr 1
  funext language
  rw [List.filter_filter, List.filter_filter]
  simp only [Bool.and_comm]

theorem field?_restrict {field : Field}
    (only : content.fields.filter (·.identifier == field.identifier) = [field])
    (languages : List String) :
    (content.restrict languages).field? field.identifier =
      if field.language ∈ languages then some field else none := by
  have first : ∀ kept : List String,
      (kept.flatMap fun language => [field].filter (·.language == language)).head? =
        if field.language ∈ kept then some field else none := by
    intro kept
    induction kept with
    | nil => rfl
    | cons language rest ih =>
      by_cases same : field.language = language
      · simp [same]
      · simp [same, ih]
  rw [field?, ← List.head?_filter, filter_restrict, only, first]
  simp only [List.mem_eraseDups]

end Content

end ContentFinder
