import ContentFinder.Proofs.VisibleTotal

/-! When a search finds a content that it cannot show in any language. The failure names the first
hit of the page that the reader may not see. To a reader who asked for no language, that is a
content which lists none itself. -/

namespace ContentFinder

open Outcome

theorem SearchResult.showHit_eq_error {filter : LanguageFilter} {hit : SearchHit}
    {failure : Failure} :
    showHit filter hit = .error failure ↔ hit.content.isVisible filter = false ∧
      failure = .notFound (.visibleLanguage hit.content.id filter.languages) := by
  unfold showHit Content.isVisible
  cases hit.content.visibleLanguages filter <;> simp [eq_comm]

namespace Finder

variable {finder : Finder} {acts : List Act} {query : Query} {filter : LanguageFilter}

theorem find_eq_notFound_iff {missing : Missing} :
    finder.find (finder.performAll acts) query filter = .error (.notFound missing) ↔
      ∃ request result before hit after,
        query.lower finder.schema finder.bounds filter = .ok request ∧
        finder.execute (finder.performAll acts) request = .ok result ∧
        result.hits = before ++ hit :: after ∧
        (∀ earlier ∈ before, earlier.content.isVisible filter = true) ∧
        hit.content.isVisible filter = false ∧
        missing = .visibleLanguage hit.content.id filter.languages := by
  constructor
  · intro failed
    rcases bind_eq_error.1 failed with refused | ⟨request, lowered, failed⟩
    · exact (query.lower_failsOnly finder.schema filter finder.bounds _ refused).elim
    rcases bind_eq_error.1 failed with failed | ⟨result, executed, failed⟩
    · exact (finder.execute_failsOnly _ request _ failed).elim
    rw [SearchResult.shownTo_of_nodup (contentIds_execute executed), map_eq_error,
      mapM_eq_error] at failed
    obtain ⟨before, hit, after, split, fine, failed⟩ := failed
    obtain ⟨hidden, same⟩ := SearchResult.showHit_eq_error.1 failed
    exact ⟨request, result, before, hit, after, lowered, executed, split,
      fun earlier member => SearchResult.exists_showHit.1 (fine earlier member), hidden,
      Failure.notFound.inj same⟩
  · rintro ⟨request, result, before, hit, after, lowered, executed, split, fine, hidden, rfl⟩
    have failed : result.hits.mapM (SearchResult.showHit filter) =
        .error (.notFound (.visibleLanguage hit.content.id filter.languages)) :=
      mapM_eq_error.2 ⟨before, hit, after, split,
        fun earlier member => SearchResult.exists_showHit.2 (fine earlier member),
        SearchResult.showHit_eq_error.2 ⟨hidden, rfl⟩⟩
    refine bind_eq_error.2 (.inr ⟨request, lowered, bind_eq_error.2 (.inr ⟨result, executed, ?_⟩)⟩)
    rw [SearchResult.shownTo_of_nodup (contentIds_execute executed), failed]
    rfl

/-- A search that lacks a language has hit a live content that the reader may not see. -/
theorem exists_hidden_of_find {missing : Missing}
    (failed : finder.find (finder.performAll acts) query filter = .error (.notFound missing)) :
    ∃ request, query.lower finder.schema finder.bounds filter = .ok request ∧
      ∃ content ∈ finder.matching acts request.filter request.query,
        content.isVisible filter = false ∧
        missing = .visibleLanguage content.id filter.languages := by
  obtain ⟨request, result, before, hit, after, lowered, executed, split, -, hidden, same⟩ :=
    find_eq_notFound_iff.1 failed
  have listed : hit ∈ result.hits := by simp [split]
  obtain ⟨content, member, sameId, doc, mapped, read⟩ := matching_of_hit executed listed
  rw [Content.isVisible_read mapped read] at hidden
  exact ⟨request, lowered, content, member, hidden, sameId ▸ same⟩

end Finder

/-- To a reader who asks for no language a content is visible when it lists some language. So a
search without languages fails to show a page just when a content on it lists none, and never does
over contents that all list one. -/
theorem Finder.find_unrestricted {filter : LanguageFilter} (unrestricted : filter.languages = []) :
    (∀ content : Content, content.isVisible filter = true ↔ content.version.languages ≠ []) ∧
    ∀ (finder : Finder) (acts : List Act) (query : Query),
      (∀ missing, finder.find (finder.performAll acts) query filter = .error (.notFound missing) ↔
        ∃ request result before hit after,
          query.lower finder.schema finder.bounds filter = .ok request ∧
          finder.execute (finder.performAll acts) request = .ok result ∧
          result.hits = before ++ hit :: after ∧
          (∀ earlier ∈ before, earlier.content.version.languages ≠ []) ∧
          hit.content.version.languages = [] ∧
          missing = .visibleLanguage hit.content.id []) ∧
      ((∀ content, finder.Live acts content → content.version.languages ≠ []) → ∀ missing,
        finder.find (finder.performAll acts) query filter ≠ .error (.notFound missing)) := by
  have visible := Content.isVisible_of_unrestricted unrestricted
  have hidden : ∀ content : Content,
      content.isVisible filter = false ↔ content.version.languages = [] := by
    intro content
    rw [← Bool.not_eq_true, visible, not_not]
  refine ⟨visible, fun finder acts query => ⟨fun missing => ?_, fun each missing failed => ?_⟩⟩
  · rw [find_eq_notFound_iff]
    simp only [visible, hidden, unrestricted]
  · obtain ⟨request, -, content, ⟨live, -⟩, unseen, -⟩ := exists_hidden_of_find failed
    exact each content live ((hidden content).1 unseen)

theorem Finder.find_unrestricted_firstPage :
    Sample.content.isVisible .unrestricted = true ∧
      ∀ missing, Sample.finder.find (Sample.finder.performAll Sample.bothActs) Sample.firstPage
        .unrestricted ≠ .error (.notFound missing) := by
  have listed : ∀ content, Sample.finder.Live Sample.bothActs content →
      content.version.languages ≠ [] := by
    intro content live
    rcases (Sample.live_bothActs content).1 live with rfl | rfl <;> decide
  obtain ⟨visible, searches⟩ := find_unrestricted (rfl : LanguageFilter.unrestricted.languages = [])
  exact ⟨(visible Sample.content).2 (by decide),
    (searches Sample.finder Sample.bothActs Sample.firstPage).2 listed⟩

def Sample.unlisted : Content where
  info := content.info
  version := ⟨1, .published, 14, []⟩
  locations := []
  fields := []

/-- One content without a language is stored, and no search without languages can show it. -/
theorem Finder.unlisted_fails :
    Sample.unlisted.isVisible .unrestricted = false ∧
      Sample.finder.find (Sample.finder.performAll [.index [Sample.unlisted] .sync])
        Sample.firstPage .unrestricted = .error (.notFound (.visibleLanguage 7 [])) :=
  ⟨rfl, rfl⟩

end ContentFinder
