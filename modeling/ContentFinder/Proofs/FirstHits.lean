import ContentFinder.Proofs.MissingLanguage

/-! What showing a result to a reader does to its hits. Of the hits for one content the first is
kept and the others are dropped, whatever they hold. The first hits must all be visible; they stay
as they are but for the fields of their contents. -/

namespace ContentFinder

open Outcome

namespace SearchResult

variable {filter : LanguageFilter}

theorem isVisible_iff_ne_nil {content : Content} :
    content.isVisible filter = true ↔ content.visibleLanguages filter ≠ [] := by
  unfold Content.isVisible
  cases content.visibleLanguages filter <;> simp

theorem showHit_keeps {hit shown : SearchHit} (made : showHit filter hit = .ok shown) :
    shown.score = hit.score ∧
      { shown.content with fields := hit.content.fields } = hit.content := by
  rw [(showHit_eq_ok.1 made).2]
  exact ⟨rfl, rfl⟩

theorem shownTo_eq_ok {result shown : SearchResult} :
    result.shownTo filter = .ok shown ↔ ∃ hits,
      (leading result.hits).mapM (showHit filter) = .ok hits ∧
      shown = { result with
        total := result.total - (result.hits.length - (leading result.hits).length)
        hits := hits } := by
  rw [shownTo, bind_eq_ok, ← firstHits_eq_leading]
  simp only [pure, Except.pure, Except.ok.injEq, eq_comm]

theorem exists_shownTo {result : SearchResult} :
    (∃ shown, result.shownTo filter = .ok shown) ↔
      ∀ hit ∈ leading result.hits, hit.content.isVisible filter = true := by
  have seen := @exists_mapM_eq_ok _ _ _ (showHit filter) (leading result.hits)
  simp only [exists_showHit] at seen
  rw [← seen]
  constructor
  · intro answered
    obtain ⟨shown, answered⟩ := answered
    obtain ⟨hits, done, -⟩ := shownTo_eq_ok.1 answered
    exact ⟨hits, done⟩
  · intro done
    obtain ⟨hits, done⟩ := done
    exact ⟨_, shownTo_eq_ok.2 ⟨hits, done, rfl⟩⟩

end SearchResult

namespace TimedResult

open SearchResult

variable {timed shown : TimedResult} {filter : LanguageFilter}

/-- What a reader is shown has the first hits of a result with contents that differ at most in
their fields, counts the others out, and keeps facets and time. -/
structure Shows (timed shown : TimedResult) : Prop where
  hits : List.Forall₂ (fun raw hit => hit.score = raw.score ∧
    { hit.content with fields := raw.content.fields } = raw.content)
      (leading timed.result.hits) shown.result.hits
  total : shown.result.total =
    timed.result.total - (timed.result.hits.length - (leading timed.result.hits).length)
  facets : shown.result.facets = timed.result.facets
  time : shown.time = timed.time

theorem shownTo_eq_ok :
    timed.shownTo filter = .ok shown ↔
      timed.result.shownTo filter = .ok shown.result ∧ shown.time = timed.time := by
  obtain ⟨result, time⟩ := shown
  rw [shownTo, bind_eq_ok]
  simp only [pure, Except.pure, Except.ok.injEq, TimedResult.mk.injEq, eq_comm]
  simp

theorem shownTo_eq_error {failure : Failure} :
    timed.shownTo filter = .error failure ↔
      (leading timed.result.hits).mapM (showHit filter) = .error failure := by
  rw [shownTo, bind_eq_error, ← firstHits_eq_leading, SearchResult.shownTo, bind_eq_error]
  simp [pure, Except.pure]

theorem shows_of_shownTo (answered : timed.shownTo filter = .ok shown) : timed.Shows shown := by
  obtain ⟨made, sameTime⟩ := shownTo_eq_ok.1 answered
  obtain ⟨hits, done, same⟩ := SearchResult.shownTo_eq_ok.1 made
  constructor
  case hits =>
    rw [same]
    exact (mapM_eq_ok.1 done).imp fun _ _ => showHit_keeps
  case total => rw [same]
  case facets => rw [same]
  case time => exact sameTime

/-- A result can be shown just when all of its first hits are in some language that the reader may
see, and then only the other hits are dropped. Where it cannot be shown, the failure names the
content of the earliest first hit that the reader may not see. -/
theorem shownTo_exact (timed : TimedResult) (filter : LanguageFilter) :
    ((∃ shown, timed.shownTo filter = .ok shown) ↔
      ∀ hit ∈ leading timed.result.hits, hit.content.visibleLanguages filter ≠ []) ∧
    (∀ shown, timed.shownTo filter = .ok shown → timed.Shows shown) ∧
    ∀ failure, timed.shownTo filter = .error failure ↔
      ∃ before hit after, leading timed.result.hits = before ++ hit :: after ∧
        (∀ earlier ∈ before, earlier.content.visibleLanguages filter ≠ []) ∧
        hit.content.visibleLanguages filter = [] ∧
        failure = .notFound (.visibleLanguage hit.content.id filter.languages) := by
  refine ⟨?shows, fun shown => shows_of_shownTo, ?fails⟩
  case shows =>
    have seen := @SearchResult.exists_shownTo filter timed.result
    simp only [isVisible_iff_ne_nil] at seen
    rw [← seen]
    constructor
    · intro answered
      obtain ⟨shown, answered⟩ := answered
      exact ⟨_, (shownTo_eq_ok.1 answered).1⟩
    · intro answered
      obtain ⟨result, answered⟩ := answered
      exact ⟨⟨result, timed.time⟩, shownTo_eq_ok.2 ⟨answered, rfl⟩⟩
  case fails =>
    intro failure
    have hidden : ∀ hit : SearchHit, hit.content.isVisible filter = false ↔
        hit.content.visibleLanguages filter = [] := by
      intro hit
      rw [← Bool.not_eq_true, isVisible_iff_ne_nil, not_not]
    rw [shownTo_eq_error, mapM_eq_error]
    simp only [exists_showHit, isVisible_iff_ne_nil, showHit_eq_error, hidden]

end TimedResult

def Sample.repeated : TimedResult where
  result := ⟨3, [⟨.ofNat 2, content⟩, ⟨.ofNat 1, english⟩, ⟨.ofNat 1, unlisted⟩], []⟩
  time := 1500

theorem TimedResult.shownTo_repeated :
    (∃ shown, Sample.repeated.shownTo .unrestricted = .ok shown ∧
      Sample.repeated.Shows shown ∧ shown.result.total = 2) ∧
    Sample.repeated.shownTo Sample.germanFilter =
      .error (.notFound (.visibleLanguage 8 ["ger"])) := by
  obtain ⟨answers, keeps, -⟩ := shownTo_exact Sample.repeated .unrestricted
  obtain ⟨shown, answered⟩ := answers.2 (by decide)
  have kept := keeps shown answered
  have hidden := (shownTo_exact Sample.repeated Sample.germanFilter).2.2
  refine ⟨⟨shown, answered, kept, kept.total.trans (by decide)⟩, (hidden _).2 ?_⟩
  exact ⟨[_], _, [], rfl, by decide, rfl, rfl⟩

end ContentFinder
