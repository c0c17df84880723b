import ContentFinder.Proofs.MissingLanguage

/-! Asking for one content. The number of matching documents decides first: unless it is one, the
failure tells it, whoever reads. Of a single match there is one hit to show or to refuse, so an
answer is never empty. -/

namespace ContentFinder

open Outcome

namespace Store

def matchCount (store : Store) (query : IndexQuery) : Nat :=
  store.committed.values.countP query.isMatch

theorem length_candidates_matchAll (store : Store) (query : IndexQuery) :
    (store.candidates query .matchAll).length = store.matchCount query := by
  rw [← List.length_map Candidate.doc, docs_candidates, matchCount, List.countP_eq_length_filter]
  simp only [IndexQuery.isMatch_matchAll, Bool.and_true]

end Store

namespace Finder

theorem maxLimit_pos {connection : Connection} {settings : Settings} {finder : Finder}
    (built : ofSettings connection settings = .ok finder) : 0 < finder.bounds.maxLimit := by
  obtain ⟨⟨⟩, checked, built⟩ := bind_eq_ok.1 built
  obtain ⟨schema, -, same⟩ := bind_eq_ok.1 built
  obtain ⟨⟨⟩, searched, -⟩ := bind_eq_ok.1 (mapError_eq_ok.1 checked)
  rw [← Except.ok.inj same]
  unfold Settings.checkSearch at searched
  split at searched
  · cases searched
  · dsimp only
    omega

def singleRequest (finder : Finder) (query : IndexQuery) : SearchRequest where
  filter := query
  query := .matchAll
  sorts := []
  offset := 0
  limit := 1
  facets := []
  budget := finder.bounds.budget

variable {finder : Finder} {store : Store} {acts : List Act} {criterion : Criterion}
  {filter : LanguageFilter} {query : IndexQuery} {result : SearchResult}

theorem lower_singleQuery (allowed : 0 < finder.bounds.maxLimit)
    (lowered : criterion.lower finder.schema filter = .ok query) :
    (singleQuery criterion).lower finder.schema finder.bounds filter =
      .ok (finder.singleRequest query) := by
  have limit : Nat.min 1 finder.bounds.maxLimit = 1 := Nat.min_eq_left allowed
  rw [singleRequest, ← limit]
  refine bind_eq_ok.2 ⟨query, lowered, ?_⟩
  rfl

theorem findSingle_eq (allowed : 0 < finder.bounds.maxLimit)
    (lowered : criterion.lower finder.schema filter = .ok query)
    (executed : finder.execute store (finder.singleRequest query) = .ok result) :
    finder.findSingle store criterion filter =
      if result.total ≠ 1 then .error (.objectCount 1 result.total)
      else result.shownTo filter >>= fun shown => match shown.hits with
        | [] => .error (.notFound .matchingContent)
        | hit :: _ => .ok hit.content := by
  unfold findSingle
  rw [lower_singleQuery allowed lowered]
  show (finder.execute store _ >>= _) = _
  rw [executed]
  dsimp only [bind, Except.bind]
  split <;> rfl

theorem total_singleRequest
    (executed : finder.execute store (finder.singleRequest query) = .ok result) :
    result.total = store.matchCount query := by
  obtain ⟨response, searched, total, -⟩ := of_execute executed
  rw [total, Store.search_eq_ok searched]
  exact store.length_candidates_matchAll query

/-- A single match is shown or refused as the one hit of the page. -/
theorem findSingle_of_hit {hit : SearchHit} (allowed : 0 < finder.bounds.maxLimit)
    (lowered : criterion.lower finder.schema filter = .ok query)
    (executed : finder.execute store (finder.singleRequest query) = .ok result)
    (one : result.total = 1) (only : result.hits = [hit]) :
    finder.findSingle store criterion filter = hit.content.shownTo filter := by
  have distinct : result.contentIds.Nodup := by
    rw [SearchResult.contentIds, only]
    exact List.nodup_singleton _
  rw [findSingle_eq allowed lowered executed, if_neg (not_not.2 one),
    SearchResult.shownTo_of_nodup distinct, only, List.mapM_cons, List.mapM_nil,
    ← SearchResult.content_showHit_eq]
  cases SearchResult.showHit filter hit <;> rfl

theorem exists_single
    (executed : finder.execute (finder.performAll acts) (finder.singleRequest query) = .ok result)
    (one : result.total = 1) :
    ∃ hit content doc, result.hits = [hit] ∧ hit.content.id = content.id ∧
      finder.matching acts query .matchAll = {content} ∧
      content.toDocument finder.schema = .ok doc ∧
      doc ∈ (finder.performAll acts).committed.values ∧ query.isMatch doc = true ∧
      doc.toContent finder.schema = .ok hit.content := by
  have page : result.hits.length = 1 := by
    rw [length_hits executed, one]
    rfl
  obtain ⟨hit, only⟩ := List.length_eq_one_iff.1 page
  have listed : hit ∈ result.hits := by
    rw [only]
    exact List.mem_singleton_self hit
  obtain ⟨content, member, sameId, doc, mapped, back⟩ := matching_of_hit executed listed
  -- The hit comes from a content that matches, and the total leaves no room for a second one.
  have counted : (finder.matching acts query .matchAll).ncard = 1 :=
    (total_execute executed).symm.trans one
  obtain ⟨other, alone⟩ := Set.ncard_eq_one.1 counted
  have same : content = other := by
    have inside : content ∈ finder.matching acts query .matchAll := member
    rwa [alone] at inside
  obtain ⟨live, again, mappedAgain, matched, -⟩ := member
  rw [mapped] at mappedAgain
  cases mappedAgain
  exact ⟨hit, content, doc, only, sameId, same ▸ alone, mapped,
    mem_committed.2 ⟨content, mapped, live⟩, matched, back⟩

end Finder

/-- Asking a finder for one content, while its store can be reached in time. Unless one committed
document matches, the answer is their number. The content of a single one is shown in the languages
that the reader may see, or refused by its id if there is none, and so it is never missing. -/
theorem Finder.findSingle_exact {connection : Connection} {settings : Settings} {finder : Finder}
    {acts : List Finder.Act} {criterion : Criterion} {filter : LanguageFilter} {query : IndexQuery}
    (built : Finder.ofSettings connection settings = .ok finder)
    (lowered : criterion.lower finder.schema filter = .ok query)
    (online : (finder.performAll acts).offline = false)
    (inTime : (finder.performAll acts).latency + finder.lag ≤ finder.bounds.budget) :
    ((finder.performAll acts).matchCount query ≠ 1 →
      finder.findSingle (finder.performAll acts) criterion filter =
        .error (.objectCount 1 ((finder.performAll acts).matchCount query))) ∧
    ((finder.performAll acts).matchCount query = 1 → ∃ content doc read,
      finder.matching acts query .matchAll = {content} ∧
      content.toDocument finder.schema = .ok doc ∧
      doc ∈ (finder.performAll acts).committed.values ∧ query.isMatch doc = true ∧
      doc.toContent finder.schema = .ok read ∧
      (content.isVisible filter = true →
        finder.findSingle (finder.performAll acts) criterion filter =
          .ok (read.restrict (read.visibleLanguages filter))) ∧
      (content.isVisible filter = false →
        finder.findSingle (finder.performAll acts) criterion filter =
          .error (.notFound (.visibleLanguage content.id filter.languages)))) ∧
    finder.findSingle (finder.performAll acts) criterion filter ≠
      .error (.notFound .matchingContent) := by
  have allowed := Finder.maxLimit_pos built
  obtain ⟨result, executed⟩ : ∃ result,
      finder.execute (finder.performAll acts) (finder.singleRequest query) = .ok result :=
    Finder.exists_execute online inTime
  have total := Finder.total_singleRequest executed
  have many : result.total ≠ 1 → finder.findSingle (finder.performAll acts) criterion filter =
      .error (.objectCount 1 result.total) := fun many => by
    rw [Finder.findSingle_eq allowed lowered executed, if_pos many]
  rw [← total]
  by_cases one : result.total = 1
  · obtain ⟨hit, content, doc, only, sameId, alone, mapped, committed, matched, back⟩ :=
      Finder.exists_single executed one
    have answer := Finder.findSingle_of_hit allowed lowered executed one only
    rw [Content.shownTo, Content.isVisible_read mapped back, sameId] at answer
    refine ⟨fun many => absurd one many, fun _ => ⟨content, doc, hit.content, alone, mapped,
      committed, matched, back, ?shown, ?refused⟩, ?never⟩
    case shown =>
      intro seen
      rw [answer, if_pos seen]
    case refused =>
      intro hidden
      rw [answer, if_neg (Bool.eq_false_iff.1 hidden)]
    case never =>
      rw [answer]
      split <;> nofun
  · refine ⟨many, fun impossible => absurd impossible one, ?_⟩
    rw [many one]
    nofun

namespace Sample

def settings : Settings where
  search := ⟨100, 1000⟩
  commitMode := .sync
  log := Settings.standard.log
  fields := definitions

theorem built_settings : Finder.ofSettings .direct settings = .ok finder := rfl

end Sample

theorem Finder.findSingle_sample :
    Sample.finder.findSingle (Sample.finder.performAll Sample.bothActs) .matchAll
        Sample.frenchFilter = .error (.objectCount 1 2) ∧
      ∃ read, Sample.document.toContent Sample.schema = .ok read ∧
        Sample.finder.findSingle (Sample.finder.performAll Sample.bothActs)
          (.field Sample.titleLeaf) Sample.frenchFilter =
            .ok (read.restrict (read.visibleLanguages Sample.frenchFilter)) := by
  have inTime : (Sample.finder.performAll Sample.bothActs).latency + Sample.finder.lag ≤
      Sample.finder.bounds.budget := by decide
  have all : Criterion.lower Sample.finder.schema Sample.frenchFilter .matchAll = .ok _ := rfl
  have byTitle : Criterion.lower Sample.finder.schema Sample.frenchFilter
      (.field Sample.titleLeaf) = .ok _ := rfl
  obtain ⟨many, -⟩ := findSingle_exact Sample.built_settings all rfl inTime
  obtain ⟨-, one, -⟩ := findSingle_exact Sample.built_settings byTitle rfl inTime
  obtain ⟨content, doc, read, alone, mapped, -, -, back, shown, -⟩ := one rfl
  obtain rfl : Sample.content = content := by
    rw [← Set.mem_singleton_iff, ← alone]
    exact ⟨(Sample.live_bothActs _).2 (.inl rfl), Sample.document, Sample.mapped, rfl, rfl⟩
  obtain rfl : Sample.document = doc := Except.ok.inj (Sample.mapped.symm.trans mapped)
  exact ⟨many (by decide), read, back, shown (by decide)⟩

end ContentFinder
