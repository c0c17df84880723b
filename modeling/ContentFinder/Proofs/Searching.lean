import Mathlib.Data.List.Induction
import ContentFinder.Proofs.Failures

/-! What a search finds. Each hit is a committed document that the filter and the query of the
request both match, read back as a content. -/

namespace ContentFinder

open Outcome

theorem Query.lower_eq_ok {schema : Schema} {bounds : RequestBounds} {filter : LanguageFilter}
    {query : Query} {request : SearchRequest}
    (lowered : query.lower schema bounds filter = .ok request) :
    (query.filter.getD .matchAll).lower schema filter = .ok request.filter ∧
      (query.query.getD .matchAll).lower schema filter = .ok request.query ∧
      query.sorts.mapM (SortClause.lower schema) = .ok request.sorts := by
  obtain ⟨filterQuery, loweredFilter, lowered⟩ := bind_eq_ok.1 lowered
  obtain ⟨mainQuery, loweredQuery, lowered⟩ := bind_eq_ok.1 lowered
  obtain ⟨sorts, loweredSorts, same⟩ := bind_eq_ok.1 lowered
  cases same
  exact ⟨loweredFilter, loweredQuery, loweredSorts⟩

theorem Candidate.mem_arrange {sorts : List IndexSort} {candidates : List Candidate}
    {candidate : Candidate} : candidate ∈ arrange sorts candidates ↔ candidate ∈ candidates :=
  (Sorting.sortBy_perm _ candidates).mem_iff

theorem Store.mem_candidates {store : Store} {filter query : IndexQuery} {candidate : Candidate} :
    candidate ∈ store.candidates filter query ↔ candidate.doc ∈ store.committed.values ∧
      filter.isMatch candidate.doc = true ∧ query.score candidate.doc = some candidate.score := by
  rw [candidates, List.mem_filterMap]
  constructor
  · rintro ⟨doc, member, scored⟩
    obtain ⟨score, found, rfl⟩ := Option.map_eq_some_iff.1 scored
    exact ⟨(List.mem_filter.1 member).1, (List.mem_filter.1 member).2, found⟩
  · rintro ⟨member, matched, found⟩
    exact ⟨candidate.doc, List.mem_filter.2 ⟨member, matched⟩, by rw [found]; rfl⟩

namespace Store

def arranged (store : Store) (request : SearchRequest) : List Candidate :=
  Candidate.arrange request.sorts (store.candidates request.filter request.query)

theorem length_arranged (store : Store) (request : SearchRequest) :
    (store.arranged request).length =
      (store.candidates request.filter request.query).length :=
  (Sorting.sortBy_perm _ _).length_eq

end Store

section Search

variable {finder : Finder} {store : Store} {request : SearchRequest}

theorem Store.search_eq_ok {response : SearchResponse}
    (found : store.search request = .ok response) :
    response = {
      total := (store.candidates request.filter request.query).length
      hits := ((Candidate.arrange request.sorts
        (store.candidates request.filter request.query)).drop request.offset).take request.limit
      facets := request.facets.map
        (·.answer ((store.candidates request.filter request.query).map (·.doc))) } := by
  obtain ⟨-, -, found⟩ := bind_eq_ok.1 found
  split at found
  · cases found
  · exact (Except.ok.inj found).symm

theorem Store.reached_of_search {response : SearchResponse}
    (found : store.search request = .ok response) :
    store.offline = false ∧ store.latency ≤ request.budget := by
  obtain ⟨⟨⟩, online, found⟩ := bind_eq_ok.1 found
  unfold requireOnline at online
  constructor
  · by_contra offline
    simp [offline] at online
  · by_contra late
    rw [if_pos (Nat.lt_of_not_le late)] at found
    cases found

theorem Store.matches_of_search {response : SearchResponse}
    (found : store.search request = .ok response) {hit : Candidate} (member : hit ∈ response.hits) :
    hit.doc ∈ store.committed.values ∧ request.filter.isMatch hit.doc = true ∧
      request.query.isMatch hit.doc = true := by
  rw [search_eq_ok found] at member
  have listed := Candidate.mem_arrange.1 (List.mem_of_mem_drop (List.mem_of_mem_take member))
  obtain ⟨committed, matched, scored⟩ := mem_candidates.1 listed
  refine ⟨committed, matched, ?_⟩
  rw [IndexQuery.isMatch, scored]
  rfl

namespace Finder

theorem search_eq_ok {response : SearchResponse}
    (found : finder.search store request = .ok response) : store.search request = .ok response := by
  obtain ⟨answer, searched, found⟩ := bind_eq_ok.1 found
  split at found
  · rw [searched, ← Except.ok.inj found]
  · dsimp only at found
    split at found
    · cases found
    · rw [searched, ← Except.ok.inj found]

def readHit (finder : Finder) (hit : Candidate) : Except Failure SearchHit := do
  return SearchHit.mk hit.score (← hit.doc.toContent finder.schema)

theorem of_execute {result : SearchResult} (found : finder.execute store request = .ok result) :
    ∃ response, store.search request = .ok response ∧ result.total = response.total ∧
      response.hits.mapM finder.readHit = .ok result.hits := by
  obtain ⟨response, searched, found⟩ := bind_eq_ok.1 found
  obtain ⟨hits, read, same⟩ := bind_eq_ok.1 found
  cases same
  exact ⟨response, search_eq_ok searched, rfl, read⟩

/-- A page is as long as it may be and as there are matches left for it. -/
theorem length_hits {result : SearchResult} (found : finder.execute store request = .ok result) :
    result.hits.length = min request.limit (result.total - request.offset) := by
  obtain ⟨response, searched, total, read⟩ := of_execute found
  rw [← (mapM_eq_ok.1 read).length_eq, total, Store.search_eq_ok searched, List.length_take,
    List.length_drop, ← Store.arranged, Store.length_arranged]

theorem hit_of_execute {result : SearchResult}
    (found : finder.execute store request = .ok result) {hit : SearchHit}
    (member : hit ∈ result.hits) :
    ∃ doc ∈ store.committed.values, request.filter.isMatch doc = true ∧
      request.query.isMatch doc = true ∧ doc.toContent finder.schema = .ok hit.content := by
  obtain ⟨response, searched, -, read⟩ := of_execute found
  obtain ⟨candidate, listed, readHit⟩ := exists_of_mem_mapM read member
  obtain ⟨committed, filtered, matched⟩ := Store.matches_of_search searched listed
  obtain ⟨content, done, made⟩ := bind_eq_ok.1 readHit
  cases made
  exact ⟨candidate.doc, committed, filtered, matched, done⟩

end Finder

end Search

namespace SearchResult

/-- The hits before which no hit has the same content, in order. -/
def leading (hits : List SearchHit) : List SearchHit :=
  (hits.zipIdx.filter fun entry =>
    (hits.take entry.2).all (·.content.id != entry.1.content.id)).map (·.1)

theorem leading_append_singleton (hits : List SearchHit) (hit : SearchHit) :
    leading (hits ++ [hit]) =
      if hits.any (·.content.id == hit.content.id) then leading hits
      else leading hits ++ [hit] := by
  have same : hits.zipIdx.filter (fun entry => ((hits ++ [hit]).take entry.2).all
        (·.content.id != entry.1.content.id)) =
      hits.zipIdx.filter fun entry =>
        (hits.take entry.2).all (·.content.id != entry.1.content.id) := by
    apply List.filter_congr
    intro entry member
    have inside := List.snd_lt_of_mem_zipIdx member
    rw [List.take_append_of_le_length (by omega)]
  unfold leading
  rw [List.zipIdx_append, List.filter_append, List.map_append, same]
  by_cases known : hits.any (·.content.id == hit.content.id) = true
  · simp_all
  · simp_all

theorem firstHits_eq_leading (hits : List SearchHit) : firstHits hits = leading hits := by
  -- A content has a first hit as soon as it has any.
  suffices both : firstHits hits = leading hits ∧
      ∀ id, (leading hits).any (·.content.id == id) = hits.any (·.content.id == id) from both.1
  induction hits using List.reverseRecOn with
  | nil => exact ⟨rfl, fun _ => rfl⟩
  | append_singleton hits hit ih =>
    obtain ⟨same, ids⟩ := ih
    rw [leading_append_singleton, firstHits, List.foldl_append, ← firstHits, List.foldl_cons,
      List.foldl_nil, same, ids]
    refine ⟨rfl, fun id => ?_⟩
    split_ifs with known
    · rw [ids, List.any_append]
      by_cases again : hit.content.id = id
      · rw [← again, known, Bool.true_or]
      · simp [again]
    · rw [List.any_append, List.any_append, ids]

theorem mem_firstHits {hits : List SearchHit} {hit : SearchHit} (member : hit ∈ firstHits hits) :
    hit ∈ hits := by
  rw [firstHits_eq_leading] at member
  obtain ⟨entry, kept, rfl⟩ := List.mem_map.1 member
  exact List.fst_mem_of_mem_zipIdx (List.mem_filter.1 kept).1

theorem shownTo_eq_error {result : SearchResult} {filter : LanguageFilter} {failure : Failure}
    (failed : result.shownTo filter = .error failure) :
    ∃ hit ∈ result.hits, hit.content.isVisible filter = false := by
  rcases bind_eq_error.1 failed with failed | ⟨shown, -, impossible⟩
  · obtain ⟨before, hit, after, split, -, failed⟩ := mapM_eq_error.1 failed
    refine ⟨hit, mem_firstHits (by simp [split]), ?_⟩
    unfold showHit at failed
    unfold Content.isVisible
    cases languages : hit.content.visibleLanguages filter with
    | nil => rfl
    | cons first rest =>
      rw [languages] at failed
      cases failed
  · cases impossible

end SearchResult

/-- A search finds no language only at a hit that the reader may not see, and the document of the
hit is committed and matches. -/
theorem Finder.find_eq_notFound {finder : Finder} {store : Store} {query : Query}
    {filter : LanguageFilter} {missing : Missing}
    (failed : finder.find store query filter = .error (.notFound missing)) :
    ∃ request doc content, query.lower finder.schema finder.bounds filter = .ok request ∧
      doc ∈ store.committed.values ∧ request.filter.isMatch doc = true ∧
      request.query.isMatch doc = true ∧ doc.toContent finder.schema = .ok content ∧
      content.isVisible filter = false := by
  rcases bind_eq_error.1 failed with refused | ⟨request, lowered, failed⟩
  · exact (query.lower_failsOnly finder.schema filter finder.bounds _ refused).elim
  rcases bind_eq_error.1 failed with failed | ⟨result, executed, failed⟩
  · exact (finder.execute_failsOnly store request _ failed).elim
  obtain ⟨hit, listed, hidden⟩ := SearchResult.shownTo_eq_error failed
  obtain ⟨doc, committed, filtered, matched, read⟩ := hit_of_execute executed listed
  exact ⟨request, doc, hit.content, lowered, committed, filtered, matched, read, hidden⟩

end ContentFinder
