import ContentFinder.Proofs.VisibleTotal

/-! The pages of a search. A page is cut from the hits that the search has altogether, and only then
are the hits read and shown. Reading and showing take each hit by itself, so they may as well come
first: the pages in a row are the shown hits, whatever their size. -/

namespace ContentFinder

open Outcome

/-- Pages of one size in a row are the beginning of the list that they are cut from. -/
theorem flatMap_pages {α : Type} (items : List α) (size count : Nat) :
    (List.range count).flatMap (fun page => (items.drop (page * size)).take size) =
      items.take (count * size) := by
  induction count with
  | zero => simp
  | succ count ih =>
    rw [List.range_succ, List.flatMap_append, ih, List.flatMap_singleton, Nat.succ_mul,
      List.take_add]

theorem Outcome.mapM_page {ε α β : Type} {f : α → Except ε β} {items : List α} {results : List β}
    (done : items.mapM f = .ok results) (offset size : Nat) :
    ((items.drop offset).take size).mapM f = .ok ((results.drop offset).take size) :=
  mapM_eq_ok.2 (List.forall₂_take size (List.forall₂_drop offset (mapM_eq_ok.1 done)))

theorem Outcome.mapM_eq_map {ε α β : Type} {f : α → Except ε β} {g : α → β} {items : List α}
    (each : ∀ item ∈ items, f item = .ok (g item)) : items.mapM f = .ok (items.map g) := by
  rw [mapM_eq_ok, List.forall₂_map_right_iff, List.forall₂_same]
  exact each

def RequestBounds.pageSize (bounds : RequestBounds) (limit : Option Nat) : Nat :=
  (limit.getD bounds.maxLimit).min bounds.maxLimit

namespace Query

def page (query : Query) (limit : Option Nat) (offset : Nat) : Query :=
  { query with limit, offset }

theorem lower_page {schema : Schema} {bounds : RequestBounds} {filter : LanguageFilter}
    {query : Query} {request : SearchRequest}
    (lowered : query.lower schema bounds filter = .ok request) (limit : Option Nat)
    (offset : Nat) :
    (query.page limit offset).lower schema bounds filter =
      .ok { request with offset, limit := bounds.pageSize limit } := by
  obtain ⟨filterQuery, loweredFilter, lowered⟩ := bind_eq_ok.1 lowered
  obtain ⟨mainQuery, loweredQuery, lowered⟩ := bind_eq_ok.1 lowered
  obtain ⟨sorts, loweredSorts, same⟩ := bind_eq_ok.1 lowered
  cases same
  apply bind_eq_ok.2
  refine ⟨filterQuery, loweredFilter, bind_eq_ok.2 ⟨mainQuery, loweredQuery, ?_⟩⟩
  exact bind_eq_ok.2 ⟨sorts, loweredSorts, rfl⟩

end Query

namespace Store

def facetsOf (store : Store) (request : SearchRequest) : List Facet :=
  request.facets.map (·.answer ((store.candidates request.filter request.query).map (·.doc)))

theorem mem_docs_arranged {store : Store} {request : SearchRequest} {doc : Document} :
    doc ∈ (store.arranged request).map Candidate.doc ↔
      doc ∈ store.committed.values ∧ request.filter.isMatch doc = true ∧
        request.query.isMatch doc = true := by
  have same : doc ∈ (store.arranged request).map Candidate.doc ↔
      doc ∈ (store.candidates request.filter request.query).map Candidate.doc :=
    ((Sorting.sortBy_perm _ _).map _).mem_iff
  rw [same, docs_candidates, List.mem_filter, Bool.and_eq_true]

end Store

namespace Finder

variable {finder : Finder} {acts : List Act} {request : SearchRequest} {filter : LanguageFilter}

theorem exists_read (finder : Finder) (acts : List Act) (request : SearchRequest) :
    ∃ found, ((finder.performAll acts).arranged request).mapM finder.readHit = .ok found := by
  apply exists_mapM_eq_ok.2
  intro candidate member
  have inDocs := List.mem_map_of_mem (f := Candidate.doc) member
  exact exists_readHit (Store.mem_docs_arranged.1 inDocs).1

section Answered

variable (online : (finder.performAll acts).offline = false)
  (inTime : (finder.performAll acts).latency + finder.lag ≤ request.budget)
  {found : List SearchHit}
  (read : ((finder.performAll acts).arranged request).mapM finder.readHit = .ok found)

include online inTime read

/-- A search counts all hits and reads those of its page. -/
theorem execute_page :
    finder.execute (finder.performAll acts) request =
      .ok ⟨found.length, (found.drop request.offset).take request.limit,
        (finder.performAll acts).facetsOf request⟩ := by
  obtain ⟨response, searched⟩ := exists_search online inTime
  have same := Store.search_eq_ok (search_eq_ok searched)
  have total : response.total = found.length := by
    rw [same, ← (mapM_eq_ok.1 read).length_eq, Store.length_arranged]
  have page : response.hits.mapM finder.readHit =
      .ok ((found.drop request.offset).take request.limit) := by
    rw [same]
    exact mapM_page read _ _
  have facets : response.facets = (finder.performAll acts).facetsOf request := by
    rw [same]
    rfl
  rw [← total, ← facets]
  exact bind_eq_ok.2 ⟨response, searched, bind_eq_ok.2 ⟨_, page, rfl⟩⟩

theorem execute_whole :
    finder.execute (finder.performAll acts) { request with offset := 0, limit := found.length } =
      .ok ⟨found.length, found, (finder.performAll acts).facetsOf request⟩ := by
  have page := @execute_page finder acts { request with offset := 0, limit := found.length }
    online inTime found read
  rwa [List.drop_zero, List.take_length] at page

theorem id_mem_found {id : Int64} :
    id ∈ found.map (·.content.id) ↔
      ∃ content ∈ finder.matching acts request.filter request.query, content.id = id := by
  constructor
  · intro listed
    obtain ⟨hit, member, sameId⟩ := List.mem_map.1 listed
    obtain ⟨content, matching, same, -⟩ :=
      matching_of_hit (execute_whole online inTime read) member
    exact ⟨content, matching, same.symm.trans sameId⟩
  · intro matching
    obtain ⟨content, ⟨live, doc, mapped, filtered, matched⟩, sameId⟩ := matching
    have committed : doc ∈ (finder.performAll acts).committed.values :=
      mem_committed.2 ⟨content, mapped, live⟩
    obtain ⟨candidate, listed, sameDoc⟩ :=
      List.mem_map.1 (Store.mem_docs_arranged.2 ⟨committed, filtered, matched⟩)
    obtain ⟨hit, member, made⟩ := exists_of_mem_items read listed
    obtain ⟨held, back, same⟩ := bind_eq_ok.1 made
    rw [sameDoc, Document.toContent_eq mapped] at back
    cases back
    cases same
    exact List.mem_map.2 ⟨_, member, sameId⟩

theorem exists_shown (unrestricted : filter.languages = [])
    (listed : ∀ content, finder.Live acts content → content.version.languages ≠ []) :
    ∃ shown, found.mapM (SearchResult.showHit filter) = .ok shown := by
  apply exists_mapM_eq_ok.2
  intro hit member
  obtain ⟨content, ⟨live, -⟩, -, doc, mapped, back⟩ :=
    matching_of_hit (execute_whole online inTime read) member
  rw [SearchResult.exists_showHit, Content.isVisible_read mapped back]
  exact (Content.isVisible_of_unrestricted unrestricted content).2 (listed content live)

end Answered

theorem shownTo_page {found shown : List SearchHit} (distinct : (found.map (·.content.id)).Nodup)
    (done : found.mapM (SearchResult.showHit filter) = .ok shown) (total offset size : Nat)
    (facets : List Facet) :
    SearchResult.shownTo ⟨total, (found.drop offset).take size, facets⟩ filter =
      .ok ⟨total, (shown.drop offset).take size, facets⟩ := by
  have fewer : ((found.drop offset).take size).Sublist found :=
    (List.take_sublist _ _).trans (List.drop_sublist _ _)
  have once : SearchResult.contentIds ⟨total, (found.drop offset).take size, facets⟩ |>.Nodup :=
    distinct.sublist (fewer.map _)
  rw [SearchResult.shownTo_of_nodup once, mapM_page done]
  rfl

theorem find_page {query : Query} {found hits : List SearchHit}
    (lowered : query.lower finder.schema finder.bounds filter = .ok request)
    (online : (finder.performAll acts).offline = false)
    (inTime : (finder.performAll acts).latency + finder.lag ≤ request.budget)
    (read : ((finder.performAll acts).arranged request).mapM finder.readHit = .ok found)
    (shown : found.mapM (SearchResult.showHit filter) = .ok hits) (limit : Option Nat)
    (offset : Nat) :
    finder.find (finder.performAll acts) (query.page limit offset) filter =
      .ok ⟨hits.length, (hits.drop offset).take (finder.bounds.pageSize limit),
        (finder.performAll acts).facetsOf request⟩ := by
  have distinct : (found.map (·.content.id)).Nodup :=
    contentIds_execute (execute_whole online inTime read)
  have executed := @execute_page finder acts
    { request with offset, limit := finder.bounds.pageSize limit } online inTime found read
  have seen := shownTo_page distinct shown found.length offset (finder.bounds.pageSize limit)
    ((finder.performAll acts).facetsOf request)
  rw [← (mapM_eq_ok.1 shown).length_eq]
  exact bind_eq_ok.2 ⟨_, Query.lower_page lowered limit offset, bind_eq_ok.2 ⟨_, executed, seen⟩⟩

/-- For a reader of every language, and where each live content is in some language, the hits of a
query are one list, in which each matching content has one place. Every page is cut from this list
and tells its length, whatever the size of the page. So pages of one size in a row, to the end of
the list, repeat and leave out no hit. -/
theorem pages_complete {query : Query}
    (lowered : query.lower finder.schema finder.bounds filter = .ok request)
    (unrestricted : filter.languages = [])
    (listed : ∀ content, finder.Live acts content → content.version.languages ≠ [])
    (online : (finder.performAll acts).offline = false)
    (inTime : (finder.performAll acts).latency + finder.lag ≤ request.budget) :
    ∃ (hits : List SearchHit) (facets : List Facet),
      (hits.map (·.content.id)).Nodup ∧
      (∀ id, id ∈ hits.map (·.content.id) ↔
        ∃ content ∈ finder.matching acts request.filter request.query, content.id = id) ∧
      ∀ limit,
        (∀ offset, finder.find (finder.performAll acts) (query.page limit offset) filter =
          .ok ⟨hits.length, (hits.drop offset).take (finder.bounds.pageSize limit), facets⟩) ∧
        ∀ count, hits.length ≤ count * finder.bounds.pageSize limit →
          ∃ pages, (List.range count).mapM (fun page => finder.find (finder.performAll acts)
              (query.page limit (page * finder.bounds.pageSize limit)) filter) = .ok pages ∧
            pages.flatMap (·.hits) = hits := by
  obtain ⟨found, read⟩ := exists_read finder acts request
  obtain ⟨hits, shown⟩ := exists_shown online inTime read unrestricted listed
  have sameIds : hits.map (·.content.id) = found.map (·.content.id) :=
    map_mapM shown fun _ _ _ made => SearchResult.id_showHit made
  have page := find_page lowered online inTime read shown
  refine ⟨hits, (finder.performAll acts).facetsOf request, ?_, ?_, ?_⟩
  · rw [sameIds]
    exact contentIds_execute (execute_whole online inTime read)
  · intro id
    rw [sameIds]
    exact id_mem_found online inTime read
  · intro limit
    refine ⟨page limit, fun count enough => ?_⟩
    refine ⟨_, mapM_eq_map fun number _ => page limit _, ?_⟩
    rw [List.flatMap_map, flatMap_pages, List.take_of_length_le enough]

theorem pages_complete_bothActs : ∃ request,
    Sample.firstPage.lower Sample.finder.schema Sample.finder.bounds .unrestricted = .ok request ∧
    ∃ pages, (List.range 2).mapM (fun page => Sample.finder.find
        (Sample.finder.performAll Sample.bothActs) (Sample.firstPage.page (some 1) (page * 1))
        .unrestricted) = .ok pages ∧
      pages.flatMap (·.contentIds) = [7, 8] ∧
      ∀ id, id ∈ pages.flatMap (·.contentIds) ↔ ∃ content ∈
        Sample.finder.matching Sample.bothActs request.filter request.query, content.id = id := by
  have lowered : Sample.firstPage.lower Sample.finder.schema Sample.finder.bounds .unrestricted =
      .ok _ := rfl
  have listed : ∀ content, Sample.finder.Live Sample.bothActs content →
      content.version.languages ≠ [] := by
    intro content live
    obtain same | same := (Sample.live_bothActs content).1 live <;> rw [same] <;> decide
  have inTime : (Sample.finder.performAll Sample.bothActs).latency + Sample.finder.lag ≤
      Sample.finder.bounds.budget := by decide
  obtain ⟨hits, facets, -, complete, paged⟩ := pages_complete lowered rfl listed rfl inTime
  -- A page with room for both tells what the list is.
  have both : (fun result => (result.total, result.contentIds)) <$> Sample.finder.find
      (Sample.finder.performAll Sample.bothActs) (Sample.firstPage.page (some 2) 0)
        .unrestricted = .ok (2, [7, 8]) := rfl
  rw [(paged (some 2)).1 0] at both
  obtain ⟨length, beginning⟩ := Prod.mk.inj (Except.ok.inj both)
  have ids : hits.map (·.content.id) = [7, 8] := by
    rw [← beginning]
    show _ = ((hits.drop 0).take 2).map (·.content.id)
    rw [List.drop_zero, List.take_of_length_le length.le]
  obtain ⟨pages, asked, joined⟩ := (paged (some 1)).2 2 length.le
  have pageIds : pages.flatMap (·.contentIds) = hits.map (·.content.id) := by
    rw [← joined, List.map_flatMap]
    rfl
  refine ⟨_, lowered, pages, asked, pageIds.trans ids, fun id => ?_⟩
  rw [pageIds]
  exact complete id

end Finder

end ContentFinder
