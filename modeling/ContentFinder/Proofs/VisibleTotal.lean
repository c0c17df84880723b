import ContentFinder.Proofs.LiveContents

/-! What the total of a result counts. It is the number of matching contents on all pages, while
only the hits of the page are known to be visible: a matching content that the reader may not see
is counted as long as it lies on another page. -/

namespace ContentFinder

open Outcome

namespace Content

theorem visibleLanguages_of_unrestricted {filter : LanguageFilter}
    (unrestricted : filter.languages = []) (content : Content) :
    content.visibleLanguages filter = content.allLanguages := by
  rw [visibleLanguages, if_pos (LanguageFilter.isUnrestricted_eq_true unrestricted)]

theorem isVisible_of_unrestricted {filter : LanguageFilter} (unrestricted : filter.languages = [])
    (content : Content) :
    content.isVisible filter = true ↔ content.version.languages ≠ [] := by
  rw [isVisible, visibleLanguages_of_unrestricted unrestricted, allLanguages,
    IndexQuery.distinct_eq_eraseDups]
  cases listed : content.version.languages with
  | nil => simp [hasLanguage, listed]
  | cons first rest =>
    have member : first ∈ ((if content.hasLanguage content.info.mainLanguage then
        [content.info.mainLanguage] else []) ++ first :: rest).eraseDups := by
      simp
    simpa using List.ne_nil_of_mem member

theorem isVisible_read {schema : Schema} {content read : Content} {doc : Document}
    (mapped : content.toDocument schema = .ok doc) (back : doc.toContent schema = .ok read)
    (filter : LanguageFilter) : read.isVisible filter = content.isVisible filter := by
  by_cases restricted : filter.languages = []
  · rw [Document.toContent_eq mapped] at back
    cases back
    rw [Bool.eq_iff_iff, isVisible_of_unrestricted restricted, isVisible_of_unrestricted restricted]
    cases content.version.languages <;> simp [List.eraseDups_cons]
  · exact isVisible_toContent restricted mapped back

end Content

def Content.shownTo (filter : LanguageFilter) (content : Content) : Except Failure Content :=
  if content.isVisible filter = true then .ok (content.restrict (content.visibleLanguages filter))
  else .error (.notFound (.visibleLanguage content.id filter.languages))

namespace SearchResult

theorem content_showHit_eq (filter : LanguageFilter) (hit : SearchHit) :
    SearchHit.content <$> showHit filter hit = hit.content.shownTo filter := by
  unfold showHit Content.shownTo Content.isVisible
  cases hit.content.visibleLanguages filter <;> rfl

theorem showHit_eq_ok {filter : LanguageFilter} {hit shown : SearchHit} :
    showHit filter hit = .ok shown ↔ hit.content.isVisible filter = true ∧ shown =
      { hit with content := hit.content.restrict (hit.content.visibleLanguages filter) } := by
  unfold showHit Content.isVisible
  cases hit.content.visibleLanguages filter <;> simp [eq_comm]

theorem exists_showHit {filter : LanguageFilter} {hit : SearchHit} :
    (∃ shown, showHit filter hit = .ok shown) ↔ hit.content.isVisible filter = true := by
  simp only [showHit_eq_ok, exists_and_left, exists_eq, and_true]

theorem content_showHit {filter : LanguageFilter} {hit shown : SearchHit}
    (done : showHit filter hit = .ok shown) :
    shown.content = hit.content.restrict (hit.content.visibleLanguages filter) := by
  rw [(showHit_eq_ok.1 done).2]

theorem id_showHit {filter : LanguageFilter} {hit shown : SearchHit}
    (done : showHit filter hit = .ok shown) : shown.content.id = hit.content.id := by
  rw [content_showHit done]
  rfl

end SearchResult

namespace Finder

def visible (finder : Finder) (acts : List Act) (request : SearchRequest)
    (filter : LanguageFilter) : Set Content :=
  {content | content ∈ finder.matching acts request.filter request.query ∧
    content.isVisible filter = true}

variable {finder : Finder} {acts : List Act} {request : SearchRequest} {filter : LanguageFilter}

/-- As many contents are visible as match just when all of them are. -/
theorem ncard_visible_iff :
    (finder.matching acts request.filter request.query).ncard =
        (finder.visible acts request filter).ncard ↔
      ∀ content ∈ finder.matching acts request.filter request.query,
        content.isVisible filter = true := by
  have fewer : finder.visible acts request filter ⊆
      finder.matching acts request.filter request.query := fun content seen => seen.1
  constructor
  · intro same content member
    have all := Set.eq_of_subset_of_ncard_le fewer same.le (finite_matching finder acts _ _)
    exact (all ▸ member : content ∈ finder.visible acts request filter).2
  · intro each
    have all : finder.visible acts request filter =
        finder.matching acts request.filter request.query :=
      fewer.antisymm fun content member => ⟨member, each content member⟩
    rw [all]

section Find

variable {query : Query} {result : SearchResult}
  (lowered : query.lower finder.schema finder.bounds filter = .ok request)
  (found : finder.find (finder.performAll acts) query filter = .ok result)

include lowered found

theorem raw_of_find : ∃ raw, finder.execute (finder.performAll acts) request = .ok raw ∧
    result.total = raw.total ∧ result.contentIds = raw.contentIds ∧
    ∀ hit ∈ raw.hits, hit.content.isVisible filter = true := by
  obtain ⟨again, loweredAgain, found⟩ := bind_eq_ok.1 found
  rw [lowered] at loweredAgain
  cases loweredAgain
  obtain ⟨raw, executed, shown⟩ := bind_eq_ok.1 found
  rw [SearchResult.shownTo_of_nodup (contentIds_execute executed)] at shown
  cases done : raw.hits.mapM (SearchResult.showHit filter) with
  | error failure =>
    rw [done] at shown
    cases shown
  | ok hits =>
    rw [done] at shown
    cases shown
    refine ⟨raw, executed, rfl, ?_, fun hit member => ?_⟩
    · exact map_mapM done fun hit _ shown made => SearchResult.id_showHit made
    · exact SearchResult.exists_showHit.1 (exists_mapM_eq_ok.1 ⟨hits, done⟩ hit member)

/-- The total is counted before the page is cut. -/
theorem total_find :
    result.total = (finder.matching acts request.filter request.query).ncard := by
  obtain ⟨raw, executed, total, -⟩ := raw_of_find lowered found
  exact total.trans (total_execute executed)

theorem isVisible_of_find {content : Content}
    (member : content ∈ finder.matching acts request.filter request.query)
    (onPage : content.id ∈ result.contentIds) : content.isVisible filter = true := by
  obtain ⟨raw, executed, -, ids, seen⟩ := raw_of_find lowered found
  rw [ids] at onPage
  obtain ⟨hit, listed, sameId⟩ := List.mem_map.1 onPage
  obtain ⟨other, otherMember, otherId, doc, mapped, back⟩ := matching_of_hit executed listed
  have same : content = other := live_unique member.1 otherMember.1 (sameId.symm.trans otherId)
  rw [same, ← Content.isVisible_read mapped back]
  exact seen hit listed

theorem total_page {limit : Option Nat} {offset : Nat} {page : SearchResult}
    (paged : finder.find (finder.performAll acts) { query with limit, offset } filter =
      .ok page) : page.total = result.total := by
  obtain ⟨pageRequest, pageLowered, -⟩ := bind_eq_ok.1 paged
  obtain ⟨loweredFilter, loweredQuery, -⟩ := Query.lower_eq_ok lowered
  obtain ⟨pageFilter, pageQuery, -⟩ := Query.lower_eq_ok pageLowered
  have sameFilter : pageRequest.filter = request.filter :=
    Except.ok.inj (pageFilter.symm.trans loweredFilter)
  have sameQuery : pageRequest.query = request.query :=
    Except.ok.inj (pageQuery.symm.trans loweredQuery)
  rw [total_find lowered found, total_find pageLowered paged, sameFilter, sameQuery]

end Find

/-- The total counts the matching contents and is the same for every page. Of these contents the
ones on the page are visible, so the total is the number of the visible ones just when no invisible
one matches. -/
theorem total_visible_iff {query : Query} {result : SearchResult}
    (lowered : query.lower finder.schema finder.bounds filter = .ok request)
    (found : finder.find (finder.performAll acts) query filter = .ok result) :
    result.total = (finder.matching acts request.filter request.query).ncard ∧
    (∀ content ∈ finder.matching acts request.filter request.query,
      content.id ∈ result.contentIds → content.isVisible filter = true) ∧
    (result.total = (finder.visible acts request filter).ncard ↔
      ∀ content ∈ finder.matching acts request.filter request.query,
        content.isVisible filter = true) ∧
    ∀ limit offset page,
      finder.find (finder.performAll acts) { query with limit, offset } filter = .ok page →
        page.total = result.total := by
  have counted := total_find lowered found
  refine ⟨counted, fun content => isVisible_of_find lowered found, ?_, fun limit offset page =>
    total_page lowered found⟩
  rw [counted]
  exact ncard_visible_iff

end Finder

theorem Finder.total_visible_titleSearch :
    ∃ request result page, Sample.titleSearch.lower Sample.finder.schema Sample.finder.bounds
        Sample.frenchFilter = .ok request ∧
      Sample.finder.find (Sample.finder.performAll Sample.acts) Sample.titleSearch
        Sample.frenchFilter = .ok result ∧
      Sample.finder.find (Sample.finder.performAll Sample.acts)
        { Sample.titleSearch with limit := some 3, offset := 5 } Sample.frenchFilter = .ok page ∧
      result.total = 1 ∧ page.contentIds = [] ∧ page.total = result.total ∧
      result.total = (Sample.finder.matching Sample.acts request.filter request.query).ncard ∧
      (result.total = (Sample.finder.visible Sample.acts request Sample.frenchFilter).ncard ↔
        ∀ content ∈ Sample.finder.matching Sample.acts request.filter request.query,
          content.isVisible Sample.frenchFilter = true) := by
  have lowered : Sample.titleSearch.lower Sample.finder.schema Sample.finder.bounds
      Sample.frenchFilter = .ok _ := rfl
  have found : Sample.finder.find (Sample.finder.performAll Sample.acts) Sample.titleSearch
      Sample.frenchFilter = .ok _ := rfl
  have paged : Sample.finder.find (Sample.finder.performAll Sample.acts)
      { Sample.titleSearch with limit := some 3, offset := 5 } Sample.frenchFilter = .ok _ := rfl
  obtain ⟨counted, -, exact, pages⟩ := total_visible_iff lowered found
  exact ⟨_, _, _, lowered, found, paged, rfl, rfl, pages _ _ _ paged, counted, exact⟩

namespace Sample

def english : Content where
  info := { content.info with id := 8, name := "Coffee" }
  version := ⟨1, .published, 14, ["eng"]⟩
  locations := []
  fields := []

def germanFilter : LanguageFilter := ⟨["ger"], false⟩

def firstPage : Query where
  filter := none
  query := none
  sorts := [⟨.contentId, .ascending⟩]
  offset := 0
  limit := some 1
  facets := []

def bothActs : List Finder.Act := [.index [content, english] .sync]

theorem live_bothActs (other : Content) :
    finder.Live bothActs other ↔ other = content ∨ other = english := by
  have log : finder.logOf bothActs =
      ([] ++ [.written content] ++ [.written english]) ++ [.committed] := rfl
  have apart : english.id ≠ content.id := by decide
  rw [Finder.Live, log, Log.stands_append_committed, Log.latest_append_singleton,
    Log.latest_append_singleton]
  constructor
  · rintro (same | ⟨same | ⟨none, -⟩, -⟩)
    · exact .inr (Event.written.inj same).symm
    · exact .inl (Event.written.inj same).symm
    · exact absurd none Log.not_latest_nil
  · rintro (rfl | rfl)
    · refine .inr ⟨.inl rfl, ?_⟩
      rintro ((removed | cleared) | ⟨value, same, sameId⟩)
      · cases removed
      · cases cleared
      · cases same
        exact apart sameId
    · exact .inl rfl

end Sample

/-- The first page shows one content, and the total counts another one that may not be seen. -/
theorem Finder.total_counts_invisible :
    ∃ request result, Sample.firstPage.lower Sample.finder.schema Sample.finder.bounds
        Sample.germanFilter = .ok request ∧
      Sample.finder.find (Sample.finder.performAll Sample.bothActs) Sample.firstPage
        Sample.germanFilter = .ok result ∧
      result.total = 2 ∧
      (Sample.finder.visible Sample.bothActs request Sample.germanFilter).ncard = 1 := by
  refine ⟨_, _, rfl, rfl, rfl, ?_⟩
  rw [Set.ncard_eq_one]
  refine ⟨Sample.content, Set.eq_singleton_iff_unique_mem.2 ⟨⟨⟨?_, ?_⟩, ?_⟩, ?_⟩⟩
  · exact (Sample.live_bothActs _).2 (.inl rfl)
  · exact ⟨Sample.document, Sample.mapped, rfl, rfl⟩
  · decide
  · rintro other ⟨⟨live, -⟩, seen⟩
    rcases (Sample.live_bothActs other).1 live with rfl | rfl
    · rfl
    · exact absurd seen (by decide)

end ContentFinder
