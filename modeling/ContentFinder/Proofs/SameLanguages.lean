import ContentFinder.Proofs.Paging
import ContentFinder.Proofs.VisibleLanguages
import ContentFinder.Proofs.Widening

/-! Readers who asked for the same languages. The order in which a reader names them, and naming one
twice, changes the index query and the order in which fields are shown, but not what is found: the
queries match the same documents, the same contents are visible, and a page with room for all
matches holds the same contents. -/

namespace ContentFinder

open Outcome

/-- Two readers ask for the same languages, and treat contents that are always available alike. -/
structure LanguageFilter.Agrees (filter other : LanguageFilter) : Prop where
  sameUse : filter.useAlwaysAvailable = other.useAlwaysAvailable
  sameLanguages : ∀ language, language ∈ filter.languages ↔ language ∈ other.languages

namespace LanguageFilter.Agrees

variable {filter other : LanguageFilter} (agrees : filter.Agrees other)

include agrees

theorem symm : other.Agrees filter :=
  ⟨agrees.sameUse.symm, fun language => (agrees.sameLanguages language).symm⟩

theorem languages_eq_nil_iff : filter.languages = [] ↔ other.languages = [] := by
  simp only [List.eq_nil_iff_forall_not_mem, agrees.sameLanguages]

/-! Matching. -/

theorem looksUp_iff {doc : Document} {multilingual : Bool} {base name : String} :
    filter.LooksUp doc multilingual base name ↔ other.LooksUp doc multilingual base name := by
  unfold LooksUp
  simp only [agrees.languages_eq_nil_iff, agrees.sameUse, agrees.sameLanguages]

theorem someName_iff {schema : Schema} {overrides : Overrides} {doc : Document}
    {identifier : String} {holds : String → String → Prop} :
    schema.SomeName overrides filter doc identifier holds ↔
      schema.SomeName overrides other doc identifier holds := by
  unfold Schema.SomeName
  simp only [agrees.looksUp_iff]

section Lower

variable {schema : Schema} {doc : Document} {query second : IndexQuery}

theorem isMatch_leaf {leaf : Criterion} (isLeaf : leaf.isLeaf = true)
    (lowered : leaf.lower schema filter = .ok query)
    (again : leaf.lower schema other = .ok second) :
    query.isMatch doc = true ↔ second.isMatch doc = true := by
  cases leaf with
  | field leaf =>
    rw [FieldLeaf.isMatch_lower_iff lowered, FieldLeaf.isMatch_lower_iff again]
    exact agrees.someName_iff
  | distance leaf =>
    rw [DistanceLeaf.isMatch_lower_iff lowered, DistanceLeaf.isMatch_lower_iff again]
    exact agrees.someName_iff
  | fullText leaf =>
    rw [FullTextLeaf.isMatch_lower_iff lowered, FullTextLeaf.isMatch_lower_iff again]
    simp only [agrees.looksUp_iff]
  | contentId leaf | property leaf | language leaf | indexField leaf =>
    -- Such a leaf has one query for all readers.
    cases lowered.symm.trans again
    rfl
  | matchAll | matchNone | allOf | anyOf | notOf => cases isLeaf

theorem finds_of_finds {leaf : Criterion} (isLeaf : leaf.isLeaf = true)
    (found : leaf.finds schema filter doc = true) : leaf.finds schema other doc = true := by
  obtain ⟨query, lowered, matched⟩ := Criterion.finds_iff.1 found
  obtain ⟨second, again⟩ := Criterion.exists_lower lowered other
  exact Criterion.finds_iff.2
    ⟨second, again, (agrees.isMatch_leaf isLeaf lowered again).1 matched⟩

theorem finds_eq (schema : Schema) (doc : Document) (leaf : Criterion)
    (isLeaf : leaf.isLeaf = true) :
    leaf.finds schema filter doc = leaf.finds schema other doc :=
  Bool.eq_iff_iff.2 ⟨agrees.finds_of_finds isLeaf, agrees.symm.finds_of_finds isLeaf⟩

end Lower

end LanguageFilter.Agrees

namespace Criterion

theorem truth_congr {holds others : Criterion → Bool}
    (same : ∀ leaf : Criterion, leaf.isLeaf = true → holds leaf = others leaf)
    (criterion : Criterion) : criterion.truth holds = criterion.truth others := by
  induction criterion using treeInduction with
  | matchAll => rfl
  | matchNone => rfl
  | leaf leaf isLeaf =>
    rw [truth_of_isLeaf _ isLeaf, truth_of_isLeaf _ isLeaf, same leaf isLeaf]
  | allOf children ih =>
    rw [truth, truth, everyTruth_eq_all, everyTruth_eq_all]
    exact all_eq_of_mem ih
  | anyOf children ih =>
    rw [truth, truth, someTruth_eq_any, someTruth_eq_any]
    exact any_eq_of_mem ih
  | notOf child ih => rw [truth, truth, ih]

theorem isMatch_lower_agrees {schema : Schema} {filter other : LanguageFilter}
    {criterion : Criterion} {query second : IndexQuery} (agrees : filter.Agrees other)
    (lowered : criterion.lower schema filter = .ok query)
    (again : criterion.lower schema other = .ok second) (doc : Document) :
    query.isMatch doc = second.isMatch doc := by
  rw [isMatch_lower doc lowered, isMatch_lower doc again]
  exact truth_congr (agrees.finds_eq schema doc) criterion

end Criterion

/-! Visibility. -/

theorem Content.fallsBack_agrees {filter other : LanguageFilter} (agrees : filter.Agrees other)
    (content : Content) : content.FallsBack filter ↔ content.FallsBack other := by
  simp only [FallsBack, agrees.sameUse, agrees.sameLanguages]

theorem Content.isVisible_agrees {filter other : LanguageFilter} (agrees : filter.Agrees other)
    (content : Content) : content.isVisible filter = content.isVisible other := by
  have languages : ∀ language, language ∈ content.visibleLanguages filter ↔
      language ∈ content.visibleLanguages other := by
    intro language
    simp only [mem_visibleLanguages, agrees.languages_eq_nil_iff, agrees.sameLanguages,
      fallsBack_agrees agrees]
  have none : content.visibleLanguages filter = [] ↔ content.visibleLanguages other = [] := by
    simp only [List.eq_nil_iff_forall_not_mem, languages]
  rw [isVisible, isVisible, Bool.eq_iff_iff]
  simp [none]

/-! Whole pages. -/

theorem Query.exists_lower {schema : Schema} {bounds : RequestBounds} {narrow : LanguageFilter}
    {query : Query} {request : SearchRequest}
    (lowered : query.lower schema bounds narrow = .ok request) (wide : LanguageFilter) :
    ∃ filterQuery mainQuery, query.lower schema bounds wide =
      .ok { request with filter := filterQuery, query := mainQuery } := by
  obtain ⟨filterQuery, loweredFilter, lowered⟩ := bind_eq_ok.1 lowered
  obtain ⟨mainQuery, loweredQuery, lowered⟩ := bind_eq_ok.1 lowered
  obtain ⟨sorts, loweredSorts, same⟩ := bind_eq_ok.1 lowered
  cases same
  obtain ⟨filterAgain, againFilter⟩ := Criterion.exists_lower loweredFilter wide
  obtain ⟨mainAgain, againQuery⟩ := Criterion.exists_lower loweredQuery wide
  exact ⟨filterAgain, mainAgain, bind_eq_ok.2 ⟨_, againFilter, bind_eq_ok.2 ⟨_, againQuery,
    bind_eq_ok.2 ⟨sorts, loweredSorts, rfl⟩⟩⟩⟩

namespace Finder

variable {finder : Finder} {acts : List Act} {request : SearchRequest} {filter : LanguageFilter}
  {query : Query}

theorem reached_of_search {store : Store} {response : SearchResponse}
    (found : finder.search store request = .ok response) :
    store.offline = false ∧ store.latency + finder.lag ≤ request.budget := by
  obtain ⟨online, inTime⟩ := Store.reached_of_search (search_eq_ok found)
  obtain ⟨answer, -, found⟩ := bind_eq_ok.1 found
  refine ⟨online, ?_⟩
  cases reached : finder.connection with
  | direct =>
    have none : finder.lag = 0 := by rw [lag, reached]
    rw [none]
    exact inTime
  | relayed time =>
    have same : finder.lag = time := by rw [lag, reached]
    rw [reached] at found
    dsimp only at found
    rw [same]
    by_contra late
    rw [if_pos (Nat.lt_of_not_le late)] at found
    cases found

/-- Whether the page of a request begins with the first match and has room for all of them. -/
def IsWhole (finder : Finder) (acts : List Act) (request : SearchRequest) : Prop :=
  request.offset = 0 ∧
    (finder.matching acts request.filter request.query).ncard ≤ request.limit

theorem id_mem_execute {result : SearchResult} (whole : finder.IsWhole acts request)
    (found : finder.execute (finder.performAll acts) request = .ok result) {id : Int64} :
    id ∈ result.contentIds ↔
      ∃ content ∈ finder.matching acts request.filter request.query, content.id = id := by
  obtain ⟨response, searched, -⟩ := bind_eq_ok.1 found
  obtain ⟨online, inTime⟩ := reached_of_search searched
  obtain ⟨hits, read⟩ := exists_read finder acts request
  have page := execute_page online inTime read
  have total : hits.length = (finder.matching acts request.filter request.query).ncard :=
    total_execute page
  rw [whole.1, List.drop_zero, List.take_of_length_le (total.le.trans whole.2)] at page
  cases found.symm.trans page
  exact id_mem_found online inTime read

/-- A whole page is found when the store can be reached in time and the reader may see all matching
contents. -/
theorem exists_find_iff (whole : finder.IsWhole acts request)
    (lowered : query.lower finder.schema finder.bounds filter = .ok request) :
    (∃ result, finder.find (finder.performAll acts) query filter = .ok result) ↔
      (finder.performAll acts).offline = false ∧
        (finder.performAll acts).latency + finder.lag ≤ request.budget ∧
        ∀ content ∈ finder.matching acts request.filter request.query,
          content.isVisible filter = true := by
  constructor
  · rintro ⟨result, found⟩
    obtain ⟨raw, executed, -, ids, -⟩ := raw_of_find lowered found
    obtain ⟨response, searched, -⟩ := bind_eq_ok.1 executed
    obtain ⟨online, inTime⟩ := reached_of_search searched
    refine ⟨online, inTime, fun content matching => isVisible_of_find lowered found matching ?_⟩
    rw [ids, id_mem_execute whole executed]
    exact ⟨content, matching, rfl⟩
  · rintro ⟨online, inTime, visible⟩
    obtain ⟨raw, executed⟩ := exists_execute online inTime
    have shown : ∃ hits, raw.hits.mapM (SearchResult.showHit filter) = .ok hits := by
      refine exists_mapM_eq_ok.2 fun hit member => SearchResult.exists_showHit.2 ?_
      obtain ⟨content, matching, -, doc, mapped, back⟩ := matching_of_hit executed member
      rw [Content.isVisible_read mapped back]
      exact visible content matching
    obtain ⟨hits, shown⟩ := shown
    have result : raw.shownTo filter = .ok { raw with hits } := by
      rw [SearchResult.shownTo_of_nodup (contentIds_execute executed), shown]
      rfl
    exact ⟨_, bind_eq_ok.2 ⟨request, lowered, bind_eq_ok.2 ⟨raw, executed, result⟩⟩⟩

theorem find_whole {result : SearchResult} (whole : finder.IsWhole acts request)
    (lowered : query.lower finder.schema finder.bounds filter = .ok request)
    (found : finder.find (finder.performAll acts) query filter = .ok result) :
    result.total = (finder.matching acts request.filter request.query).ncard ∧
      ∀ id, id ∈ result.contentIds ↔
        ∃ content ∈ finder.matching acts request.filter request.query, content.id = id := by
  obtain ⟨raw, executed, -, ids, -⟩ := raw_of_find lowered found
  refine ⟨total_find lowered found, fun id => ?_⟩
  rw [ids]
  exact id_mem_execute whole executed

theorem agrees_request {other : LanguageFilter} (agrees : filter.Agrees other)
    (lowered : query.lower finder.schema finder.bounds filter = .ok request)
    (whole : finder.IsWhole acts request) :
    ∃ second, query.lower finder.schema finder.bounds other = .ok second ∧
      second.budget = request.budget ∧ finder.IsWhole acts second ∧
      finder.matching acts second.filter second.query =
        finder.matching acts request.filter request.query := by
  obtain ⟨filterAgain, mainAgain, again⟩ := Query.exists_lower lowered other
  obtain ⟨filterQuery, mainQuery, -⟩ := Query.lower_eq_ok lowered
  obtain ⟨filterSecond, mainSecond, -⟩ := Query.lower_eq_ok again
  have same : finder.matching acts filterAgain mainAgain =
      finder.matching acts request.filter request.query := by
    unfold matching
    simp only [Criterion.isMatch_lower_agrees agrees filterQuery filterSecond,
      Criterion.isMatch_lower_agrees agrees mainQuery mainSecond]
  refine ⟨_, again, rfl, ⟨whole.1, ?_⟩, same⟩
  rw [same]
  exact whole.2

theorem exists_find_agrees {other : LanguageFilter} (agrees : filter.Agrees other)
    (whole : ∀ request, query.lower finder.schema finder.bounds filter = .ok request →
      finder.IsWhole acts request) {result : SearchResult}
    (found : finder.find (finder.performAll acts) query filter = .ok result) :
    ∃ second, finder.find (finder.performAll acts) query other = .ok second ∧
      second.total = result.total ∧ ∀ id, id ∈ second.contentIds ↔ id ∈ result.contentIds := by
  obtain ⟨request, lowered, -⟩ := bind_eq_ok.1 found
  have wholePage := whole request lowered
  obtain ⟨second, again, budget, wholeAgain, same⟩ := agrees_request agrees lowered wholePage
  obtain ⟨online, inTime, visible⟩ := (exists_find_iff wholePage lowered).1 ⟨result, found⟩
  have reached : ∃ shown, finder.find (finder.performAll acts) query other = .ok shown := by
    refine (exists_find_iff wholeAgain again).2 ⟨online, by rwa [budget], ?_⟩
    intro content matching
    rw [← Content.isVisible_agrees agrees]
    exact visible content (same ▸ matching)
  obtain ⟨shown, foundAgain⟩ := reached
  obtain ⟨total, ids⟩ := find_whole wholePage lowered found
  obtain ⟨totalAgain, idsAgain⟩ := find_whole wholeAgain again foundAgain
  rw [same] at totalAgain idsAgain
  exact ⟨shown, foundAgain, totalAgain.trans total.symm,
    fun id => (idsAgain id).trans (ids id).symm⟩

/-- The set of the languages that a reader asks for decides what is found. Their order and
repetitions change neither whether a criterion can be asked nor which documents it matches, nor who
may see a content, nor whether a whole page is found, how many contents it counts and which ones it
has. -/
theorem language_set_decides {other : LanguageFilter} (agrees : filter.Agrees other) :
    (∀ schema criterion,
      ((∃ query, Criterion.lower schema filter criterion = .ok query) ↔
        ∃ query, Criterion.lower schema other criterion = .ok query) ∧
      ∀ query second, criterion.lower schema filter = .ok query →
        criterion.lower schema other = .ok second →
        ∀ doc, query.isMatch doc = second.isMatch doc) ∧
    (∀ content : Content, content.isVisible filter = content.isVisible other) ∧
    ∀ (finder : Finder) (acts : List Act) (query : Query),
      (∀ request, query.lower finder.schema finder.bounds filter = .ok request →
        finder.IsWhole acts request) →
      ((∃ result, finder.find (finder.performAll acts) query filter = .ok result) ↔
        ∃ result, finder.find (finder.performAll acts) query other = .ok result) ∧
      ∀ result second, finder.find (finder.performAll acts) query filter = .ok result →
        finder.find (finder.performAll acts) query other = .ok second →
        second.total = result.total ∧ ∀ id, id ∈ second.contentIds ↔ id ∈ result.contentIds := by
  refine ⟨fun schema criterion => ⟨⟨?_, ?_⟩, ?_⟩, Content.isVisible_agrees agrees, ?_⟩
  · rintro ⟨query, lowered⟩
    exact Criterion.exists_lower lowered other
  · rintro ⟨query, lowered⟩
    exact Criterion.exists_lower lowered filter
  · intro query second lowered again
    exact Criterion.isMatch_lower_agrees agrees lowered again
  · intro finder acts query whole
    have wholeOther : ∀ second, query.lower finder.schema finder.bounds other = .ok second →
        finder.IsWhole acts second := by
      intro second again
      obtain ⟨filterQuery, mainQuery, lowered⟩ := Query.exists_lower again filter
      obtain ⟨third, loweredThird, -, wholeThird, -⟩ :=
        agrees_request agrees lowered (whole _ lowered)
      cases again.symm.trans loweredThird
      exact wholeThird
    refine ⟨⟨?_, ?_⟩, ?_⟩
    · rintro ⟨result, found⟩
      obtain ⟨second, again, -⟩ := exists_find_agrees agrees whole found
      exact ⟨second, again⟩
    · rintro ⟨second, found⟩
      obtain ⟨result, again, -⟩ := exists_find_agrees agrees.symm wholeOther found
      exact ⟨result, again⟩
    · intro result second found again
      obtain ⟨shown, foundAgain, same⟩ := exists_find_agrees agrees whole found
      cases again.symm.trans foundAgain
      exact same

end Finder

namespace Sample

def germanEnglish : LanguageFilter := ⟨["ger", "eng"], false⟩

def englishGerman : LanguageFilter := ⟨["eng", "ger", "eng"], false⟩

def untitled : Query :=
  { firstPage with query := some (.notOf (.field titleLeaf)), limit := some 5 }

end Sample

theorem Finder.language_set_decides_untitled :
    Sample.germanEnglish.Agrees Sample.englishGerman ∧
    ∃ request result second, Sample.untitled.lower Sample.finder.schema Sample.finder.bounds
        Sample.germanEnglish = .ok request ∧
      Sample.finder.IsWhole Sample.bothActs request ∧
      Sample.finder.find (Sample.finder.performAll Sample.bothActs) Sample.untitled
        Sample.germanEnglish = .ok result ∧
      Sample.finder.find (Sample.finder.performAll Sample.bothActs) Sample.untitled
        Sample.englishGerman = .ok second ∧
      result.contentIds = [8] ∧ second.total = result.total ∧
      ∀ id, id ∈ second.contentIds ↔ id ∈ result.contentIds := by
  have agrees : Sample.germanEnglish.Agrees Sample.englishGerman :=
    ⟨rfl, fun language => by simp [Sample.germanEnglish, Sample.englishGerman, or_comm]⟩
  have lowered : Sample.untitled.lower Sample.finder.schema Sample.finder.bounds
      Sample.germanEnglish = .ok _ := rfl
  have found : Sample.finder.find (Sample.finder.performAll Sample.bothActs) Sample.untitled
      Sample.germanEnglish = .ok _ := rfl
  have total := total_find lowered found
  have whole : Sample.finder.IsWhole Sample.bothActs _ := ⟨rfl, total.symm.le.trans (by decide)⟩
  obtain ⟨-, -, pages⟩ := language_set_decides agrees
  obtain ⟨-, same⟩ := pages Sample.finder Sample.bothActs Sample.untitled fun request again => by
    cases lowered.symm.trans again
    exact whole
  exact ⟨agrees, _, _, _, lowered, whole, found, rfl, rfl, same _ _ found rfl⟩

end ContentFinder
