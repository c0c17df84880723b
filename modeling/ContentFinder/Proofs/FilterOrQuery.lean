import ContentFinder.Proofs.VisibleTotal

/-! A criterion restricts a search in the same way as its filter and as its query. It does give the
hits other scores, but a search that is sorted by other things than scores only carries them along:
everything else in its answer is told by the documents that match. -/

namespace ContentFinder

open Number Outcome

/-! Sorts that do not read scores. -/

def IndexSort.IsUnscored : IndexSort → Prop
  | .field .. | .geoDistance .. => True
  | .score _ => False

theorem IndexSort.key_of_isUnscored {sort : IndexSort} (unscored : sort.IsUnscored)
    (doc : Document) (score other : Score) : sort.key doc score = sort.key doc other := by
  cases sort with
  | field name direction => cases direction <;> rfl
  | geoDistance name latitude longitude direction => rfl
  | score direction => exact unscored.elim

theorem SortClause.isUnscored_lower {schema : Schema} {clause : SortClause} {sort : IndexSort}
    (unscored : clause.target ≠ .score) (lowered : clause.lower schema = .ok sort) :
    sort.IsUnscored := by
  obtain ⟨target, direction⟩ := clause
  cases target with
  | score => exact absurd rfl unscored
  | field contentType field language | distance contentType field latitude longitude language =>
    obtain ⟨name, -, same⟩ := bind_eq_ok.1 lowered
    cases same
    trivial
  | _ =>
    cases lowered
    trivial

section Arranging

variable {sorts : List IndexSort} (unscored : ∀ sort ∈ sorts, sort.IsUnscored)

include unscored

theorem Candidate.order_of_isUnscored (x y : Candidate) :
    order sorts x y = order sorts ⟨x.doc, .zero⟩ ⟨y.doc, .zero⟩ := by
  induction sorts with
  | nil => rfl
  | cons sort rest ih =>
    obtain ⟨here, others⟩ := List.forall_mem_cons.1 unscored
    rw [order, order, ih others, sort.key_of_isUnscored here x.doc x.score .zero,
      sort.key_of_isUnscored here y.doc y.score .zero]

/-- The documents of candidates are put in order by themselves. -/
theorem Candidate.docs_arrange (sorted : sorts ≠ []) (candidates : List Candidate) :
    (arrange sorts candidates).map Candidate.doc =
      Sorting.sortBy (fun x y => order sorts ⟨x, .zero⟩ ⟨y, .zero⟩ == .lt)
        (candidates.map Candidate.doc) := by
  have given : sorts.isEmpty = false := List.isEmpty_eq_false_iff.2 sorted
  rw [arrange, given, if_neg Bool.false_ne_true]
  apply Sorting.map_sortBy
  intro x y
  rw [order_of_isUnscored unscored]

end Arranging

/-! Two searches side by side. Their answers are compared without the scores of the hits. -/

structure Unscored (α : Type) where
  total : Nat
  hits : List α
  facets : List Facet
deriving DecidableEq

def SearchResponse.unscored (response : SearchResponse) : Unscored Document :=
  ⟨response.total, response.hits.map Candidate.doc, response.facets⟩

def SearchResult.unscored (result : SearchResult) : Unscored Content :=
  ⟨result.total, result.hits.map SearchHit.content, result.facets⟩

/-- The requests ask for the same documents, and for the same of them. -/
structure SearchRequest.Alike (request other : SearchRequest) : Prop where
  documents : ∀ doc, (request.filter.isMatch doc && request.query.isMatch doc) =
    (other.filter.isMatch doc && other.query.isMatch doc)
  sorts : request.sorts = other.sorts
  offset : request.offset = other.offset
  limit : request.limit = other.limit
  facets : request.facets = other.facets
  budget : request.budget = other.budget

section Alike

variable {finder : Finder} {store : Store} {request other : SearchRequest}
  (alike : request.Alike other) (sorted : request.sorts ≠ [])
  (unscored : ∀ sort ∈ request.sorts, sort.IsUnscored)

include alike

variable (store) in
theorem Store.docs_alike :
    (store.candidates request.filter request.query).map Candidate.doc =
      (store.candidates other.filter other.query).map Candidate.doc := by
  rw [docs_candidates, docs_candidates]
  congr 1
  funext doc
  exact alike.documents doc

include sorted unscored

theorem Store.search_alike :
    SearchResponse.unscored <$> store.search request =
      SearchResponse.unscored <$> store.search other := by
  have docs := docs_alike store alike
  have total : (store.candidates request.filter request.query).length =
      (store.candidates other.filter other.query).length := by
    rw [← List.length_map Candidate.doc, docs, List.length_map]
  have hits : (Candidate.arrange request.sorts
      (store.candidates request.filter request.query)).map Candidate.doc =
      (Candidate.arrange request.sorts
        (store.candidates other.filter other.query)).map Candidate.doc := by
    rw [Candidate.docs_arrange unscored sorted, docs, Candidate.docs_arrange unscored sorted]
  unfold search
  -- Whether the store is online does not depend on the request.
  apply map_bind_congr (f := id) rfl
  intro _ _ _
  rw [← alike.budget]
  split
  · rfl
  · show Except.ok _ = Except.ok _
    dsimp only [SearchResponse.unscored]
    rw [List.map_take, List.map_drop, hits, docs, total, ← alike.sorts, ← alike.offset,
      ← alike.limit, ← alike.facets, List.map_take, List.map_drop]

theorem Finder.search_alike :
    SearchResponse.unscored <$> finder.search store request =
      SearchResponse.unscored <$> finder.search store other := by
  unfold search
  apply map_bind_congr (Store.search_alike alike sorted unscored)
  intro response second same
  cases finder.connection with
  | direct => exact congrArg Except.ok same
  | relayed lag =>
    dsimp only
    rw [← alike.budget]
    split
    · rfl
    · exact congrArg Except.ok same

theorem Finder.execute_alike :
    SearchResult.unscored <$> finder.execute store request =
      SearchResult.unscored <$> finder.execute store other := by
  unfold execute
  apply map_bind_congr (search_alike alike sorted unscored)
  intro response second same
  obtain ⟨total, hits, facets⟩ := Unscored.mk.inj same
  apply map_bind_congr (map_mapM_congr hits ?_)
  · intro contents others read
    show Except.ok (Unscored.mk _ _ _) = Except.ok (Unscored.mk _ _ _)
    rw [total, read, facets]
  · intro hit third here
    rw [here]
    cases third.doc.toContent finder.schema <;> rfl

end Alike

namespace SearchResult

theorem content_firstHits {hits others : List SearchHit}
    (same : hits.map SearchHit.content = others.map SearchHit.content) :
    (firstHits hits).map SearchHit.content = (firstHits others).map SearchHit.content := by
  have told : ∀ hits : List SearchHit, (firstHits hits).map SearchHit.content =
      (hits.map SearchHit.content).foldl (fun kept content =>
        if kept.any (·.id == content.id) then kept else kept ++ [content]) [] := by
    intro hits
    rw [firstHits, List.foldl_map]
    refine (List.foldl_hom (List.map SearchHit.content) fun kept hit => ?_).symm
    rw [List.any_map, apply_ite (List.map SearchHit.content), List.map_append]
    rfl
  rw [told, told, same]

theorem shownTo_alike {result other : SearchResult} (filter : LanguageFilter)
    (same : result.unscored = other.unscored) :
    unscored <$> result.shownTo filter = unscored <$> other.shownTo filter := by
  obtain ⟨total, hits, facets⟩ := Unscored.mk.inj same
  have first := content_firstHits hits
  have length : result.hits.length = other.hits.length := by
    rw [← List.length_map SearchHit.content, hits, List.length_map]
  have firstLength : (firstHits result.hits).length = (firstHits other.hits).length := by
    rw [← List.length_map SearchHit.content, first, List.length_map]
  unfold shownTo
  apply map_bind_congr (map_mapM_congr first ?_)
  · intro shown others same
    show Except.ok (Unscored.mk _ _ _) = Except.ok (Unscored.mk _ _ _)
    rw [total, length, firstLength, same, facets]
  · intro hit second here
    rw [content_showHit_eq, content_showHit_eq, here]

end SearchResult

/-- The two places for a criterion fail together, or lead to requests that are alike. -/
theorem Query.lower_alike {schema : Schema} {bounds : RequestBounds} {filter : LanguageFilter}
    {criterion : Criterion} {sorts : List SortClause} {offset : Nat} {limit : Option Nat}
    {facets : List FacetClause} (sorted : sorts ≠ [])
    (unscored : ∀ clause ∈ sorts, clause.target ≠ .score) :
    (∃ failure, lower schema bounds filter ⟨some criterion, none, sorts, offset, limit, facets⟩ =
        .error failure ∧
      lower schema bounds filter ⟨none, some criterion, sorts, offset, limit, facets⟩ =
        .error failure) ∨
    ∃ request other,
      lower schema bounds filter ⟨some criterion, none, sorts, offset, limit, facets⟩ =
        .ok request ∧
      lower schema bounds filter ⟨none, some criterion, sorts, offset, limit, facets⟩ =
        .ok other ∧
      request.Alike other ∧ request.sorts ≠ [] ∧ ∀ sort ∈ request.sorts, sort.IsUnscored := by
  unfold lower
  dsimp only [Option.getD]
  cases criterion.lower schema filter with
  | error failure => exact .inl ⟨failure, rfl, rfl⟩
  | ok query =>
    cases lowered : sorts.mapM (SortClause.lower schema) with
    | error failure => exact .inl ⟨failure, rfl, rfl⟩
    | ok keys =>
      refine .inr ⟨_, _, rfl, rfl, ⟨fun doc => ?docs, rfl, rfl, rfl, rfl, rfl⟩, ?given, ?free⟩
      case docs => exact Bool.and_comm _ _
      case given =>
        rintro rfl
        have length := (mapM_eq_ok.1 lowered).length_eq
        exact sorted (List.length_eq_zero_iff.1 length)
      case free =>
        intro key member
        obtain ⟨clause, inside, made⟩ := exists_of_mem_mapM lowered member
        exact clause.isUnscored_lower (unscored clause inside) made

/-- A search that does not sort by scores has the same answer whether its criterion stands as the
filter or as the query, apart from the scores, and fails in the same way. -/
theorem Finder.find_filter_or_query {finder : Finder} {store : Store} {criterion : Criterion}
    {filter : LanguageFilter} {sorts : List SortClause} {offset : Nat} {limit : Option Nat}
    {facets : List FacetClause} (sorted : sorts ≠ [])
    (unscored : ∀ clause ∈ sorts, clause.target ≠ .score) :
    SearchResult.unscored <$>
        finder.find store ⟨some criterion, none, sorts, offset, limit, facets⟩ filter =
      SearchResult.unscored <$>
        finder.find store ⟨none, some criterion, sorts, offset, limit, facets⟩ filter := by
  unfold find
  obtain ⟨failure, refused, refusedOther⟩ |
      ⟨request, other, lowered, loweredOther, alike, given, free⟩ :=
    Query.lower_alike sorted unscored
  · rw [refused, refusedOther]
  · rw [lowered, loweredOther]
    apply map_bind_congr (execute_alike alike given free)
    intro result second same
    exact SearchResult.shownTo_alike filter same

namespace Sample

def articleLeaf : PropertyLeaf :=
  ⟨.contentTypeIdentifier, ⟨.eq, .single (.string "article"), rfl⟩, nofun⟩

def titleOrArticle : Criterion := .anyOf [.field titleLeaf, .property articleLeaf]

def articlesByName (filter query : Option Criterion) : Query where
  filter := filter
  query := query
  sorts := [⟨.contentName, .descending⟩]
  offset := 0
  limit := none
  facets := []

def scoredIds (query : Query) : Except Failure (List (Int64 × Score)) :=
  (fun result => result.hits.map fun hit => (hit.content.id, hit.score)) <$>
    finder.find (finder.performAll bothActs) query .unrestricted

end Sample

theorem Finder.find_titleOrArticle :
    SearchResult.unscored <$> Sample.finder.find (Sample.finder.performAll Sample.bothActs)
        (Sample.articlesByName (some Sample.titleOrArticle) none) .unrestricted =
      SearchResult.unscored <$> Sample.finder.find (Sample.finder.performAll Sample.bothActs)
        (Sample.articlesByName none (some Sample.titleOrArticle)) .unrestricted ∧
    Sample.scoredIds (Sample.articlesByName (some Sample.titleOrArticle) none) =
      .ok [(7, .ofNat 1), (8, .ofNat 1)] ∧
    Sample.scoredIds (Sample.articlesByName none (some Sample.titleOrArticle)) =
      .ok [(7, .ofNat 2), (8, .ofNat 1)] :=
  ⟨find_filter_or_query (List.cons_ne_nil _ _) (by simp), rfl, rfl⟩

end ContentFinder
