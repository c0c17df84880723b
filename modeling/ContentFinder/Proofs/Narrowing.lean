import ContentFinder.Proofs.HitOrder

/-! Narrowing a search. One more query in the filter takes hits away, and those that stay keep their
order and their scores: sorting commutes with leaving items out where the order tells any two of
them apart, and the filter has no part in a score. -/

namespace ContentFinder

namespace Sorting

variable {α : Type} {before : α → α → Bool}

/-- Leaving items out before they are put in order comes to the same as leaving them out afterwards,
if no two different items precede each other. -/
theorem sortBy_filter {items : List α} (keep : α → Bool)
    (trans : ∀ x ∈ items, ∀ y ∈ items, ∀ z ∈ items,
      before x y = true → before y z = true → before x z = true)
    (total : items.Pairwise fun x y => before x y = true ∨ before y x = true)
    (asymm : ∀ x ∈ items, ∀ y ∈ items, before x y = true → before y x = true → x = y) :
    sortBy before (items.filter keep) = (sortBy before items).filter keep := by
  have inside : ∀ x ∈ items.filter keep, x ∈ items := fun x member => (List.mem_filter.1 member).1
  have sorted : (sortBy before items).Pairwise fun x y => before x y = true :=
    sortBy_pairwise trans total
  have sortedFewer : (sortBy before (items.filter keep)).Pairwise fun x y => before x y = true := by
    apply sortBy_pairwise
    · intro x xMember y yMember z zMember
      exact trans x (inside x xMember) y (inside y yMember) z (inside z zMember)
    · exact total.filter keep
  have same : (sortBy before (items.filter keep)).Perm ((sortBy before items).filter keep) :=
    (sortBy_perm before _).trans ((sortBy_perm before items).filter keep).symm
  -- Both sides are in order, and of a list there is one arrangement that is.
  apply same.eq_of_pairwise _ sortedFewer (sorted.filter keep)
  intro x y xMember yMember
  have fromItems := (sortBy_perm before items).mem_iff.1 (List.mem_filter.1 yMember).1
  exact asymm x (inside x ((sortBy_perm before _).mem_iff.1 xMember)) y fromItems

end Sorting

namespace Store

def reach (store : Store) (budget : Nat) : Except Failure Unit := do
  store.requireOnline
  if budget < store.latency then throw (.unavailable (.overBudget budget))

theorem hits_search (store : Store) (request : SearchRequest) :
    SearchResponse.hits <$> store.search request =
      (fun _ => ((store.arranged request).drop request.offset).take request.limit) <$>
        store.reach request.budget := by
  unfold search reach
  cases store.requireOnline with
  | error failure => rfl
  | ok =>
    by_cases late : request.budget < store.latency
    · simp only [if_pos late]
      rfl
    · simp only [if_neg late]
      rfl

theorem hits_search_whole {store : Store} {request : SearchRequest} (start : request.offset = 0)
    (enough : (store.candidates request.filter request.query).length ≤ request.limit) :
    SearchResponse.hits <$> store.search request =
      (fun _ => store.arranged request) <$> store.reach request.budget := by
  have length : (store.arranged request).length ≤ request.limit := by
    rw [length_arranged]
    exact enough
  rw [hits_search, start, List.drop_zero, List.take_of_length_le length]

theorem candidates_narrowed (store : Store) (filter query narrower : IndexQuery) :
    store.candidates (.all [filter, narrower]) query =
      (store.candidates filter query).filter (narrower.isMatch ·.doc) := by
  unfold candidates
  rw [List.filter_filterMap, List.filterMap_filter, List.filterMap_filter]
  congr 1
  funext doc
  rw [IndexQuery.isMatch_all]
  cases filtered : filter.isMatch doc <;> cases narrowed : narrower.isMatch doc <;>
    cases query.score doc <;> simp [filtered, narrowed, Option.filter]

end Store

theorem Candidate.arrange_filter {sorts : List IndexSort} {candidates : List Candidate}
    (keep : Candidate → Bool) (sortable : ∀ candidate ∈ candidates, candidate.doc.Sortable)
    (distinct : (candidates.map (·.doc.id)).Nodup) :
    arrange sorts (candidates.filter keep) = (arrange sorts candidates).filter keep := by
  apply Sorting.sortBy_filter keep
  · intro x xMember y yMember z zMember
    exact before_trans (sortable x xMember) (sortable y yMember) (sortable z zMember)
  · exact before_total sortable distinct
  · intro x xMember y yMember first second
    rw [beq_iff_eq] at first second
    rw [order_swap (sortable x xMember) (sortable y yMember), first] at second
    cases second

/-- A search that cuts no hit off, narrowed by one more query, has the hits that match this query
too, in the order and with the scores that they had. -/
theorem Finder.search_narrowed {finder : Finder} {acts : List Finder.Act} {request : SearchRequest}
    (free : ∀ act ∈ acts, ∀ content ∈ act.contents, ∀ field ∈ content.fields,
      '_' ∉ field.language.toList)
    (start : request.offset = 0)
    (enough : ((finder.performAll acts).candidates request.filter request.query).length ≤
      request.limit)
    (narrower : IndexQuery) :
    SearchResponse.hits <$> (finder.performAll acts).search
        { request with filter := .all [request.filter, narrower] } =
      (fun response => response.hits.filter (narrower.isMatch ·.doc)) <$>
        (finder.performAll acts).search request := by
  have sortable : ∀ candidate ∈ (finder.performAll acts).candidates request.filter request.query,
      candidate.doc.Sortable := by
    intro candidate listed
    exact sortable_performAll free _ (Store.mem_candidates.1 listed).1
  have distinct := (replays_performAll finder acts).ids_candidates request.filter request.query
  have fewer : ((finder.performAll acts).candidates (.all [request.filter, narrower])
      request.query).length ≤ request.limit := by
    rw [Store.candidates_narrowed]
    exact (List.length_filter_le _ _).trans enough
  calc
    _ = (fun _ => Candidate.arrange request.sorts ((finder.performAll acts).candidates
          (.all [request.filter, narrower]) request.query)) <$>
            (finder.performAll acts).reach request.budget :=
        @Store.hits_search_whole _ { request with filter := .all [request.filter, narrower] }
          start fewer
    _ = (fun _ => (Candidate.arrange request.sorts ((finder.performAll acts).candidates
          request.filter request.query)).filter (narrower.isMatch ·.doc)) <$>
            (finder.performAll acts).reach request.budget := by
        rw [Store.candidates_narrowed, Candidate.arrange_filter _ sortable distinct]
    _ = List.filter (narrower.isMatch ·.doc) <$> SearchResponse.hits <$>
          (finder.performAll acts).search request := by
        rw [Store.hits_search_whole start enough, ← comp_map]
        rfl
    _ = _ := by
        rw [← comp_map]
        rfl

namespace Sample

def namedTea : IndexQuery := .term IndexName.name (.string "Tea")

end Sample

theorem Finder.search_narrowed_byName :
    SearchResponse.hits <$> (Sample.finder.performAll Sample.bothActs).search
        { Sample.byName with filter := .all [Sample.byName.filter, Sample.namedTea] } =
      (fun response => response.hits.filter (Sample.namedTea.isMatch ·.doc)) <$>
        (Sample.finder.performAll Sample.bothActs).search Sample.byName ∧
    (fun response => response.hits.map (·.doc.id)) <$>
      (Sample.finder.performAll Sample.bothActs).search
        { Sample.byName with filter := .all [Sample.byName.filter, Sample.namedTea] } =
          .ok ["7"] := by
  have free : ∀ act ∈ Sample.bothActs, ∀ content ∈ act.contents, ∀ field ∈ content.fields,
      '_' ∉ field.language.toList := by decide
  have enough : ((Sample.finder.performAll Sample.bothActs).candidates Sample.byName.filter
      Sample.byName.query).length ≤ Sample.byName.limit := by decide
  exact ⟨search_narrowed free rfl enough Sample.namedTea, rfl⟩

end ContentFinder
