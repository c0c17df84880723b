import Mathlib.Data.Set.Card
import ContentFinder.Proofs.Replay
import ContentFinder.Proofs.Visibility

/-! What a finder finds in a store that it alone has written. The committed documents are those of
the live contents, one for each. So a search counts contents, can read all of its hits, and hits no
content twice. -/

namespace ContentFinder

open Outcome

def Rendering.ofContents (schema : Schema) : Rendering Int64 Content where
  keyOf := Content.id
  idOf := Number.wordText
  Renders content doc := content.toDocument schema = .ok doc
  unique mapped again := Except.ok.inj (mapped.symm.trans again)
  named mapped := Content.id_toDocument mapped
  apart same := Number.wordText_injective same

theorem Dict.mem_values_iff {α : Type} {dict : Dict α} {value : α} :
    value ∈ dict.values ↔ ∃ key, dict.get? key = some value := by
  constructor
  · intro member
    obtain ⟨⟨key, held⟩, inside, rfl⟩ := List.mem_map.1 member
    exact ⟨key, (mem_entries_iff dict).1 inside⟩
  · rintro ⟨key, found⟩
    exact List.mem_map_of_mem ((mem_entries_iff dict).2 found)

namespace Store

theorem docs_candidates (store : Store) (filter query : IndexQuery) :
    (store.candidates filter query).map Candidate.doc =
      store.committed.values.filter fun doc => filter.isMatch doc && query.isMatch doc := by
  have scored : ∀ docs : List Document,
      (docs.filterMap fun doc => (query.score doc).map (Candidate.mk doc)).map Candidate.doc =
        docs.filter query.isMatch := by
    intro docs
    induction docs with
    | nil => rfl
    | cons doc rest ih =>
      cases found : query.score doc <;> simp [IndexQuery.isMatch, found, ← ih]
  rw [candidates, scored, List.filter_filter]
  simp only [Bool.and_comm]

theorem exists_search {store : Store} {request : SearchRequest} (online : store.offline = false)
    (inTime : store.latency ≤ request.budget) :
    ∃ response, store.search request = .ok response := by
  have soon : ¬request.budget < store.latency := by omega
  simp [search, requireOnline, online, soon, bind, Except.bind, pure, Except.pure]

namespace Replays

variable {κ α : Type} [DecidableEq κ] {rendering : Rendering κ α} {log : Log κ α} {store : Store}

theorem mem_committed (replays : Replays rendering log store) {doc : Document} :
    doc ∈ store.committed.values ↔
      ∃ value, rendering.Renders value doc ∧ log.Stands rendering.keyOf value := by
  rw [Dict.mem_values_iff]
  constructor
  · rintro ⟨id, found⟩
    exact ((replays.standing id doc).1 found).2
  · intro stands
    exact ⟨doc.id, (replays.standing doc.id doc).2 ⟨rfl, stands⟩⟩

theorem ids_committed (replays : Replays rendering log store) :
    (store.committed.values.map Document.id).Nodup := by
  have keys : store.committed.values.map Document.id = store.committed.entries.map (·.1) := by
    rw [Dict.values, List.map_map]
    refine List.map_congr_left fun entry member => ?_
    have held := (Dict.mem_entries_iff store.committed).1 member
    exact ((replays.standing _ _).1 held).1
  rw [keys]
  refine (List.pairwise_map.2 store.committed.ascending).imp fun lower => ?_
  exact String.ne_of_lt lower

theorem ids_candidates (replays : Replays rendering log store) (filter query : IndexQuery) :
    ((store.candidates filter query).map (·.doc.id)).Nodup := by
  have fewer := (List.filter_sublist (l := store.committed.values)
    (p := fun doc => filter.isMatch doc && query.isMatch doc)).map Document.id
  rw [← docs_candidates, List.map_map] at fewer
  exact fewer.nodup replays.ids_committed

theorem ids_hits (replays : Replays rendering log store) {request : SearchRequest}
    {response : SearchResponse} (found : store.search request = .ok response) :
    (response.hits.map (·.doc.id)).Nodup := by
  have arranged : ((Candidate.arrange request.sorts
      (store.candidates request.filter request.query)).map (·.doc.id)).Nodup :=
    ((Sorting.sortBy_perm _ _).map _).nodup_iff.2 (replays.ids_candidates _ _)
  rw [search_eq_ok found]
  refine List.Nodup.sublist ?_ arranged
  exact ((List.take_sublist _ _).trans (List.drop_sublist _ _)).map _

end Replays

end Store

namespace Finder

def Act.events : Act → Log Int64 Content
  | .index contents .eventual => contents.map .written
  | .index contents .sync => contents.map .written ++ [.committed]
  | .delete id => [.removed id]
  | .purge => [.cleared]
  | .refresh => [.committed]
  | .setOffline _ | .setLatency _ => []

def logOf (finder : Finder) (acts : List Act) : Log Int64 Content :=
  Store.trace finder.update Act.events .empty acts

/-- The content was the last one handed in with its id at the last refresh, and since then neither
its id was deleted nor the store purged. -/
def Live (finder : Finder) (acts : List Act) (content : Content) : Prop :=
  (finder.logOf acts).Stands Content.id content

def matching (finder : Finder) (acts : List Act) (filter query : IndexQuery) : Set Content :=
  {content | finder.Live acts content ∧ ∃ doc, content.toDocument finder.schema = .ok doc ∧
    filter.isMatch doc = true ∧ query.isMatch doc = true}

variable {finder : Finder}

theorem replays_perform {log : Log Int64 Content} {store : Store}
    (replays : store.Replays (.ofContents finder.schema) log) (act : Act) :
    (finder.perform store act).Replays (.ofContents finder.schema)
      (log ++ Store.noted finder.update Act.events store act) := by
  cases act with
  | index contents mode =>
    rw [perform, Store.noted, update, run_index]
    cases mapped : contents.mapM (Content.toDocument finder.schema) with
    | error failure => simpa using replays
    | ok docs =>
      by_cases away : store.offline = true
      · simpa [away] using replays
      · have written := replays.writeAll (mapM_eq_ok.1 mapped)
        cases mode with
        | eventual => simpa [away, Act.events] using written
        | sync => simpa [away, Act.events] using written.commitAll
  | delete id => exact Store.replays_ifOnline rfl replays (replays.remove id)
  | purge => exact Store.replays_ifOnline rfl replays (.clear log store)
  | refresh => exact Store.replays_ifOnline rfl replays replays.commitAll
  | setOffline offline => exact Store.replays_quiet rfl rfl rfl replays
  | setLatency latency => exact Store.replays_quiet rfl rfl rfl replays

theorem replays_performAll (finder : Finder) (acts : List Act) :
    (finder.performAll acts).Replays (.ofContents finder.schema) (finder.logOf acts) := by
  have replays : (finder.performAll acts).Replays (.ofContents finder.schema)
      ([] ++ finder.logOf acts) := Store.replays_trace replays_perform Store.replays_empty acts
  rwa [List.nil_append] at replays

theorem live_unique {acts : List Act} {content other : Content} (live : finder.Live acts content)
    (otherLive : finder.Live acts other) (sameId : content.id = other.id) : content = other :=
  Log.stands_unique live otherLive sameId

theorem mem_committed {acts : List Act} {doc : Document} :
    doc ∈ (finder.performAll acts).committed.values ↔
      ∃ content, content.toDocument finder.schema = .ok doc ∧ finder.Live acts content :=
  (replays_performAll finder acts).mem_committed

/-- The document of a content, as far as it has one. -/
def documentOf (finder : Finder) (content : Content) : Document :=
  (content.toDocument finder.schema).toOption.getD (.new (Number.wordText content.id))

theorem documentOf_eq {content : Content} {doc : Document}
    (mapped : content.toDocument finder.schema = .ok doc) : finder.documentOf content = doc := by
  rw [documentOf, mapped]
  rfl

section Matching

variable (finder) (acts : List Act) (filter query : IndexQuery)

/-- The documents of the matching contents are the committed ones that match. -/
theorem image_matching :
    finder.documentOf '' finder.matching acts filter query =
      {doc | doc ∈ (finder.performAll acts).committed.values.filter fun doc =>
        filter.isMatch doc && query.isMatch doc} := by
  ext doc
  rw [Set.mem_ofPred_eq, List.mem_filter, mem_committed, Bool.and_eq_true]
  constructor
  · rintro ⟨content, ⟨live, made, mapped, filtered, matched⟩, rfl⟩
    rw [documentOf_eq mapped]
    exact ⟨⟨content, mapped, live⟩, filtered, matched⟩
  · rintro ⟨⟨content, mapped, live⟩, filtered, matched⟩
    exact ⟨content, ⟨live, doc, mapped, filtered, matched⟩, documentOf_eq mapped⟩

theorem injOn_matching : (finder.matching acts filter query).InjOn finder.documentOf := by
  rintro content ⟨live, doc, mapped, -⟩ other ⟨otherLive, back, otherMapped, -⟩ same
  rw [documentOf_eq mapped, documentOf_eq otherMapped] at same
  subst same
  have sameText := (Content.id_toDocument mapped).symm.trans (Content.id_toDocument otherMapped)
  exact live_unique live otherLive (Number.wordText_injective sameText)

theorem finite_matching : (finder.matching acts filter query).Finite := by
  refine Set.Finite.of_finite_image ?_ (injOn_matching finder acts filter query)
  rw [image_matching]
  exact List.finite_toSet _

theorem length_candidates :
    ((finder.performAll acts).candidates filter query).length =
      (finder.matching acts filter query).ncard := by
  have distinct : ((finder.performAll acts).committed.values.filter fun doc =>
      filter.isMatch doc && query.isMatch doc).Nodup :=
    ((replays_performAll finder acts).ids_committed.of_map _).filter _
  rw [← (injOn_matching finder acts filter query).ncard_image, image_matching,
    ← List.coe_toFinset, Set.ncard_coe_finset, List.toFinset_card_of_nodup distinct,
    ← Store.docs_candidates, List.length_map]

end Matching

def lag (finder : Finder) : Nat :=
  match finder.connection with
  | .direct => 0
  | .relayed lag => lag

theorem exists_search {store : Store} {request : SearchRequest} (online : store.offline = false)
    (inTime : store.latency + finder.lag ≤ request.budget) :
    ∃ response, finder.search store request = .ok response := by
  have near : store.latency ≤ request.budget := by omega
  obtain ⟨response, answered⟩ := Store.exists_search online near
  refine ⟨response, ?_⟩
  rw [search, answered]
  unfold lag at inTime
  cases reached : finder.connection with
  | direct => rfl
  | relayed lag =>
    rw [reached] at inTime
    have soon : ¬request.budget < store.latency + lag := by simpa using inTime
    simp [bind, Except.bind, pure, Except.pure, soon]

section Execute

variable {acts : List Act} {request : SearchRequest} {result : SearchResult}

theorem exists_readHit {candidate : Candidate}
    (committed : candidate.doc ∈ (finder.performAll acts).committed.values) :
    ∃ hit, finder.readHit candidate = .ok hit := by
  obtain ⟨content, mapped, -⟩ := mem_committed.1 committed
  exact ⟨_, bind_eq_ok.2 ⟨_, Document.toContent_eq mapped, rfl⟩⟩

theorem exists_execute (online : (finder.performAll acts).offline = false)
    (inTime : (finder.performAll acts).latency + finder.lag ≤ request.budget) :
    ∃ result, finder.execute (finder.performAll acts) request = .ok result := by
  obtain ⟨response, searched⟩ := exists_search online inTime
  have read : ∃ hits, response.hits.mapM finder.readHit = .ok hits := by
    refine exists_mapM_eq_ok.2 fun hit member => ?_
    exact exists_readHit (Store.matches_of_search (search_eq_ok searched) member).1
  obtain ⟨hits, read⟩ := read
  exact ⟨_, bind_eq_ok.2 ⟨response, searched, bind_eq_ok.2 ⟨hits, read, rfl⟩⟩⟩

variable (found : finder.execute (finder.performAll acts) request = .ok result)

include found

theorem total_execute :
    result.total = (finder.matching acts request.filter request.query).ncard := by
  obtain ⟨response, searched, total, -⟩ := of_execute found
  rw [total, Store.search_eq_ok searched, length_candidates]

theorem matching_of_hit {hit : SearchHit} (member : hit ∈ result.hits) :
    ∃ content ∈ finder.matching acts request.filter request.query,
      hit.content.id = content.id ∧ ∃ doc, content.toDocument finder.schema = .ok doc ∧
        doc.toContent finder.schema = .ok hit.content := by
  obtain ⟨doc, committed, filtered, matched, back⟩ := hit_of_execute found member
  obtain ⟨content, mapped, live⟩ := mem_committed.1 committed
  have sameId : hit.content.id = content.id := by
    rw [Document.toContent_eq mapped] at back
    rw [← Except.ok.inj back]
    rfl
  exact ⟨content, ⟨live, doc, mapped, filtered, matched⟩, sameId, doc, mapped, back⟩

theorem contentIds_execute : result.contentIds.Nodup := by
  obtain ⟨response, searched, -, read⟩ := of_execute found
  have texts : (result.hits.map fun hit => Number.wordText hit.content.id) =
      response.hits.map (·.doc.id) := by
    refine map_mapM read fun candidate member hit made => ?_
    obtain ⟨committed, -⟩ := Store.matches_of_search searched member
    obtain ⟨content, mapped, -⟩ := mem_committed.1 committed
    obtain ⟨read, back, same⟩ := bind_eq_ok.1 made
    rw [Document.toContent_eq mapped] at back
    cases back
    cases same
    exact (Content.id_toDocument mapped).symm
  have distinct := (replays_performAll finder acts).ids_hits searched
  rw [← texts] at distinct
  refine List.Nodup.of_map Number.wordText ?_
  rwa [SearchResult.contentIds, List.map_map]

end Execute

theorem online_perform {store : Store} {act : Act} (online : store.offline = false)
    (stays : act ≠ .setOffline true) : (finder.perform store act).offline = false := by
  unfold perform
  cases act with
  | index contents mode =>
    rw [update, run_index]
    cases contents.mapM (Content.toDocument finder.schema) with
    | error failure => exact online
    | ok docs =>
      dsimp only
      rw [online]
      cases mode <;> exact online
  | delete id => exact (Store.offline_ifOnline rfl).trans online
  | purge => exact (Store.offline_ifOnline rfl).trans online
  | refresh => exact (Store.offline_ifOnline rfl).trans online
  | setOffline offline =>
    cases offline with
    | true => exact absurd rfl stays
    | false => rfl
  | setLatency latency => exact online

/-- An act on a store that is online fails only for a content that has no document. -/
theorem run_eq_ok_iff {store : Store} (online : store.offline = false) (act : Act) :
    ((finder.update act).run store).1 = .ok () ↔
      ∀ content ∈ act.contents, ∃ doc, content.toDocument finder.schema = .ok doc := by
  cases act with
  | index contents mode =>
    rw [update, run_index_eq_ok_iff, and_iff_right online]
    rfl
  | delete id => exact iff_of_true (Store.run_ifOnline_eq_ok online) (by simp [Act.contents])
  | purge => exact iff_of_true (Store.run_ifOnline_eq_ok online) (by simp [Act.contents])
  | refresh => exact iff_of_true (Store.run_ifOnline_eq_ok online) (by simp [Act.contents])
  | setOffline offline => exact iff_of_true rfl (by simp [Act.contents])
  | setLatency latency => exact iff_of_true rfl (by simp [Act.contents])

theorem online_performAll {acts : List Act} (stays : ∀ act ∈ acts, act ≠ .setOffline true) :
    (finder.performAll acts).offline = false :=
  List.foldlRecOn (motive := fun store : Store => store.offline = false) acts finder.perform rfl
    fun _ online act member => online_perform online (stays act member)

end Finder

namespace SearchResult

theorem firstHits_of_nodup {hits : List SearchHit}
    (distinct : (hits.map (·.content.id)).Nodup) : firstHits hits = hits := by
  rw [firstHits_eq_leading]
  induction hits using List.reverseRecOn with
  | nil => rfl
  | append_singleton hits hit ih =>
    rw [List.map_append, List.nodup_append] at distinct
    obtain ⟨before, -, apart⟩ := distinct
    have fresh : hits.any (·.content.id == hit.content.id) = false := by
      simp only [List.any_eq_false, beq_iff_eq]
      intro other member
      exact apart _ (List.mem_map_of_mem member) _ List.mem_cons_self
    rw [leading_append_singleton, fresh, if_neg Bool.false_ne_true, ih before]

theorem shownTo_of_nodup {result : SearchResult} (distinct : result.contentIds.Nodup)
    (filter : LanguageFilter) :
    result.shownTo filter =
      (fun shown => { result with hits := shown }) <$> result.hits.mapM (showHit filter) := by
  rw [shownTo, firstHits_of_nodup distinct]
  cases result.hits.mapM (showHit filter) with
  | error failure => rfl
  | ok shown =>
    change Except.ok _ = Except.ok _
    simp

end SearchResult

/-- A store that was only written through the finder, and never taken offline, takes every content
that has a document. A search over it succeeds if it has the time. It counts the matching live
contents, hits no content twice, and so shows all of its hits. -/
theorem Finder.execute_exact {finder : Finder} {acts : List Finder.Act} {request : SearchRequest}
    (stays : ∀ act ∈ acts, act ≠ .setOffline true)
    (inTime : (finder.performAll acts).latency + finder.lag ≤ request.budget) :
    (∀ act, ((finder.update act).run (finder.performAll acts)).1 = .ok () ↔
      ∀ content ∈ act.contents, ∃ doc, content.toDocument finder.schema = .ok doc) ∧
    ∃ result, finder.execute (finder.performAll acts) request = .ok result ∧
      result.total = (finder.matching acts request.filter request.query).ncard ∧
      result.contentIds.Nodup ∧
      ∀ filter, result.shownTo filter = (fun shown => { result with hits := shown }) <$>
        result.hits.mapM (SearchResult.showHit filter) := by
  have online : (finder.performAll acts).offline = false := online_performAll stays
  obtain ⟨result, found⟩ := exists_execute online inTime
  have distinct := contentIds_execute found
  exact ⟨run_eq_ok_iff online, result, found, total_execute found, distinct,
    SearchResult.shownTo_of_nodup distinct⟩

namespace Sample

def acts : List Finder.Act := [.index [content] .eventual, .delete 8, .refresh]

def request : SearchRequest where
  filter := .matchAll
  query := .present IndexName.name
  sorts := []
  offset := 0
  limit := 10
  facets := []
  budget := 1000

end Sample

theorem Finder.execute_sample :
    ((Sample.finder.update (.index [Sample.content] .sync)).run
      (Sample.finder.performAll Sample.acts)).1 = .ok () ∧
    ∃ result, Sample.finder.execute (Sample.finder.performAll Sample.acts) Sample.request =
        .ok result ∧
      result.total =
        (Sample.finder.matching Sample.acts Sample.request.filter Sample.request.query).ncard ∧
      result.contentIds.Nodup ∧
      ∀ filter, result.shownTo filter = (fun shown => { result with hits := shown }) <$>
        result.hits.mapM (SearchResult.showHit filter) := by
  have stays : ∀ act ∈ Sample.acts, act ≠ .setOffline true := by
    simp [Sample.acts]
  have inTime : (Sample.finder.performAll Sample.acts).latency + Sample.finder.lag ≤
      Sample.request.budget := by decide
  obtain ⟨taken, found⟩ := execute_exact stays inTime
  have mapped : ∀ content ∈ (Act.index [Sample.content] .sync).contents,
      ∃ doc, content.toDocument Sample.finder.schema = .ok doc :=
    List.forall_mem_singleton.2 ⟨Sample.document, Sample.mapped⟩
  exact ⟨(taken _).2 mapped, found⟩

end ContentFinder
