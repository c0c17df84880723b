import ContentFinder.Proofs.HitOrder

/-! The facets of a search. A facet counts, for each text of a field, the matching documents that
have it, and keeps the texts that come first: by greater counts, and by the texts where counts
agree. The order is strict, so it does not matter in which order the counts were listed before. -/

namespace ContentFinder

def Document.Shows (doc : Document) (field text : String) : Prop :=
  ∃ value ∈ doc.get field, value.text = text

instance (doc : Document) (field text : String) : Decidable (doc.Shows field text) :=
  inferInstanceAs (Decidable (∃ value ∈ doc.get field, value.text = text))

/-- An entry comes before another: it has the greater count, or the lesser text at the same count. -/
def Outranks (entry other : String × Nat) : Prop :=
  other.2 < entry.2 ∨ entry.2 = other.2 ∧ entry.1 < other.1

/-- Entries that list the texts of a field in any order, each with the number of documents that
have it. -/
structure Counts (field : String) (docs : List Document) (entries : List (String × Nat)) : Prop where
  distinct : (entries.map (·.1)).Nodup
  counted : ∀ text count, (text, count) ∈ entries ↔
    0 < count ∧ count = docs.countP (·.Shows field text)

/-- What a request asks of some documents: its texts that rank first, as many as there are up to
the limit. -/
structure Facet.Answers (facet : Facet) (request : FacetRequest) (docs : List Document) : Prop where
  name : facet.name = request.name
  length : facet.entries.length =
    min request.limit {text | ∃ doc ∈ docs, doc.Shows request.field text}.ncard
  distinct : (facet.entries.map (·.1)).Nodup
  counted : ∀ entry ∈ facet.entries,
    0 < entry.2 ∧ entry.2 = docs.countP (·.Shows request.field entry.1)
  ranked : facet.entries.Pairwise Outranks
  omitted : ∀ text, (∃ doc ∈ docs, doc.Shows request.field text) →
    text ∉ facet.entries.map (·.1) →
    ∀ entry ∈ facet.entries, Outranks entry (text, docs.countP (·.Shows request.field text))

namespace Outranks

variable {x y z : String × Nat}

theorem trans (first : Outranks x y) (second : Outranks y z) : Outranks x z := by
  unfold Outranks at *
  rcases first with more | ⟨same, less⟩ <;> rcases second with moreStill | ⟨sameStill, lessStill⟩
  · left; omega
  · left; omega
  · left; omega
  · exact .inr ⟨same.trans sameStill, String.lt_trans less lessStill⟩

theorem asymm (first : Outranks x y) (second : Outranks y x) : False := by
  rcases first with more | ⟨same, less⟩ <;> rcases second with moreBack | ⟨sameBack, lessBack⟩
  · omega
  · omega
  · omega
  · exact String.lt_irrefl x.1 (String.lt_trans less lessBack)

theorem total (apart : x.1 ≠ y.1) : Outranks x y ∨ Outranks y x := by
  unfold Outranks
  have texts : x.1 < y.1 ∨ y.1 < x.1 := by
    by_contra neither
    rw [not_or, String.not_lt, String.not_lt] at neither
    exact apart (String.le_antisymm neither.2 neither.1)
  rcases Nat.lt_trichotomy x.2 y.2 with less | same | more
  · exact .inr (.inl less)
  · exact texts.imp (fun less => .inr ⟨same, less⟩) fun less => .inr ⟨same.symm, less⟩
  · exact .inl (.inl more)

end Outranks

section Ranking

variable {entries others : List (String × Nat)}

theorem rankEntries_perm (entries : List (String × Nat)) : (rankEntries entries).Perm entries :=
  Sorting.sortBy_perm _ entries

theorem rankEntries_pairwise (distinct : (entries.map (·.1)).Nodup) :
    (rankEntries entries).Pairwise Outranks := by
  have before : ∀ x y : String × Nat,
      (decide (y.2 < x.2) || x.2 == y.2 && decide (x.1 < y.1)) = true ↔ Outranks x y := by
    intro x y
    simp [Outranks]
  have sorted := @Sorting.sortBy_pairwise _
    (fun x y : String × Nat => decide (y.2 < x.2) || x.2 == y.2 && decide (x.1 < y.1)) entries
  simp only [before] at sorted
  apply sorted
  · intro x _ y _ z _
    exact Outranks.trans
  · exact (List.pairwise_map.1 distinct).imp Outranks.total

/-- The ranking does not depend on the order of what is ranked. -/
theorem rankEntries_congr (same : entries.Perm others) (distinct : (entries.map (·.1)).Nodup) :
    rankEntries entries = rankEntries others := by
  have alike : (rankEntries entries).Perm (rankEntries others) :=
    (rankEntries_perm entries).trans (same.trans (rankEntries_perm others).symm)
  apply alike.eq_of_pairwise _ (rankEntries_pairwise distinct)
    (rankEntries_pairwise ((same.map (·.1)).nodup_iff.1 distinct))
  intro x y _ _ first second
  exact (first.asymm second).elim

end Ranking

namespace Counts

variable {field : String} {docs : List Document} {entries others : List (String × Nat)}

theorem nodup (counts : Counts field docs entries) : entries.Nodup :=
  counts.distinct.of_map

theorem perm (counts : Counts field docs entries) (again : Counts field docs others) :
    entries.Perm others := by
  apply (List.perm_ext_iff_of_nodup counts.nodup again.nodup).2
  intro entry
  rw [counts.counted, again.counted]

theorem mem_texts (counts : Counts field docs entries) (text : String) :
    text ∈ entries.map (·.1) ↔ ∃ doc ∈ docs, doc.Shows field text := by
  have counted := counts.counted text
  have present := List.countP_pos_iff (l := docs) (p := fun doc => decide (doc.Shows field text))
  simp only [decide_eq_true_eq] at present
  rw [← present, List.mem_map]
  constructor
  · rintro ⟨entry, member, rfl⟩
    obtain ⟨positive, same⟩ := (counted entry.2).1 member
    omega
  · intro positive
    exact ⟨(text, _), (counted _).2 ⟨positive, rfl⟩, rfl⟩

theorem length_eq (counts : Counts field docs entries) :
    entries.length = {text | ∃ doc ∈ docs, doc.Shows field text}.ncard := by
  have texts : {text | ∃ doc ∈ docs, doc.Shows field text} =
      ((entries.map (·.1)).toFinset : Set String) := by
    ext text
    rw [List.coe_toFinset]
    exact (counts.mem_texts text).symm
  rw [texts, Set.ncard_coe_finset, List.toFinset_card_of_nodup counts.distinct, List.length_map]

theorem answers {request : FacetRequest} (counts : Counts request.field docs entries) :
    Facet.Answers ⟨request.name, (rankEntries entries).take request.limit⟩ request docs := by
  have members : ∀ entry ∈ rankEntries entries,
      0 < entry.2 ∧ entry.2 = docs.countP (·.Shows request.field entry.1) := fun entry member =>
    (counts.counted entry.1 entry.2).1 ((rankEntries_perm entries).mem_iff.1 member)
  have ranked := rankEntries_pairwise counts.distinct
  have fewer := List.take_sublist request.limit (rankEntries entries)
  constructor
  case name => rfl
  case length => rw [List.length_take, (rankEntries_perm entries).length_eq, counts.length_eq]
  case distinct =>
    exact (fewer.map _).nodup (((rankEntries_perm entries).map _).nodup_iff.2 counts.distinct)
  case counted => exact fun entry member => members entry (List.mem_of_mem_take member)
  case ranked => exact ranked.sublist fewer
  case omitted =>
    intro text shown left entry kept
    obtain ⟨other, listed, rfl⟩ := List.mem_map.1 ((counts.mem_texts text).2 shown)
    have behind : other ∈ (rankEntries entries).drop request.limit := by
      have placed := (rankEntries_perm entries).mem_iff.2 listed
      rw [← List.take_append_drop request.limit (rankEntries entries), List.mem_append] at placed
      exact placed.resolve_left fun early => left (List.mem_map_of_mem early)
    rw [← List.take_append_drop request.limit (rankEntries entries), List.pairwise_append] at ranked
    rw [← ((counts.counted other.1 other.2).1 listed).2]
    exact ranked.2.2 entry kept other behind

end Counts

/-- A text that is taken once from every document that has it is counted by documents. -/
theorem count_flatMap_distinct (field text : String) (docs : List Document) :
    (docs.flatMap fun doc =>
      IndexQuery.distinct ((doc.get field).map IndexValue.text)).count text =
      docs.countP (·.Shows field text) := by
  induction docs with
  | nil => rfl
  | cons doc rest ih =>
    have listed : text ∈ IndexQuery.distinct ((doc.get field).map IndexValue.text) ↔
        doc.Shows field text := by
      rw [IndexQuery.mem_distinct, List.mem_map, Document.Shows]
    rw [List.flatMap_cons, List.count_append, ih, (IndexQuery.nodup_distinct _).count,
      List.countP_cons, Nat.add_comm]
    congr 1
    exact if_congr (listed.trans decide_eq_true_iff.symm) rfl rfl

theorem counts_tally (field : String) (docs : List Document) :
    Counts field docs (tally (docs.flatMap fun doc =>
      IndexQuery.distinct ((doc.get field).map IndexValue.text))) := by
  constructor
  case distinct =>
    rw [tally, List.map_map]
    show ((IndexQuery.distinct _).map id).Nodup
    rw [List.map_id]
    exact IndexQuery.nodup_distinct _
  case counted =>
    intro text count
    rw [tally, List.mem_map]
    constructor
    · rintro ⟨other, listed, same⟩
      cases same
      rw [IndexQuery.mem_distinct, ← List.count_pos_iff] at listed
      exact ⟨listed, count_flatMap_distinct field text docs⟩
    · rintro ⟨positive, rfl⟩
      rw [← count_flatMap_distinct] at positive ⊢
      exact ⟨text, IndexQuery.mem_distinct.2 (List.count_pos_iff.1 positive), rfl⟩

namespace Store

def matched (store : Store) (filter query : IndexQuery) : List Document :=
  store.committed.values.filter fun doc => filter.isMatch doc && query.isMatch doc

/-- Each facet of an answer counts all documents that match, whatever page was asked for. It is the
same in whatever order the counts are listed before they are ranked. -/
theorem search_facets_exact {store : Store} {request : SearchRequest} {response : SearchResponse}
    (found : store.search request = .ok response) :
    List.Forall₂ (fun facet asked =>
        facet.Answers asked (store.matched request.filter request.query) ∧
        ∀ entries, Counts asked.field (store.matched request.filter request.query) entries →
          (rankEntries entries).take asked.limit = facet.entries)
      response.facets request.facets ∧
    ∀ offset limit,
      SearchResponse.facets <$> store.search { request with offset, limit } =
        .ok response.facets := by
  have facets : response.facets = request.facets.map
      (·.answer (store.matched request.filter request.query)) := by
    rw [search_eq_ok found, matched, docs_candidates]
  constructor
  · rw [facets, List.forall₂_map_left_iff, List.forall₂_same]
    intro asked _
    have counts := counts_tally asked.field (store.matched request.filter request.query)
    refine ⟨counts.answers, fun entries again => ?_⟩
    rw [rankEntries_congr (again.perm counts) again.distinct]
    rfl
  · intro offset limit
    obtain ⟨online, inTime⟩ := reached_of_search found
    obtain ⟨other, foundOther⟩ := @exists_search store { request with offset, limit } online inTime
    have same : other.facets = response.facets := by
      rw [facets, search_eq_ok foundOther, matched, docs_candidates]
    rw [foundOther, ← same]
    rfl

end Store

/-! Documents in which values of different kinds have one text. -/

namespace Sample

def tagged (id : String) (tags : List IndexValue) : Document :=
  (Document.new id).extend "tag" tags

def tagStore : Store where
  committed := Dict.ofList [("1", tagged "1" [.integer 5, .string "5", .string "b"]),
    ("2", tagged "2" [.string "5"]), ("3", tagged "3" [.boolean true, .string "b"])]
  pending := []
  offline := false
  latency := 0

def tagRequest : SearchRequest where
  filter := .matchAll
  query := .matchAll
  sorts := []
  offset := 2
  limit := 0
  facets := [⟨"tags", "tag", 2⟩]
  budget := 10

end Sample

theorem Store.search_facets_tagStore : ∃ response, Sample.tagStore.search Sample.tagRequest =
      .ok response ∧
    response.facets = [⟨"tags", [("5", 2), ("b", 2)]⟩] ∧
    ∀ facet ∈ response.facets, facet.Answers ⟨"tags", "tag", 2⟩
      (Sample.tagStore.matched Sample.tagRequest.filter Sample.tagRequest.query) := by
  have found : Sample.tagStore.search Sample.tagRequest = .ok _ := rfl
  obtain ⟨facets, -⟩ := search_facets_exact found
  refine ⟨_, found, by decide, ?_⟩
  cases facets with
  | cons first rest =>
    cases rest
    exact List.forall_mem_singleton.2 first.1

end ContentFinder
