import ContentFinder.Proofs.Distinct
import ContentFinder.Proofs.NormalForm

/-! The fields that a query reads. A query lists the names that a walk from left to right meets,
each at its first place, and its score depends on the values under these names alone. -/

namespace ContentFinder

/-- A list has the names of a walk, each once, in the order of their first places. -/
structure FirstPlaces (walk names : List String) : Prop where
  once : names.Nodup
  mem_iff : ∀ name, name ∈ names ↔ name ∈ walk
  ordered : names.Pairwise fun name later => walk.idxOf name < walk.idxOf later

namespace Document

variable {doc other : Document} {field : String} (same : doc.get field = other.get field)

include same

theorem strings_congr : doc.strings field = other.strings field :=
  congrArg (List.filterMap IndexValue.string?) same

theorem points_congr : doc.points field = other.points field :=
  congrArg (List.filterMap IndexValue.point?) same

theorem has_congr : doc.has field = other.has field :=
  congrArg (fun values : List IndexValue => !values.isEmpty) same

end Document

namespace IndexQuery

variable {query : IndexQuery} {queries : List IndexQuery} {doc other : Document}

/-! The walk. -/

def note (met : List String) (name : String) : List String :=
  if name ∈ met then met else met ++ [name]

mutual

def collect (met : List String) : IndexQuery → List String
  | .matchAll | .matchNone => met
  | .term field _ | .terms field _ | .range field _ | .wildcard field _ => note met field
  | .geoDistance field _ | .present field => note met field
  | .fullText fields _ => fields.foldl note met
  | .allOf queries | .anyOf queries => collectOf met queries
  | .notOf query => collect met query

def collectOf (met : List String) : List IndexQuery → List String
  | [] => met
  | query :: rest => collectOf (collect met query) rest

end

theorem collectOf_eq_foldl (met : List String) (queries : List IndexQuery) :
    collectOf met queries = queries.foldl collect met := by
  induction queries generalizing met with
  | nil => rfl
  | cons query rest ih => rw [collectOf, ih, List.foldl_cons]

theorem collect_eq_foldl (query : IndexQuery) :
    ∀ met, collect met query = query.fieldNames.foldl note met := by
  have members : ∀ queries : List IndexQuery,
      (∀ query ∈ queries, ∀ met, collect met query = query.fieldNames.foldl note met) →
        ∀ met, collectOf met queries = (fieldNamesOf queries).foldl note met := by
    intro queries each met
    rw [collectOf_eq_foldl, fieldNamesOf_eq_flatMap, List.foldl_flatMap]
    exact List.foldl_ext _ _ met fun met query member => each query member met
  induction query using queryInduction with
  | matchAll => exact fun met => rfl
  | matchNone => exact fun met => rfl
  | leaf query isLeaf => cases query <;> first | exact fun met => rfl | cases isLeaf
  | allOf queries ih => exact members queries ih
  | anyOf queries ih => exact members queries ih
  | notOf query ih => exact ih

theorem collect_nil (query : IndexQuery) : collect [] query = query.fields :=
  collect_eq_foldl query []

theorem firstPlaces_fields (query : IndexQuery) : FirstPlaces query.fieldNames query.fields where
  once := nodup_distinct _
  mem_iff _ := mem_distinct
  ordered := distinct_pairwise _

/-! The values. -/

def AgreeOn (names : List String) (doc other : Document) : Prop :=
  ∀ name ∈ names, doc.get name = other.get name

theorem AgreeOn.member (agree : AgreeOn (fieldNamesOf queries) doc other)
    (member : query ∈ queries) : AgreeOn query.fieldNames doc other := by
  intro name named
  apply agree name
  rw [fieldNamesOf_eq_flatMap]
  exact List.mem_flatMap_of_mem member named

theorem score_leaf_congr (isLeaf : query.isLeaf = true)
    (agree : AgreeOn query.fieldNames doc other) : query.score doc = query.score other := by
  cases query with
  | term field value | terms field values | range field ends =>
    have same := agree field List.mem_cons_self
    rw [score, score, same]
  | wildcard field pattern =>
    have same := Document.strings_congr (agree field List.mem_cons_self)
    rw [score, score, same]
  | geoDistance field radius =>
    have same := Document.points_congr (agree field List.mem_cons_self)
    rw [score, score, same]
  | present field =>
    have same := Document.has_congr (agree field List.mem_cons_self)
    rw [score, score, same]
  | fullText fields text =>
    have same : fields.flatMap doc.strings = fields.flatMap other.strings :=
      List.flatMap_congr fun field member => Document.strings_congr (agree field member)
    rw [score, score, fullTextScore, fullTextScore, same]
  | matchAll | matchNone | allOf queries | anyOf queries | notOf query => cases isLeaf

theorem score_congr (query : IndexQuery) (agree : AgreeOn query.fieldNames doc other) :
    query.score doc = query.score other := by
  have members : ∀ queries : List IndexQuery,
      (∀ query ∈ queries, AgreeOn query.fieldNames doc other →
        query.score doc = query.score other) →
        AgreeOn (fieldNamesOf queries) doc other → scores doc queries = scores other queries := by
    intro queries each agree
    rw [scores_eq_map, scores_eq_map]
    exact List.map_congr_left fun query member => each query member (agree.member member)
  induction query using queryInduction with
  | matchAll => rfl
  | matchNone => rfl
  | leaf query isLeaf => exact score_leaf_congr isLeaf agree
  | allOf queries ih => rw [score, score, members queries ih agree]
  | anyOf queries ih => rw [score, score, members queries ih agree]
  | notOf query ih => rw [score, score, ih agree]

/-- A query lists each name once, in the order in which it is met from left to right, and two
documents with the same values under these names have one score. -/
theorem score_reads_fields (query : IndexQuery) :
    query.fields = collect [] query ∧ FirstPlaces query.fieldNames query.fields ∧
      ∀ doc other : Document, AgreeOn query.fields doc other →
        query.score doc = query.score other := by
  have places := firstPlaces_fields query
  refine ⟨(collect_nil query).symm, places, fun doc other agree => ?_⟩
  apply score_congr
  intro name named
  exact agree name ((places.mem_iff name).2 named)

def nestedQuery : IndexQuery :=
  .anyOf [.term "rank" (.integer 3),
    .notOf (.allOf [.present "text_eng", .term "rank" (.integer 4)]),
    .fullText ["text_main", "text_eng"] "tea"]

def emptyField : Document :=
  ((Document.new "1").add "rank" (.integer 3)).extend "text_eng" []

def otherField : Document :=
  ((Document.new "2").add "rank" (.integer 3)).add "text_fre" (.string "tea")

theorem score_reads_nested :
    nestedQuery.fields = ["rank", "text_eng", "text_main"] ∧
      AgreeOn nestedQuery.fields emptyField otherField ∧
      nestedQuery.score emptyField = some (.ofNat 1) ∧
      nestedQuery.score otherField = some (.ofNat 1) := by
  have names : nestedQuery.fields = ["rank", "text_eng", "text_main"] := by decide +kernel
  have agree : AgreeOn nestedQuery.fields emptyField otherField := by
    rw [names]
    unfold AgreeOn
    decide +kernel
  have scored : nestedQuery.score emptyField = some (.ofNat 1) := by decide +kernel
  have same := (score_reads_fields nestedQuery).2.2 emptyField otherField agree
  exact ⟨names, agree, scored, same ▸ scored⟩

end IndexQuery

end ContentFinder
