import ContentFinder.Index.Matching

/-! What queries match. The simplifying constructors match what the plain ones match, and a query
over one field looks at the values of that field alone. -/

namespace ContentFinder

section Members

variable {α : Type} {p q : α → Bool} {items : List α}
  (same : ∀ item ∈ items, p item = q item)

include same

theorem all_eq_of_mem : items.all p = items.all q := by
  rw [Bool.eq_iff_iff, List.all_eq_true, List.all_eq_true]
  exact forall₂_congr fun item member => by rw [same item member]

theorem any_eq_of_mem : items.any p = items.any q := by
  rw [Bool.eq_iff_iff, List.any_eq_true, List.any_eq_true]
  exact exists_congr fun item => and_congr_right fun member => by rw [same item member]

end Members

theorem IndexValue.string?_eq_some {value : IndexValue} {text : String} :
    value.string? = some text ↔ value = .string text := by
  cases value <;> simp [string?]

theorem Document.mem_strings {doc : Document} {field text : String} :
    text ∈ doc.strings field ↔ .string text ∈ doc.get field := by
  simp [strings, IndexValue.string?_eq_some]

namespace IndexQuery

variable {doc : Document}

@[simp]
theorem isMatch_matchAll : isMatch .matchAll doc = true := rfl

@[simp]
theorem isMatch_matchNone : isMatch .matchNone doc = false := rfl

@[simp]
theorem isMatch_allOf (queries : List IndexQuery) :
    isMatch (.allOf queries) doc = queries.all (·.isMatch doc) := by
  simp only [isMatch, score, scores_eq_map, List.all_map, Function.comp_def]
  split <;> simp_all

@[simp]
theorem isMatch_anyOf (queries : List IndexQuery) :
    isMatch (.anyOf queries) doc = queries.any (·.isMatch doc) := by
  simp only [isMatch, score, scores_eq_map, List.any_map, Function.comp_def]
  split <;> simp_all

@[simp]
theorem isMatch_notOf (query : IndexQuery) : isMatch (.notOf query) doc = !query.isMatch doc := by
  simp only [isMatch, score]
  split <;> simp_all

theorem isSome_hit (matched : Bool) : (hit matched).isSome = matched := by
  cases matched <;> rfl

@[simp]
theorem isMatch_term (field : String) (value : IndexValue) :
    isMatch (.term field value) doc = (doc.get field).any (·.equals value) :=
  isSome_hit _

@[simp]
theorem isMatch_terms (field : String) (values : List IndexValue) :
    isMatch (.terms field values) doc =
      (doc.get field).any fun found => values.any (found.equals ·) :=
  isSome_hit _

@[simp]
theorem isMatch_range (field : String) (ends : ValueRange) :
    isMatch (.range field ends) doc = (doc.get field).any ends.holds :=
  isSome_hit _

@[simp]
theorem isMatch_wildcard (field pattern : String) :
    isMatch (.wildcard field pattern) doc =
      (doc.strings field).any (Text.wildcardMatches · pattern) :=
  isSome_hit _

@[simp]
theorem isMatch_geoDistance (field : String) (radius : Radius) :
    isMatch (.geoDistance field radius) doc = (doc.points field).any radius.holds :=
  isSome_hit _

theorem isSome_termScore_iff {terms : List Text.Term} {tokens : List String} :
    (termScore terms tokens).isSome = true ↔
      terms ≠ [] ∧ ∀ term ∈ terms, ∃ token ∈ tokens, term.accepts token = true := by
  have lacking : ((terms.map fun term => tokens.countP term.accepts).any (· == 0)) = true ↔
      ¬∀ term ∈ terms, ∃ token ∈ tokens, term.accepts token = true := by
    simp [List.countP_eq_zero]
  unfold termScore
  by_cases none : terms = []
  · simp [none]
  · rw [if_neg (by simpa using none)]
    dsimp only
    split
    · rename_i found
      exact iff_of_false Bool.false_ne_true fun all => lacking.1 found all.2
    · rename_i found
      exact iff_of_true rfl ⟨none, Classical.not_not.1 (mt lacking.2 found)⟩

theorem isMatch_fullText_iff {fields : List String} {text : String} :
    isMatch (.fullText fields text) doc = true ↔
      Text.terms text ≠ [] ∧ ∀ term ∈ Text.terms text, ∃ field ∈ fields,
        ∃ string ∈ doc.strings field, ∃ token ∈ Text.tokens string, term.accepts token = true := by
  rw [isMatch, score, fullTextScore, isSome_termScore_iff]
  refine and_congr_right fun _ => forall₂_congr fun term _ => ?_
  simp only [List.mem_flatMap]
  constructor
  · intro accepted
    obtain ⟨token, ⟨string, ⟨field, listed, held⟩, part⟩, accepts⟩ := accepted
    exact ⟨field, listed, string, held, token, part, accepts⟩
  · intro accepted
    obtain ⟨field, listed, string, held, token, part, accepts⟩ := accepted
    exact ⟨token, ⟨string, ⟨field, listed, held⟩, part⟩, accepts⟩

theorem exists_of_fullText {fields : List String} {text : String}
    (matched : isMatch (.fullText fields text) doc = true) :
    ∃ field ∈ fields, ∃ value, value ∈ doc.get field := by
  obtain ⟨someTerm, each⟩ := isMatch_fullText_iff.1 matched
  obtain ⟨term, member⟩ := List.exists_mem_of_ne_nil _ someTerm
  obtain ⟨field, listed, string, held, -⟩ := each term member
  obtain ⟨value, inside, -⟩ := List.mem_filterMap.1 held
  exact ⟨field, listed, value, inside⟩

theorem all_conjuncts (query : IndexQuery) :
    query.conjuncts.all (·.isMatch doc) = query.isMatch doc := by
  cases query <;> simp [conjuncts]

theorem any_disjuncts (query : IndexQuery) :
    query.disjuncts.any (·.isMatch doc) = query.isMatch doc := by
  cases query <;> simp [disjuncts]

theorem isMatch_all (queries : List IndexQuery) :
    (all queries).isMatch doc = queries.all (·.isMatch doc) := by
  have flat : (queries.flatMap conjuncts).all (·.isMatch doc) = queries.all (·.isMatch doc) := by
    simp only [List.all_flatMap, all_conjuncts]
  unfold all
  split
  · rename_i constant
    obtain ⟨query, member, isNone⟩ := List.any_eq_true.1 constant
    have same : query = .matchNone := by cases query <;> first | rfl | cases isNone
    rw [isMatch_matchNone, eq_comm, List.all_eq_false]
    exact ⟨query, member, by simp [same]⟩
  · split <;> simp_all

theorem isMatch_any (queries : List IndexQuery) :
    (any queries).isMatch doc = queries.any (·.isMatch doc) := by
  have flat : (queries.flatMap disjuncts).any (·.isMatch doc) = queries.any (·.isMatch doc) := by
    simp only [List.any_flatMap, any_disjuncts]
  unfold any
  split
  · rename_i constant
    obtain ⟨query, member, isAll⟩ := List.any_eq_true.1 constant
    have same : query = .matchAll := by cases query <;> first | rfl | cases isAll
    rw [isMatch_matchAll, eq_comm, List.any_eq_true]
    exact ⟨query, member, by simp [same]⟩
  · split <;> simp_all

theorem isMatch_not (query : IndexQuery) : (not query).isMatch doc = !query.isMatch doc := by
  cases query <;> simp [not]

end IndexQuery

end ContentFinder
