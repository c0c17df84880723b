import ContentFinder.Proofs.Askable

/-! The normal form of index queries. A query built anew by the simplifying constructors is a
constant, or has none inside: its lists have two members or more, none of which is a list of the
same kind, and nothing is negated twice. It matches what it matched before, and building it once
more changes nothing. The queries of criteria have this form from the start. -/

namespace ContentFinder

open Outcome

namespace IndexQuery

def isLeaf : IndexQuery → Bool
  | .term .. | .terms .. | .range .. | .wildcard .. => true
  | .fullText .. | .geoDistance .. | .present _ => true
  | .matchAll | .matchNone | .allOf _ | .anyOf _ | .notOf _ => false

/-- Queries without constants, short lists, lists in lists of their own kind, and negations of
negations. -/
inductive IsReduced : IndexQuery → Prop where
  | leaf {query : IndexQuery} (isLeaf : query.isLeaf = true) : IsReduced query
  | allOf {queries : List IndexQuery} (several : 2 ≤ queries.length)
      (each : ∀ query ∈ queries, IsReduced query)
      (flat : ∀ query ∈ queries, ∀ inner, query ≠ .allOf inner) : IsReduced (.allOf queries)
  | anyOf {queries : List IndexQuery} (several : 2 ≤ queries.length)
      (each : ∀ query ∈ queries, IsReduced query)
      (flat : ∀ query ∈ queries, ∀ inner, query ≠ .anyOf inner) : IsReduced (.anyOf queries)
  | notOf {query : IndexQuery} (reduced : IsReduced query) (once : ∀ inner, query ≠ .notOf inner) :
      IsReduced (.notOf query)

inductive IsNormal : IndexQuery → Prop where
  | matchAll : IsNormal .matchAll
  | matchNone : IsNormal .matchNone
  | reduced {query : IndexQuery} (reduced : query.IsReduced) : IsNormal query

theorem queryInduction {motive : IndexQuery → Prop}
    (matchAll : motive .matchAll) (matchNone : motive .matchNone)
    (leaf : ∀ query : IndexQuery, query.isLeaf = true → motive query)
    (allOf : ∀ queries, (∀ query ∈ queries, motive query) → motive (.allOf queries))
    (anyOf : ∀ queries, (∀ query ∈ queries, motive query) → motive (.anyOf queries))
    (notOf : ∀ query, motive query → motive (.notOf query)) (query : IndexQuery) :
    motive query := by
  refine @IndexQuery.rec motive (fun queries => ∀ query ∈ queries, motive query) matchAll
    matchNone (fun _ _ => leaf _ rfl) (fun _ _ => leaf _ rfl) (fun _ _ => leaf _ rfl)
    (fun _ _ => leaf _ rfl) (fun _ _ => leaf _ rfl) (fun _ _ => leaf _ rfl) (fun _ => leaf _ rfl)
    allOf anyOf notOf ?_ ?_ query
  · exact fun query member => nomatch member
  · exact fun first rest here later => List.forall_mem_cons.2 ⟨here, later⟩

variable {query part : IndexQuery} {queries : List IndexQuery}

theorem simplify_allOf (queries : List IndexQuery) :
    simplify (.allOf queries) = all (queries.map simplify) := by
  rw [simplify, simplifyList_eq_map]

theorem simplify_anyOf (queries : List IndexQuery) :
    simplify (.anyOf queries) = any (queries.map simplify) := by
  rw [simplify, simplifyList_eq_map]

theorem simplify_of_isLeaf (isLeaf : query.isLeaf = true) : simplify query = query := by
  cases query <;> first | rfl | cases isLeaf

/-! Meaning. -/

theorem isMatch_simplify (query : IndexQuery) (doc : Document) :
    query.simplify.isMatch doc = query.isMatch doc := by
  induction query using queryInduction with
  | matchAll => rfl
  | matchNone => rfl
  | leaf query isLeaf => rw [simplify_of_isLeaf isLeaf]
  | allOf queries ih =>
    rw [simplify_allOf, isMatch_all, isMatch_allOf, List.all_map]
    exact all_eq_of_mem ih
  | anyOf queries ih =>
    rw [simplify_anyOf, isMatch_any, isMatch_anyOf, List.any_map]
    exact any_eq_of_mem ih
  | notOf query ih => rw [simplify, isMatch_not, isMatch_notOf, ih]

/-! Lists of queries. -/

/-- The two ways in which a list of queries is one query. -/
inductive Connective where
  | every
  | some

namespace Connective

def list : Connective → List IndexQuery → IndexQuery
  | .every => .allOf
  | .some => .anyOf

def neutral : Connective → IndexQuery
  | .every => .matchAll
  | .some => .matchNone

def absorbing : Connective → IndexQuery
  | .every => .matchNone
  | .some => .matchAll

/-- What a query adds to a list. -/
def parts : Connective → IndexQuery → List IndexQuery
  | .every => conjuncts
  | .some => disjuncts

def combine : Connective → List IndexQuery → IndexQuery
  | .every => all
  | .some => any

/-- A list of parts as one query. -/
def join (connective : Connective) : List IndexQuery → IndexQuery
  | [] => connective.neutral
  | [part] => part
  | parts => connective.list parts

variable (connective : Connective)

theorem join_of_two_le {parts : List IndexQuery} (several : 2 ≤ parts.length) :
    connective.join parts = connective.list parts := by
  match parts with
  | [] => cases several
  | [part] => exact absurd several (by simp)
  | _ :: _ :: _ => rfl

theorem combine_of_mem (decided : connective.absorbing ∈ queries) :
    connective.combine queries = connective.absorbing := by
  cases connective with
  | every => exact if_pos (List.any_eq_true.2 ⟨_, decided, rfl⟩)
  | some => exact if_pos (List.any_eq_true.2 ⟨_, decided, rfl⟩)

theorem combine_of_not_mem (undecided : connective.absorbing ∉ queries) :
    connective.combine queries = connective.join (queries.flatMap connective.parts) := by
  cases connective with
  | every =>
    have possible : ¬queries.any isMatchNone = true := by
      intro found
      obtain ⟨query, member, isNone⟩ := List.any_eq_true.1 found
      cases query <;> first | exact undecided member | cases isNone
    refine (if_neg possible).trans ?_
    show _ = join .every (queries.flatMap conjuncts)
    rcases queries.flatMap conjuncts with _ | ⟨first, _ | ⟨second, rest⟩⟩ <;> rfl
  | some =>
    have possible : ¬queries.any isMatchAll = true := by
      intro found
      obtain ⟨query, member, isAll⟩ := List.any_eq_true.1 found
      cases query <;> first | exact undecided member | cases isAll
    refine (if_neg possible).trans ?_
    show _ = join .some (queries.flatMap disjuncts)
    rcases queries.flatMap disjuncts with _ | ⟨first, _ | ⟨second, rest⟩⟩ <;> rfl

theorem isReduced_list_iff :
    (connective.list queries).IsReduced ↔ 2 ≤ queries.length ∧
      ∀ query ∈ queries, query.IsReduced ∧ ∀ inner, query ≠ connective.list inner := by
  constructor
  · intro reduced
    cases connective with
    | every =>
      cases reduced with
      | leaf isLeaf => cases isLeaf
      | allOf several each flat => exact ⟨several, fun _ member => ⟨each _ member, flat _ member⟩⟩
    | some =>
      cases reduced with
      | leaf isLeaf => cases isLeaf
      | anyOf several each flat => exact ⟨several, fun _ member => ⟨each _ member, flat _ member⟩⟩
  · rintro ⟨several, each⟩
    cases connective with
    | every => exact .allOf several (fun _ member => (each _ member).1) fun _ member =>
        (each _ member).2
    | some => exact .anyOf several (fun _ member => (each _ member).1) fun _ member =>
        (each _ member).2

theorem parts_list : connective.parts (connective.list queries) = queries := by
  cases connective <;> rfl

theorem parts_of_isReduced (reduced : query.IsReduced)
    (flat : ∀ inner, query ≠ connective.list inner) : connective.parts query = [query] := by
  cases connective <;> cases query <;>
    first | rfl | exact absurd rfl (flat _) | (cases reduced with | leaf isLeaf => cases isLeaf)

theorem isReduced_of_mem_parts (normal : query.IsNormal) (other : query ≠ connective.absorbing)
    (member : part ∈ connective.parts query) :
    part.IsReduced ∧ ∀ inner, part ≠ connective.list inner := by
  cases normal with
  | matchAll =>
    cases connective with
    | every => cases member
    | some => exact absurd rfl other
  | matchNone =>
    cases connective with
    | every => exact absurd rfl other
    | some => cases member
  | reduced reduced =>
    by_cases listed : ∃ inner, query = connective.list inner
    · obtain ⟨inner, rfl⟩ := listed
      rw [parts_list] at member
      exact (connective.isReduced_list_iff.1 reduced).2 part member
    · have flat : ∀ inner, query ≠ connective.list inner := fun inner same => listed ⟨inner, same⟩
      rw [parts_of_isReduced connective reduced flat, List.mem_singleton] at member
      rw [member]
      exact ⟨reduced, flat⟩

theorem isNormal_neutral : connective.neutral.IsNormal := by
  cases connective with
  | every => exact .matchAll
  | some => exact .matchNone

theorem isNormal_absorbing : connective.absorbing.IsNormal := by
  cases connective with
  | every => exact .matchNone
  | some => exact .matchAll

theorem isNormal_join {parts : List IndexQuery}
    (each : ∀ part ∈ parts, part.IsReduced ∧ ∀ inner, part ≠ connective.list inner) :
    (connective.join parts).IsNormal := by
  match parts with
  | [] => exact connective.isNormal_neutral
  | [part] => exact .reduced (each part (List.mem_singleton_self part)).1
  | first :: second :: rest => exact .reduced (connective.isReduced_list_iff.2 ⟨by simp, each⟩)

theorem isNormal_combine (each : ∀ query ∈ queries, query.IsNormal) :
    (connective.combine queries).IsNormal := by
  by_cases decided : connective.absorbing ∈ queries
  · rw [connective.combine_of_mem decided]
    exact connective.isNormal_absorbing
  · rw [connective.combine_of_not_mem decided]
    apply isNormal_join
    intro part member
    obtain ⟨query, listed, inside⟩ := List.mem_flatMap.1 member
    have other : query ≠ connective.absorbing := fun same => decided (same ▸ listed)
    exact connective.isReduced_of_mem_parts (each query listed) other inside

theorem combine_of_isReduced (reduced : (connective.list queries).IsReduced) :
    connective.combine queries = connective.list queries := by
  obtain ⟨several, each⟩ := connective.isReduced_list_iff.1 reduced
  have undecided : connective.absorbing ∉ queries := by
    intro member
    have constant := (each _ member).1
    cases connective <;> cases constant with | leaf isLeaf => cases isLeaf
  have alone : queries.flatMap connective.parts = queries := by
    rw [List.flatMap_congr fun query member =>
      connective.parts_of_isReduced (each query member).1 (each query member).2,
      List.flatMap_singleton']
  rw [connective.combine_of_not_mem undecided, alone, connective.join_of_two_le several]

end Connective

theorem isNormal_all (each : ∀ query ∈ queries, query.IsNormal) : (all queries).IsNormal :=
  Connective.every.isNormal_combine each

theorem isNormal_any (each : ∀ query ∈ queries, query.IsNormal) : (any queries).IsNormal :=
  Connective.some.isNormal_combine each

theorem isNormal_not (normal : query.IsNormal) : (not query).IsNormal := by
  cases query with
  | matchAll => exact .matchNone
  | matchNone => exact .matchAll
  | notOf inner =>
    obtain - | - | reduced := normal
    cases reduced with
    | leaf isLeaf => cases isLeaf
    | notOf reduced once => exact .reduced reduced
  | _ =>
    obtain - | - | reduced := normal
    exact .reduced (.notOf reduced nofun)

theorem isNormal_of_isLeaf (isLeaf : query.isLeaf = true) : query.IsNormal :=
  .reduced (.leaf isLeaf)

theorem isNormal_simplify (query : IndexQuery) : query.simplify.IsNormal := by
  induction query using queryInduction with
  | matchAll => exact .matchAll
  | matchNone => exact .matchNone
  | leaf query isLeaf =>
    rw [simplify_of_isLeaf isLeaf]
    exact isNormal_of_isLeaf isLeaf
  | allOf queries ih =>
    rw [simplify_allOf]
    exact isNormal_all (List.forall_mem_map.2 ih)
  | anyOf queries ih =>
    rw [simplify_anyOf]
    exact isNormal_any (List.forall_mem_map.2 ih)
  | notOf query ih =>
    rw [simplify]
    exact isNormal_not ih

theorem not_of_isReduced (reduced : query.IsReduced) (once : ∀ inner, query ≠ .notOf inner) :
    not query = .notOf query := by
  cases query with
  | matchAll | matchNone =>
    cases reduced with
    | leaf isLeaf => cases isLeaf
  | notOf inner => exact absurd rfl (once inner)
  | _ => rfl

theorem simplify_of_isReduced (reduced : query.IsReduced) : query.simplify = query := by
  induction reduced with
  | leaf isLeaf => exact simplify_of_isLeaf isLeaf
  | @allOf queries several each flat ih =>
    have same : queries.map simplify = queries := by rw [List.map_congr_left ih, List.map_id']
    rw [simplify_allOf, same]
    exact Connective.every.combine_of_isReduced (.allOf several each flat)
  | @anyOf queries several each flat ih =>
    have same : queries.map simplify = queries := by rw [List.map_congr_left ih, List.map_id']
    rw [simplify_anyOf, same]
    exact Connective.some.combine_of_isReduced (.anyOf several each flat)
  | notOf reduced once ih => rw [simplify, ih, not_of_isReduced reduced once]

theorem simplify_of_isNormal (normal : query.IsNormal) : query.simplify = query := by
  cases normal with
  | matchAll => rfl
  | matchNone => rfl
  | reduced reduced => exact simplify_of_isReduced reduced

/-! Queries of criteria. -/

theorem isLeaf_comparing {field : String} {kind : Option FieldKind} {operator : Operator}
    {operand : Operand} (compared : comparing field kind operator operand = .ok query) :
    query.isLeaf = true := by
  cases operator with
  | eq | contains | gt | gte | lt | lte =>
    obtain ⟨-, -, -, -, rfl⟩ := of_compared compared
    rfl
  | isIn =>
    obtain ⟨bounds, -, same⟩ := bind_eq_ok.1 compared
    cases same
    rfl
  | between =>
    obtain ⟨ends, -, compared⟩ := bind_eq_ok.1 compared
    obtain ⟨low, -, compared⟩ := bind_eq_ok.1 compared
    obtain ⟨high, -, same⟩ := bind_eq_ok.1 compared
    cases same
    rfl
  | like =>
    change likePattern field kind operand = .ok query at compared
    unfold likePattern at compared
    split at compared
    · cases compared
    · obtain ⟨-, -, compared⟩ := bind_eq_ok.1 compared
      obtain ⟨scalar, -, compared⟩ := bind_eq_ok.1 compared
      cases scalar with
      | string pattern =>
        cases compared
        rfl
      | _ => cases compared

theorem isLeaf_comparingDistance {field : String} {latitude longitude : Number.Double}
    {operator : Operator} {operand : Operand}
    (compared : comparingDistance field latitude longitude operator operand = .ok query) :
    query.isLeaf = true := by
  obtain ⟨radius, each⟩ := exists_radius compared
  cases compared.symm.trans (each field)
  rfl

end IndexQuery

open IndexQuery

variable {query : IndexQuery}

theorem LanguageFilter.isNormal_expand {filter : LanguageFilter} {multilingual : Bool}
    {build : Projection → Except Failure IndexQuery}
    (each : ∀ projection query, build projection = .ok query → query.IsNormal)
    (expanded : filter.expand multilingual build = .ok query) : query.IsNormal := by
  unfold expand at expanded
  split at expanded
  · exact each _ _ expanded
  · split at expanded
    · exact each _ _ expanded
    · obtain ⟨branches, built, expanded⟩ := bind_eq_ok.1 expanded
      have normal : ∀ branch ∈ branches, branch.IsNormal :=
        forall_mem_results built fun language _ => each (.code language)
      split at expanded
      · obtain ⟨main, builtMain, same⟩ := bind_eq_ok.1 expanded
        cases same
        have fallback : (IndexQuery.all [isAlwaysAvailable, main]).IsNormal :=
          isNormal_all (List.forall_mem_cons.2 ⟨isNormal_of_isLeaf rfl,
            List.forall_mem_singleton.2 (each _ _ builtMain)⟩)
        exact isNormal_any (List.forall_mem_append.2
          ⟨normal, List.forall_mem_singleton.2 fallback⟩)
      · cases expanded
        exact isNormal_any normal

section Lower

variable {schema : Schema} {filter : LanguageFilter}

theorem FieldLeaf.isNormal_lower {leaf : FieldLeaf}
    (lowered : leaf.lower schema filter = .ok query) : query.IsNormal := by
  obtain ⟨types, -, lowered⟩ := bind_eq_ok.1 lowered
  obtain ⟨queries, done, same⟩ := bind_eq_ok.1 lowered
  cases same
  refine isNormal_any (forall_mem_results done fun contentType _ part inType => ?_)
  unfold lowerIn at inType
  refine LanguageFilter.isNormal_expand (fun projection branch built => ?_) inType
  obtain ⟨name, -, compared⟩ := bind_eq_ok.1 built
  exact isNormal_of_isLeaf (isLeaf_comparing compared)

theorem DistanceLeaf.isNormal_lower {leaf : DistanceLeaf}
    (lowered : leaf.lower schema filter = .ok query) : query.IsNormal := by
  obtain ⟨types, -, lowered⟩ := bind_eq_ok.1 lowered
  obtain ⟨queries, done, same⟩ := bind_eq_ok.1 lowered
  cases same
  refine isNormal_any (forall_mem_results done fun contentType _ part inType => ?_)
  refine LanguageFilter.isNormal_expand (fun projection branch built => ?_)
    (expand_of_lowerIn inType)
  obtain ⟨name, -, compared⟩ := bind_eq_ok.1 built
  exact isNormal_of_isLeaf (isLeaf_comparingDistance compared)

theorem FullTextLeaf.isNormal_lower {leaf : FullTextLeaf}
    (lowered : leaf.lower filter = .ok query) : query.IsNormal := by
  refine LanguageFilter.isNormal_expand (fun projection branch built => ?_) lowered
  cases built
  exact isNormal_of_isLeaf rfl

theorem PropertyLeaf.isNormal_lower {leaf : PropertyLeaf} (lowered : leaf.lower = .ok query) :
    query.IsNormal := by
  unfold lower at lowered
  split at lowered
  · exact isNormal_of_isLeaf (isLeaf_comparing lowered)
  · cases lowered
    exact isNormal_any (List.forall_mem_map.2 fun path _ => isNormal_of_isLeaf rfl)

theorem LanguageLeaf.isNormal_lower {leaf : LanguageLeaf} (lowered : leaf.lower = .ok query) :
    query.IsNormal := by
  obtain ⟨byCode, compared, same⟩ := bind_eq_ok.1 lowered
  cases same
  have normal : byCode.IsNormal := isNormal_of_isLeaf (isLeaf_comparing compared)
  split
  · exact isNormal_any (List.forall_mem_cons.2
      ⟨normal, List.forall_mem_singleton.2 (isNormal_of_isLeaf rfl)⟩)
  · exact normal

theorem Criterion.isNormal_lower {criterion : Criterion}
    (lowered : criterion.lower schema filter = .ok query) : query.IsNormal := by
  induction criterion using treeInduction generalizing query with
  | matchAll =>
    cases lowered
    exact .matchAll
  | matchNone =>
    cases lowered
    exact .matchNone
  | leaf leaf isLeaf =>
    cases leaf with
    | contentId leaf => exact isNormal_of_isLeaf (isLeaf_comparing lowered)
    | property leaf => exact leaf.isNormal_lower lowered
    | language leaf => exact leaf.isNormal_lower lowered
    | field leaf => exact leaf.isNormal_lower lowered
    | indexField leaf => exact isNormal_of_isLeaf (isLeaf_comparing lowered)
    | fullText leaf => exact leaf.isNormal_lower lowered
    | distance leaf => exact leaf.isNormal_lower lowered
    | matchAll | matchNone | allOf | anyOf | notOf => cases isLeaf
  | allOf children ih =>
    rw [lower_allOf] at lowered
    obtain ⟨queries, done, same⟩ := bind_eq_ok.1 lowered
    cases same
    exact isNormal_all (forall_mem_results done fun child member _ => ih child member)
  | anyOf children ih =>
    rw [lower_anyOf] at lowered
    obtain ⟨queries, done, same⟩ := bind_eq_ok.1 lowered
    cases same
    exact isNormal_any (forall_mem_results done fun child member _ => ih child member)
  | notOf child ih =>
    rw [lower_notOf] at lowered
    obtain ⟨inner, done, same⟩ := bind_eq_ok.1 lowered
    cases same
    exact isNormal_not (ih done)

end Lower

/-- A query that is built anew matches the same documents, has the normal form and keeps it when it
is built once more. The query of a criterion has the normal form as it is. -/
theorem IndexQuery.simplify_reaches_normal_form :
    (∀ query : IndexQuery, (∀ doc, query.simplify.isMatch doc = query.isMatch doc) ∧
      query.simplify.IsNormal ∧ query.simplify.simplify = query.simplify) ∧
    ∀ (schema : Schema) (filter : LanguageFilter) (criterion : Criterion) (query : IndexQuery),
      criterion.lower schema filter = .ok query → query.IsNormal := by
  refine ⟨fun query => ⟨query.isMatch_simplify, query.isNormal_simplify, ?_⟩, ?_⟩
  · exact simplify_of_isNormal query.isNormal_simplify
  · intro schema filter criterion query lowered
    exact Criterion.isNormal_lower lowered

/-- Constants, a short list and a double negation go, and what is left is one list. -/
example : simplify (.allOf [.matchAll, .anyOf [.allOf [.present "a", .present "b"], .matchNone],
    .notOf (.notOf (.present "c"))]) =
      .allOf [.present "a", .present "b", .present "c"] := rfl

end ContentFinder
