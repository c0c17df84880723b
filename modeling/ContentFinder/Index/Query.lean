import ContentFinder.Index.Document

/-! Queries over index fields, and the constructors that keep them simple: no constant stands inside
another query, no list stands inside a list of its own kind, and no list has fewer than two
members. -/

namespace ContentFinder

open Number

/-- How far from an origin a point may lie, in kilometres. -/
structure Radius where
  latitude : Double
  longitude : Double
  least : Option Double
  most : Option Double
  includeLeast : Bool
  includeMost : Bool
deriving DecidableEq

structure ValueRange where
  lower : Option IndexValue
  upper : Option IndexValue
  includeLower : Bool
  includeUpper : Bool
deriving DecidableEq

inductive IndexQuery where
  | matchAll
  | matchNone
  | term (field : String) (value : IndexValue)
  | terms (field : String) (values : List IndexValue)
  | range (field : String) (range : ValueRange)
  | wildcard (field pattern : String)
  | fullText (fields : List String) (text : String)
  | geoDistance (field : String) (radius : Radius)
  | present (field : String)
  | allOf (queries : List IndexQuery)
  | anyOf (queries : List IndexQuery)
  | notOf (query : IndexQuery)

namespace IndexQuery

def isMatchNone : IndexQuery → Bool
  | .matchNone => true
  | _ => false

def isMatchAll : IndexQuery → Bool
  | .matchAll => true
  | _ => false

def conjuncts : IndexQuery → List IndexQuery
  | .matchAll => []
  | .allOf queries => queries
  | query => [query]

def disjuncts : IndexQuery → List IndexQuery
  | .matchNone => []
  | .anyOf queries => queries
  | query => [query]

def all (queries : List IndexQuery) : IndexQuery :=
  if queries.any isMatchNone then .matchNone
  else
    match queries.flatMap conjuncts with
    | [] => .matchAll
    | [query] => query
    | kept => .allOf kept

def any (queries : List IndexQuery) : IndexQuery :=
  if queries.any isMatchAll then .matchAll
  else
    match queries.flatMap disjuncts with
    | [] => .matchNone
    | [query] => query
    | kept => .anyOf kept

def not : IndexQuery → IndexQuery
  | .matchAll => .matchNone
  | .matchNone => .matchAll
  | .notOf query => query
  | query => .notOf query

mutual

def simplify : IndexQuery → IndexQuery
  | .allOf queries => all (simplifyList queries)
  | .anyOf queries => any (simplifyList queries)
  | .notOf query => not (simplify query)
  | query => query

def simplifyList : List IndexQuery → List IndexQuery
  | [] => []
  | query :: rest => simplify query :: simplifyList rest

end

theorem simplifyList_eq_map (queries : List IndexQuery) :
    simplifyList queries = queries.map simplify := by
  induction queries with
  | nil => rfl
  | cons query rest ih => rw [simplifyList, ih, List.map_cons]

mutual

def fieldNames : IndexQuery → List String
  | .matchAll | .matchNone => []
  | .term field _ | .terms field _ | .range field _ | .wildcard field _ => [field]
  | .geoDistance field _ | .present field => [field]
  | .fullText fields _ => fields
  | .allOf queries | .anyOf queries => fieldNamesOf queries
  | .notOf query => fieldNames query

def fieldNamesOf : List IndexQuery → List String
  | [] => []
  | query :: rest => fieldNames query ++ fieldNamesOf rest

end

theorem fieldNamesOf_eq_flatMap (queries : List IndexQuery) :
    fieldNamesOf queries = queries.flatMap fieldNames := by
  induction queries with
  | nil => rfl
  | cons query rest ih => rw [fieldNamesOf, ih, List.flatMap_cons]

def distinct {α : Type} [DecidableEq α] (items : List α) : List α :=
  items.foldl (fun kept item => if item ∈ kept then kept else kept ++ [item]) []

def fields (query : IndexQuery) : List String :=
  distinct query.fieldNames

end IndexQuery

end ContentFinder
