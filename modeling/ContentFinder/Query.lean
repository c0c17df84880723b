import ContentFinder.Criterion.Basic
import ContentFinder.Index.Sort

/-! What a caller asks for: criteria, an order, a page, and facets. -/

namespace ContentFinder

open Number

inductive SortTarget where
  | contentId
  | contentName
  | dateModified
  | datePublished
  | sectionId
  | locationDepth
  | locationPath
  | score
  | field (contentType field : String) (language : Option String)
  | distance (contentType field : String) (latitude longitude : Double) (language : Option String)
deriving DecidableEq

structure SortClause where
  target : SortTarget
  direction : Direction
deriving DecidableEq

inductive FacetSubject where
  | contentType
  | section
  | language
deriving DecidableEq, Repr

structure FacetClause where
  subject : FacetSubject
  name : String
  limit : Nat
deriving DecidableEq, Repr

structure Query where
  /-- Restricts the hits without adding to their scores. -/
  filter : Option Criterion
  /-- Restricts the hits and scores them. -/
  query : Option Criterion
  sorts : List SortClause
  offset : Nat
  limit : Option Nat
  facets : List FacetClause

end ContentFinder
