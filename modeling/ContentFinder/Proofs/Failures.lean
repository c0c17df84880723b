import ContentFinder.Finder
import ContentFinder.Proofs.Composition

/-! Which failures the stages of a search have. A request without an index query is refused, a store
that does not answer is unavailable, and a document that cannot be read is malformed. A search fails
for want of a language only at its end, when it shows a hit. -/

namespace ContentFinder

open Outcome

namespace Failure

def OfRequest : Failure → Prop
  | .invalidArgument _ | .invalidOperator .. | .unknownField _ => True
  | _ => False

def OfIndex : Failure → Prop
  | .unavailable _ | .serialization _ => True
  | _ => False

end Failure

/-! Requests. -/

theorem Scalar.coerce_failsOnly (kind : Option FieldKind) (scalar : Scalar) :
    FailsOnly Failure.OfRequest (scalar.coerce kind) := by
  unfold coerce
  split
  · exact failsOnly_ok _
  · split
    · exact failsOnly_ok _
    · exact failsOnly_error trivial

theorem Operand.one_failsOnly (operand : Operand) (field : String) :
    FailsOnly Failure.OfRequest (operand.one field) := by
  cases operand with
  | single value => exact failsOnly_ok _
  | list values => exact failsOnly_error trivial

theorem Operand.two_failsOnly (operand : Operand) (field : String) :
    FailsOnly Failure.OfRequest (operand.two field) := by
  unfold two
  split
  · exact failsOnly_ok _
  · exact failsOnly_error trivial

namespace IndexQuery

theorem likePattern_failsOnly (field : String) (kind : Option FieldKind) (operand : Operand) :
    FailsOnly Failure.OfRequest (likePattern field kind operand) := by
  unfold likePattern
  split
  · exact failsOnly_error trivial
  · refine failsOnly_bind (operand.one_failsOnly field) fun scalar => ?_
    cases scalar with
    | string pattern => exact failsOnly_ok _
    | boolean value => exact failsOnly_error trivial
    | integer value => exact failsOnly_error trivial
    | float value => exact failsOnly_error trivial

theorem compared_failsOnly (field : String) (kind : Option FieldKind) (operand : Operand)
    (build : IndexValue → IndexQuery) :
    FailsOnly Failure.OfRequest
      (do return build (← (← operand.one field).coerce kind)) :=
  failsOnly_bind (operand.one_failsOnly field) fun scalar =>
    failsOnly_bind (scalar.coerce_failsOnly kind) fun _ => failsOnly_ok _

theorem comparing_failsOnly (field : String) (kind : Option FieldKind) (operator : Operator)
    (operand : Operand) :
    FailsOnly Failure.OfRequest (comparing field kind operator operand) := by
  cases operator with
  | eq | contains | gt | gte | lt | lte => exact compared_failsOnly field kind operand _
  | isIn =>
    exact failsOnly_bind (failsOnly_mapM fun scalar _ => scalar.coerce_failsOnly kind)
      fun _ => failsOnly_ok _
  | between =>
    refine failsOnly_bind (operand.two_failsOnly field) fun ends => ?_
    exact failsOnly_bind (ends.1.coerce_failsOnly kind) fun _ =>
      failsOnly_bind (ends.2.coerce_failsOnly kind) fun _ => failsOnly_ok _
  | like => exact likePattern_failsOnly field kind operand

theorem kilometres_failsOnly (field : String) (value : Scalar) :
    FailsOnly Failure.OfRequest (kilometres field value) := by
  unfold kilometres
  split
  · exact failsOnly_ok _
  · exact failsOnly_error trivial

theorem comparingDistance_failsOnly (field : String) (latitude longitude : Number.Double)
    (operator : Operator) (operand : Operand) :
    FailsOnly Failure.OfRequest
      (comparingDistance field latitude longitude operator operand) := by
  have one : FailsOnly Failure.OfRequest (do kilometres field (← operand.one field)) :=
    failsOnly_bind (operand.one_failsOnly field) fun scalar => kilometres_failsOnly field scalar
  unfold comparingDistance
  cases operator with
  | gt | gte | lt | lte => exact failsOnly_bind one fun _ => failsOnly_ok _
  | between =>
    refine failsOnly_bind (operand.two_failsOnly field) fun ends => ?_
    exact failsOnly_bind (kilometres_failsOnly field ends.1) fun _ =>
      failsOnly_bind (kilometres_failsOnly field ends.2) fun _ => failsOnly_ok _
  | eq | contains | isIn | like => exact failsOnly_error trivial

end IndexQuery

theorem LanguageFilter.expand_failsOnly (filter : LanguageFilter) (multilingual : Bool)
    {build : Projection → Except Failure IndexQuery}
    (each : ∀ projection, FailsOnly Failure.OfRequest (build projection)) :
    FailsOnly Failure.OfRequest (filter.expand multilingual build) := by
  unfold expand
  split
  · exact each _
  · split
    · exact each _
    · refine failsOnly_bind (failsOnly_mapM fun language _ => each _) fun branches => ?_
      split
      · exact failsOnly_bind (each _) fun _ => failsOnly_ok _
      · exact failsOnly_ok _

namespace Schema

variable (schema : Schema) (overrides : Overrides)

theorem typesFor_failsOnly (identifier : String) :
    FailsOnly Failure.OfRequest (schema.typesFor overrides identifier) := by
  unfold typesFor
  dsimp only
  split
  · exact failsOnly_error trivial
  · exact failsOnly_ok _

theorem resolve_failsOnly (contentType identifier : String) (projection : Projection) :
    FailsOnly Failure.OfRequest (schema.resolve overrides contentType identifier projection) := by
  refine failsOnly_bind ?_ fun _ => failsOnly_ok _
  unfold baseName
  split
  · exact failsOnly_ok _
  · split
    · exact failsOnly_ok _
    · exact failsOnly_error trivial

end Schema

section Leaf

variable (schema : Schema) (filter : LanguageFilter)

theorem FieldLeaf.lowerIn_failsOnly (leaf : FieldLeaf) (contentType : String) :
    FailsOnly Failure.OfRequest (leaf.lowerIn schema filter contentType) := by
  unfold lowerIn
  refine filter.expand_failsOnly _ fun projection => ?_
  exact failsOnly_bind (schema.resolve_failsOnly _ _ _ _) fun name =>
    IndexQuery.comparing_failsOnly _ _ _ _

theorem FieldLeaf.lower_failsOnly (leaf : FieldLeaf) :
    FailsOnly Failure.OfRequest (leaf.lower schema filter) := by
  refine failsOnly_bind (schema.typesFor_failsOnly _ _) fun types => ?_
  refine failsOnly_bind (failsOnly_mapM fun contentType _ => ?_) fun queries => failsOnly_ok _
  exact leaf.lowerIn_failsOnly schema filter contentType

theorem FullTextLeaf.lower_failsOnly (leaf : FullTextLeaf) :
    FailsOnly Failure.OfRequest (leaf.lower filter) := by
  unfold lower
  exact filter.expand_failsOnly _ fun _ => failsOnly_ok _

theorem DistanceLeaf.lowerIn_failsOnly (leaf : DistanceLeaf) (contentType : String) :
    FailsOnly Failure.OfRequest (leaf.lowerIn schema filter contentType) := by
  have expanded : FailsOnly Failure.OfRequest
      (filter.expand (schema.isMultilingual contentType leaf.identifier) fun projection => do
        let name ← schema.resolve leaf.overrides contentType leaf.identifier projection
        IndexQuery.comparingDistance name leaf.latitude leaf.longitude leaf.comparison.operator
          leaf.comparison.operand) :=
    filter.expand_failsOnly _ fun projection =>
      failsOnly_bind (schema.resolve_failsOnly _ _ _ _) fun name =>
        IndexQuery.comparingDistance_failsOnly _ _ _ _ _
  unfold lowerIn
  split
  · split
    · exact failsOnly_error trivial
    · exact expanded
  · exact expanded

theorem DistanceLeaf.lower_failsOnly (leaf : DistanceLeaf) :
    FailsOnly Failure.OfRequest (leaf.lower schema filter) := by
  refine failsOnly_bind (schema.typesFor_failsOnly _ _) fun types => ?_
  refine failsOnly_bind (failsOnly_mapM fun contentType _ => ?_) fun queries => failsOnly_ok _
  exact leaf.lowerIn_failsOnly schema filter contentType

theorem PropertyLeaf.lower_failsOnly (leaf : PropertyLeaf) :
    FailsOnly Failure.OfRequest leaf.lower := by
  unfold lower
  split
  · exact IndexQuery.comparing_failsOnly _ _ _ _
  · exact failsOnly_ok _

theorem Criterion.lower_failsOnly (criterion : Criterion) :
    FailsOnly Failure.OfRequest (criterion.lower schema filter) := by
  induction criterion using treeInduction with
  | matchAll => exact failsOnly_ok _
  | matchNone => exact failsOnly_ok _
  | leaf leaf isLeaf =>
    cases leaf with
    | contentId leaf => exact IndexQuery.comparing_failsOnly _ _ _ _
    | property leaf => exact leaf.lower_failsOnly
    | language leaf =>
      exact failsOnly_bind (IndexQuery.comparing_failsOnly _ _ _ _) fun _ => failsOnly_ok _
    | field leaf => exact leaf.lower_failsOnly schema filter
    | indexField leaf => exact IndexQuery.comparing_failsOnly _ _ _ _
    | fullText leaf => exact leaf.lower_failsOnly filter
    | distance leaf => exact leaf.lower_failsOnly schema filter
    | matchAll => cases isLeaf
    | matchNone => cases isLeaf
    | allOf children => cases isLeaf
    | anyOf children => cases isLeaf
    | notOf child => cases isLeaf
  | allOf children ih =>
    rw [lower_allOf]
    exact failsOnly_bind (failsOnly_mapM ih) fun _ => failsOnly_ok _
  | anyOf children ih =>
    rw [lower_anyOf]
    exact failsOnly_bind (failsOnly_mapM ih) fun _ => failsOnly_ok _
  | notOf child ih =>
    rw [lower_notOf]
    exact failsOnly_bind ih fun _ => failsOnly_ok _

theorem SortClause.lower_failsOnly (clause : SortClause) :
    FailsOnly Failure.OfRequest (clause.lower schema) := by
  unfold lower
  dsimp only
  split
  case h_9 => exact failsOnly_bind (schema.resolve_failsOnly _ _ _ _) fun _ => failsOnly_ok _
  case h_10 => exact failsOnly_bind (schema.resolve_failsOnly _ _ _ _) fun _ => failsOnly_ok _
  all_goals exact failsOnly_ok _

theorem Query.lower_failsOnly (bounds : RequestBounds) (query : Query) :
    FailsOnly Failure.OfRequest (query.lower schema bounds filter) := by
  refine failsOnly_bind (Criterion.lower_failsOnly schema filter _) fun filterQuery => ?_
  refine failsOnly_bind (Criterion.lower_failsOnly schema filter _) fun mainQuery => ?_
  refine failsOnly_bind (failsOnly_mapM fun clause _ => ?_) fun sorts => failsOnly_ok _
  exact clause.lower_failsOnly schema

end Leaf

/-! The index and its documents. -/

namespace Document

variable (doc : Document)

theorem integer_failsOnly (field : String) :
    FailsOnly Failure.OfIndex (doc.integer field) := by
  unfold integer
  split
  · exact failsOnly_ok _
  · exact failsOnly_error trivial

theorem string_failsOnly (field : String) :
    FailsOnly Failure.OfIndex (doc.string field) := by
  unfold string
  split
  · exact failsOnly_ok _
  · exact failsOnly_error trivial

theorem moment_failsOnly (field : String) :
    FailsOnly Failure.OfIndex (doc.moment field) := by
  refine failsOnly_bind (doc.integer_failsOnly field) fun value => ?_
  split
  · exact failsOnly_ok _
  · exact failsOnly_error trivial

theorem info_failsOnly : FailsOnly Failure.OfIndex doc.info := by
  refine failsOnly_bind (doc.integer_failsOnly _) fun id => ?_
  refine failsOnly_bind (doc.integer_failsOnly _) fun contentTypeId => ?_
  refine failsOnly_bind (doc.string_failsOnly _) fun contentType => ?_
  refine failsOnly_bind (doc.string_failsOnly _) fun name => ?_
  refine failsOnly_bind (doc.integer_failsOnly _) fun sectionId => ?_
  refine failsOnly_bind (doc.string_failsOnly _) fun remoteId => ?_
  refine failsOnly_bind (doc.string_failsOnly _) fun mainLanguage => ?_
  refine failsOnly_bind (doc.moment_failsOnly _) fun modified => ?_
  refine failsOnly_bind (doc.moment_failsOnly _) fun published => ?_
  exact failsOnly_ok _

theorem version_failsOnly : FailsOnly Failure.OfIndex doc.version := by
  refine failsOnly_bind (doc.integer_failsOnly _) fun code => ?_
  refine failsOnly_bind (doc.integer_failsOnly _) fun number => ?_
  split
  · exact failsOnly_bind (doc.integer_failsOnly _) fun _ => failsOnly_ok _
  · exact failsOnly_error trivial

theorem locations_failsOnly : FailsOnly Failure.OfIndex doc.locations := by
  unfold locations
  dsimp only
  split
  · exact failsOnly_error trivial
  · split
    · exact failsOnly_ok _
    · exact failsOnly_error trivial

theorem toContent_failsOnly (schema : Schema) :
    FailsOnly Failure.OfIndex (doc.toContent schema) := by
  refine failsOnly_bind doc.info_failsOnly fun info => ?_
  refine failsOnly_bind doc.version_failsOnly fun version => ?_
  refine failsOnly_bind doc.locations_failsOnly fun locations => ?_
  exact failsOnly_ok _

end Document

theorem Store.search_failsOnly (store : Store) (request : SearchRequest) :
    FailsOnly Failure.OfIndex (store.search request) := by
  have online : FailsOnly Failure.OfIndex store.requireOnline := by
    unfold requireOnline
    split
    · exact failsOnly_error trivial
    · exact failsOnly_ok _
  refine failsOnly_bind online fun _ => ?_
  split
  · exact failsOnly_error trivial
  · exact failsOnly_ok _

namespace Finder

variable (finder : Finder) (store : Store)

theorem search_failsOnly (request : SearchRequest) :
    FailsOnly Failure.OfIndex (finder.search store request) := by
  refine failsOnly_bind (store.search_failsOnly request) fun response => ?_
  split
  · exact failsOnly_ok _
  · dsimp only
    split
    · exact failsOnly_error trivial
    · exact failsOnly_ok _

theorem execute_failsOnly (request : SearchRequest) :
    FailsOnly Failure.OfIndex (finder.execute store request) := by
  refine failsOnly_bind (finder.search_failsOnly store request) fun response => ?_
  refine failsOnly_bind (failsOnly_mapM fun hit _ => ?_) fun hits => failsOnly_ok _
  exact failsOnly_bind (hit.doc.toContent_failsOnly finder.schema) fun content => failsOnly_ok _

end Finder

end ContentFinder
