import ContentFinder.Content.Visibility
import ContentFinder.Field.Schema
import ContentFinder.Index.Store
import ContentFinder.Lowering.Comparison
import ContentFinder.Query

/-! From criteria to index queries. A leaf on a field is compared in every content type that has
the field, and in every language that the reader asked for. -/

namespace ContentFinder

def Property.indexField? : Property → Option (String × FieldKind)
  | .contentTypeId => some (IndexName.type, .integer)
  | .contentTypeIdentifier => some (IndexName.typeIdentifier, .string)
  | .sectionId => some (IndexName.sectionId, .integer)
  | .remoteId => some (IndexName.remoteId, .string)
  | .locationId => some (IndexName.location, .integer)
  | .parentLocationId => some (IndexName.parent, .integer)
  | .locationRemoteId => some (IndexName.locationRemoteId, .string)
  | .dateModified => some (IndexName.modified, .date)
  | .datePublished => some (IndexName.published, .date)
  | .subtree => none

def isAlwaysAvailable : IndexQuery :=
  .term IndexName.alwaysAvailable (.boolean true)

def ContentIdLeaf.lower (leaf : ContentIdLeaf) : Except Failure IndexQuery :=
  IndexQuery.comparing IndexName.id (some .integer) leaf.comparison.operator leaf.comparison.operand

def PropertyLeaf.lower (leaf : PropertyLeaf) : Except Failure IndexQuery :=
  match leaf.property.indexField? with
  | some (field, kind) =>
    IndexQuery.comparing field (some kind) leaf.comparison.operator leaf.comparison.operand
  | none => .ok (.any (leaf.comparison.operand.scalars.map fun path => .pathUnder path.text))

def LanguageLeaf.lower (leaf : LanguageLeaf) : Except Failure IndexQuery := do
  let byCode ← IndexQuery.comparing IndexName.language (some .string) leaf.comparison.operator
    leaf.comparison.operand
  return if leaf.orAlwaysAvailable then .any [byCode, isAlwaysAvailable] else byCode

def IndexFieldLeaf.lower (leaf : IndexFieldLeaf) : Except Failure IndexQuery :=
  IndexQuery.comparing leaf.field none leaf.comparison.operator leaf.comparison.operand

namespace LanguageFilter

/-- Builds a query for every language asked for. The main language of contents that are always
available is one more, if the filter allows it. -/
def expand (filter : LanguageFilter) (multilingual : Bool)
    (build : Projection → Except Failure IndexQuery) : Except Failure IndexQuery :=
  if !multilingual then build .main
  else if filter.isUnrestricted then build .any
  else do
    let branches ← filter.languages.mapM fun language => build (.code language)
    if filter.useAlwaysAvailable then
      let fallback ← build .main
      return .any (branches ++ [.all [isAlwaysAvailable, fallback]])
    else return .any branches

end LanguageFilter

def FullTextLeaf.lower (filter : LanguageFilter) (leaf : FullTextLeaf) :
    Except Failure IndexQuery :=
  filter.expand true fun projection => .ok (.fullText [projection.apply IndexName.text] leaf.text)

namespace Schema

/-- The content types in which a field is compared: those with a searchable definition, and then
those for which the caller gave an index name. -/
def typesFor (schema : Schema) (overrides : Overrides) (identifier : String) :
    Except Failure (List String) :=
  let definitions := (schema.definitionsFor identifier).filter (·.traits.searchable)
  let defined := definitions.map (·.contentType)
  let named := ((overrides.having identifier).map (·.1)).filter (! defined.contains ·)
  if (defined ++ named).isEmpty then .error (.unknownField identifier) else .ok (defined ++ named)

end Schema

def FieldLeaf.lowerIn (schema : Schema) (filter : LanguageFilter) (leaf : FieldLeaf)
    (contentType : String) : Except Failure IndexQuery :=
  let kind := (schema.definition? contentType leaf.identifier).map (·.traits.kind)
  filter.expand (schema.isMultilingual contentType leaf.identifier) fun projection => do
    let name ← schema.resolve leaf.overrides contentType leaf.identifier projection
    IndexQuery.comparing name kind leaf.comparison.operator leaf.comparison.operand

def FieldLeaf.lower (schema : Schema) (filter : LanguageFilter) (leaf : FieldLeaf) :
    Except Failure IndexQuery := do
  let types ← schema.typesFor leaf.overrides leaf.identifier
  return .any (← types.mapM (leaf.lowerIn schema filter))

def DistanceLeaf.lowerIn (schema : Schema) (filter : LanguageFilter) (leaf : DistanceLeaf)
    (contentType : String) : Except Failure IndexQuery := do
  if let some definition := schema.definition? contentType leaf.identifier then
    if definition.traits.kind ≠ .geoLocation then
      throw (.invalidArgument
        (.notGeographic contentType leaf.identifier definition.traits.kind))
  filter.expand (schema.isMultilingual contentType leaf.identifier) fun projection => do
    let name ← schema.resolve leaf.overrides contentType leaf.identifier projection
    IndexQuery.comparingDistance name leaf.latitude leaf.longitude leaf.comparison.operator
      leaf.comparison.operand

def DistanceLeaf.lower (schema : Schema) (filter : LanguageFilter) (leaf : DistanceLeaf) :
    Except Failure IndexQuery := do
  let types ← schema.typesFor leaf.overrides leaf.identifier
  return .any (← types.mapM (leaf.lowerIn schema filter))

namespace Criterion

mutual

def lower (schema : Schema) (filter : LanguageFilter) : Criterion → Except Failure IndexQuery
  | .matchAll => .ok .matchAll
  | .matchNone => .ok .matchNone
  | .contentId leaf => leaf.lower
  | .property leaf => leaf.lower
  | .language leaf => leaf.lower
  | .field leaf => leaf.lower schema filter
  | .indexField leaf => leaf.lower
  | .fullText leaf => leaf.lower filter
  | .distance leaf => leaf.lower schema filter
  | .allOf children => return .all (← lowerList schema filter children)
  | .anyOf children => return .any (← lowerList schema filter children)
  | .notOf child => return .not (← lower schema filter child)

def lowerList (schema : Schema) (filter : LanguageFilter) :
    List Criterion → Except Failure (List IndexQuery)
  | [] => .ok []
  | child :: rest => do
    let first ← lower schema filter child
    return first :: (← lowerList schema filter rest)

end

theorem lowerList_eq_mapM (schema : Schema) (filter : LanguageFilter)
    (children : List Criterion) :
    lowerList schema filter children = children.mapM (lower schema filter) := by
  induction children with
  | nil => rfl
  | cons child rest ih => rw [lowerList, ih, List.mapM_cons]

end Criterion

namespace SortClause

def ofField (schema : Schema) (contentType field : String) (language : Option String) :
    Except Failure String :=
  schema.resolve .empty contentType field (language.elim .main .code)

def lower (schema : Schema) (clause : SortClause) : Except Failure IndexSort :=
  let direction := clause.direction
  match clause.target with
  | .contentId => .ok (.field IndexName.id direction)
  | .contentName => .ok (.field IndexName.name direction)
  | .dateModified => .ok (.field IndexName.modified direction)
  | .datePublished => .ok (.field IndexName.published direction)
  | .sectionId => .ok (.field IndexName.sectionId direction)
  | .locationDepth => .ok (.field IndexName.depth direction)
  | .locationPath => .ok (.field IndexName.path direction)
  | .score => .ok (.score direction)
  | .field contentType field language =>
    return .field (← ofField schema contentType field language) direction
  | .distance contentType field latitude longitude language =>
    return .geoDistance (← ofField schema contentType field language) latitude longitude direction

end SortClause

namespace FacetClause

def field (clause : FacetClause) : String :=
  match clause.subject with
  | .contentType => IndexName.typeIdentifier
  | .section => IndexName.sectionId
  | .language => IndexName.language

def lower (clause : FacetClause) : FacetRequest :=
  ⟨clause.name, clause.field, clause.limit⟩

end FacetClause

structure RequestBounds where
  maxLimit : Nat
  budget : Nat
deriving DecidableEq, Repr

namespace Query

/-- A missing criterion matches everything, and a page without a limit is as long as allowed. -/
def lower (schema : Schema) (bounds : RequestBounds) (filter : LanguageFilter) (query : Query) :
    Except Failure SearchRequest := do
  return {
    filter := ← (query.filter.getD .matchAll).lower schema filter
    query := ← (query.query.getD .matchAll).lower schema filter
    sorts := ← query.sorts.mapM (SortClause.lower schema)
    offset := query.offset
    limit := (query.limit.getD bounds.maxLimit).min bounds.maxLimit
    facets := query.facets.map FacetClause.lower
    budget := bounds.budget }

end Query

end ContentFinder
