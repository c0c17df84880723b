import ContentFinder.Proofs.Composition
import ContentFinder.Proofs.LeafExpansion

/-! What a failure tells of the reader. The languages of a reader choose the names that a leaf is
compared under, and so the name that a failure may tell, but nothing else of it: a criterion fails
for all readers or for none, and for all of them with the same failure up to that name. -/

namespace ContentFinder

open Number Outcome

/-! Failures without the index names that they tell. -/

def ArgumentFault.unnamed : ArgumentFault → ArgumentFault
  | .patternOnOtherKind _ => .patternOnOtherKind ""
  | .patternNotText _ value => .patternNotText "" value
  | .oneValueNeeded _ => .oneValueNeeded ""
  | .twoValuesNeeded _ => .twoValuesNeeded ""
  | .distanceNotNumeric _ value => .distanceNotNumeric "" value
  | fault => fault

namespace Failure

def unnamed : Failure → Failure
  | .invalidArgument fault => .invalidArgument fault.unnamed
  | failure => failure

theorem code_unnamed (failure : Failure) : failure.unnamed.code = failure.code := by
  cases failure <;> rfl

end Failure

open Failure (unnamed)

/-! Comparisons. -/

theorem Operand.two_cases (operand : Operand) :
    (∃ ends, ∀ field, operand.two field = .ok ends) ∨
      ∀ field, operand.two field = .error (.invalidArgument (.twoValuesNeeded field)) := by
  unfold two
  split
  · exact .inl ⟨_, fun _ => rfl⟩
  · exact .inr fun _ => rfl

namespace IndexQuery

variable (field other : String) (kind : Option FieldKind) (operator : Operator) (operand : Operand)

theorem fate_compared (build second : IndexValue → IndexQuery) :
    fate unnamed (do return build (← (← operand.one field).coerce kind)) =
      fate unnamed (do return second (← (← operand.one other).coerce kind)) := by
  cases operand with
  | list values => rfl
  | single scalar => exact fate_build (scalar.coerce kind) build second

theorem fate_likePattern :
    fate unnamed (likePattern field kind operand) =
      fate unnamed (likePattern other kind operand) := by
  unfold likePattern
  split
  · rfl
  · cases operand with
    | list values => rfl
    | single scalar => cases scalar <;> rfl

theorem fate_comparing :
    fate unnamed (comparing field kind operator operand) =
      fate unnamed (comparing other kind operator operand) := by
  cases operator with
  | eq | contains | gt | gte | lt | lte => exact fate_compared field other kind operand _ _
  | isIn => exact fate_build (operand.scalars.mapM (Scalar.coerce kind)) _ _
  | between =>
    unfold comparing
    obtain ⟨ends, given⟩ | refused := operand.two_cases
    · rw [given, given, ok_bind, ok_bind]
      exact fate_bind_congr rfl fun _ _ => fate_build (ends.2.coerce kind) _ _
    · rw [refused, refused]
      rfl
  | like => exact fate_likePattern field other kind operand

variable (latitude longitude : Double)

theorem fate_kilometres (value : Scalar) :
    fate unnamed (kilometres field value) = fate unnamed (kilometres other value) := by
  unfold kilometres
  split <;> rfl

theorem fate_comparingDistance :
    fate unnamed (comparingDistance field latitude longitude operator operand) =
      fate unnamed (comparingDistance other latitude longitude operator operand) := by
  have one : fate unnamed (do kilometres field (← operand.one field)) =
      fate unnamed (do kilometres other (← operand.one other)) := by
    cases operand with
    | list values => rfl
    | single scalar => exact fate_kilometres field other scalar
  cases operator with
  | gt | gte | lt | lte => exact fate_bind_congr one fun _ _ => rfl
  | between =>
    unfold comparingDistance
    obtain ⟨ends, given⟩ | refused := operand.two_cases
    · rw [given, given, ok_bind, ok_bind]
      refine fate_bind_congr (fate_kilometres field other ends.1) fun low _ => ?_
      exact fate_bind_congr (fate_kilometres field other ends.2) fun high _ => rfl
    · rw [refused, refused]
      rfl
  | eq | contains | isIn | like => rfl

end IndexQuery

/-! Readers. -/

/-- A query that goes alike for all projections goes so for every reader. -/
theorem LanguageFilter.fate_expand (filter : LanguageFilter) (multilingual : Bool)
    {build : Projection → Except Failure IndexQuery}
    (alike : ∀ projection, fate unnamed (build projection) = fate unnamed (build .main)) :
    fate unnamed (filter.expand multilingual build) = fate unnamed (build .main) := by
  unfold expand
  split
  · rfl
  · split
    · exact alike .any
    · rename_i restricted
      have some : filter.languages ≠ [] := mt isUnrestricted_eq_true restricted
      have branches := fate_mapM_of_alike some fun language _ => alike (.code language)
      rw [← branches]
      refine fate_bind_of_ok fun succeeds queries => ?_
      split
      · rw [fate_bind_pure, ← branches, succeeds]
      · rfl

namespace Schema

variable (schema : Schema) (overrides : Overrides) (contentType identifier : String)

theorem fate_resolve {compile : String → Except Failure IndexQuery}
    (alike : ∀ name other, fate unnamed (compile name) = fate unnamed (compile other))
    (projection other : Projection) :
    fate unnamed (do compile (← schema.resolve overrides contentType identifier projection)) =
      fate unnamed (do compile (← schema.resolve overrides contentType identifier other)) := by
  refine fate_bind_congr ?_ alike
  exact fate_build (schema.baseName overrides contentType identifier) _ _

theorem fate_types {lowerIn otherIn : String → Except Failure IndexQuery}
    (each : ∀ contentType,
      fate unnamed (lowerIn contentType) = fate unnamed (otherIn contentType)) :
    fate unnamed (do
        let types ← schema.typesFor overrides identifier
        return IndexQuery.any (← types.mapM lowerIn)) =
      fate unnamed (do
        let types ← schema.typesFor overrides identifier
        return IndexQuery.any (← types.mapM otherIn)) := by
  cases schema.typesFor overrides identifier with
  | error failure => rfl
  | ok types =>
    rw [ok_bind, ok_bind, fate_bind_pure, fate_bind_pure]
    exact fate_mapM_congr fun contentType _ => each contentType

end Schema

/-! Leaves and trees. -/

section Lower

variable (schema : Schema) (filter other : LanguageFilter)

theorem FieldLeaf.fate_lower (leaf : FieldLeaf) :
    fate unnamed (leaf.lower schema filter) = fate unnamed (leaf.lower schema other) := by
  apply Schema.fate_types
  intro contentType
  have alike := schema.fate_resolve leaf.overrides contentType leaf.identifier fun name second =>
    IndexQuery.fate_comparing name second
      ((schema.definition? contentType leaf.identifier).map (·.traits.kind))
      leaf.comparison.operator leaf.comparison.operand
  unfold lowerIn
  rw [filter.fate_expand _ fun projection => alike projection .main,
    other.fate_expand _ fun projection => alike projection .main]

theorem DistanceLeaf.fate_lower (leaf : DistanceLeaf) :
    fate unnamed (leaf.lower schema filter) = fate unnamed (leaf.lower schema other) := by
  apply Schema.fate_types
  intro contentType
  have alike := schema.fate_resolve leaf.overrides contentType leaf.identifier fun name second =>
    IndexQuery.fate_comparingDistance name second leaf.comparison.operator leaf.comparison.operand
      leaf.latitude leaf.longitude
  have expanded : ∀ multilingual,
      fate unnamed (filter.expand multilingual fun projection => do
        IndexQuery.comparingDistance
          (← schema.resolve leaf.overrides contentType leaf.identifier projection)
          leaf.latitude leaf.longitude leaf.comparison.operator leaf.comparison.operand) =
      fate unnamed (other.expand multilingual fun projection => do
        IndexQuery.comparingDistance
          (← schema.resolve leaf.overrides contentType leaf.identifier projection)
          leaf.latitude leaf.longitude leaf.comparison.operator leaf.comparison.operand) := by
    intro multilingual
    rw [filter.fate_expand _ fun projection => alike projection .main,
      other.fate_expand _ fun projection => alike projection .main]
  unfold lowerIn
  split
  · split
    · rfl
    · exact expanded _
  · exact expanded _

theorem FullTextLeaf.fate_lower (leaf : FullTextLeaf) :
    fate unnamed (leaf.lower filter) = fate unnamed (leaf.lower other) := by
  unfold lower
  rw [filter.fate_expand true fun _ => rfl, other.fate_expand true fun _ => rfl]

/-- A criterion goes alike for all readers. -/
theorem Criterion.fate_lower (criterion : Criterion) :
    fate unnamed (criterion.lower schema filter) = fate unnamed (criterion.lower schema other) := by
  induction criterion using treeInduction with
  | matchAll | matchNone => rfl
  | leaf leaf isLeaf =>
    cases leaf with
    | field leaf => exact leaf.fate_lower schema filter other
    | distance leaf => exact leaf.fate_lower schema filter other
    | fullText leaf => exact leaf.fate_lower filter other
    | contentId leaf | property leaf | language leaf | indexField leaf => rfl
    | matchAll | matchNone | allOf | anyOf | notOf => cases isLeaf
  | allOf children ih =>
    rw [lower_allOf, lower_allOf, fate_bind_pure, fate_bind_pure, fate_mapM_congr ih]
  | anyOf children ih =>
    rw [lower_anyOf, lower_anyOf, fate_bind_pure, fate_bind_pure, fate_mapM_congr ih]
  | notOf child ih => rw [lower_notOf, lower_notOf, fate_bind_pure, fate_bind_pure, ih]

variable {schema} {filter} in
theorem Criterion.exists_lower {criterion : Criterion} {query : IndexQuery}
    (lowered : criterion.lower schema filter = .ok query) (other : LanguageFilter) :
    ∃ query, criterion.lower schema other = .ok query := by
  rw [← fate_eq_ok, ← criterion.fate_lower schema filter other, fate_eq_ok]
  exact ⟨query, lowered⟩

/-- Whether a criterion can be asked does not depend on the languages of the reader. Where it
cannot, the failure is of the same kind for all readers, and differs at most in an index name. -/
theorem Criterion.lower_fails_alike (criterion : Criterion) :
    ((∃ query, criterion.lower schema filter = .ok query) ↔
      ∃ query, criterion.lower schema other = .ok query) ∧
    ∀ failure second, criterion.lower schema filter = .error failure →
      criterion.lower schema other = .error second →
      failure.code = second.code ∧ failure.unnamed = second.unnamed := by
  have same := criterion.fate_lower schema filter other
  constructor
  · rw [← fate_eq_ok, same, fate_eq_ok]
  · intro failure second failed again
    rw [failed, again, fate_error, fate_error] at same
    have unnamed := Except.error.inj same
    refine ⟨?_, unnamed⟩
    rw [← failure.code_unnamed, unnamed, second.code_unnamed]

end Lower

namespace Sample

def sevenLikeLeaf : FieldLeaf :=
  ⟨"title", titleLeaf.named, ⟨.like, .single (.integer 7), rfl⟩, .empty⟩

end Sample

theorem Criterion.lower_fails_alike_like :
    ∃ failure second,
      (Criterion.notOf (.field Sample.sevenLikeLeaf)).lower Sample.schema .unrestricted =
        .error failure ∧
      (Criterion.notOf (.field Sample.sevenLikeLeaf)).lower Sample.schema Sample.germanOrMain =
        .error second ∧
      failure ≠ second ∧ failure.unnamed = second.unnamed := by
  have anyReader : (Criterion.notOf (.field Sample.sevenLikeLeaf)).lower Sample.schema
      .unrestricted = .error _ := rfl
  have german : (Criterion.notOf (.field Sample.sevenLikeLeaf)).lower Sample.schema
      Sample.germanOrMain = .error _ := rfl
  obtain ⟨-, alike⟩ := lower_fails_alike Sample.schema .unrestricted Sample.germanOrMain
    (.notOf (.field Sample.sevenLikeLeaf))
  exact ⟨_, _, anyReader, german, by decide, (alike _ _ anyReader german).2⟩

end ContentFinder
