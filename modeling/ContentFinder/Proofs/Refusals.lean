import ContentFinder.Proofs.Askable
import ContentFinder.Proofs.OperandFit

/-! Why a leaf has no index query. Its table has accepted the operand, and so the operand has the
shape that the operator is compiled with, and distances are numbers. What may still be refused hangs
on the schema: a field that no content type has, a scalar that is none of the field's kind, a
pattern on a field without texts, and a distance on a field without points. -/

namespace ContentFinder

open Outcome

/-! Accepted operands. -/

def Operator.Takes (operator : Operator) (operand : Operand) : Prop :=
  match operator with
  | .isIn => True
  | .between => ∃ low high, operand = .list [low, high]
  | .eq | .gt | .gte | .lt | .lte | .like | .contains => ∃ scalar, operand = .single scalar

namespace Specification

def Suits (spec : Specification) : Prop :=
  match spec.operator with
  | .isIn => True
  | .between => spec.shape = .list ∧ spec.count = some 2
  | .eq | .gt | .gte | .lt | .lte | .like | .contains => spec.shape = .single

instance (spec : Specification) : Decidable spec.Suits := by
  unfold Suits
  split <;> infer_instance

variable {spec : Specification} {operand : Operand}

theorem HasShape.exists_single (single : spec.shape = .single) (shaped : spec.HasShape operand) :
    ∃ scalar, operand = .single scalar := by
  cases operand with
  | single scalar => exact ⟨scalar, rfl⟩
  | list values => cases single.symm.trans shaped.1

theorem HasShape.exists_pair (list : spec.shape = .list) (two : spec.count = some 2)
    (shaped : spec.HasShape operand) : ∃ low high, operand = .list [low, high] := by
  cases operand with
  | single scalar => cases list.symm.trans shaped
  | list values =>
    obtain ⟨low, high, rfl⟩ := List.length_eq_two.1 (shaped.2.2 2 two)
    exact ⟨low, high, rfl⟩

theorem takes_of_fits (suits : spec.Suits) (fits : spec.Fits operand) :
    spec.operator.Takes operand := by
  obtain ⟨operator, shape, types, count⟩ := spec
  cases operator with
  | isIn => trivial
  | between => exact fits.shape.exists_pair suits.1 suits.2
  | eq | gt | gte | lt | lte | like | contains => exact fits.shape.exists_single suits

end Specification

theorem Comparison.takes {table : SpecificationTable} {target : String}
    (comparison : Comparison table target) (suit : ∀ spec ∈ table.rows, spec.Suits) :
    comparison.operator.Takes comparison.operand := by
  obtain ⟨spec, found, fits⟩ := SpecificationTable.validate_eq_ok.1 comparison.accepted
  have same : spec.operator = comparison.operator := by
    simpa using List.find?_some found
  rw [← same]
  exact Specification.takes_of_fits (suit spec (List.mem_of_find?_eq_some found)) fits

theorem Property.suits_rows (property : Property) : ∀ spec ∈ property.table.rows, spec.Suits := by
  cases property <;> decide

theorem suits_fieldRows : ∀ spec ∈ fieldRows, spec.Suits := by decide

/-! Comparisons. -/

theorem Scalar.coerce_eq_ok {scalar : Scalar} {kind : FieldKind} {value : IndexValue} :
    scalar.coerce (some kind) = .ok value ↔ scalar.coerce? kind = some value := by
  cases read : scalar.coerce? kind <;> simp [coerce, read]

namespace IndexQuery

/-- Why a comparison on an index field of a kind cannot be made: a scalar is not of the kind, or a
pattern is asked for where there are no texts, or is no text itself. -/
inductive Refuses (field : String) (kind : Option FieldKind) (operator : Operator)
    (operand : Operand) : ArgumentFault → Prop where
  | unfitValue {scalar : Scalar} {known : FieldKind} (given : scalar ∈ operand.scalars)
      (ofKind : kind = some known) (unfit : scalar.coerce? known = none) :
      Refuses field kind operator operand (.unfitValue scalar known)
  | patternOnOtherKind {known : FieldKind} (pattern : operator = .like)
      (ofKind : kind = some known) (other : known.isTextual = false) :
      Refuses field kind operator operand (.patternOnOtherKind field)
  | patternNotText {scalar : Scalar} (pattern : operator = .like)
      (given : operand = .single scalar) (other : scalar.type ≠ .string) :
      Refuses field kind operator operand (.patternNotText field scalar)

variable {field : String} {kind : Option FieldKind} {operator : Operator} {operand : Operand}
  {failure : Failure}

theorem coerce_eq_error {scalar : Scalar} :
    scalar.coerce kind = .error failure ↔ ∃ known, kind = some known ∧
      scalar.coerce? known = none ∧ failure = .invalidArgument (.unfitValue scalar known) := by
  unfold Scalar.coerce
  cases kind with
  | none => simp
  | some known =>
    cases unfit : scalar.coerce? known <;> simp [unfit, eq_comm]

theorem refuses_of_coerce {scalar : Scalar} (given : scalar ∈ operand.scalars)
    (failed : scalar.coerce kind = .error failure) :
    ∃ fault, failure = .invalidArgument fault ∧ Refuses field kind operator operand fault := by
  obtain ⟨known, ofKind, unfit, rfl⟩ := coerce_eq_error.1 failed
  exact ⟨_, rfl, .unfitValue given ofKind unfit⟩

theorem refuses_of_likePattern {scalar : Scalar}
    (failed : likePattern field kind (.single scalar) = .error failure) :
    ∃ fault, failure = .invalidArgument fault ∧
      Refuses field kind .like (.single scalar) fault := by
  unfold likePattern at failed
  split at failed
  · rename_i other
    cases failed
    cases kind with
    | none => cases other
    | some known => exact ⟨_, rfl, .patternOnOtherKind rfl rfl (by simpa using other)⟩
  · cases scalar with
    | string pattern => cases failed
    | boolean value | integer value | float value =>
      cases failed
      exact ⟨_, rfl, .patternNotText rfl rfl nofun⟩

theorem refuses_of_compared {scalar : Scalar} {build : IndexValue → IndexQuery}
    (failed : (do return build (← (← (Operand.single scalar).one field).coerce kind)) =
      .error failure) :
    ∃ fault, failure = .invalidArgument fault ∧
      Refuses field kind operator (.single scalar) fault := by
  obtain impossible | ⟨given, same, failed⟩ := bind_eq_error.1 failed
  · cases impossible
  · cases same
    obtain failed | ⟨bound, -, impossible⟩ := bind_eq_error.1 failed
    · exact refuses_of_coerce (List.mem_singleton_self scalar) failed
    · cases impossible

/-- A comparison that has the shape of its operator fails for a reason of its own. -/
theorem refuses_of_comparing (takes : operator.Takes operand)
    (failed : comparing field kind operator operand = .error failure) :
    ∃ fault, failure = .invalidArgument fault ∧ Refuses field kind operator operand fault := by
  cases operator with
  | eq | contains | gt | gte | lt | lte =>
    obtain ⟨scalar, rfl⟩ := takes
    exact refuses_of_compared failed
  | isIn =>
    obtain failed | ⟨bounds, -, impossible⟩ := bind_eq_error.1 failed
    · obtain ⟨before, scalar, after, split, -, failed⟩ := mapM_eq_error.1 failed
      exact refuses_of_coerce (by simp [split]) failed
    · cases impossible
  | between =>
    obtain ⟨low, high, rfl⟩ := takes
    obtain impossible | ⟨ends, same, failed⟩ := bind_eq_error.1 failed
    · cases impossible
    cases same
    obtain failed | ⟨bound, -, failed⟩ := bind_eq_error.1 failed
    · exact refuses_of_coerce (by simp [Operand.scalars]) failed
    obtain failed | ⟨bound, -, impossible⟩ := bind_eq_error.1 failed
    · exact refuses_of_coerce (by simp [Operand.scalars]) failed
    · cases impossible
  | like =>
    obtain ⟨scalar, rfl⟩ := takes
    exact refuses_of_likePattern failed

theorem exists_pattern {query : IndexQuery}
    (compared : likePattern field kind operand = .ok query) :
    kind.all FieldKind.isTextual = true ∧ ∃ pattern, operand = .single (.string pattern) := by
  unfold likePattern at compared
  split at compared
  · cases compared
  · rename_i textual
    obtain ⟨-, -, compared⟩ := bind_eq_ok.1 compared
    obtain ⟨scalar, given, compared⟩ := bind_eq_ok.1 compared
    refine ⟨by simpa using textual, ?_⟩
    rw [Operand.one_eq_ok.1 given]
    cases scalar with
    | string pattern => exact ⟨pattern, rfl⟩
    | boolean value | integer value | float value => cases compared

theorem exists_coerce?_of_comparing {known : FieldKind} {query : IndexQuery}
    (compared : comparing field (some known) operator operand = .ok query) :
    ∀ scalar ∈ operand.scalars, ∃ bound, scalar.coerce? known = some bound := by
  intro scalar given
  cases operator with
  | eq | contains | gt | gte | lt | lte =>
    obtain ⟨only, bound, rfl, coerced, -⟩ := of_compared compared
    cases List.mem_singleton.1 given
    exact ⟨bound, Scalar.coerce_eq_ok.1 coerced⟩
  | isIn =>
    obtain ⟨bounds, coerced, -⟩ := bind_eq_ok.1 compared
    obtain ⟨bound, -, coerced⟩ := exists_of_mem_items coerced given
    exact ⟨bound, Scalar.coerce_eq_ok.1 coerced⟩
  | between =>
    obtain ⟨ends, same, compared⟩ := bind_eq_ok.1 compared
    obtain ⟨low, coercedLow, compared⟩ := bind_eq_ok.1 compared
    obtain ⟨high, coercedHigh, -⟩ := bind_eq_ok.1 compared
    rw [Operand.two_eq_ok.1 same] at given
    rcases List.mem_cons.1 given with rfl | given
    · exact ⟨low, Scalar.coerce_eq_ok.1 coercedLow⟩
    · cases List.mem_singleton.1 given
      exact ⟨high, Scalar.coerce_eq_ok.1 coercedHigh⟩
  | like =>
    -- A pattern is asked for on texts only, and every scalar has a text.
    obtain ⟨textual, -⟩ := exists_pattern compared
    cases known with
    | string | text => exact ⟨_, rfl⟩
    | integer | float | boolean | date | geoLocation => cases textual

theorem not_refuses_of_comparing {query : IndexQuery} {fault : ArgumentFault}
    (compared : comparing field kind operator operand = .ok query) :
    ¬Refuses field kind operator operand fault := by
  intro refuses
  cases refuses with
  | unfitValue given ofKind unfit =>
    subst ofKind
    obtain ⟨bound, read⟩ := exists_coerce?_of_comparing compared _ given
    cases read.symm.trans unfit
  | patternOnOtherKind pattern ofKind other =>
    subst pattern ofKind
    cases other.symm.trans (exists_pattern compared).1
  | patternNotText pattern given other =>
    subst pattern
    obtain ⟨-, text, same⟩ := exists_pattern compared
    cases given.symm.trans same
    exact other rfl

end IndexQuery

namespace DistanceLeaf

theorem exists_number (leaf : DistanceLeaf) {scalar : Scalar}
    (given : scalar ∈ leaf.comparison.operand.scalars) :
    ∃ number, scalar.number? = some number := by
  obtain ⟨spec, found, fits⟩ := SpecificationTable.validate_eq_ok.1 leaf.comparison.accepted
  have listed : ∀ spec ∈ distanceRows, spec.types = some [.integer, .float] := by decide
  have typed := fits.types _ (listed spec (List.mem_of_find?_eq_some found)) scalar given
  cases scalar with
  | integer value | float value => exact ⟨_, rfl⟩
  | boolean value | string value => simp [Scalar.type] at typed

theorem exists_comparing (leaf : DistanceLeaf) (field : String) :
    ∃ query, IndexQuery.comparingDistance field leaf.latitude leaf.longitude
      leaf.comparison.operator leaf.comparison.operand = .ok query := by
  have takes := leaf.comparison.takes (by decide)
  obtain ⟨spec, found, -⟩ := SpecificationTable.validate_eq_ok.1 leaf.comparison.accepted
  have numeric : ∀ scalar ∈ leaf.comparison.operand.scalars,
      ∃ number, IndexQuery.kilometres field scalar = .ok number := by
    intro scalar given
    obtain ⟨number, read⟩ := leaf.exists_number given
    exact ⟨number, IndexQuery.kilometres_eq_ok.2 read⟩
  revert takes found numeric
  generalize leaf.comparison.operator = operator, leaf.comparison.operand = operand
  intro takes found numeric
  cases operator with
  | gt | gte | lt | lte =>
    obtain ⟨scalar, rfl⟩ := takes
    obtain ⟨number, read⟩ := numeric scalar (List.mem_singleton_self scalar)
    exact ⟨_, bind_eq_ok.2 ⟨number, read, rfl⟩⟩
  | between =>
    obtain ⟨low, high, rfl⟩ := takes
    obtain ⟨least, readLow⟩ := numeric low (by simp [Operand.scalars])
    obtain ⟨most, readHigh⟩ := numeric high (by simp [Operand.scalars])
    exact ⟨_, bind_eq_ok.2 ⟨_, rfl, bind_eq_ok.2 ⟨least, readLow,
      bind_eq_ok.2 ⟨most, readHigh, rfl⟩⟩⟩⟩
  | eq | contains | isIn | like => cases found

end DistanceLeaf

/-! Readers and content types. -/

theorem LanguageFilter.exists_of_expand {filter : LanguageFilter} {multilingual : Bool}
    {build : Projection → Except Failure IndexQuery} {failure : Failure}
    (failed : filter.expand multilingual build = .error failure) :
    ∃ projection ∈ filter.projections multilingual true, build projection = .error failure := by
  unfold expand at failed
  unfold projections
  split at failed
  · rename_i neutral
    rw [if_pos neutral]
    exact ⟨.main, List.mem_singleton_self _, failed⟩
  · rename_i multilingual
    rw [if_neg multilingual]
    split at failed
    · rename_i unrestricted
      rw [if_pos unrestricted]
      exact ⟨.any, List.mem_singleton_self _, failed⟩
    · rename_i restricted
      rw [if_neg restricted]
      obtain failed | ⟨branches, -, failed⟩ := bind_eq_error.1 failed
      · obtain ⟨before, language, after, split, -, failed⟩ := mapM_eq_error.1 failed
        exact ⟨.code language, by simp [split], failed⟩
      · split at failed
        · rename_i fallback
          obtain failed | ⟨main, -, impossible⟩ := bind_eq_error.1 failed
          · exact ⟨.main, by simp [fallback], failed⟩
          · cases impossible
        · cases failed

/-! Leaves. -/

namespace Criterion

/-- The comparison on an index field that a leaf asks for. A leaf on a field has one for every name
that a reader may look up. -/
inductive Compares (schema : Schema) (filter : LanguageFilter) :
    Criterion → String → Option FieldKind → Operator → Operand → Prop where
  | contentId (leaf : ContentIdLeaf) :
      Compares schema filter (.contentId leaf) IndexName.id (some .integer)
        leaf.comparison.operator leaf.comparison.operand
  | property (leaf : PropertyLeaf) {field : String} {kind : FieldKind}
      (stored : leaf.property.indexField? = some (field, kind)) :
      Compares schema filter (.property leaf) field (some kind) leaf.comparison.operator
        leaf.comparison.operand
  | language (leaf : LanguageLeaf) :
      Compares schema filter (.language leaf) IndexName.language (some .string)
        leaf.comparison.operator leaf.comparison.operand
  | field (leaf : FieldLeaf) {contentType name : String} {projection : Projection}
      (asked : projection ∈
        filter.projections (schema.isMultilingual contentType leaf.identifier) true)
      (resolved : schema.resolve leaf.overrides contentType leaf.identifier projection = .ok name) :
      Compares schema filter (.field leaf) name (schema.kind? contentType leaf.identifier)
        leaf.comparison.operator leaf.comparison.operand
  | indexField (leaf : IndexFieldLeaf) :
      Compares schema filter (.indexField leaf) leaf.field none leaf.comparison.operator
        leaf.comparison.operand

inductive Refusal (schema : Schema) (filter : LanguageFilter) : Criterion → Failure → Prop where
  | comparison {leaf : Criterion} {field : String} {kind : Option FieldKind}
      {operator : Operator} {operand : Operand} {fault : ArgumentFault}
      (compares : leaf.Compares schema filter field kind operator operand)
      (refuses : IndexQuery.Refuses field kind operator operand fault) :
      Refusal schema filter leaf (.invalidArgument fault)
  | unknownField (leaf : FieldLeaf) (nowhere : ∀ contentType base,
        ¬schema.HasBase leaf.overrides contentType leaf.identifier base) :
      Refusal schema filter (.field leaf) (.unknownField leaf.identifier)
  | unknownPlace (leaf : DistanceLeaf) (nowhere : ∀ contentType base,
        ¬schema.HasBase leaf.overrides contentType leaf.identifier base) :
      Refusal schema filter (.distance leaf) (.unknownField leaf.identifier)
  | notGeographic (leaf : DistanceLeaf) {contentType base : String} {definition : FieldDefinition}
      (hasBase : schema.HasBase leaf.overrides contentType leaf.identifier base)
      (known : schema.definition? contentType leaf.identifier = some definition)
      (other : definition.traits.kind ≠ .geoLocation) :
      Refusal schema filter (.distance leaf) (.invalidArgument
        (.notGeographic contentType leaf.identifier definition.traits.kind))

end Criterion

section Lower

variable {schema : Schema} {filter : LanguageFilter} {failure : Failure}

open Criterion

theorem Schema.HasBase.exists_resolve {overrides : Overrides} {contentType identifier base : String}
    (hasBase : schema.HasBase overrides contentType identifier base) (projection : Projection) :
    ∃ name, schema.resolve overrides contentType identifier projection = .ok name :=
  ⟨_, resolve_eq_ok.2 ⟨base, hasBase, rfl⟩⟩

section Types

variable {overrides : Overrides} {identifier : String} {lowerIn : String → Except Failure IndexQuery}

theorem Schema.lower_types_eq_error
    (failed : (do
      let types ← schema.typesFor overrides identifier
      return IndexQuery.any (← types.mapM lowerIn)) = .error failure) :
    (failure = .unknownField identifier ∧
      ∀ contentType base, ¬schema.HasBase overrides contentType identifier base) ∨
    ∃ contentType base, schema.HasBase overrides contentType identifier base ∧
      lowerIn contentType = .error failure := by
  obtain failed | ⟨types, found, failed⟩ := bind_eq_error.1 failed
  · exact .inl (typesFor_eq_error.1 failed)
  obtain failed | ⟨queries, -, impossible⟩ := bind_eq_error.1 failed
  · obtain ⟨before, contentType, after, split, -, inType⟩ := mapM_eq_error.1 failed
    obtain ⟨base, hasBase⟩ := (mem_typesFor found).1 (by simp [split] : contentType ∈ types)
    exact .inr ⟨contentType, base, hasBase, inType⟩
  · cases impossible

/-- A leaf on a field with an index query has one in each content type that has the field, and there
is such a type. -/
theorem Schema.lower_types_eq_ok {query : IndexQuery}
    (lowered : (do
      let types ← schema.typesFor overrides identifier
      return IndexQuery.any (← types.mapM lowerIn)) = .ok query) :
    (∃ contentType base, schema.HasBase overrides contentType identifier base) ∧
      ∀ contentType base, schema.HasBase overrides contentType identifier base →
        ∃ query, lowerIn contentType = .ok query := by
  obtain ⟨types, found, lowered⟩ := bind_eq_ok.1 lowered
  obtain ⟨queries, done, -⟩ := bind_eq_ok.1 lowered
  constructor
  · by_contra nowhere
    push Not at nowhere
    cases found.symm.trans (typesFor_eq_error.2 ⟨rfl, nowhere⟩)
  · intro contentType base hasBase
    obtain ⟨query, -, inType⟩ := exists_of_mem_items done ((mem_typesFor found).2 ⟨base, hasBase⟩)
    exact ⟨query, inType⟩

end Types

theorem FieldLeaf.refusal_of_lower {leaf : FieldLeaf}
    (failed : leaf.lower schema filter = .error failure) :
    Refusal schema filter (.field leaf) failure := by
  obtain ⟨rfl, nowhere⟩ | ⟨contentType, base, hasBase, inType⟩ :=
    Schema.lower_types_eq_error failed
  · exact .unknownField leaf nowhere
  · unfold lowerIn at inType
    obtain ⟨projection, asked, failed⟩ := LanguageFilter.exists_of_expand inType
    obtain ⟨name, resolved⟩ := hasBase.exists_resolve projection
    rw [resolved] at failed
    obtain ⟨fault, rfl, refuses⟩ :=
      IndexQuery.refuses_of_comparing (leaf.comparison.takes suits_fieldRows) failed
    exact .comparison (.field leaf asked resolved) refuses

theorem DistanceLeaf.expand_ne_error {leaf : DistanceLeaf} {contentType base : String}
    (hasBase : schema.HasBase leaf.overrides contentType leaf.identifier base)
    (multilingual : Bool) : filter.expand multilingual (fun projection => do
      IndexQuery.comparingDistance
        (← schema.resolve leaf.overrides contentType leaf.identifier projection)
        leaf.latitude leaf.longitude leaf.comparison.operator leaf.comparison.operand) ≠
      .error failure := by
  intro failed
  obtain ⟨projection, -, failed⟩ := LanguageFilter.exists_of_expand failed
  obtain ⟨name, resolved⟩ := hasBase.exists_resolve projection
  obtain ⟨query, compared⟩ := leaf.exists_comparing name
  rw [resolved] at failed
  cases compared.symm.trans failed

theorem DistanceLeaf.refusal_of_lower {leaf : DistanceLeaf}
    (failed : leaf.lower schema filter = .error failure) :
    Refusal schema filter (.distance leaf) failure := by
  obtain ⟨rfl, nowhere⟩ | ⟨contentType, base, hasBase, inType⟩ :=
    Schema.lower_types_eq_error failed
  · exact .unknownPlace leaf nowhere
  · unfold lowerIn at inType
    split at inType
    · rename_i definition known
      split at inType
      · rename_i other
        cases inType
        exact .notGeographic leaf hasBase known other
      · exact absurd inType (expand_ne_error hasBase _)
    · exact absurd inType (expand_ne_error hasBase _)

theorem PropertyLeaf.refusal_of_lower {leaf : PropertyLeaf} (failed : leaf.lower = .error failure) :
    Refusal schema filter (.property leaf) failure := by
  unfold lower at failed
  split at failed
  · rename_i field kind stored
    obtain ⟨fault, rfl, refuses⟩ := IndexQuery.refuses_of_comparing
      (leaf.comparison.takes leaf.property.suits_rows) failed
    exact .comparison (.property leaf stored) refuses
  · cases failed

theorem LanguageLeaf.refusal_of_lower {leaf : LanguageLeaf} (failed : leaf.lower = .error failure) :
    Refusal schema filter (.language leaf) failure := by
  obtain failed | ⟨byCode, -, impossible⟩ := bind_eq_error.1 failed
  · obtain ⟨fault, rfl, refuses⟩ :=
      IndexQuery.refuses_of_comparing (leaf.comparison.takes (by decide)) failed
    exact .comparison (.language leaf) refuses
  · cases impossible

theorem FullTextLeaf.lower_ne_error (leaf : FullTextLeaf) : leaf.lower filter ≠ .error failure := by
  intro failed
  obtain ⟨query, lowered⟩ := leaf.exists_lower filter
  cases lowered.symm.trans failed

theorem Criterion.refusal_of_lower {leaf : Criterion} (isLeaf : leaf.isLeaf = true)
    (failed : leaf.lower schema filter = .error failure) : Refusal schema filter leaf failure := by
  cases leaf with
  | contentId leaf =>
    obtain ⟨fault, rfl, refuses⟩ :=
      IndexQuery.refuses_of_comparing (leaf.comparison.takes (by decide)) failed
    exact .comparison (.contentId leaf) refuses
  | indexField leaf =>
    obtain ⟨fault, rfl, refuses⟩ :=
      IndexQuery.refuses_of_comparing (leaf.comparison.takes suits_fieldRows) failed
    exact .comparison (.indexField leaf) refuses
  | property leaf => exact leaf.refusal_of_lower failed
  | language leaf => exact leaf.refusal_of_lower failed
  | field leaf => exact leaf.refusal_of_lower failed
  | distance leaf => exact leaf.refusal_of_lower failed
  | fullText leaf => exact absurd failed leaf.lower_ne_error
  | matchAll | matchNone | allOf | anyOf | notOf => cases isLeaf

theorem Criterion.Compares.exists_comparing {leaf : Criterion} {field : String}
    {kind : Option FieldKind} {operator : Operator} {operand : Operand} {query : IndexQuery}
    (compares : leaf.Compares schema filter field kind operator operand)
    (lowered : leaf.lower schema filter = .ok query) :
    ∃ query, IndexQuery.comparing field kind operator operand = .ok query := by
  cases compares with
  | contentId leaf => exact ⟨query, lowered⟩
  | indexField leaf => exact ⟨query, lowered⟩
  | property leaf stored =>
    simp only [lower, PropertyLeaf.lower, stored] at lowered
    exact ⟨query, lowered⟩
  | language leaf =>
    obtain ⟨byCode, compared, -⟩ := bind_eq_ok.1 lowered
    exact ⟨byCode, compared⟩
  | field leaf asked resolved =>
    obtain ⟨base, hasBase, -⟩ := Schema.resolve_eq_ok.1 resolved
    obtain ⟨inType, expanded⟩ := (Schema.lower_types_eq_ok lowered).2 _ base hasBase
    unfold FieldLeaf.lowerIn at expanded
    obtain ⟨query, built⟩ := LanguageFilter.exists_expand.1 ⟨inType, expanded⟩ _ asked
    obtain ⟨name, again, compared⟩ := bind_eq_ok.1 built
    cases resolved.symm.trans again
    exact ⟨query, compared⟩

theorem Criterion.Refusal.lower_ne_ok {leaf : Criterion} {query : IndexQuery}
    (refusal : Refusal schema filter leaf failure) : leaf.lower schema filter ≠ .ok query := by
  intro lowered
  cases refusal with
  | comparison compares refuses =>
    obtain ⟨query, compared⟩ := compares.exists_comparing lowered
    exact IndexQuery.not_refuses_of_comparing compared refuses
  | unknownField leaf nowhere | unknownPlace leaf nowhere =>
    obtain ⟨⟨contentType, base, hasBase⟩, -⟩ := Schema.lower_types_eq_ok lowered
    exact nowhere contentType base hasBase
  | notGeographic leaf hasBase known other =>
    obtain ⟨inType, made⟩ := (Schema.lower_types_eq_ok lowered).2 _ _ hasBase
    simp only [DistanceLeaf.lowerIn, known, other, ne_eq, not_false_eq_true, if_true] at made
    cases made

end Lower

/-- Whether a failure says that an operand has the wrong shape, that a distance is no number, or
that the operator is none of the leaf's. -/
def Failure.IsMisshapen : Failure → Prop
  | .invalidArgument (.oneValueNeeded _) => True
  | .invalidArgument (.twoValuesNeeded _) => True
  | .invalidArgument (.distanceNotNumeric ..) => True
  | .invalidOperator .. => True
  | _ => False

theorem Criterion.Refusal.not_isMisshapen {schema : Schema} {filter : LanguageFilter}
    {leaf : Criterion} {failure : Failure} (refusal : Refusal schema filter leaf failure) :
    ¬failure.IsMisshapen := by
  cases refusal with
  | comparison compares refuses => cases refuses <;> exact id
  | unknownField | unknownPlace | notGeographic => exact id

/-- A leaf that cannot be asked has a scalar that is none of the kind of the index field, a pattern
for a field without texts or a pattern that is no text, a field that no content type has, or a
distance on a field without points, and with any of these it cannot be asked. Its failure never says
that one value or two were needed, that a distance is no number, or that it does not have the
operator. -/
theorem Criterion.leaf_refusals (schema : Schema) (filter : LanguageFilter) {leaf : Criterion}
    (isLeaf : leaf.isLeaf = true) :
    (∀ failure, leaf.lower schema filter = .error failure →
      leaf.Refusal schema filter failure ∧ ¬failure.IsMisshapen) ∧
    ∀ failure, leaf.Refusal schema filter failure →
      ∃ first, leaf.lower schema filter = .error first := by
  constructor
  · intro failure failed
    have refusal := refusal_of_lower isLeaf failed
    exact ⟨refusal, refusal.not_isMisshapen⟩
  · intro failure refusal
    cases lowered : leaf.lower schema filter with
    | error first => exact ⟨first, rfl⟩
    | ok query => exact absurd lowered refusal.lower_ne_ok

namespace Sample

def letterLeaf : FieldLeaf := ⟨"code", by decide, ⟨.eq, .single (.string "x"), rfl⟩, .empty⟩

def farTitleLeaf : DistanceLeaf where
  identifier := "title"
  comparison := ⟨.between, .list [.integer 2, .integer 5], rfl⟩
  latitude := .zero
  longitude := .zero
  notNegative := by decide +kernel
  onGlobe := nearLeaf.onGlobe
  overrides := .empty

end Sample

theorem Criterion.refused_samples :
    ((Criterion.field Sample.letterLeaf).Refusal Sample.schema Sample.germanOrMain
        (.invalidArgument (.unfitValue (.string "x") .integer)) ∧
      ∃ first, (Criterion.field Sample.letterLeaf).lower Sample.schema Sample.germanOrMain =
        .error first) ∧
    (Criterion.distance Sample.farTitleLeaf).Refusal Sample.schema Sample.germanOrMain
      (.invalidArgument (.notGeographic "article" "title" .string)) := by
  have isField : (Criterion.field Sample.letterLeaf).isLeaf = true := rfl
  have isDistance : (Criterion.distance Sample.farTitleLeaf).isLeaf = true := rfl
  obtain ⟨letters, fails⟩ := leaf_refusals Sample.schema Sample.germanOrMain isField
  obtain ⟨titles, -⟩ := leaf_refusals Sample.schema Sample.germanOrMain isDistance
  have refusal := (letters _ rfl).1
  exact ⟨⟨refusal, fails _ refusal⟩, (titles _ rfl).1⟩

end ContentFinder
