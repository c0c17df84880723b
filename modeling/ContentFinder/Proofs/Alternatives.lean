import ContentFinder.Proofs.Askable
import ContentFinder.Proofs.Subtrees

/-! A leaf with a list of values asks for each of them as an alternative. What a list is compiled to
stands inside the names that the reader's languages and the content types give. These names are
alternatives as well, so the values can be taken outside of them: a list can be asked for when each
of its values can, and a document matches it when it matches one of the values. -/

namespace ContentFinder

open Outcome

theorem forall_mem_and_const {α : Type} {items : List α} {holds : α → Prop} {always : Prop}
    (some : items ≠ []) :
    (∀ item ∈ items, holds item) ∧ always ↔ ∀ item ∈ items, holds item ∧ always := by
  obtain ⟨first, member⟩ := List.exists_mem_of_ne_nil _ some
  exact ⟨fun both item listed => ⟨both.1 item listed, both.2⟩,
    fun both => ⟨fun item listed => (both item listed).1, (both first member).2⟩⟩

theorem exists_mem_comm {α β : Type} {items : List α} {others : List β} {holds : α → β → Prop} :
    (∃ item ∈ items, ∃ other ∈ others, holds item other) ↔
      ∃ other ∈ others, ∃ item ∈ items, holds item other := by
  simp only [← exists_and_left, and_left_comm]
  exact exists_comm

/-! Calls that build the query of some alternatives. -/

namespace IndexQuery

variable {α β : Type}

/-- A call builds a query when each of some calls does, and its query matches a document when that
of one of the calls does. Only some of the calls may count for a document. -/
structure Gathers (items : List α) (counting : Document → List α)
    (each : α → Except Failure IndexQuery) (whole : Except Failure IndexQuery) : Prop where
  counted : ∀ doc, counting doc ⊆ items
  made : (∃ query, whole = .ok query) ↔ ∀ item ∈ items, ∃ query, each item = .ok query
  matched : ∀ query, whole = .ok query → ∀ doc,
    query.isMatch doc = true ↔ ∃ item ∈ counting doc, isMet doc (each item) = true

abbrev OneOf (items : List α) (each : α → Except Failure IndexQuery)
    (whole : Except Failure IndexQuery) : Prop :=
  Gathers items (fun _ => items) each whole

theorem Gathers.isMet_iff {items : List α} {counting : Document → List α}
    {each : α → Except Failure IndexQuery} {whole : Except Failure IndexQuery}
    (gathers : Gathers items counting each whole)
    (built : ∀ item ∈ items, ∃ query, each item = .ok query) (doc : Document) :
    isMet doc whole = true ↔ ∃ item ∈ counting doc, isMet doc (each item) = true := by
  obtain ⟨query, made⟩ := gathers.made.2 built
  rw [isMet_of_ok made, gathers.matched query made]

namespace OneOf

variable {items : List α} {each : α → Except Failure IndexQuery}
  {whole : Except Failure IndexQuery}

theorem of_iff
    (made : (∃ query, whole = .ok query) ↔ ∀ item ∈ items, ∃ query, each item = .ok query)
    (matched : ∀ query, whole = .ok query → ∀ doc,
      query.isMatch doc = true ↔ ∃ item ∈ items, isMet doc (each item) = true) :
    OneOf items each whole :=
  ⟨fun _ => List.Subset.refl items, made, matched⟩

theorem congr {other : α → Except Failure IndexQuery} (oneOf : OneOf items each whole)
    (same : ∀ item ∈ items, other item = each item) : OneOf items other whole := by
  refine of_iff ?_ fun query made doc => ?_
  · rw [oneOf.made]
    exact forall₂_congr fun item member => by rw [same item member]
  · rw [oneOf.matched query made]
    exact exists_congr fun item => and_congr_right fun member => by rw [same item member]

theorem of_failed (unmade : ∀ query, whole ≠ .ok query) {item : α} (member : item ∈ items)
    (failed : ∀ query, each item ≠ .ok query) : OneOf items each whole := by
  refine of_iff ⟨?_, ?_⟩ fun query made => absurd made (unmade query)
  · intro built
    obtain ⟨query, made⟩ := built
    exact absurd made (unmade query)
  · intro built
    obtain ⟨query, done⟩ := built item member
    exact absurd done (failed query)

theorem bind {call : Except Failure β} {next : β → Except Failure IndexQuery}
    {parts : α → β → Except Failure IndexQuery} (some : items ≠ [])
    (later : ∀ value, call = .ok value → OneOf items (fun item => parts item value) (next value)) :
    OneOf items (fun item => call >>= parts item) (call >>= next) := by
  cases call with
  | ok value => exact later value rfl
  | error failure =>
    obtain ⟨item, member⟩ := List.exists_mem_of_ne_nil _ some
    exact of_failed nofun member nofun

/-- The alternatives inside of others can be taken outside of them. -/
theorem exchange {branches : List β} {counting : Document → List β}
    {build : β → Except Failure IndexQuery} {parts : α → β → Except Failure IndexQuery}
    (outside : Gathers branches counting build whole)
    (inside : ∀ branch, OneOf items (fun item => parts item branch) (build branch))
    (alone : ∀ item, Gathers branches counting (parts item) (each item)) :
    OneOf items each whole := by
  have swapped : (∀ branch ∈ branches, ∀ item ∈ items, ∃ query, parts item branch = .ok query) ↔
      ∀ item ∈ items, ∀ branch ∈ branches, ∃ query, parts item branch = .ok query :=
    ⟨fun built item listed branch member => built branch member item listed,
      fun built branch member item listed => built item listed branch member⟩
  refine of_iff ?_ fun query made doc => ?_
  · calc (∃ query, whole = .ok query)
        ↔ ∀ branch ∈ branches, ∃ query, build branch = .ok query := outside.made
      _ ↔ ∀ branch ∈ branches, ∀ item ∈ items, ∃ query, parts item branch = .ok query :=
          forall₂_congr fun branch _ => (inside branch).made
      _ ↔ ∀ item ∈ items, ∀ branch ∈ branches, ∃ query, parts item branch = .ok query := swapped
      _ ↔ ∀ item ∈ items, ∃ query, each item = .ok query :=
          forall₂_congr fun item _ => (alone item).made.symm
  · have built := outside.made.1 ⟨query, made⟩
    have inBranch : ∀ branch ∈ counting doc, isMet doc (build branch) = true ↔
        ∃ item ∈ items, isMet doc (parts item branch) = true := fun branch member =>
      (inside branch).isMet_iff
        ((inside branch).made.1 (built branch (outside.counted doc member))) doc
    have inItem : ∀ item ∈ items, isMet doc (each item) = true ↔
        ∃ branch ∈ counting doc, isMet doc (parts item branch) = true := fun item listed =>
      (alone item).isMet_iff (fun branch member => (inside branch).made.1 (built branch member)
        item listed) doc
    calc query.isMatch doc = true
        ↔ ∃ branch ∈ counting doc, isMet doc (build branch) = true :=
          outside.matched query made doc
      _ ↔ ∃ branch ∈ counting doc, ∃ item ∈ items, isMet doc (parts item branch) = true :=
          exists_congr fun branch => and_congr_right (inBranch branch)
      _ ↔ ∃ item ∈ items, ∃ branch ∈ counting doc, isMet doc (parts item branch) = true :=
          exists_mem_comm
      _ ↔ ∃ item ∈ items, isMet doc (each item) = true :=
          exists_congr fun item => and_congr_right fun listed => (inItem item listed).symm

/-- Documents that match anyway do not hinder alternatives, if there is one. -/
theorem orAlso (oneOf : OneOf items each whole) (some : items ≠ []) (also : IndexQuery) :
    OneOf items (fun item => do return any [← each item, also])
      (do return any [← whole, also]) := by
  refine of_iff ?_ fun query made doc => ?_
  · simp only [exists_bind_pure]
    exact oneOf.made
  · obtain ⟨inner, done, same⟩ := bind_eq_ok.1 made
    have each_or : ∀ item ∈ items, isMet doc (do return any [← each item, also]) = true ↔
        isMet doc (each item) = true ∨ also.isMatch doc = true := by
      intro item listed
      obtain ⟨part, built⟩ := oneOf.made.1 ⟨inner, done⟩ item listed
      rw [built]
      change (any [part, also]).isMatch doc = true ↔ _
      simp [isMet, isMatch_any]
    obtain ⟨first, listed⟩ := List.exists_mem_of_ne_nil _ some
    calc query.isMatch doc = true
        ↔ inner.isMatch doc = true ∨ also.isMatch doc = true := by
          rw [← Except.ok.inj same]
          simp [isMatch_any]
      _ ↔ (∃ item ∈ items, isMet doc (each item) = true) ∨ also.isMatch doc = true := by
          rw [oneOf.matched inner done]
      _ ↔ ∃ item ∈ items, isMet doc (each item) = true ∨ also.isMatch doc = true := by
          simp only [and_or_left, exists_or, exists_and_right]
          rw [and_iff_right ⟨first, listed⟩]
      _ ↔ ∃ item ∈ items, isMet doc (do return any [← each item, also]) = true :=
          exists_congr fun item => and_congr_right fun listed => (each_or item listed).symm

end OneOf

theorem oneOf_any {branches : List β} (build : β → Except Failure IndexQuery) :
    OneOf branches build (do return any (← branches.mapM build)) := by
  refine OneOf.of_iff ?_ fun query made doc => ?_
  · rw [← exists_mapM_eq_ok]
    exact exists_bind_pure
  · obtain ⟨queries, done, same⟩ := bind_eq_ok.1 made
    rw [← Except.ok.inj same, isMatch_any_mapM done]

end IndexQuery

open IndexQuery (Gathers OneOf isMet)

theorem LanguageFilter.projections_subset (filter : LanguageFilter)
    (multilingual available : Bool) :
    filter.projections multilingual available ⊆ filter.projections multilingual true := by
  unfold projections
  split
  · exact List.Subset.refl _
  · split
    · exact List.Subset.refl _
    · cases available <;> simp

/-- A reader's languages are alternatives, of which the document decides whether the main language
counts. -/
theorem LanguageFilter.gathers_expand (filter : LanguageFilter) (multilingual : Bool)
    (build : Projection → Except Failure IndexQuery) :
    Gathers (filter.projections multilingual true)
      (fun doc => filter.projections multilingual (isAlwaysAvailable.isMatch doc)) build
      (filter.expand multilingual build) := by
  refine ⟨fun doc => filter.projections_subset multilingual _, exists_expand, ?_⟩
  intro query expanded doc
  rw [isMatch_expand (fun projection query made => (IndexQuery.isMet_of_ok made).symm) expanded,
    List.any_eq_true]

/-! Comparisons. -/

namespace IndexQuery

variable {field : String} {kind : Option FieldKind} {scalars : List Scalar}

theorem exists_comparing_eq {scalar : Scalar} :
    (∃ query, comparing field kind .eq (.single scalar) = .ok query) ↔
      ∃ bound, scalar.coerce kind = .ok bound :=
  exists_bind_pure

theorem oneOf_comparing :
    OneOf scalars (fun scalar => comparing field kind .eq (.single scalar))
      (comparing field kind .isIn (.list scalars)) := by
  have made : (∃ query, comparing field kind .isIn (.list scalars) = .ok query) ↔
      ∀ scalar ∈ scalars, ∃ query, comparing field kind .eq (.single scalar) = .ok query := by
    simp only [exists_comparing_eq, ← exists_mapM_eq_ok]
    exact exists_bind_pure
  refine OneOf.of_iff made fun query compared doc => ?_
  have each : ∀ scalar ∈ scalars, isMet doc (comparing field kind .eq (.single scalar)) =
      (doc.get field).any fun value => scalar.places kind value Ordering.isEq := by
    intro scalar member
    obtain ⟨part, done⟩ := made.1 ⟨query, compared⟩ scalar member
    rw [isMet_of_ok done, isMatch_comparing done]
    rfl
  rw [isMatch_comparing compared, List.any_eq_true]
  calc (∃ value ∈ doc.get field, Operator.isIn.accepts kind (.list scalars) value = true)
      ↔ ∃ value ∈ doc.get field, ∃ scalar ∈ scalars,
          scalar.places kind value Ordering.isEq = true := by
        simp only [Operator.accepts, Operand.scalars, List.any_eq_true]
    _ ↔ ∃ scalar ∈ scalars, ∃ value ∈ doc.get field,
          scalar.places kind value Ordering.isEq = true := exists_mem_comm
    _ ↔ ∃ scalar ∈ scalars, isMet doc (comparing field kind .eq (.single scalar)) = true := by
        refine exists_congr fun scalar => and_congr_right fun member => ?_
        rw [each scalar member, List.any_eq_true]

end IndexQuery

/-! Operands. -/

namespace SpecificationTable

def TakesLists (table : SpecificationTable) : Prop :=
  ∃ types, table.rows.find? (·.operator == .isIn) = some ⟨.isIn, .list, types, none⟩ ∧
    table.rows.find? (·.operator == .eq) = some ⟨.eq, .single, types, none⟩

theorem validate_list_iff {table : SpecificationTable} (takes : table.TakesLists)
    {scalars : List Scalar} (some : scalars ≠ []) (target : String) :
    table.validate target .isIn (.list scalars) = .ok () ↔
      ∀ scalar ∈ scalars, table.validate target .eq (.single scalar) = .ok () := by
  obtain ⟨types, inRow, eqRow⟩ := takes
  have inFits : Specification.Fits ⟨.isIn, .list, types, none⟩ (.list scalars) ↔
      ∀ scalar ∈ scalars, ∀ listed ∈ types, scalar.type ∈ listed := by
    constructor
    · exact fun fits scalar member listed known => fits.types listed known scalar member
    · exact fun typed => ⟨⟨rfl, some, nofun⟩,
        fun listed known scalar member => typed scalar member listed known⟩
  have eqFits : ∀ scalar, Specification.Fits ⟨.eq, .single, types, none⟩ (.single scalar) ↔
      ∀ listed ∈ types, scalar.type ∈ listed := by
    intro scalar
    constructor
    · exact fun fits listed known => fits.types listed known scalar List.mem_cons_self
    · intro typed
      refine ⟨rfl, fun listed known other member => ?_⟩
      rw [List.mem_singleton.1 member]
      exact typed listed known
  simp only [validate_eq_ok, inRow, eqRow, Option.some.injEq, exists_eq_left', inFits, eqFits]

end SpecificationTable

theorem malformedPath?_list {scalars : List Scalar} :
    malformedPath? (.list scalars) = none ↔
      ∀ scalar ∈ scalars, malformedPath? (.single scalar) = none := by
  simp [malformedPath?, Operand.scalars]

/-! Leaves. -/

/-- What a leaf can be about that takes one value and several. -/
inductive Subject where
  | contentId
  | property (target : Property)
  | language (orAlwaysAvailable : Bool)
  | field (identifier : String) (overrides : Overrides)
  | indexField (name : String)

namespace Subject

def leaf (subject : Subject) (operator : Operator) (operand : Operand) : Except Failure Criterion :=
  match subject with
  | .contentId => return .contentId (← ContentIdLeaf.make operator operand)
  | .property target => return .property (← PropertyLeaf.make target operator operand)
  | .language orAlwaysAvailable =>
    return .language (← LanguageLeaf.make operator operand orAlwaysAvailable)
  | .field identifier overrides =>
    return .field (← FieldLeaf.make identifier operator operand overrides)
  | .indexField name => return .indexField (← IndexFieldLeaf.make name operator operand)

def lower (subject : Subject) (schema : Schema) (filter : LanguageFilter) (operator : Operator)
    (operand : Operand) : Except Failure IndexQuery := do
  (← subject.leaf operator operand).lower schema filter

def Accepts (operator : Operator) (operand : Operand) : Subject → Prop
  | .contentId => SpecificationTable.contentId.validate "id" operator operand = .ok ()
  | .property target =>
    target.table.validate target.title operator operand = .ok () ∧
      (target = .subtree → malformedPath? operand = none)
  | .language _ =>
    SpecificationTable.languageCode.validate "language_code" operator operand = .ok ()
  | .field identifier _ =>
    SpecificationTable.field.validate identifier operator operand = .ok () ∧ identifier ≠ ""
  | .indexField name =>
    SpecificationTable.indexField.validate name operator operand = .ok () ∧ name ≠ ""

def compiled (schema : Schema) (filter : LanguageFilter) (operator : Operator) (operand : Operand) :
    Subject → Except Failure IndexQuery
  | .contentId => IndexQuery.comparing IndexName.id (some .integer) operator operand
  | .property target =>
    match target.indexField? with
    | some (name, kind) => IndexQuery.comparing name (some kind) operator operand
    | none => .ok (.any (operand.scalars.map fun path => .pathUnder path.text))
  | .language orAlwaysAvailable => do
    let byCode ← IndexQuery.comparing IndexName.language (some .string) operator operand
    return if orAlwaysAvailable then .any [byCode, isAlwaysAvailable] else byCode
  | .field identifier overrides => do
    let types ← schema.typesFor overrides identifier
    return .any (← types.mapM fun contentType =>
      filter.expand (schema.isMultilingual contentType identifier) fun projection => do
        let name ← schema.resolve overrides contentType identifier projection
        IndexQuery.comparing name (schema.kind? contentType identifier) operator operand)
  | .indexField name => IndexQuery.comparing name none operator operand

variable {subject : Subject} {schema : Schema} {filter : LanguageFilter} {operator : Operator}
  {operand : Operand} {scalars : List Scalar}

theorem exists_leaf (accepts : subject.Accepts operator operand) :
    ∃ leaf, subject.leaf operator operand = .ok leaf ∧
      ∀ schema filter, leaf.lower schema filter =
        subject.compiled schema filter operator operand := by
  cases subject with
  | contentId =>
    refine ⟨.contentId ⟨⟨operator, operand, accepts⟩⟩, ?_, fun _ _ => rfl⟩
    rw [leaf, ContentIdLeaf.make, Comparison.make_eq_ok accepts]
    rfl
  | property target =>
    refine ⟨.property ⟨target, ⟨operator, operand, accepts.1⟩, accepts.2⟩, ?_, fun _ _ => rfl⟩
    rw [leaf, PropertyLeaf.make, Comparison.make_eq_ok accepts.1]
    exact congrArg (fun made => made >>= fun leaf => pure (Criterion.property leaf))
      (dif_pos accepts.2)
  | language orAlwaysAvailable =>
    refine ⟨.language ⟨⟨operator, operand, accepts⟩, orAlwaysAvailable⟩, ?_, fun _ _ => rfl⟩
    rw [leaf, LanguageLeaf.make, Comparison.make_eq_ok accepts]
    rfl
  | field identifier overrides =>
    refine ⟨.field ⟨identifier, accepts.2, ⟨operator, operand, accepts.1⟩, overrides⟩, ?_,
      fun _ _ => rfl⟩
    rw [leaf, FieldLeaf.make, dif_neg accepts.2, Comparison.make_eq_ok accepts.1]
    rfl
  | indexField name =>
    refine ⟨.indexField ⟨name, accepts.2, ⟨operator, operand, accepts.1⟩⟩, ?_, fun _ _ => rfl⟩
    rw [leaf, IndexFieldLeaf.make, dif_neg accepts.2, Comparison.make_eq_ok accepts.1]
    rfl

theorem accepts_of_leaf {built : Criterion} (made : subject.leaf operator operand = .ok built) :
    subject.Accepts operator operand := by
  cases subject with
  | contentId =>
    obtain ⟨leaf, made, -⟩ := bind_eq_ok.1 made
    obtain ⟨comparison, made, -⟩ := bind_eq_ok.1 made
    exact (Comparison.of_make made).1
  | property target =>
    obtain ⟨leaf, made, -⟩ := bind_eq_ok.1 made
    obtain ⟨accepted, pathsFormed, -⟩ := PropertyLeaf.of_make made
    exact ⟨accepted, pathsFormed⟩
  | language orAlwaysAvailable =>
    obtain ⟨leaf, made, -⟩ := bind_eq_ok.1 made
    obtain ⟨comparison, made, -⟩ := bind_eq_ok.1 made
    exact (Comparison.of_make made).1
  | field identifier overrides =>
    obtain ⟨leaf, made, -⟩ := bind_eq_ok.1 made
    unfold FieldLeaf.make at made
    split at made
    · cases made
    · rename_i named
      obtain ⟨comparison, made, -⟩ := bind_eq_ok.1 made
      exact ⟨(Comparison.of_make made).1, named⟩
  | indexField name =>
    obtain ⟨leaf, made, -⟩ := bind_eq_ok.1 made
    unfold IndexFieldLeaf.make at made
    split at made
    · cases made
    · rename_i named
      obtain ⟨comparison, made, -⟩ := bind_eq_ok.1 made
      exact ⟨(Comparison.of_make made).1, named⟩

theorem exists_leaf_iff :
    (∃ leaf, subject.leaf operator operand = .ok leaf) ↔ subject.Accepts operator operand := by
  constructor
  · intro built
    obtain ⟨leaf, made⟩ := built
    exact accepts_of_leaf made
  · intro accepted
    obtain ⟨leaf, made, -⟩ := exists_leaf accepted
    exact ⟨leaf, made⟩

theorem lower_of_accepts (accepts : subject.Accepts operator operand) :
    subject.lower schema filter operator operand =
      subject.compiled schema filter operator operand := by
  obtain ⟨leaf, made, compiled⟩ := exists_leaf accepts
  rw [lower, made]
  exact compiled schema filter

theorem accepts_list_iff (some : scalars ≠ []) :
    subject.Accepts .isIn (.list scalars) ↔
      ∀ scalar ∈ scalars, subject.Accepts .eq (.single scalar) := by
  cases subject with
  | contentId => exact SpecificationTable.validate_list_iff ⟨_, rfl, rfl⟩ some _
  | property target =>
    have takes : target.table.TakesLists := by
      cases target <;> exact ⟨_, rfl, rfl⟩
    rw [Accepts, SpecificationTable.validate_list_iff takes some, malformedPath?_list]
    constructor
    · exact fun accepts scalar member =>
        ⟨accepts.1 scalar member, fun subtree => accepts.2 subtree scalar member⟩
    · exact fun accepts => ⟨fun scalar member => (accepts scalar member).1,
        fun subtree scalar member => (accepts scalar member).2 subtree⟩
  | language orAlwaysAvailable =>
    exact SpecificationTable.validate_list_iff ⟨_, rfl, rfl⟩ some _
  | field identifier overrides =>
    have takes : SpecificationTable.field.TakesLists := ⟨_, rfl, rfl⟩
    rw [Accepts, SpecificationTable.validate_list_iff takes some]
    exact forall_mem_and_const some
  | indexField name =>
    have takes : SpecificationTable.indexField.TakesLists := ⟨_, rfl, rfl⟩
    rw [Accepts, SpecificationTable.validate_list_iff takes some]
    exact forall_mem_and_const some

theorem oneOf_compiled (some : scalars ≠ []) :
    OneOf scalars (fun scalar => subject.compiled schema filter .eq (.single scalar))
      (subject.compiled schema filter .isIn (.list scalars)) := by
  cases subject with
  | contentId => exact IndexQuery.oneOf_comparing
  | indexField name => exact IndexQuery.oneOf_comparing
  | property target =>
    simp only [compiled]
    cases target.indexField? with
    | some pair => exact IndexQuery.oneOf_comparing
    | none =>
      refine OneOf.of_iff (iff_of_true ⟨_, rfl⟩ fun _ _ => ⟨_, rfl⟩) fun query made doc => ?_
      rw [← Except.ok.inj made, IndexQuery.isMatch_any, List.any_map, List.any_eq_true]
      refine exists_congr fun path => and_congr_right fun _ => ?_
      simp [IndexQuery.isMet, IndexQuery.isMatch_any, Operand.scalars]
  | language orAlwaysAvailable =>
    cases orAlwaysAvailable with
    | true => exact IndexQuery.oneOf_comparing.orAlso some isAlwaysAvailable
    | false =>
      simp only [compiled, Bool.false_eq_true, if_false, bind_pure]
      exact IndexQuery.oneOf_comparing
  | field identifier overrides =>
    refine OneOf.bind some fun types _ => ?_
    refine OneOf.exchange (IndexQuery.oneOf_any _) (fun contentType => ?_)
      fun _ => IndexQuery.oneOf_any _
    refine OneOf.exchange (filter.gathers_expand _ _) (fun projection => ?_)
      fun _ => filter.gathers_expand _ _
    exact OneOf.bind some fun name _ => IndexQuery.oneOf_comparing

theorem oneOf_lower (some : scalars ≠ []) :
    OneOf scalars (fun scalar => subject.lower schema filter .eq (.single scalar))
      (subject.lower schema filter .isIn (.list scalars)) := by
  have unmade : ∀ operator operand, ¬subject.Accepts operator operand →
      ∀ query, subject.lower schema filter operator operand ≠ .ok query := by
    intro operator operand refused query lowered
    obtain ⟨leaf, made, -⟩ := bind_eq_ok.1 lowered
    exact refused (accepts_of_leaf made)
  by_cases accepted : subject.Accepts .isIn (.list scalars)
  · have each := (accepts_list_iff some).1 accepted
    rw [lower_of_accepts accepted]
    exact (oneOf_compiled some).congr fun scalar member => lower_of_accepts (each scalar member)
  · have refused := mt (accepts_list_iff some).2 accepted
    push Not at refused
    obtain ⟨scalar, member, refused⟩ := refused
    exact OneOf.of_failed (unmade _ _ accepted) member (unmade _ _ refused)

theorem exists_lower_iff :
    (∃ query, subject.lower schema filter operator operand = .ok query) ↔
      ∃ leaf query, subject.leaf operator operand = .ok leaf ∧
        leaf.lower schema filter = .ok query := by
  simp only [lower, bind_eq_ok]
  exact exists_comm

theorem isMet_lower_iff {doc : Document} :
    isMet doc (subject.lower schema filter operator operand) = true ↔
      ∃ leaf query, subject.leaf operator operand = .ok leaf ∧
        leaf.lower schema filter = .ok query ∧ query.isMatch doc = true := by
  simp only [IndexQuery.isMet_iff, lower, bind_eq_ok]
  constructor
  · intro met
    obtain ⟨query, ⟨leaf, made, lowered⟩, matched⟩ := met
    exact ⟨leaf, query, made, lowered, matched⟩
  · intro met
    obtain ⟨leaf, query, made, lowered, matched⟩ := met
    exact ⟨query, ⟨leaf, made, lowered⟩, matched⟩

/-- A leaf with a list of values is that of each value as an alternative: it is built and has a
query when they are and have, and its query matches what one of theirs matches. -/
theorem isIn_iff_exists_eq (subject : Subject) (schema : Schema) (filter : LanguageFilter)
    (some : scalars ≠ []) :
    ((∃ leaf, subject.leaf .isIn (.list scalars) = .ok leaf) ↔
      ∀ scalar ∈ scalars, ∃ leaf, subject.leaf .eq (.single scalar) = .ok leaf) ∧
    ∀ leaf, subject.leaf .isIn (.list scalars) = .ok leaf →
      ((∃ query, leaf.lower schema filter = .ok query) ↔
        ∀ scalar ∈ scalars, ∃ one query, subject.leaf .eq (.single scalar) = .ok one ∧
          one.lower schema filter = .ok query) ∧
      ∀ query, leaf.lower schema filter = .ok query → ∀ doc,
        query.isMatch doc = true ↔ ∃ scalar ∈ scalars, ∃ one part,
          subject.leaf .eq (.single scalar) = .ok one ∧ one.lower schema filter = .ok part ∧
            part.isMatch doc = true := by
  refine ⟨?_, fun leaf made => ?_⟩
  · simp only [exists_leaf_iff]
    exact accepts_list_iff some
  · have oneOf : OneOf scalars (fun scalar => subject.lower schema filter .eq (.single scalar))
        (subject.lower schema filter .isIn (.list scalars)) := oneOf_lower some
    have whole : subject.lower schema filter .isIn (.list scalars) = leaf.lower schema filter := by
      rw [lower, made, ok_bind]
    rw [whole] at oneOf
    simp only [← exists_lower_iff, ← isMet_lower_iff]
    exact ⟨oneOf.made, oneOf.matched⟩

end Subject

namespace Sample

def renamedTitle : Subject := .field "title" renamedLeaf.overrides

def drinks : List Scalar := [.string "Coffee", .string "Tea"]

end Sample

open Sample in
theorem Subject.isMatch_renamedTitle :
    ∃ leaf query, renamedTitle.leaf .isIn (.list drinks) = .ok leaf ∧
      leaf.lower schema germanOrMain = .ok query ∧ query.isMatch headed = true := by
  obtain ⟨-, asked⟩ := renamedTitle.isIn_iff_exists_eq schema germanOrMain
    (show drinks ≠ [] by decide)
  obtain ⟨leaf, made⟩ : ∃ leaf, renamedTitle.leaf .isIn (.list drinks) = .ok leaf := ⟨_, rfl⟩
  obtain ⟨lowers, matched⟩ := asked leaf made
  have each : ∀ scalar ∈ drinks, ∃ one query,
      renamedTitle.leaf .eq (.single scalar) = .ok one ∧
        one.lower schema germanOrMain = .ok query :=
    List.forall_mem_cons.2 ⟨⟨_, _, rfl, rfl⟩, List.forall_mem_singleton.2 ⟨_, _, rfl, rfl⟩⟩
  obtain ⟨query, lowered⟩ := lowers.2 each
  refine ⟨leaf, query, made, lowered, (matched query lowered headed).2 ?_⟩
  exact ⟨.string "Tea", by decide, .field renamedLeaf, _, rfl, rfl, by decide⟩

end ContentFinder
