import ContentFinder.Proofs.Refusals

/-! Names that a caller gives to fields. A name is for one field in one content type, and it changes
what is looked up for this field in this type only. Names for different fields or types can be given
in any order. -/

namespace ContentFinder

open Outcome

structure GivenName where
  contentType : String
  identifier : String
  name : String

namespace GivenName

def Apart (given other : GivenName) : Prop :=
  given.contentType ≠ other.contentType ∨ given.identifier ≠ other.identifier

def addTo (given : GivenName) (overrides : Overrides) : Overrides :=
  overrides.insert given.contentType given.identifier given.name

variable {given other : GivenName} {overrides : Overrides} {contentType identifier : String}

theorem addTo_comm (apart : given.Apart other) :
    other.addTo (given.addTo overrides) = given.addTo (other.addTo overrides) :=
  FieldTable.insert_comm apart _ _

theorem get?_addTo_self :
    (given.addTo overrides).get? given.contentType given.identifier = some given.name := by
  rw [addTo, FieldTable.get?_insert, if_pos ⟨rfl, rfl⟩]

theorem get?_addTo_of_ne
    (apart : given.contentType ≠ contentType ∨ given.identifier ≠ identifier) :
    (given.addTo overrides).get? contentType identifier =
      overrides.get? contentType identifier := by
  rw [addTo, FieldTable.get?_insert, if_neg (not_and_or.2 apart)]

end GivenName

namespace Schema

variable {schema : Schema} {overrides : Overrides} {given : GivenName}
  {contentType identifier base : String}

theorem baseName_addTo_of_ne
    (apart : given.contentType ≠ contentType ∨ given.identifier ≠ identifier) :
    schema.baseName (given.addTo overrides) contentType identifier =
      schema.baseName overrides contentType identifier := by
  unfold baseName
  rw [GivenName.get?_addTo_of_ne apart]

theorem hasBase_addTo_of_ne
    (apart : given.contentType ≠ contentType ∨ given.identifier ≠ identifier) :
    schema.HasBase (given.addTo overrides) contentType identifier base ↔
      schema.HasBase overrides contentType identifier base := by
  rw [← baseName_eq_ok, ← baseName_eq_ok, baseName_addTo_of_ne apart]

theorem HasBase.unique {other : String}
    (hasBase : schema.HasBase overrides contentType identifier base)
    (known : schema.HasBase overrides contentType identifier other) : base = other :=
  Except.ok.inj ((baseName_eq_ok.2 hasBase).symm.trans (baseName_eq_ok.2 known))

theorem resolve_addTo_of_ne
    (apart : given.contentType ≠ contentType ∨ given.identifier ≠ identifier) :
    schema.resolve (given.addTo overrides) contentType identifier =
      schema.resolve overrides contentType identifier := by
  funext projection
  unfold resolve
  rw [baseName_addTo_of_ne apart]

theorem typesFor_addTo_of_ne (apart : given.identifier ≠ identifier) :
    schema.typesFor (given.addTo overrides) identifier = schema.typesFor overrides identifier := by
  unfold typesFor GivenName.addTo
  rw [FieldTable.having_insert_of_ne apart]

end Schema

inductive TypedLeaf where
  | field (leaf : FieldLeaf)
  | distance (leaf : DistanceLeaf)

namespace TypedLeaf

def criterion : TypedLeaf → Criterion
  | .field leaf => .field leaf
  | .distance leaf => .distance leaf

def identifier : TypedLeaf → String
  | .field leaf => leaf.identifier
  | .distance leaf => leaf.identifier

def overrides : TypedLeaf → Overrides
  | .field leaf => leaf.overrides
  | .distance leaf => leaf.overrides

def lowerIn (leaf : TypedLeaf) (schema : Schema) (filter : LanguageFilter) (contentType : String) :
    Except Failure IndexQuery :=
  match leaf with
  | .field leaf => leaf.lowerIn schema filter contentType
  | .distance leaf => leaf.lowerIn schema filter contentType

def comparing (leaf : TypedLeaf) (schema : Schema) (contentType name : String) :
    Except Failure IndexQuery :=
  match leaf with
  | .field leaf =>
    IndexQuery.comparing name (schema.kind? contentType leaf.identifier) leaf.comparison.operator
      leaf.comparison.operand
  | .distance leaf =>
    IndexQuery.comparingDistance name leaf.latitude leaf.longitude leaf.comparison.operator
      leaf.comparison.operand

def naming (leaf : TypedLeaf) (given : GivenName) : TypedLeaf :=
  match leaf with
  | .field leaf => .field { leaf with overrides := given.addTo leaf.overrides }
  | .distance leaf => .distance { leaf with overrides := given.addTo leaf.overrides }

variable {leaf : TypedLeaf} {schema : Schema} {filter : LanguageFilter} {given other : GivenName}
  {contentType : String} {query : IndexQuery} {doc : Document}

@[simp] theorem identifier_naming : (leaf.naming given).identifier = leaf.identifier := by
  cases leaf <;> rfl

@[simp] theorem overrides_naming : (leaf.naming given).overrides = given.addTo leaf.overrides := by
  cases leaf <;> rfl

@[simp] theorem comparing_naming :
    (leaf.naming given).comparing schema = leaf.comparing schema := by
  cases leaf <;> rfl

theorem lower_criterion :
    leaf.criterion.lower schema filter = do
      let types ← schema.typesFor leaf.overrides leaf.identifier
      return .any (← types.mapM (leaf.lowerIn schema filter)) := by
  cases leaf <;> rfl

theorem expand_of_lowerIn (lowered : leaf.lowerIn schema filter contentType = .ok query) :
    filter.expand (schema.isMultilingual contentType leaf.identifier) (fun projection => do
      leaf.comparing schema contentType
        (← schema.resolve leaf.overrides contentType leaf.identifier projection)) = .ok query := by
  cases leaf with
  | field leaf => exact lowered
  | distance leaf => exact leaf.expand_of_lowerIn lowered

theorem lowerIn_naming_of_ne
    (apart : given.contentType ≠ contentType ∨ given.identifier ≠ leaf.identifier) :
    (leaf.naming given).lowerIn schema filter contentType =
      leaf.lowerIn schema filter contentType := by
  cases leaf with
  | field leaf | distance leaf =>
    have resolves : schema.resolve (given.addTo leaf.overrides) contentType leaf.identifier =
        schema.resolve leaf.overrides contentType leaf.identifier :=
      Schema.resolve_addTo_of_ne apart
    simp only [naming, lowerIn, FieldLeaf.lowerIn, DistanceLeaf.lowerIn, resolves]

/-- A name for another field does not change the query. -/
theorem lower_naming_of_ne (apart : given.identifier ≠ leaf.identifier) :
    (leaf.naming given).criterion.lower schema filter = leaf.criterion.lower schema filter := by
  have inTypes : (leaf.naming given).lowerIn schema filter = leaf.lowerIn schema filter := by
    funext contentType
    exact lowerIn_naming_of_ne (.inr apart)
  rw [lower_criterion, lower_criterion, inTypes, identifier_naming, overrides_naming,
    Schema.typesFor_addTo_of_ne apart]

theorem isMatch_lower_iff (lowered : leaf.criterion.lower schema filter = .ok query) :
    query.isMatch doc = true ↔ ∃ contentType,
      (∃ base, schema.HasBase leaf.overrides contentType leaf.identifier base) ∧
        IndexQuery.isMet doc (leaf.lowerIn schema filter contentType) = true := by
  rw [lower_criterion] at lowered
  obtain ⟨types, found, lowered⟩ := bind_eq_ok.1 lowered
  obtain ⟨queries, done, same⟩ := bind_eq_ok.1 lowered
  rw [← Except.ok.inj same, IndexQuery.isMatch_any_mapM done]
  exact exists_congr fun contentType => and_congr_left fun _ => Schema.mem_typesFor found

theorem isMet_lowerIn_iff {base : String} (lowered : leaf.criterion.lower schema filter = .ok query)
    (hasBase : schema.HasBase leaf.overrides contentType leaf.identifier base) :
    IndexQuery.isMet doc (leaf.lowerIn schema filter contentType) = true ↔
      ∃ name, filter.LooksUp doc (schema.isMultilingual contentType leaf.identifier) base name ∧
        IndexQuery.isMet doc (leaf.comparing schema contentType name) = true := by
  rw [lower_criterion] at lowered
  obtain ⟨part, inType⟩ := (Schema.lower_types_eq_ok lowered).2 contentType base hasBase
  rw [inType, IndexQuery.isMet, Schema.isMatch_expand_resolve (expand_of_lowerIn inType)]
  constructor
  · intro met
    obtain ⟨other, name, known, found⟩ := met
    rw [hasBase.unique known]
    exact ⟨name, found⟩
  · intro met
    obtain ⟨name, found⟩ := met
    exact ⟨base, name, hasBase, found⟩

theorem hasBase_naming_self (own : given.identifier = leaf.identifier) :
    schema.HasBase (leaf.naming given).overrides given.contentType (leaf.naming given).identifier
      given.name := by
  rw [overrides_naming, identifier_naming, ← own]
  exact .given _ GivenName.get?_addTo_self

theorem hasBase_naming_of_ne {base : String} (different : contentType ≠ given.contentType) :
    schema.HasBase (leaf.naming given).overrides contentType (leaf.naming given).identifier base ↔
      schema.HasBase leaf.overrides contentType leaf.identifier base := by
  rw [overrides_naming, identifier_naming, Schema.hasBase_addTo_of_ne (.inl different.symm)]

/-- A name changes what its own content type matches, and nothing else. -/
theorem isMatch_naming_iff (own : given.identifier = leaf.identifier)
    (lowered : (leaf.naming given).criterion.lower schema filter = .ok query) :
    query.isMatch doc = true ↔
      (∃ contentType, contentType ≠ given.contentType ∧
        (∃ base, schema.HasBase leaf.overrides contentType leaf.identifier base) ∧
          IndexQuery.isMet doc (leaf.lowerIn schema filter contentType) = true) ∨
      ∃ name, filter.LooksUp doc (schema.isMultilingual given.contentType leaf.identifier)
          given.name name ∧
        IndexQuery.isMet doc (leaf.comparing schema given.contentType name) = true := by
  have inOwn : IndexQuery.isMet doc
        ((leaf.naming given).lowerIn schema filter given.contentType) = true ↔
      ∃ name, filter.LooksUp doc (schema.isMultilingual given.contentType leaf.identifier)
          given.name name ∧
        IndexQuery.isMet doc (leaf.comparing schema given.contentType name) = true := by
    rw [isMet_lowerIn_iff lowered (hasBase_naming_self own), identifier_naming, comparing_naming]
  rw [isMatch_lower_iff lowered, ← inOwn]
  constructor
  · intro met
    obtain ⟨contentType, hasBase, met⟩ := met
    by_cases here : contentType = given.contentType
    · subst here
      exact .inr met
    · rw [lowerIn_naming_of_ne (.inl (Ne.symm here))] at met
      simp only [hasBase_naming_of_ne here] at hasBase
      exact .inl ⟨contentType, here, hasBase, met⟩
  · intro met
    obtain ⟨contentType, different, hasBase, met⟩ | met := met
    · refine ⟨contentType, ?_, ?_⟩
      · simpa only [hasBase_naming_of_ne different] using hasBase
      · rwa [lowerIn_naming_of_ne (.inl different.symm)]
    · exact ⟨given.contentType, ⟨_, hasBase_naming_self own⟩, met⟩

theorem naming_comm (apart : given.Apart other) :
    (leaf.naming given).naming other = (leaf.naming other).naming given := by
  cases leaf <;> simp only [naming, GivenName.addTo_comm apart]

/-- The leaf with names that are given one after another. -/
def namingAll (leaf : TypedLeaf) (givens : List GivenName) : TypedLeaf :=
  givens.foldl naming leaf

theorem namingAll_perm {givens others : List GivenName} (apart : givens.Pairwise GivenName.Apart)
    (perm : givens.Perm others) : leaf.namingAll givens = leaf.namingAll others := by
  refine perm.foldl_eq' ?_ leaf
  have swap : givens.Pairwise fun given other => ∀ leaf : TypedLeaf,
      (leaf.naming given).naming other = (leaf.naming other).naming given :=
    apart.imp fun apart _ => naming_comm apart
  exact swap.forall_of_forall_of_flip (fun _ _ _ => rfl)
    (swap.imp fun same leaf => (same leaf).symm)

/-- Names act on their own fields and types only. One for another field does not change the query.
One for the field of the leaf takes the place of what its content type was searched under, be that
type one with the field or not, and the other types with the field are searched as before. Names for
different fields or types can be given in any order. -/
theorem naming_acts_alone (leaf : TypedLeaf) (schema : Schema) (filter : LanguageFilter) :
    (∀ given, given.identifier ≠ leaf.identifier →
      (leaf.naming given).criterion.lower schema filter = leaf.criterion.lower schema filter) ∧
    (∀ given, given.identifier = leaf.identifier → ∀ query,
      (leaf.naming given).criterion.lower schema filter = .ok query → ∀ doc,
        query.isMatch doc = true ↔
          (∃ contentType, contentType ≠ given.contentType ∧
            (∃ base, schema.HasBase leaf.overrides contentType leaf.identifier base) ∧
              ∃ part, leaf.lowerIn schema filter contentType = .ok part ∧
                part.isMatch doc = true) ∨
          ∃ name, filter.LooksUp doc (schema.isMultilingual given.contentType leaf.identifier)
              given.name name ∧
            ∃ part, leaf.comparing schema given.contentType name = .ok part ∧
              part.isMatch doc = true) ∧
    ∀ givens others : List GivenName, givens.Pairwise GivenName.Apart → givens.Perm others →
      leaf.namingAll givens = leaf.namingAll others := by
  refine ⟨fun given => lower_naming_of_ne, fun given own query lowered doc => ?_,
    fun givens others => namingAll_perm⟩
  rw [isMatch_naming_iff own lowered]
  simp only [IndexQuery.isMet_iff]

end TypedLeaf

namespace Sample

def headline : GivenName := ⟨"note", "title", "headline"⟩

def motto : GivenName := ⟨"article", "motto", "line"⟩

end Sample

open Sample in
theorem TypedLeaf.naming_titleLeaf :
    ((field titleLeaf).naming motto).criterion.lower schema germanOrMain =
      (field titleLeaf).criterion.lower schema germanOrMain ∧
    (∃ query, ((field titleLeaf).naming headline).criterion.lower schema germanOrMain = .ok query ∧
      query.isMatch headed = true ∧ query.isMatch document = true) ∧
    (field titleLeaf).namingAll [headline, motto] =
      (field titleLeaf).namingAll [motto, headline] := by
  obtain ⟨others, own, order⟩ := (field titleLeaf).naming_acts_alone schema germanOrMain
  refine ⟨others motto (by decide), ⟨_, rfl, ?_, ?_⟩, order _ _ ?_ (.swap ..)⟩
  · apply (own headline rfl _ rfl headed).2
    exact .inr ⟨"headline_main", .inr ⟨rfl, by decide, rfl⟩, _, rfl, by decide⟩
  · apply (own headline rfl _ rfl document).2
    have hasTitle : schema.HasBase titleLeaf.overrides "article" "title" _ :=
      .defined ⟨"article", "title", .string, true, true⟩ rfl rfl rfl
    exact .inl ⟨"article", by decide, ⟨_, hasTitle⟩, _, rfl, by decide⟩
  · exact List.pairwise_pair.2 (.inl (by decide))

end ContentFinder
