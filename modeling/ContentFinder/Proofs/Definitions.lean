import ContentFinder.Proofs.Outcome
import ContentFinder.Proofs.Tables

/-! The definitions that a schema knows. A schema built from a list of definitions knows these and
no others, and each of its lists is in ascending order. -/

namespace ContentFinder

open Outcome

namespace Schema

variable {schema next : Schema} {contentType identifier : String} {definition : FieldDefinition}

theorem names_of_definition? (found : schema.definition? contentType identifier = some definition) :
    definition.contentType = contentType ∧ definition.identifier = identifier := by
  obtain ⟨traits, -, rfl⟩ := Option.map_eq_some_iff.1 found
  exact ⟨rfl, rfl⟩

theorem definition?_eq_some :
    schema.definition? contentType identifier = some definition ↔
      definition.contentType = contentType ∧ definition.identifier = identifier ∧
        schema.traits.get? contentType identifier = some definition.traits := by
  constructor
  · intro found
    obtain ⟨traits, got, rfl⟩ := Option.map_eq_some_iff.1 found
    exact ⟨rfl, rfl, got⟩
  · rintro ⟨rfl, rfl, got⟩
    rw [definition?, got]
    rfl

theorem mem_definitionsFor :
    definition ∈ schema.definitionsFor identifier ↔
      schema.definition? definition.contentType identifier = some definition := by
  rw [definitionsFor, List.mem_map, definition?_eq_some]
  constructor
  · rintro ⟨⟨type, traits⟩, member, rfl⟩
    exact ⟨rfl, rfl, FieldTable.mem_having.1 member⟩
  · rintro ⟨-, rfl, got⟩
    exact ⟨(definition.contentType, definition.traits), FieldTable.mem_having.2 got, rfl⟩

theorem mem_fieldsOf :
    definition ∈ schema.fieldsOf contentType ↔
      schema.definition? contentType definition.identifier = some definition := by
  rw [fieldsOf, List.mem_map, definition?_eq_some]
  constructor
  · rintro ⟨⟨identifier, traits⟩, member, rfl⟩
    exact ⟨rfl, rfl, FieldTable.mem_ofType.1 member⟩
  · rintro ⟨rfl, -, got⟩
    exact ⟨(definition.identifier, definition.traits), FieldTable.mem_ofType.2 got, rfl⟩

theorem definitionsFor_ascending (schema : Schema) (identifier : String) :
    (schema.definitionsFor identifier).Pairwise fun a b => a.contentType < b.contentType := by
  rw [definitionsFor, List.pairwise_map]
  exact schema.traits.having_ascending identifier

theorem fieldsOf_ascending (schema : Schema) (contentType : String) :
    (schema.fieldsOf contentType).Pairwise fun a b => a.identifier < b.identifier := by
  rw [fieldsOf, List.pairwise_map]
  exact schema.traits.ofType_ascending contentType

theorem definition?_define (added : schema.define definition = .ok next)
    (contentType identifier : String) :
    schema.definition? definition.contentType definition.identifier = none ∧
    next.definition? contentType identifier =
      if definition.contentType = contentType ∧ definition.identifier = identifier then
        some definition
      else schema.definition? contentType identifier := by
  unfold define at added
  split at added
  · cases added
  · split at added
    · cases added
    · rename_i fresh
      cases added
      refine ⟨Option.not_isSome_iff_eq_none.1 fresh, ?_⟩
      rw [definition?, FieldTable.get?_insert]
      split
      · rename_i same
        obtain ⟨rfl, rfl⟩ := same
        rfl
      · rfl

theorem definition?_foldlM {definitions : List FieldDefinition}
    (built : definitions.foldlM define schema = .ok next) :
    next.definition? contentType identifier = some definition ↔
      schema.definition? contentType identifier = some definition ∨
        definition ∈ definitions ∧ definition.contentType = contentType ∧
          definition.identifier = identifier := by
  induction definitions generalizing schema with
  | nil =>
    cases built
    simp
  | cons first rest ih =>
    rw [List.foldlM_cons] at built
    obtain ⟨middle, added, later⟩ := bind_eq_ok.1 built
    obtain ⟨fresh, looked⟩ := definition?_define added contentType identifier
    rw [ih later, looked]
    by_cases same : first.contentType = contentType ∧ first.identifier = identifier
    · rw [if_pos same]
      obtain ⟨rfl, rfl⟩ := same
      rw [fresh]
      constructor
      · rintro (here | ⟨member, names⟩)
        · cases here
          exact .inr ⟨List.mem_cons_self, rfl, rfl⟩
        · exact .inr ⟨List.mem_cons_of_mem _ member, names⟩
      · rintro (absent | ⟨member, names⟩)
        · cases absent
        · rcases List.mem_cons.1 member with rfl | later
          · exact .inl rfl
          · exact .inr ⟨later, names⟩
    · rw [if_neg same]
      constructor
      · exact Or.imp_right fun ⟨member, names⟩ => ⟨List.mem_cons_of_mem _ member, names⟩
      · rintro (before | ⟨member, names⟩)
        · exact .inl before
        · rcases List.mem_cons.1 member with rfl | later
          · exact absurd names same
          · exact .inr ⟨later, names⟩

/-- A schema knows the definitions that it was built from. -/
theorem definition?_ofDefinitions {definitions : List FieldDefinition}
    (built : ofDefinitions definitions = .ok schema) :
    schema.definition? contentType identifier = some definition ↔
      definition ∈ definitions ∧ definition.contentType = contentType ∧
        definition.identifier = identifier := by
  have empty : Schema.empty.definition? contentType identifier = none := rfl
  rw [definition?_foldlM built, empty]
  simp

theorem fresh_of_foldlM {definitions : List FieldDefinition}
    (built : definitions.foldlM define schema = .ok next) :
    ∀ definition ∈ definitions,
      schema.definition? definition.contentType definition.identifier = none := by
  induction definitions generalizing schema with
  | nil => simp
  | cons first rest ih =>
    rw [List.foldlM_cons] at built
    obtain ⟨middle, added, later⟩ := bind_eq_ok.1 built
    refine List.forall_mem_cons.2 ⟨(definition?_define added "" "").1, fun definition member => ?_⟩
    have absent := ih later definition member
    rw [(definition?_define added _ _).2] at absent
    split at absent
    · cases absent
    · exact absent

theorem names_apart {definitions : List FieldDefinition}
    (built : definitions.foldlM define schema = .ok next) :
    definitions.Pairwise fun a b =>
      ¬(a.contentType = b.contentType ∧ a.identifier = b.identifier) := by
  induction definitions generalizing schema with
  | nil => exact .nil
  | cons first rest ih =>
    rw [List.foldlM_cons] at built
    obtain ⟨middle, added, later⟩ := bind_eq_ok.1 built
    refine List.pairwise_cons.2 ⟨fun definition member same => ?_, ih later⟩
    have absent := fresh_of_foldlM later definition member
    rw [(definition?_define added _ _).2, if_pos same] at absent
    cases absent

end Schema

namespace FieldDefinition

variable {definitions : List FieldDefinition} {contentType : String}

def searchableOf (definitions : List FieldDefinition) (contentType : String) :
    List FieldDefinition :=
  (definitions.filter fun definition =>
    definition.contentType == contentType && definition.traits.searchable).mergeSort
      fun a b => a.identifier ≤ b.identifier

theorem mem_searchableOf {definition : FieldDefinition} :
    definition ∈ searchableOf definitions contentType ↔
      definition ∈ definitions ∧ definition.contentType = contentType ∧
        definition.traits.searchable = true := by
  rw [searchableOf, List.mem_mergeSort, List.mem_filter, Bool.and_eq_true, beq_iff_eq]

theorem searchableOf_ascending (definitions : List FieldDefinition) (contentType : String) :
    (searchableOf definitions contentType).Pairwise fun a b => a.identifier ≤ b.identifier :=
  mergeSort_pairwise FieldDefinition.identifier _

theorem nodup_searchableOf (nodup : definitions.Nodup) :
    (searchableOf definitions contentType).Nodup :=
  (List.mergeSort_perm _ _).nodup_iff.2 (nodup.filter _)

end FieldDefinition

namespace Schema

variable {schema : Schema} {definitions : List FieldDefinition}

theorem nodup_of_ofDefinitions (built : ofDefinitions definitions = .ok schema) :
    definitions.Nodup :=
  (names_apart built).imp fun apart same => apart ⟨by rw [same], by rw [same]⟩

theorem searchable_fieldsOf (built : ofDefinitions definitions = .ok schema)
    (contentType : String) :
    (schema.fieldsOf contentType).filter (·.traits.searchable) =
      FieldDefinition.searchableOf definitions contentType := by
  have members : ∀ definition : FieldDefinition,
      definition ∈ (schema.fieldsOf contentType).filter (·.traits.searchable) ↔
        definition ∈ FieldDefinition.searchableOf definitions contentType := by
    intro definition
    rw [FieldDefinition.mem_searchableOf, List.mem_filter, mem_fieldsOf,
      definition?_ofDefinitions built]
    simp [and_assoc]
  have ascending : ((schema.fieldsOf contentType).filter (·.traits.searchable)).Pairwise
      fun a b => a.identifier < b.identifier :=
    (schema.fieldsOf_ascending contentType).filter _
  have perm := (List.perm_ext_iff_of_nodup (nodup_of_ascending FieldDefinition.identifier ascending)
    (FieldDefinition.nodup_searchableOf (nodup_of_ofDefinitions built))).2 members
  exact (eq_of_sorted FieldDefinition.identifier perm.symm
    (FieldDefinition.searchableOf_ascending definitions contentType) ascending).symm

end Schema

end ContentFinder
