import ContentFinder.Proofs.DefinitionLists

/-! Definitions that are added one by one. Some are refused, and the schema answers by those that
were accepted, whatever their order. -/

namespace ContentFinder

open Outcome

namespace Schema

variable {schema next : Schema} {accepted definitions : List FieldDefinition}
  {definition : FieldDefinition}

def known (schema : Schema) : List FieldDefinition :=
  schema.traits.entries.map fun entry => ⟨entry.1, entry.2.1, entry.2.2⟩

theorem mem_known :
    definition ∈ schema.known ↔
      schema.definition? definition.contentType definition.identifier = some definition := by
  rw [known, List.mem_map, definition?_eq_some]
  constructor
  · rintro ⟨⟨contentType, identifier, traits⟩, member, rfl⟩
    exact ⟨rfl, rfl, FieldTable.mem_entries.1 member⟩
  · rintro ⟨-, -, got⟩
    exact ⟨(definition.contentType, definition.identifier, definition.traits),
      FieldTable.mem_entries.2 got, rfl⟩

theorem nodup_known (schema : Schema) : schema.known.Nodup := by
  apply schema.traits.nodup_entries.map
  intro entry other same
  obtain ⟨types, identifiers, traits⟩ := FieldDefinition.mk.inj same
  exact Prod.ext types (Prod.ext identifiers traits)

theorem length_known (schema : Schema) : schema.known.length = schema.size := by
  rw [known, List.length_map, size, FieldTable.size_eq_length]

/-! Answers. -/

/-- A schema knows the definitions of a list and no others, and lists each of them once. -/
structure Answers (schema : Schema) (accepted : List FieldDefinition) : Prop where
  definition?_iff : ∀ contentType identifier definition,
    schema.definition? contentType identifier = some definition ↔
      definition ∈ accepted ∧ definition.contentType = contentType ∧
        definition.identifier = identifier
  definitionsFor_perm : ∀ identifier,
    (schema.definitionsFor identifier).Perm (accepted.filter (·.identifier == identifier))
  definitionsFor_ascending : ∀ identifier,
    (schema.definitionsFor identifier).Pairwise fun a b => a.contentType < b.contentType
  fieldsOf_perm : ∀ contentType,
    (schema.fieldsOf contentType).Perm (accepted.filter (·.contentType == contentType))
  fieldsOf_ascending : ∀ contentType,
    (schema.fieldsOf contentType).Pairwise fun a b => a.identifier < b.identifier
  size_eq : schema.size = accepted.length

theorem answers_of_ofDefinitions (built : ofDefinitions accepted = .ok schema) :
    schema.Answers accepted where
  definition?_iff _ _ _ := definition?_ofDefinitions built
  definitionsFor_perm identifier := by
    have once := nodup_of_ascending FieldDefinition.contentType
      (schema.definitionsFor_ascending identifier)
    refine (List.perm_ext_iff_of_nodup once ((nodup_of_ofDefinitions built).filter _)).2 ?_
    intro definition
    rw [mem_definitionsFor, definition?_ofDefinitions built]
    simp
  definitionsFor_ascending := schema.definitionsFor_ascending
  fieldsOf_perm contentType := by
    have once := nodup_of_ascending FieldDefinition.identifier
      (schema.fieldsOf_ascending contentType)
    refine (List.perm_ext_iff_of_nodup once ((nodup_of_ofDefinitions built).filter _)).2 ?_
    intro definition
    rw [mem_fieldsOf, definition?_ofDefinitions built]
    simp
  fieldsOf_ascending := schema.fieldsOf_ascending
  size_eq := by
    have perm : schema.known.Perm accepted := by
      refine (List.perm_ext_iff_of_nodup schema.nodup_known
        (nodup_of_ofDefinitions built)).2 fun definition => ?_
      rw [mem_known, definition?_ofDefinitions built]
      simp
    rw [← length_known, perm.length_eq]

/-! Order. -/

def enter (table : FieldTable FieldTraits) (definition : FieldDefinition) :
    FieldTable FieldTraits :=
  table.insert definition.contentType definition.identifier definition.traits

theorem traits_of_define (added : schema.define definition = .ok next) :
    next.traits = enter schema.traits definition := by
  unfold define at added
  split at added
  · cases added
  · split at added
    · cases added
    · cases added
      rfl

theorem traits_of_foldlM (built : definitions.foldlM define schema = .ok next) :
    next.traits = definitions.foldl enter schema.traits := by
  induction definitions generalizing schema with
  | nil =>
    cases built
    rfl
  | cons definition rest ih =>
    rw [List.foldlM_cons] at built
    obtain ⟨middle, added, later⟩ := bind_eq_ok.1 built
    rw [ih later, traits_of_define added, List.foldl_cons]

theorem wellNamed_perm {order : List FieldDefinition} (perm : order.Perm definitions)
    (fine : WellNamed definitions) : WellNamed order := by
  refine ⟨fun definition member => fine.1 definition (perm.subset member), ?_⟩
  refine (perm.pairwise_iff fun apart same => ?_).2 fine.2
  exact apart ⟨same.1.symm, same.2.symm⟩

/-- The order of the definitions has no part in the schema. -/
theorem ofDefinitions_perm {order : List FieldDefinition}
    (built : ofDefinitions definitions = .ok schema) (perm : order.Perm definitions) :
    ofDefinitions order = .ok schema := by
  have fine : WellNamed order := wellNamed_perm perm (exists_ofDefinitions_iff.1 ⟨schema, built⟩)
  obtain ⟨other, made⟩ := exists_ofDefinitions_iff.2 fine
  have swap : ∀ first ∈ order, ∀ second ∈ order, ∀ table,
      enter (enter table first) second = enter (enter table second) first := by
    intro first here second there table
    by_cases same : first.SameNames second
    · rw [fine.eq_of_sameNames here there same]
    · exact FieldTable.insert_comm (not_and_or.1 same) _ _
  have traits : other.traits = schema.traits := by
    calc other.traits = order.foldl enter Schema.empty.traits := traits_of_foldlM made
      _ = definitions.foldl enter Schema.empty.traits := perm.foldl_eq' swap _
      _ = schema.traits := (traits_of_foldlM built).symm
  rw [made]
  exact congrArg (fun traits => Except.ok (Schema.mk traits)) traits

/-! Attempts. -/

def attempt (schema : Schema) (definition : FieldDefinition) : Schema :=
  match schema.define definition with
  | .ok next => next
  | .error _ => schema

def attemptAll (attempts : List FieldDefinition) : Schema :=
  attempts.foldl attempt empty

/-- Those of the definitions that are accepted when all are tried in order. -/
def acceptedOf (schema : Schema) : List FieldDefinition → List FieldDefinition
  | [] => []
  | definition :: rest =>
    match schema.define definition with
    | .ok next => definition :: acceptedOf next rest
    | .error _ => acceptedOf schema rest

theorem foldlM_acceptedOf (schema : Schema) (attempts : List FieldDefinition) :
    (acceptedOf schema attempts).foldlM define schema = .ok (attempts.foldl attempt schema) := by
  induction attempts generalizing schema with
  | nil => rfl
  | cons definition rest ih =>
    rw [acceptedOf, List.foldl_cons, attempt]
    cases added : schema.define definition with
    | ok next =>
      show (definition :: acceptedOf next rest).foldlM define schema = _
      rw [List.foldlM_cons, added, ok_bind]
      exact ih next
    | error failure => exact ih schema

theorem ofDefinitions_acceptedOf (attempts : List FieldDefinition) :
    ofDefinitions (acceptedOf empty attempts) = .ok (attemptAll attempts) :=
  foldlM_acceptedOf empty attempts

theorem acceptedOf_append (schema : Schema) (attempts later : List FieldDefinition) :
    acceptedOf schema (attempts ++ later) =
      acceptedOf schema attempts ++ acceptedOf (attempts.foldl attempt schema) later := by
  induction attempts generalizing schema with
  | nil => rfl
  | cons definition rest ih =>
    rw [List.cons_append, acceptedOf, acceptedOf, List.foldl_cons, attempt]
    cases schema.define definition with
    | ok next => exact congrArg (definition :: ·) (ih next)
    | error failure => exact ih schema

theorem acceptedOf_of_foldlM (built : definitions.foldlM define schema = .ok next) :
    acceptedOf schema definitions = definitions := by
  induction definitions generalizing schema with
  | nil => rfl
  | cons definition rest ih =>
    rw [List.foldlM_cons] at built
    obtain ⟨middle, added, later⟩ := bind_eq_ok.1 built
    rw [acceptedOf, added]
    exact congrArg (definition :: ·) (ih later)

theorem attemptAll_of_ofDefinitions (built : ofDefinitions definitions = .ok schema) :
    attemptAll definitions = schema := by
  have whole := ofDefinitions_acceptedOf definitions
  rw [acceptedOf_of_foldlM built, built] at whole
  exact (Except.ok.inj whole).symm

end Schema

end ContentFinder
