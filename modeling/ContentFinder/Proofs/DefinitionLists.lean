import Mathlib.Data.List.Induction
import ContentFinder.Proofs.Definitions

/-! Lists of definitions. A schema can be built from a list when each definition has both names and
none has those of an earlier one. From any other list it fails, at the first definition that offends
and by what is wrong with that one. -/

namespace ContentFinder

open Outcome

namespace FieldDefinition

def IsNamed (definition : FieldDefinition) : Prop :=
  definition.contentType ≠ "" ∧ definition.identifier ≠ ""

theorem not_isNamed_iff {definition : FieldDefinition} :
    ¬definition.IsNamed ↔ definition.contentType = "" ∨ definition.identifier = "" := by
  rw [IsNamed, not_and_or, not_not, not_not]

def SameNames (definition other : FieldDefinition) : Prop :=
  definition.contentType = other.contentType ∧ definition.identifier = other.identifier

end FieldDefinition

inductive Offence where
  | unnamed
  | repeated (contentType identifier : String)

def Offence.failure : Offence → Failure
  | .unnamed => .config .unnamedDefinition
  | .repeated contentType identifier => .config (.repeatedDefinition contentType identifier)

/-- What is wrong with a definition behind others. Names that are missing count first. -/
inductive Offends (before : List FieldDefinition) (definition : FieldDefinition) :
    Offence → Prop where
  | unnamed (nameless : ¬definition.IsNamed) : Offends before definition .unnamed
  | repeated {earlier : FieldDefinition} (named : definition.IsNamed) (member : earlier ∈ before)
      (same : earlier.SameNames definition) :
      Offends before definition (.repeated definition.contentType definition.identifier)

def Fits (before : List FieldDefinition) (definition : FieldDefinition) : Prop :=
  definition.IsNamed ∧ ∀ earlier ∈ before, ¬earlier.SameNames definition

/-- Whether nothing is wrong with any definition behind those before it. -/
def WellNamed (definitions : List FieldDefinition) : Prop :=
  (∀ definition ∈ definitions, definition.IsNamed) ∧
    definitions.Pairwise fun earlier definition => ¬earlier.SameNames definition

/-- The place of the first definition that offends, and its offence. -/
structure FirstOffence (definitions : List FieldDefinition) (place : Nat) (offence : Offence) :
    Prop where
  fine : WellNamed (definitions.take place)
  offends : ∃ definition, definitions[place]? = some definition ∧
    Offends (definitions.take place) definition offence

section Lists

variable {before definitions : List FieldDefinition} {definition : FieldDefinition}
  {place : Nat} {offence : Offence}

theorem fits_or_offends (before : List FieldDefinition) (definition : FieldDefinition) :
    Fits before definition ∨ ∃ offence, Offends before definition offence := by
  by_cases named : definition.IsNamed
  · by_cases repeats : ∃ earlier ∈ before, earlier.SameNames definition
    · obtain ⟨earlier, member, same⟩ := repeats
      exact .inr ⟨_, .repeated named member same⟩
    · exact .inl ⟨named, fun earlier member same => repeats ⟨earlier, member, same⟩⟩
  · exact .inr ⟨_, .unnamed named⟩

theorem wellNamed_nil : WellNamed [] := by
  simp [WellNamed]

theorem wellNamed_append_singleton :
    WellNamed (before ++ [definition]) ↔ WellNamed before ∧ Fits before definition := by
  simp only [WellNamed, Fits, List.forall_mem_append, List.forall_mem_singleton,
    List.pairwise_append, List.pairwise_singleton, true_and]
  exact and_and_and_comm

theorem WellNamed.sublist {others : List FieldDefinition} (fine : WellNamed definitions)
    (part : others.Sublist definitions) : WellNamed others :=
  ⟨fun definition member => fine.1 definition (part.subset member), fine.2.sublist part⟩

theorem WellNamed.eq_of_sameNames {other : FieldDefinition} (fine : WellNamed definitions)
    (member : definition ∈ definitions) (also : other ∈ definitions)
    (same : definition.SameNames other) : definition = other := by
  have names : (definitions.map fun definition =>
      (definition.contentType, definition.identifier)).Nodup := by
    refine List.pairwise_map.2 (fine.2.imp fun apart same => apart ?_)
    exact Prod.mk.inj same
  exact List.inj_on_of_nodup_map names member also (Prod.ext same.1 same.2)

theorem exists_firstOffence (faulty : ¬WellNamed definitions) :
    ∃ place offence, FirstOffence definitions place offence := by
  induction definitions using List.reverseRecOn with
  | nil => exact absurd wellNamed_nil faulty
  | append_singleton before definition ih =>
    by_cases fine : WellNamed before
    · rw [wellNamed_append_singleton] at faulty
      have misfit : ¬Fits before definition := fun fits => faulty ⟨fine, fits⟩
      obtain ⟨offence, offends⟩ := (fits_or_offends before definition).resolve_left misfit
      refine ⟨before.length, offence, ?_, definition, ?_, ?_⟩
      · rwa [List.take_left]
      · exact List.getElem?_concat_length
      · rwa [List.take_left]
    · obtain ⟨place, offence, first⟩ := ih fine
      obtain ⟨culprit, found, offends⟩ := first.offends
      have inside : place < before.length := (List.getElem?_eq_some_iff.1 found).1
      have same : (before ++ [definition]).take place = before.take place :=
        List.take_append_of_le_length (Nat.le_of_lt inside)
      refine ⟨place, offence, same ▸ first.fine, culprit, ?_, same ▸ offends⟩
      rwa [List.getElem?_append_left inside]

theorem FirstOffence.split (first : FirstOffence definitions place offence) :
    ∃ before definition after, definitions = before ++ definition :: after ∧
      before.length = place ∧ WellNamed before ∧ Offends before definition offence := by
  obtain ⟨definition, found, offends⟩ := first.offends
  obtain ⟨inside, here⟩ := List.getElem?_eq_some_iff.1 found
  refine ⟨definitions.take place, definition, definitions.drop (place + 1), ?_, ?_, first.fine,
    offends⟩
  · rw [← here, List.getElem_cons_drop, List.take_append_drop]
  · exact List.length_take_of_le (Nat.le_of_lt inside)

theorem FirstOffence.take (first : FirstOffence definitions place offence) {count : Nat}
    (reached : place < count) : FirstOffence (definitions.take count) place offence := by
  obtain ⟨definition, found, offends⟩ := first.offends
  have same : (definitions.take count).take place = definitions.take place := by
    rw [List.take_take, Nat.min_eq_left (Nat.le_of_lt reached)]
  refine ⟨same ▸ first.fine, definition, ?_, same ▸ offends⟩
  rw [List.getElem?_take_of_lt reached, found]

end Lists

namespace Schema

variable {schema : Schema} {before definitions : List FieldDefinition}
  {definition : FieldDefinition} {offence : Offence} {place : Nat}

section Next

variable (built : ofDefinitions before = .ok schema)

include built

theorem isSome_definition?_iff :
    (schema.definition? definition.contentType definition.identifier).isSome = true ↔
      ∃ earlier ∈ before, earlier.SameNames definition := by
  rw [Option.isSome_iff_exists]
  exact exists_congr fun earlier => definition?_ofDefinitions built

theorem define_of_offends (offends : Offends before definition offence) :
    schema.define definition = .error offence.failure := by
  unfold define
  cases offends with
  | unnamed nameless =>
    rw [if_pos (FieldDefinition.not_isNamed_iff.1 nameless)]
    rfl
  | repeated named member same =>
    have known := (isSome_definition?_iff built).2 ⟨_, member, same⟩
    rw [if_neg (not_or.2 named), if_pos known]
    rfl

theorem define_of_fits (fits : Fits before definition) :
    ∃ next, schema.define definition = .ok next := by
  have fresh :
      ¬(schema.definition? definition.contentType definition.identifier).isSome = true := by
    intro known
    obtain ⟨earlier, member, same⟩ := (isSome_definition?_iff built).1 known
    exact fits.2 earlier member same
  unfold define
  rw [if_neg (not_or.2 fits.1), if_neg fresh]
  exact ⟨_, rfl⟩

theorem define_eq_error_iff {failure : Failure} :
    schema.define definition = .error failure ↔
      ∃ offence, Offends before definition offence ∧ offence.failure = failure := by
  constructor
  · intro failed
    obtain fits | ⟨offence, offends⟩ := fits_or_offends before definition
    · obtain ⟨next, added⟩ := define_of_fits built fits
      rw [added] at failed
      cases failed
    · rw [define_of_offends built offends] at failed
      exact ⟨offence, offends, Except.error.inj failed⟩
  · rintro ⟨offence, offends, rfl⟩
    exact define_of_offends built offends

end Next

theorem ofDefinitions_append_cons (before after : List FieldDefinition)
    (definition : FieldDefinition) :
    ofDefinitions (before ++ definition :: after) = (do
      let schema ← ofDefinitions before
      let next ← schema.define definition
      after.foldlM define next) := by
  unfold ofDefinitions
  rw [List.foldlM_append]
  rfl

theorem exists_ofDefinitions_iff :
    (∃ schema, ofDefinitions definitions = .ok schema) ↔ WellNamed definitions := by
  induction definitions using List.reverseRecOn with
  | nil => exact ⟨fun _ => wellNamed_nil, fun _ => ⟨empty, rfl⟩⟩
  | append_singleton before definition ih =>
    rw [ofDefinitions_append_cons, wellNamed_append_singleton, ← ih]
    constructor
    · rintro ⟨last, built⟩
      obtain ⟨schema, front, built⟩ := bind_eq_ok.1 built
      obtain ⟨next, added, -⟩ := bind_eq_ok.1 built
      obtain fits | ⟨offence, offends⟩ := fits_or_offends before definition
      · exact ⟨⟨schema, front⟩, fits⟩
      · rw [define_of_offends front offends] at added
        cases added
    · rintro ⟨⟨schema, front⟩, fits⟩
      obtain ⟨next, added⟩ := define_of_fits front fits
      exact ⟨next, bind_eq_ok.2 ⟨schema, front, bind_eq_ok.2 ⟨next, added, rfl⟩⟩⟩

/-- The first definition that offends decides how the list fails. -/
theorem ofDefinitions_of_firstOffence (first : FirstOffence definitions place offence) :
    ofDefinitions definitions = .error offence.failure := by
  obtain ⟨before, definition, after, rfl, -, fine, offends⟩ := first.split
  obtain ⟨schema, built⟩ := exists_ofDefinitions_iff.2 fine
  rw [ofDefinitions_append_cons, built, ok_bind, define_of_offends built offends]
  rfl

end Schema

end ContentFinder
