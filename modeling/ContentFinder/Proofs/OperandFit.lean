import ContentFinder.Criterion.Leaf
import ContentFinder.Proofs.Outcome

/-! What the rows of a table accept: the operand has the shape and the length that the row asks for,
and its scalars are of listed types. -/

namespace ContentFinder

open Outcome

namespace Specification

variable {spec : Specification} {target : String} {operand : Operand}

def HasShape (spec : Specification) : Operand → Prop
  | .single _ => spec.shape = .single
  | .list values => spec.shape = .list ∧ values ≠ [] ∧ ∀ count ∈ spec.count, values.length = count

structure Fits (spec : Specification) (operand : Operand) : Prop where
  shape : spec.HasShape operand
  types : ∀ types ∈ spec.types, ∀ scalar ∈ operand.scalars, scalar.type ∈ types

theorem validateShape_eq_ok :
    spec.validateShape target operand = .ok () ↔ spec.HasShape operand := by
  cases operand with
  | single value =>
    unfold validateShape HasShape
    cases spec.shape <;> simp
  | list values =>
    unfold validateShape HasShape
    cases spec.shape with
    | single => simp
    | list =>
      cases values with
      | nil => simp
      | cons value rest =>
        cases spec.count with
        | none => simp
        | some count =>
          by_cases same : rest.length + 1 = count <;> simp [same]

theorem validateTypes_eq_ok :
    spec.validateTypes target operand = .ok () ↔
      ∀ types ∈ spec.types, ∀ scalar ∈ operand.scalars, scalar.type ∈ types := by
  unfold validateTypes
  cases spec.types with
  | none => simp
  | some types =>
    have found : (operand.scalars.find? fun value => !types.contains value.type) = none ↔
        ∀ scalar ∈ operand.scalars, scalar.type ∈ types := by
      simp
    simp only [Option.mem_some_iff, forall_eq']
    rw [← found]
    cases operand.scalars.find? fun value => !types.contains value.type <;> simp only [reduceCtorEq]

theorem validate_eq_ok : spec.validate target operand = .ok () ↔ spec.Fits operand := by
  rw [validate, mapError_eq_ok, bind_eq_ok]
  constructor
  · rintro ⟨⟨⟩, shaped, typed⟩
    exact ⟨validateShape_eq_ok.1 shaped, validateTypes_eq_ok.1 typed⟩
  · intro fits
    exact ⟨(), validateShape_eq_ok.2 fits.shape, validateTypes_eq_ok.2 fits.types⟩

end Specification

namespace SpecificationTable

variable {table : SpecificationTable} {target : String} {operator : Operator} {operand : Operand}

theorem row_eq_ok {spec : Specification} :
    table.row operator = .ok spec ↔ table.rows.find? (·.operator == operator) = some spec := by
  unfold row
  cases table.rows.find? (·.operator == operator) <;> simp

theorem validate_eq_ok :
    table.validate target operator operand = .ok () ↔
      ∃ spec, table.rows.find? (·.operator == operator) = some spec ∧ spec.Fits operand := by
  simp only [validate, bind_eq_ok, row_eq_ok, Specification.validate_eq_ok]

end SpecificationTable

theorem Comparison.make_eq_ok {table : SpecificationTable} {target : String} {operator : Operator}
    {operand : Operand} (accepted : table.validate target operator operand = .ok ()) :
    Comparison.make table target operator operand = .ok ⟨operator, operand, accepted⟩ := by
  unfold make
  split
  · rfl
  · rename_i refused
    rw [accepted] at refused
    cases refused

end ContentFinder
