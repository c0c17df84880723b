import ContentFinder.Proofs.Comparison
import ContentFinder.Proofs.ExactNumbers

/-! What a comparison says of numbers. Each operator has a meaning for the numbers themselves, which
knows neither kinds of fields nor rounding. A comparison has that meaning for a stored value as soon
as the value is compared with each scalar of the operand as the numbers are. -/

namespace ContentFinder

def Scalar.exactValue? (scalar : Scalar) : Option Exact :=
  scalar.plain.exactValue?

/-- Whether a number stands to the numbers of an operand as the operator says. -/
def Operator.Relates (operator : Operator) (operand : Operand) (number : Exact) : Prop :=
  match operator, operand with
  | .eq, .single scalar | .contains, .single scalar => scalar.exactValue? = some number
  | .gt, .single scalar => ∃ asked ∈ scalar.exactValue?, asked < number
  | .gte, .single scalar => ∃ asked ∈ scalar.exactValue?, asked ≤ number
  | .lt, .single scalar => ∃ asked ∈ scalar.exactValue?, number < asked
  | .lte, .single scalar => ∃ asked ∈ scalar.exactValue?, number ≤ asked
  | .isIn, operand => ∃ scalar ∈ operand.scalars, scalar.exactValue? = some number
  | .between, .list [low, high] =>
    (∃ least ∈ low.exactValue?, least ≤ number) ∧ ∃ most ∈ high.exactValue?, number ≤ most
  | _, _ => False

namespace Exact

variable {number other : Exact}

theorem isEq_compare : (compare number other).isEq = true ↔ number = other := by
  rw [Ordering.isEq_iff_eq_eq, compare_eq_iff_eq]

theorem isLT_compare : (compare number other).isLT = true ↔ number < other := by
  rw [Ordering.isLT_iff_eq_lt, compare_lt_iff_lt]

theorem isGT_compare : (compare number other).isGT = true ↔ other < number := by
  rw [Ordering.isGT_iff_eq_gt, compare_gt_iff_gt]

theorem isLE_compare : (compare number other).isLE = true ↔ number ≤ other := by
  rw [← Bool.not_eq_false, ← not_lt, ← isGT_compare]
  cases compare number other <;> decide

theorem isGE_compare : (compare number other).isGE = true ↔ other ≤ number := by
  rw [← not_lt, ← isLT_compare]
  cases compare number other <;> decide

end Exact

namespace Scalar

variable {kind : Option FieldKind} {value : IndexValue} {number : Exact} {scalar : Scalar}

/-- On a field of a kind, a value is compared with a scalar as a number is with that of the
scalar. -/
def ComparesAs (kind : Option FieldKind) (value : IndexValue) (number : Exact) (scalar : Scalar) :
    Prop :=
  ∃ bound asked, scalar.coerce kind = .ok bound ∧ scalar.exactValue? = some asked ∧
    value.compare? bound = some (compare number asked)

theorem ComparesAs.places_iff {wanted : Ordering → Bool} {holds : Exact → Prop}
    (compares : scalar.ComparesAs kind value number)
    (meaning : ∀ asked, wanted (compare number asked) = true ↔ holds asked) :
    scalar.places kind value wanted = true ↔ ∃ asked ∈ scalar.exactValue?, holds asked := by
  obtain ⟨bound, asked, coerced, valued, position⟩ := compares
  rw [places_of_coerce coerced, position, Option.any_some, meaning, valued]
  simp

theorem ComparesAs.isEq_iff (compares : scalar.ComparesAs kind value number) :
    scalar.places kind value Ordering.isEq = true ↔ scalar.exactValue? = some number := by
  rw [compares.places_iff fun _ => Exact.isEq_compare]
  simp

end Scalar

/-- An operator accepts a value for the number that the value is compared as. -/
theorem Operator.accepts_iff_relates {operator : Operator} {kind : Option FieldKind}
    {operand : Operand} {value : IndexValue} {number : Exact} (noText : value.string? = none)
    (compares : ∀ scalar ∈ operand.scalars, scalar.ComparesAs kind value number) :
    operator.accepts kind operand value = true ↔ operator.Relates operand number := by
  unfold accepts Relates
  split
  · exact (compares _ (List.mem_singleton_self _)).isEq_iff
  · exact (compares _ (List.mem_singleton_self _)).isEq_iff
  · exact (compares _ (List.mem_singleton_self _)).places_iff fun _ => Exact.isGT_compare
  · exact (compares _ (List.mem_singleton_self _)).places_iff fun _ => Exact.isGE_compare
  · exact (compares _ (List.mem_singleton_self _)).places_iff fun _ => Exact.isLT_compare
  · exact (compares _ (List.mem_singleton_self _)).places_iff fun _ => Exact.isLE_compare
  · rw [List.any_eq_true]
    exact exists_congr fun scalar => and_congr_right fun given => (compares scalar given).isEq_iff
  · rename_i low high
    have atLeast := compares low (by simp [Operand.scalars])
    have atMost := compares high (by simp [Operand.scalars])
    rw [Bool.and_eq_true, atLeast.places_iff fun _ => Exact.isGE_compare,
      atMost.places_iff fun _ => Exact.isLE_compare]
  · simp [noText]
  · simp

end ContentFinder
