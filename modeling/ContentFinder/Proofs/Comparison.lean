import ContentFinder.Lowering.Comparison
import ContentFinder.Proofs.Matching
import ContentFinder.Proofs.Outcome

/-! What a comparison says of the values of an index field. Each operator has a meaning of its own,
and the query of a comparison matches a document that has a value with that meaning. -/

namespace ContentFinder

open Outcome

/-- Whether a value lies where it should, seen from a scalar on a field of a kind. -/
def Scalar.places (kind : Option FieldKind) (scalar : Scalar) (value : IndexValue)
    (wanted : Ordering → Bool) : Bool :=
  match scalar.coerce kind with
  | .ok bound => (value.compare? bound).any wanted
  | .error _ => false

/-- Whether a value stands to an operand as the operator says. Scalars are brought to the kind of
the field first, but patterns are read as they are. -/
def Operator.accepts (operator : Operator) (kind : Option FieldKind) (operand : Operand)
    (value : IndexValue) : Bool :=
  match operator, operand with
  | .eq, .single scalar | .contains, .single scalar => scalar.places kind value Ordering.isEq
  | .gt, .single scalar => scalar.places kind value Ordering.isGT
  | .gte, .single scalar => scalar.places kind value Ordering.isGE
  | .lt, .single scalar => scalar.places kind value Ordering.isLT
  | .lte, .single scalar => scalar.places kind value Ordering.isLE
  | .isIn, operand => operand.scalars.any fun scalar => scalar.places kind value Ordering.isEq
  | .between, .list [low, high] =>
    low.places kind value Ordering.isGE && high.places kind value Ordering.isLE
  | .like, .single (.string pattern) => value.string?.any (Text.wildcardMatches · pattern)
  | _, _ => false

theorem Scalar.places_of_coerce {kind : Option FieldKind} {scalar : Scalar} {bound : IndexValue}
    (coerced : scalar.coerce kind = .ok bound) (value : IndexValue) (wanted : Ordering → Bool) :
    scalar.places kind value wanted = (value.compare? bound).any wanted := by
  rw [places, coerced]

theorem IndexValue.equals_eq_any (value bound : IndexValue) :
    value.equals bound = (value.compare? bound).any Ordering.isEq := by
  unfold equals
  cases value.compare? bound with
  | none => rfl
  | some position => cases position <;> rfl

theorem onSide_gt (inclusive : Bool) :
    (fun position => onSide position inclusive .gt) =
      if inclusive then Ordering.isGE else Ordering.isGT := by
  funext position
  cases inclusive <;> cases position <;> rfl

theorem onSide_lt (inclusive : Bool) :
    (fun position => onSide position inclusive .lt) =
      if inclusive then Ordering.isLE else Ordering.isLT := by
  funext position
  cases inclusive <;> cases position <;> rfl

namespace Operand

theorem one_eq_ok {operand : Operand} {field : String} {scalar : Scalar} :
    operand.one field = .ok scalar ↔ operand = .single scalar := by
  cases operand <;> simp [one]

theorem two_eq_ok {operand : Operand} {field : String} {ends : Scalar × Scalar} :
    operand.two field = .ok ends ↔ operand = .list [ends.1, ends.2] := by
  unfold two
  split
  · constructor <;> intro same <;> cases same <;> rfl
  · rename_i other
    constructor
    · nofun
    · exact fun same => absurd same (other _ _)

end Operand

namespace IndexQuery

variable {doc : Document} {field : String} {kind : Option FieldKind} {operator : Operator}
  {operand : Operand} {query : IndexQuery}

theorem isMatch_above (bound : IndexValue) (inclusive : Bool) :
    (above field bound inclusive).isMatch doc = (doc.get field).any fun value =>
      (value.compare? bound).any (if inclusive then Ordering.isGE else Ordering.isGT) := by
  rw [above, isMatch_range, ← onSide_gt]
  congr 1
  funext value
  simp [ValueRange.holds, ValueRange.holds.check]

theorem isMatch_beneath (bound : IndexValue) (inclusive : Bool) :
    (beneath field bound inclusive).isMatch doc = (doc.get field).any fun value =>
      (value.compare? bound).any (if inclusive then Ordering.isLE else Ordering.isLT) := by
  rw [beneath, isMatch_range, ← onSide_lt]
  rfl

theorem isMatch_between (low high : IndexValue) :
    isMatch (.range field ⟨some low, some high, true, true⟩) doc = (doc.get field).any fun value =>
      (value.compare? low).any Ordering.isGE && (value.compare? high).any Ordering.isLE := by
  have atLeast := onSide_gt true
  have atMost := onSide_lt true
  rw [if_pos rfl] at atLeast atMost
  rw [isMatch_range, ← atLeast, ← atMost]
  rfl

theorem of_compared {build : IndexValue → IndexQuery}
    (compared : (do return build (← (← operand.one field).coerce kind)) = .ok query) :
    ∃ scalar bound, operand = .single scalar ∧ scalar.coerce kind = .ok bound ∧
      query = build bound := by
  obtain ⟨scalar, given, rested⟩ := bind_eq_ok.1 compared
  obtain ⟨bound, coerced, same⟩ := bind_eq_ok.1 rested
  exact ⟨scalar, bound, Operand.one_eq_ok.1 given, coerced, (Except.ok.inj same).symm⟩

theorem isMatch_likePattern (lowered : likePattern field kind operand = .ok query) :
    query.isMatch doc = (doc.get field).any (Operator.like.accepts kind operand) := by
  unfold likePattern at lowered
  split at lowered
  · cases lowered
  · obtain ⟨-, -, lowered⟩ := bind_eq_ok.1 lowered
    obtain ⟨scalar, given, lowered⟩ := bind_eq_ok.1 lowered
    rw [Operand.one_eq_ok.1 given]
    cases scalar with
    | string pattern =>
      cases lowered
      rw [isMatch_wildcard, Document.strings, List.any_filterMap]
      rfl
    | boolean value => cases lowered
    | integer value => cases lowered
    | float value => cases lowered

theorem isMatch_comparing (lowered : comparing field kind operator operand = .ok query) :
    query.isMatch doc = (doc.get field).any (operator.accepts kind operand) := by
  cases operator with
  | eq | contains =>
    obtain ⟨scalar, bound, rfl, coerced, rfl⟩ := of_compared lowered
    rw [isMatch_term]
    congr 1
    funext value
    exact (value.equals_eq_any bound).trans (Scalar.places_of_coerce coerced value _).symm
  | gt | gte =>
    obtain ⟨scalar, bound, rfl, coerced, rfl⟩ := of_compared lowered
    rw [isMatch_above]
    exact congrArg _ (funext fun value => (Scalar.places_of_coerce coerced value _).symm)
  | lt | lte =>
    obtain ⟨scalar, bound, rfl, coerced, rfl⟩ := of_compared lowered
    rw [isMatch_beneath]
    exact congrArg _ (funext fun value => (Scalar.places_of_coerce coerced value _).symm)
  | isIn =>
    obtain ⟨bounds, coerced, same⟩ := bind_eq_ok.1 lowered
    rw [← Except.ok.inj same, isMatch_terms]
    congr 1
    funext value
    refine any_mapM coerced fun scalar _ bound made => ?_
    rw [Scalar.places_of_coerce made, IndexValue.equals_eq_any]
  | between =>
    obtain ⟨ends, given, lowered⟩ := bind_eq_ok.1 lowered
    obtain ⟨low, coercedLow, lowered⟩ := bind_eq_ok.1 lowered
    obtain ⟨high, coercedHigh, same⟩ := bind_eq_ok.1 lowered
    rw [← Except.ok.inj same, Operand.two_eq_ok.1 given, isMatch_between]
    congr 1
    funext value
    rw [Operator.accepts, Scalar.places_of_coerce coercedLow, Scalar.places_of_coerce coercedHigh]
  | like => exact isMatch_likePattern lowered

theorem exists_likePattern (compared : likePattern field kind operand = .ok query)
    (other : String) : ∃ query, likePattern other kind operand = .ok query := by
  unfold likePattern at compared ⊢
  split at compared
  · cases compared
  · rename_i textual
    obtain ⟨-, -, compared⟩ := bind_eq_ok.1 compared
    obtain ⟨scalar, given, compared⟩ := bind_eq_ok.1 compared
    rw [if_neg textual, Operand.one_eq_ok.1 given]
    cases scalar with
    | string pattern => exact ⟨_, rfl⟩
    | boolean value => cases compared
    | integer value => cases compared
    | float value => cases compared

theorem exists_comparing (compared : comparing field kind operator operand = .ok query)
    (other : String) : ∃ query, comparing other kind operator operand = .ok query := by
  cases operator with
  | eq | contains | gt | gte | lt | lte =>
    obtain ⟨scalar, bound, rfl, coerced, -⟩ := of_compared compared
    exact ⟨_, bind_eq_ok.2 ⟨scalar, rfl, bind_eq_ok.2 ⟨bound, coerced, rfl⟩⟩⟩
  | isIn =>
    obtain ⟨bounds, coerced, -⟩ := bind_eq_ok.1 compared
    exact ⟨_, bind_eq_ok.2 ⟨bounds, coerced, rfl⟩⟩
  | between =>
    obtain ⟨ends, given, compared⟩ := bind_eq_ok.1 compared
    obtain ⟨low, coercedLow, compared⟩ := bind_eq_ok.1 compared
    obtain ⟨high, coercedHigh, -⟩ := bind_eq_ok.1 compared
    have again : operand.two other = .ok ends := Operand.two_eq_ok.2 (Operand.two_eq_ok.1 given)
    exact ⟨_, bind_eq_ok.2 ⟨ends, again, bind_eq_ok.2 ⟨low, coercedLow,
      bind_eq_ok.2 ⟨high, coercedHigh, rfl⟩⟩⟩⟩
  | like => exact exists_likePattern compared other

end IndexQuery

end ContentFinder
