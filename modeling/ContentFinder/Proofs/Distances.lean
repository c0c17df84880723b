import ContentFinder.Proofs.AskedNumbers
import ContentFinder.Proofs.Refusals

/-! Distances as numbers. A leaf accepts its distances by the order of the numbers, and a distance
that was measured is compared with them by the places of doubles. The two agree on all numbers but
zero, which has two places, and on integers that are rounded. What is no number passes the check
of the leaf, since it lies below nothing, and has a place beyond all numbers. -/

namespace ContentFinder

open Number Outcome

namespace Radius

def admits (radius : Radius) (away : Double) : Bool :=
  holds.check away radius.least radius.includeLeast .gt &&
    holds.check away radius.most radius.includeMost .lt

theorem holds_eq_admits (radius : Radius) (point : Double × Double) :
    radius.holds point = radius.admits (distance (radius.latitude, radius.longitude) point) := rfl

end Radius

section Accepts

variable {scalar : Scalar} {away number : Double}

theorem Scalar.number?_plain (scalar : Scalar) : scalar.plain.number? = scalar.number? := by
  cases scalar <;> rfl

theorem Scalar.places_float (read : scalar.number? = some number) (wanted : Ordering → Bool) :
    scalar.places none (.float away) wanted = wanted (away.compareTotal number) := by
  have rounded := scalar.number?_plain.trans read
  rw [places_of_coerce rfl, IndexValue.compare?_doubles rfl rounded (by simp [IndexValue.integer?]),
    Option.any_some]

/-- A comparison of distances has a radius that admits what its operator accepts. -/
theorem IndexQuery.exists_admits {field : String} {latitude longitude : Double}
    {operator : Operator} {operand : Operand} {query : IndexQuery}
    (compared : comparingDistance field latitude longitude operator operand = .ok query) :
    ∃ radius, query = .geoDistance field radius ∧ radius.latitude = latitude ∧
      radius.longitude = longitude ∧
      ∀ away, radius.admits away = operator.accepts none operand (.float away) := by
  have atLeast := fun inclusive position => congrFun (onSide_gt inclusive) position
  have atMost := fun inclusive position => congrFun (onSide_lt inclusive) position
  cases operator with
  | gt | gte | lt | lte =>
    obtain ⟨number, given, same⟩ := bind_eq_ok.1 compared
    obtain ⟨scalar, rfl, read⟩ := one_kilometres_eq_ok.1 given
    cases same
    refine ⟨_, rfl, rfl, rfl, fun away => ?_⟩
    simp [Radius.admits, Radius.holds.check, Operator.accepts, Scalar.places_float read, atLeast,
      atMost]
  | between =>
    obtain ⟨ends, given, compared⟩ := bind_eq_ok.1 compared
    obtain ⟨low, readLow, compared⟩ := bind_eq_ok.1 compared
    obtain ⟨high, readHigh, same⟩ := bind_eq_ok.1 compared
    rw [kilometres_eq_ok] at readLow readHigh
    cases same
    refine ⟨_, rfl, rfl, rfl, fun away => ?_⟩
    simp [Radius.admits, Radius.holds.check, Operator.accepts, Operand.two_eq_ok.1 given,
      Scalar.places_float readLow, Scalar.places_float readHigh, atLeast, atMost]
  | eq | contains | isIn | like => cases compared

end Accepts

/-! Accepted distances. -/

namespace IndexValue

theorem ofRat_zero_le {units : Int} (notNegative : 0 ≤ units)
    (fits : units.natAbs ≤ Format.double.unitsAt Format.double.infinityRank) :
    Exact.ofRat 0 ≤ Exact.ofUnits .double units := by
  rw [← ofUnits_zero, ← not_lt, ← compare_gt_iff_gt,
    Exact.compare_ofUnits (Nat.zero_le _) fits, compare_gt_iff_gt]
  exact Int.not_lt.2 notNegative

theorem units_neg_of_neg {number : Int} (negative : number < 0) :
    (Binary.ofInt number : Double).units < 0 := by
  have positive : (0 : Int) < Format.double.one := Int.natCast_pos.2 Format.double.one_pos
  have one : (Binary.ofInt (-1) : Double).units = -1 * Format.double.one :=
    units_double (by decide)
  have below : (Binary.ofInt number : Double).units ≤ (Binary.ofInt (-1) : Double).units :=
    Binary.units_mono (Binary.place_ofInt_mono (by omega))
  omega

theorem units_nonneg {value : IndexValue} {units : Int} {double : Double}
    (found : value.units? = some units) (rounded : value.number? = some double)
    (notBelow : double.below .zero = false) : 0 ≤ units := by
  have isNumber := isNaN_of_number found rounded
  have zero : (Binary.zero : Double).isNaN = false := by decide
  have notNegative : 0 ≤ double.units := by
    simpa [Binary.below, isNumber, zero, Binary.units_zero] using notBelow
  rcases number_cases found with ⟨word, whole, rfl⟩ | ⟨own, rfl, -, rfl⟩
  · cases (number?_of_integer whole).symm.trans rounded
    have word : 0 ≤ word.toInt := Int.not_lt.1 fun negative =>
      Int.not_lt.2 notNegative (units_neg_of_neg negative)
    exact Int.mul_nonneg word (Int.natCast_nonneg _)
  · cases rounded
    exact notNegative

end IndexValue

theorem Scalar.nonneg_of_notNegative {scalar : Scalar} {asked : Exact}
    (notNegative : isNegativeDistance scalar = false) (valued : scalar.exactValue? = some asked) :
    .ofRat 0 ≤ asked := by
  obtain ⟨units, found, rfl⟩ := IndexValue.exists_units valued
  obtain ⟨double, rounded⟩ := IndexValue.exists_number found
  have read := scalar.number?_plain.symm.trans rounded
  have notBelow : double.below .zero = false := by simpa [isNegativeDistance, read] using notNegative
  exact IndexValue.ofRat_zero_le (IndexValue.units_nonneg found rounded notBelow)
    (IndexValue.natAbs_units?_le found)

namespace DistanceLeaf

theorem accepted_cases (leaf : DistanceLeaf) {scalar : Scalar}
    (given : scalar ∈ leaf.comparison.operand.scalars) :
    (∃ double, scalar = .float double ∧ double.isNaN = true) ∨
      ∃ asked, scalar.exactValue? = some asked ∧ .ofRat 0 ≤ asked := by
  have notNegative : isNegativeDistance scalar = false :=
    Bool.eq_false_iff.2 (List.any_eq_false.1 leaf.notNegative scalar given)
  obtain ⟨number, read⟩ := leaf.exists_number given
  cases scalar with
  | integer value => exact .inr ⟨_, rfl, Scalar.nonneg_of_notNegative notNegative rfl⟩
  | float value =>
    cases isNumber : value.isNaN with
    | true => exact .inl ⟨value, rfl, isNumber⟩
    | false =>
      have valued := Binary.exactValue?_eq (by decide) isNumber
      exact .inr ⟨_, valued, Scalar.nonneg_of_notNegative notNegative valued⟩
  | boolean value | string value => cases read

theorem make_eq (leaf : DistanceLeaf) :
    make leaf.identifier leaf.comparison.operator leaf.comparison.operand leaf.latitude
      leaf.longitude leaf.overrides = .ok leaf := by
  apply bind_eq_ok.2
  refine ⟨leaf.comparison, Comparison.make_eq_ok leaf.comparison.accepted, ?_⟩
  rw [dif_neg (by simp [leaf.notNegative]), dif_pos leaf.onGlobe]
  rfl

/-- A measured distance is a number, and so are the distances that the leaf asks for, and doubles do
not misjudge the one against the others. -/
structure Judges (leaf : DistanceLeaf) (away : Double) (number : Exact) : Prop where
  measured : away.exactValue? = some number
  asked : ∀ scalar ∈ leaf.comparison.operand.scalars, scalar.exactValue?.isSome = true
  fair : ∀ scalar ∈ leaf.comparison.operand.scalars,
    ¬(IndexValue.float away).Misjudged scalar.plain

theorem accepts_iff_relates {leaf : DistanceLeaf} {away : Double} {number : Exact}
    (judges : leaf.Judges away number) :
    leaf.comparison.operator.accepts none leaf.comparison.operand (.float away) = true ↔
      leaf.comparison.operator.Relates leaf.comparison.operand number := by
  apply Operator.accepts_iff_relates rfl
  intro scalar given
  obtain ⟨asked, valued⟩ := Option.isSome_iff_exists.1 (judges.asked scalar given)
  have measured : IndexValue.exactValue? (.float away) = some number := judges.measured
  have position := (IndexValue.compare?_eq_iff measured valued).2 (judges.fair scalar given)
  exact ⟨scalar.plain, asked, rfl, valued, position⟩

/-- A leaf accepts distances that are no numbers or not negative. Its query has a radius, and matches
a document when the radius admits the distance of some point. A distance that the leaf judges is
admitted when it stands to the accepted ones as the operator says. So the query matches a document
whose distances it judges when one of them does. -/
theorem distances_as_numbers (leaf : DistanceLeaf) (name : String) (doc : Document) :
    (∀ scalar ∈ leaf.comparison.operand.scalars,
      (∃ double, scalar = .float double ∧ double.isNaN = true) ∨
        ∃ asked, scalar.exactValue? = some asked ∧ .ofRat 0 ≤ asked) ∧
    ∃ radius,
      IndexQuery.comparingDistance name leaf.latitude leaf.longitude leaf.comparison.operator
        leaf.comparison.operand = .ok (.geoDistance name radius) ∧
      ((IndexQuery.geoDistance name radius).isMatch doc = true ↔ ∃ point ∈ doc.points name,
        radius.admits (distance (leaf.latitude, leaf.longitude) point) = true) ∧
      (∀ away number, leaf.Judges away number →
        (radius.admits away = true ↔
          leaf.comparison.operator.Relates leaf.comparison.operand number)) ∧
      ((∀ point ∈ doc.points name, ∃ number,
          leaf.Judges (distance (leaf.latitude, leaf.longitude) point) number) →
        ((IndexQuery.geoDistance name radius).isMatch doc = true ↔
          ∃ point ∈ doc.points name, ∃ number,
            (distance (leaf.latitude, leaf.longitude) point).exactValue? = some number ∧
              leaf.comparison.operator.Relates leaf.comparison.operand number)) := by
  obtain ⟨query, compared⟩ := leaf.exists_comparing name
  obtain ⟨radius, rfl, latitude, longitude, admits⟩ := IndexQuery.exists_admits compared
  have matched : (IndexQuery.geoDistance name radius).isMatch doc = true ↔
      ∃ point ∈ doc.points name,
        radius.admits (distance (leaf.latitude, leaf.longitude) point) = true := by
    rw [IndexQuery.isMatch_geoDistance, List.any_eq_true, ← latitude, ← longitude]
    simp only [Radius.holds_eq_admits]
  have admitted : ∀ away number, leaf.Judges away number → (radius.admits away = true ↔
      leaf.comparison.operator.Relates leaf.comparison.operand number) := by
    intro away number judges
    rw [admits, accepts_iff_relates judges]
  refine ⟨fun scalar => leaf.accepted_cases, radius, compared, matched, admitted, ?_⟩
  intro judged
  rw [matched]
  refine exists_congr fun point => and_congr_right fun member => ?_
  obtain ⟨number, judges⟩ := judged point member
  rw [admitted _ number judges, judges.measured]
  simp

end DistanceLeaf

namespace Sample

def boundlessLeaf : DistanceLeaf where
  identifier := "place"
  comparison := ⟨.lt, .single (.float (.notANumber false)), rfl⟩
  latitude := .zero
  longitude := .zero
  notNegative := by decide +kernel
  onGlobe := nearLeaf.onGlobe
  overrides := .empty

def atOriginLeaf : DistanceLeaf where
  identifier := "place"
  comparison := ⟨.lte, .single (.float .minusZero), rfl⟩
  latitude := .zero
  longitude := .zero
  notNegative := by decide +kernel
  onGlobe := nearLeaf.onGlobe
  overrides := .empty

end Sample

theorem DistanceLeaf.three_within_five :
    Sample.nearLeaf.Judges (.ofInt 3) (.ofRat (3 : Int)) ∧
      ∃ radius,
        IndexQuery.comparingDistance "position" Sample.nearLeaf.latitude Sample.nearLeaf.longitude
          .lte (.single (.integer 5)) = .ok (.geoDistance "position" radius) ∧
        radius.admits (.ofInt 3) = true := by
  have measured : IndexValue.exactValue? (.float (.ofInt 3)) = some (.ofRat (3 : Int)) :=
    IndexValue.exactValue?_float (Binary.isNaN_ofInt _ _) (by decide)
      (IndexValue.units_double (by decide))
  have asked : Scalar.exactValue? (.integer 5) = some (.ofRat (5 : Int)) := rfl
  have judges : Sample.nearLeaf.Judges (.ofInt 3) (.ofRat (3 : Int)) := by
    refine ⟨measured, fun scalar given => ?_, fun scalar given => ?_⟩
    · cases List.mem_singleton.1 given
      rfl
    · cases List.mem_singleton.1 given
      have apart : IndexValue.number? (.float (.ofInt 3)) ≠ IndexValue.number? (.integer 5) := by
        decide +kernel
      have differ : Exact.ofRat (3 : Int) ≠ .ofRat (5 : Int) := by
        rw [Ne, Exact.ofRat_inj]
        norm_num
      exact (IndexValue.not_misjudged_iff measured asked).2 (.inr (iff_of_false apart differ))
  obtain ⟨-, radius, compared, -, admitted, -⟩ :=
    distances_as_numbers Sample.nearLeaf "position" (.new "1")
  have relates : Operator.Relates .lte (.single (.integer 5)) (.ofRat (3 : Int)) :=
    ⟨_, asked, (Exact.ofRat_lt.2 (by norm_num)).le⟩
  exact ⟨judges, radius, compared, (admitted _ _ judges).2 relates⟩

/-- What is no number is accepted and lies beyond every distance, and the other zero is accepted and
does not reach a point at the origin. -/
theorem DistanceLeaf.distances_misjudged :
    (make "place" .lt (.single (.float (.notANumber false))) .zero .zero .empty =
        .ok Sample.boundlessLeaf ∧
      ∃ radius, IndexQuery.comparingDistance "position" .zero .zero .lt
        (.single (.float (.notANumber false))) = .ok (.geoDistance "position" radius) ∧
          radius.admits (.ofInt 20000) = true) ∧
    make "place" .lte (.single (.float .minusZero)) .zero .zero .empty = .ok Sample.atOriginLeaf ∧
      (Binary.minusZero : Double).exactValue? = (Binary.zero : Double).exactValue? ∧
      ∃ radius, IndexQuery.comparingDistance "position" .zero .zero .lte
        (.single (.float .minusZero)) = .ok (.geoDistance "position" radius) ∧
          radius.admits .zero = false := by
  have sameZero : (Binary.minusZero : Double).exactValue? = (Binary.zero : Double).exactValue? := by
    rw [Binary.exactValue?_eq (by decide) (by decide), Binary.exactValue?_eq (by decide) (by decide),
      Binary.units_minusZero, Binary.units_zero]
  exact ⟨⟨Sample.boundlessLeaf.make_eq, _, rfl, by decide +kernel⟩, Sample.atOriginLeaf.make_eq,
    sameZero, _, rfl, by decide +kernel⟩

end ContentFinder
