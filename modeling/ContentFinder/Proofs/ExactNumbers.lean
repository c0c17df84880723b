import Mathlib.Algebra.Order.Field.Rat
import Mathlib.Algebra.Order.Ring.Int
import Mathlib.Order.WithBot
import Mathlib.Tactic.NormNum
import ContentFinder.Proofs.IndexEntries
import ContentFinder.Proofs.Matching
import ContentFinder.Proofs.Rounding

/-! What numbers are exactly, and how they are compared. An integer is rounded to a double before it
is compared with a double, and doubles are compared by their places. The main statement says when
the comparison is that of the numbers themselves, and what queries over numbers then match. -/

namespace ContentFinder

open Number

/-- The numbers with the infinities at their ends. -/
abbrev Exact := WithBot (WithTop ℚ)

namespace Exact

def ofRat (number : ℚ) : Exact := ((number : WithTop ℚ) : WithBot (WithTop ℚ))

theorem ofRat_lt {number other : ℚ} : ofRat number < ofRat other ↔ number < other :=
  WithBot.coe_lt_coe.trans WithTop.coe_lt_coe

theorem ofRat_inj {number other : ℚ} : ofRat number = ofRat other ↔ number = other :=
  WithBot.coe_inj.trans WithTop.coe_inj

def ofUnits (format : Format) (units : Int) : Exact :=
  if units ≤ -format.unitsAt format.infinityRank then ⊥
  else if format.unitsAt format.infinityRank ≤ units then ⊤
  else ofRat (units / format.one)

theorem ofUnits_lt {format : Format} {units other : Int} (less : units < other)
    (low : -format.unitsAt format.infinityRank ≤ units)
    (high : other ≤ format.unitsAt format.infinityRank) :
    ofUnits format units < ofUnits format other := by
  have positive : (0 : ℚ) < format.one := by exact_mod_cast format.one_pos
  unfold ofUnits
  split_ifs
  · omega
  · exact WithBot.bot_lt_coe _
  · exact WithBot.bot_lt_coe _
  · omega
  · omega
  · omega
  · omega
  · exact WithBot.coe_lt_coe.2 (WithTop.coe_lt_top _)
  · exact ofRat_lt.2 (div_lt_div_of_pos_right (by exact_mod_cast less) positive)

theorem compare_ofUnits {format : Format} {units other : Int}
    (fits : units.natAbs ≤ format.unitsAt format.infinityRank)
    (otherFits : other.natAbs ≤ format.unitsAt format.infinityRank) :
    compare (ofUnits format units) (ofUnits format other) = compare units other := by
  rcases lt_trichotomy units other with less | rfl | greater
  · have values : ofUnits format units < ofUnits format other :=
      ofUnits_lt less (by omega) (by omega)
    rw [compare_lt_iff_lt.2 less, compare_lt_iff_lt.2 values]
  · rw [compare_eq_iff_eq.2 rfl, compare_eq_iff_eq.2 rfl]
  · have values : ofUnits format other < ofUnits format units :=
      ofUnits_lt greater (by omega) (by omega)
    rw [compare_gt_iff_gt.2 greater, compare_gt_iff_gt.2 values]

theorem ofUnits_inj {format : Format} {units other : Int}
    (fits : units.natAbs ≤ format.unitsAt format.infinityRank)
    (otherFits : other.natAbs ≤ format.unitsAt format.infinityRank) :
    ofUnits format units = ofUnits format other ↔ units = other := by
  rw [← compare_eq_iff_eq, compare_ofUnits fits otherFits, compare_eq_iff_eq]

end Exact

namespace Number.Binary

variable {format : Format} {x : Binary format}

def exactValue? (x : Binary format) : Option Exact :=
  if x.isNaN then none
  else if x.isInfinite then some (if x.negative then ⊥ else ⊤)
  else some (.ofRat (x.units / format.one))

theorem natAbs_units (x : Binary format) : x.units.natAbs = format.unitsAt x.rank := by
  obtain ⟨_ | _, rank⟩ := x
  · rw [units_false, Int.natAbs_natCast]
  · rw [units_true, Int.natAbs_neg, Int.natAbs_natCast]

theorem natAbs_units_le (isNumber : x.isNaN = false) :
    x.units.natAbs ≤ format.unitsAt format.infinityRank := by
  rw [natAbs_units, Format.unitsAt_le_iff]
  exact rank_le_infinityRank isNumber

theorem exactValue?_eq (infinite : 0 < format.infinityRank) (isNumber : x.isNaN = false) :
    x.exactValue? = some (.ofUnits format x.units) := by
  have inFormat := rank_le_infinityRank isNumber
  have positive : 0 < format.unitsAt format.infinityRank := by
    rw [Nat.pos_iff_ne_zero, Ne, Format.unitsAt_eq_zero]
    omega
  rw [exactValue?, if_neg (by simp [isNumber])]
  rcases Nat.lt_or_eq_of_le inFormat with finite | last
  · have small := format.unitsAt_strictMono finite
    have bounded := natAbs_units x
    rw [if_neg (by simp [isInfinite, finite.ne]), Exact.ofUnits, if_neg (by omega),
      if_neg (by omega)]
  · rw [if_pos (by simp [isInfinite, last])]
    obtain ⟨_ | _, rank⟩ := x <;> obtain rfl : rank = format.infinityRank := last
    · have top : Exact.ofUnits format (format.unitsAt format.infinityRank) = ⊤ := by
        rw [Exact.ofUnits, if_neg (by omega), if_pos (Int.le_refl _)]
      rw [units_false, top]
      rfl
    · have bottom : Exact.ofUnits format (-format.unitsAt format.infinityRank) = ⊥ := by
        rw [Exact.ofUnits, if_pos (Int.le_refl _)]
      rw [units_true, bottom]
      rfl

end Number.Binary

namespace IndexValue

def exactValue? : IndexValue → Option Exact
  | .integer value | .date value => some (.ofRat value.toInt)
  | .float value => value.exactValue?
  | _ => none

/-- The same number in the units of doubles. -/
def units? : IndexValue → Option Int
  | .integer value | .date value => some (value.toInt * Format.double.one)
  | .float value => if value.isNaN then none else some value.units
  | _ => none

theorem double_bound : 9223372036854775808 * Format.double.one <
    Format.double.unitsAt Format.double.infinityRank := by
  have last : Format.double.infinityRank = 2045 * Format.double.span + 2 * Format.double.span := by
    decide
  have word : 9223372036854775808 = 2 ^ 63 := by norm_num
  rw [last, Format.unitsAt_power, word, Format.one_eq, ← Nat.pow_add,
    Nat.pow_lt_pow_iff_right (by decide)]
  decide

theorem natAbs_whole_lt {number : Int} (fits : number.natAbs ≤ 9223372036854775808) :
    (number * Format.double.one).natAbs <
      Format.double.unitsAt Format.double.infinityRank := by
  rw [Int.natAbs_mul, Int.natAbs_natCast]
  exact Nat.lt_of_le_of_lt (Nat.mul_le_mul_right _ fits) double_bound

theorem ofUnits_whole {number : Int} (fits : number.natAbs ≤ 9223372036854775808) :
    Exact.ofUnits .double (number * Format.double.one) = .ofRat number := by
  have small := natAbs_whole_lt fits
  have positive : (Format.double.one : ℚ) ≠ 0 := by exact_mod_cast Format.double.one_pos.ne'
  rw [Exact.ofUnits, if_neg (by omega), if_neg (by omega)]
  push_cast
  rw [mul_div_cancel_right₀ _ positive]

theorem ofUnits_zero : Exact.ofUnits .double 0 = .ofRat 0 := by
  have zero : Exact.ofUnits .double (0 * Format.double.one) = .ofRat (0 : Int) :=
    ofUnits_whole (by decide)
  rwa [Int.zero_mul, Int.cast_zero] at zero

theorem natAbs_word_le (word : Int64) : word.toInt.natAbs ≤ 9223372036854775808 := by
  have low := word.le_toInt
  have high := word.toInt_lt
  omega

variable {x y : IndexValue}

theorem exactValue?_eq_map (x : IndexValue) :
    x.exactValue? = x.units?.map (Exact.ofUnits .double) := by
  cases x with
  | integer word | date word => exact congrArg some (ofUnits_whole (natAbs_word_le word)).symm
  | float double =>
    cases isNumber : double.isNaN with
    | false =>
      simp only [exactValue?, units?, isNumber, Binary.exactValue?_eq (by decide) isNumber]
      rfl
    | true => simp [exactValue?, units?, Binary.exactValue?, isNumber]
  | string _ | boolean _ | point _ _ => rfl

theorem natAbs_units?_le {units : Int} (found : x.units? = some units) :
    units.natAbs ≤ Format.double.unitsAt Format.double.infinityRank := by
  cases x with
  | integer word | date word =>
    cases found
    exact (natAbs_whole_lt (natAbs_word_le word)).le
  | float double =>
    simp only [units?] at found
    split_ifs at found with noNumber
    cases found
    exact Binary.natAbs_units_le (by simpa using noNumber)
  | string _ | boolean _ | point _ _ => cases found

/-- The value is an integer or a date, and the other one is the double that is nearest to it but
another number. -/
def RoundsTo (x y : IndexValue) : Prop :=
  ∃ word, x.integer? = some word ∧ y = .float (.ofInt word.toInt) ∧ x.exactValue? ≠ y.exactValue?

/-- A comparison of doubles is not that of the numbers: one of them is rounded to the other, or they
are zeros of both signs. -/
def Misjudged (x y : IndexValue) : Prop :=
  x.RoundsTo y ∨ y.RoundsTo x ∨
    x.exactValue? = some (.ofRat 0) ∧ y.exactValue? = some (.ofRat 0) ∧ x.number? ≠ y.number?

/-! Whole numbers and doubles. -/

section Whole

variable {word otherWord : Int64} (whole : x.integer? = some word)

include whole

theorem number?_of_integer : x.number? = some (.ofInt word.toInt) := by
  cases x <;> simp_all [integer?, number?]

theorem units?_of_integer : x.units? = some (word.toInt * Format.double.one) := by
  cases x with
  | integer word | date word =>
    cases whole
    rfl
  | string _ | float _ | boolean _ | point _ _ => cases whole

theorem exactValue?_of_integer : x.exactValue? = some (.ofRat word.toInt) := by
  cases x <;> simp_all [integer?, exactValue?]

theorem compare?_integers (otherWhole : y.integer? = some otherWord) :
    x.compare? y = some (compare word.toInt otherWord.toInt) := by
  cases x <;> cases y <;> simp_all [compare?, integer?]

end Whole

theorem compare?_doubles {double otherDouble : Double} (rounded : x.number? = some double)
    (otherRounded : y.number? = some otherDouble)
    (notBoth : ¬(x.integer?.isSome = true ∧ y.integer?.isSome = true)) :
    x.compare? y = some (double.compareTotal otherDouble) := by
  cases x <;> cases y <;> simp_all [compare?, number?, integer?]

section Units

variable {units other : Int} {double otherDouble : Double} (found : x.units? = some units)

include found

theorem number_cases : (∃ word, x.integer? = some word ∧ units = word.toInt * Format.double.one) ∨
    ∃ double, x = .float double ∧ double.isNaN = false ∧ units = double.units := by
  cases x with
  | integer word | date word => exact .inl ⟨word, rfl, (Option.some.inj found).symm⟩
  | float double =>
    simp only [units?] at found
    split_ifs at found with noNumber
    exact .inr ⟨double, rfl, by simpa using noNumber, (Option.some.inj found).symm⟩
  | string _ | boolean _ | point _ _ => cases found

theorem exists_number : ∃ double, x.number? = some double := by
  rcases number_cases found with ⟨word, whole, -⟩ | ⟨double, rfl, -⟩
  · exact ⟨_, number?_of_integer whole⟩
  · exact ⟨double, rfl⟩

theorem isNaN_of_number (rounded : x.number? = some double) : double.isNaN = false := by
  rcases number_cases found with ⟨word, whole, -⟩ | ⟨x, rfl, isNumber, -⟩
  · rw [number?_of_integer whole] at rounded
    cases rounded
    exact Binary.isNaN_ofInt _ _
  · cases rounded
    exact isNumber

variable (rounded : x.number? = some double) (otherRounded : y.number? = some otherDouble)

include rounded otherRounded

theorem place_le_of_units (otherFound : y.units? = some other) (less : units < other) :
    double.place ≤ otherDouble.place := by
  rcases number_cases found with ⟨word, whole, rfl⟩ | ⟨x, rfl, isNumber, rfl⟩ <;>
    rcases number_cases otherFound with ⟨otherWord, otherWhole, rfl⟩ | ⟨y, rfl, otherIs, rfl⟩
  · rw [number?_of_integer whole] at rounded
    rw [number?_of_integer otherWhole] at otherRounded
    cases rounded
    cases otherRounded
    exact Binary.place_ofInt_mono
      (Int.le_of_lt (Int.lt_of_mul_lt_mul_right less (Int.natCast_nonneg _)))
  · rw [number?_of_integer whole] at rounded
    cases rounded
    cases otherRounded
    exact Binary.ofInt_place_le otherIs less
  · rw [number?_of_integer otherWhole] at otherRounded
    cases rounded
    cases otherRounded
    exact Binary.place_le_ofInt isNumber less.le
  · cases rounded
    cases otherRounded
    by_contra above
    exact Int.not_le.2 less (Binary.units_mono (by omega))

end Units

theorem compare?_iff_units {units other : Int} (found : x.units? = some units)
    (otherFound : y.units? = some other) :
    x.compare? y = some (compare units other) ↔
      x.integer?.isSome ∧ y.integer?.isSome ∨ (x.number? = y.number? ↔ units = other) := by
  obtain ⟨double, rounded⟩ := exists_number found
  obtain ⟨otherDouble, otherRounded⟩ := exists_number otherFound
  by_cases both : x.integer?.isSome = true ∧ y.integer?.isSome = true
  · obtain ⟨word, whole⟩ := Option.isSome_iff_exists.1 both.1
    obtain ⟨otherWord, otherWhole⟩ := Option.isSome_iff_exists.1 both.2
    have positive : (0 : Int) < Format.double.one := Int.natCast_pos.2 Format.double.one_pos
    rw [units?_of_integer whole] at found
    rw [units?_of_integer otherWhole] at otherFound
    cases found
    cases otherFound
    refine iff_of_true ?_ (.inl both)
    rw [compare?_integers whole otherWhole, ← cmp_eq_compare, ← cmp_eq_compare,
      cmp_mul_pos_right positive]
  · have compared := Binary.compareTotal_eq_iff
      (place_le_of_units found rounded otherRounded otherFound)
      (place_le_of_units otherFound otherRounded rounded found)
    rw [compare?_doubles rounded otherRounded both, Option.some.injEq, compared, rounded,
      otherRounded, Option.some.injEq, or_iff_right both]

theorem number?_eq_or_zero {units : Int} (found : x.units? = some units)
    (otherFound : y.units? = some units) : x.number? = y.number? ∨ units = 0 := by
  rcases number_cases found with ⟨word, whole, rfl⟩ | ⟨x, rfl, isNumber, rfl⟩ <;>
    rcases number_cases otherFound with ⟨otherWord, otherWhole, same⟩ | ⟨y, rfl, otherIs, same⟩
  · rw [Int.mul_eq_mul_right_iff (Int.natCast_pos.2 Format.double.one_pos).ne'] at same
    exact .inl (by rw [number?_of_integer whole, number?_of_integer otherWhole, same])
  · rcases Binary.ofInt_eq otherIs same with rounded | ⟨zero, -⟩
    · exact .inl (by rw [number?_of_integer whole, rounded]; rfl)
    · exact .inr (by rw [zero, Int.zero_mul])
  · rcases Binary.ofInt_eq isNumber same.symm with rounded | ⟨zero, -⟩
    · exact .inl (by rw [number?_of_integer otherWhole, rounded]; rfl)
    · exact .inr (by rw [same, zero, Int.zero_mul])
  · rcases Binary.eq_of_units same with rfl | ⟨rfl, -⟩ | ⟨rfl, -⟩
    · exact .inl rfl
    · exact .inr Binary.units_zero
    · exact .inr Binary.units_minusZero

/-! Misjudged numbers. -/

theorem exists_units {p : Exact} (valued : x.exactValue? = some p) :
    ∃ units, x.units? = some units ∧ Exact.ofUnits .double units = p := by
  rw [exactValue?_eq_map] at valued
  exact Option.map_eq_some_iff.1 valued

theorem RoundsTo.share_double {p q : Exact} (rounds : x.RoundsTo y) (valued : x.exactValue? = some p)
    (otherValued : y.exactValue? = some q) :
    y.integer? = none ∧ x.number? = y.number? ∧ p ≠ q := by
  obtain ⟨word, whole, rfl, apart⟩ := rounds
  refine ⟨rfl, number?_of_integer whole, fun same => apart ?_⟩
  rw [valued, otherValued, same]

theorem toInt_eq_zero {word : Int64} (whole : x.integer? = some word)
    (zero : x.exactValue? = some (.ofRat 0)) : word.toInt = 0 := by
  rw [exactValue?_of_integer whole] at zero
  simpa [Exact.ofRat_inj] using zero

/-- Different numbers with one double are an integer or date and the double that it is rounded
to. -/
theorem roundsTo_of_number? {p q : Exact} (valued : x.exactValue? = some p)
    (otherValued : y.exactValue? = some q)
    (notBoth : ¬(x.integer?.isSome = true ∧ y.integer?.isSome = true))
    (one : x.number? = y.number?) (apart : p ≠ q) : x.RoundsTo y ∨ y.RoundsTo x := by
  obtain ⟨units, found, -⟩ := exists_units valued
  obtain ⟨other, otherFound, -⟩ := exists_units otherValued
  have differ : x.exactValue? ≠ y.exactValue? := by
    rw [valued, otherValued]
    exact fun same => apart (Option.some.inj same)
  rcases number_cases found with ⟨word, whole, -⟩ | ⟨x, rfl, -⟩ <;>
    rcases number_cases otherFound with ⟨otherWord, otherWhole, -⟩ | ⟨y, rfl, -⟩
  · exact absurd ⟨by rw [whole]; rfl, by rw [otherWhole]; rfl⟩ notBoth
  · rw [number?_of_integer whole] at one
    exact .inl ⟨word, whole, by cases one; rfl, differ⟩
  · rw [number?_of_integer otherWhole] at one
    exact .inr ⟨otherWord, otherWhole, by cases one; rfl, differ.symm⟩
  · cases one
    exact absurd rfl differ

theorem eq_zero_of_number?_ne {p : Exact} (valued : x.exactValue? = some p)
    (otherValued : y.exactValue? = some p) (apart : x.number? ≠ y.number?) : p = .ofRat 0 := by
  obtain ⟨units, found, made⟩ := exists_units valued
  obtain ⟨other, otherFound, otherMade⟩ := exists_units otherValued
  obtain rfl := (Exact.ofUnits_inj (natAbs_units?_le found) (natAbs_units?_le otherFound)).1
    (made.trans otherMade.symm)
  obtain rfl := (number?_eq_or_zero found otherFound).resolve_left apart
  rw [← made, ofUnits_zero]

/-- Doubles misjudge the numbers that share one and the zeros that do not. -/
theorem not_misjudged_iff {p q : Exact} (valued : x.exactValue? = some p)
    (otherValued : y.exactValue? = some q) :
    ¬x.Misjudged y ↔
      x.integer?.isSome ∧ y.integer?.isSome ∨ (x.number? = y.number? ↔ p = q) := by
  constructor
  · intro fair
    refine or_iff_not_imp_left.2 fun notBoth => ⟨fun one => ?_, ?_⟩
    · by_contra apart
      rcases roundsTo_of_number? valued otherValued notBoth one apart with rounds | rounds
      · exact fair (.inl rounds)
      · exact fair (.inr (.inl rounds))
    · rintro rfl
      by_contra apart
      obtain rfl := eq_zero_of_number?_ne valued otherValued apart
      exact fair (.inr (.inr ⟨valued, otherValued, apart⟩))
  · rintro judged (rounds | rounds | ⟨zero, otherZero, apart⟩)
    · obtain ⟨noInteger, one, differ⟩ := rounds.share_double valued otherValued
      exact differ ((judged.resolve_left (by simp [noInteger])).1 one)
    · obtain ⟨noInteger, one, differ⟩ := rounds.share_double otherValued valued
      exact differ ((judged.resolve_left (by simp [noInteger])).1 one.symm).symm
    · rcases judged with both | judged
      · obtain ⟨word, whole⟩ := Option.isSome_iff_exists.1 both.1
        obtain ⟨otherWord, otherWhole⟩ := Option.isSome_iff_exists.1 both.2
        apply apart
        rw [number?_of_integer whole, number?_of_integer otherWhole, toInt_eq_zero whole zero,
          toInt_eq_zero otherWhole otherZero]
      · rw [valued] at zero
        rw [otherValued] at otherZero
        exact apart (judged.2 (Option.some.inj (zero.trans otherZero.symm)))

/-- The comparison of two numbers is theirs unless doubles misjudge them. -/
theorem compare?_eq_iff {p q : Exact} (valued : x.exactValue? = some p)
    (otherValued : y.exactValue? = some q) :
    x.compare? y = some (compare p q) ↔ ¬x.Misjudged y := by
  obtain ⟨units, found, rfl⟩ := exists_units valued
  obtain ⟨other, otherFound, rfl⟩ := exists_units otherValued
  have bounded := natAbs_units?_le found
  have otherBounded := natAbs_units?_le otherFound
  rw [not_misjudged_iff valued otherValued, Exact.compare_ofUnits bounded otherBounded,
    compare?_iff_units found otherFound, Exact.ofUnits_inj bounded otherBounded]

theorem exactValue?_float {double : Double} {number : Int} (isNumber : double.isNaN = false)
    (fits : number.natAbs ≤ 9223372036854775808)
    (kept : double.units = number * Format.double.one) :
    exactValue? (.float double) = some (.ofRat number) := by
  rw [← ofUnits_whole fits, ← kept]
  exact Binary.exactValue?_eq (by decide) isNumber

theorem units_double {number : Int} (small : number.natAbs ≤ 9007199254740992) :
    (Binary.ofInt number : Double).units = number * Format.double.one :=
  Binary.units_ofInt small
    ((Nat.mul_le_mul_right _ (by decide)).trans (Nat.le_of_lt double_bound))

theorem not_roundsTo {word : Int64} (whole : x.integer? = some word)
    (small : word.toInt.natAbs ≤ 9007199254740992) : ¬x.RoundsTo y := by
  rintro ⟨other, otherWhole, rfl, apart⟩
  obtain rfl := Option.some.inj (whole.symm.trans otherWhole)
  apply apart
  rw [exactValue?_of_integer whole,
    exactValue?_float (Binary.isNaN_ofInt _ _) (natAbs_word_le word)
      (units_double small)]

theorem doubles_beyond :
    (Binary.ofInt 9007199254740993 : Double) = .ofInt 9007199254740992 ∧
      (Binary.ofInt 9007199254740993 : Double) ≠ .ofInt 9007199254740994 ∧
      (Binary.ofInt 9007199254740994 : Double).units = 9007199254740994 * Format.double.one := by
  decide +kernel

theorem compare?_ne_eq {number : Exact} (valued : y.exactValue? = some number)
    (noNumber : x.exactValue? = none) : x.compare? y ≠ some .eq := by
  obtain ⟨units, found, -⟩ := exists_units valued
  obtain ⟨double, rounded⟩ := exists_number found
  have isNumber := isNaN_of_number found rounded
  intro same
  cases x with
  | integer word | date word => cases noNumber
  | string _ | boolean _ | point _ _ => cases y <;> simp_all [compare?, number?, integer?]
  | float x =>
    rw [compare?_doubles rfl rounded (by simp [integer?]), Option.some.injEq, Binary.compareTotal,
      compare_eq_iff_eq] at same
    obtain rfl := Binary.place_injective same
    have valued := Binary.exactValue?_eq (by decide) isNumber
    cases noNumber.symm.trans valued

theorem equals_iff {number : Exact} (valued : y.exactValue? = some number)
    (fair : ¬x.Misjudged y) : x.equals y = true ↔ x.exactValue? = some number := by
  rw [equals, beq_iff_eq]
  cases own : x.exactValue? with
  | some found =>
    rw [(compare?_eq_iff own valued).2 fair]
    simp
  | none => exact iff_of_false (compare?_ne_eq valued own) nofun

end IndexValue

namespace ValueRange

def Spans (range : ValueRange) (number : Exact) : Prop :=
  (∀ bound ∈ range.lower, ∀ least ∈ bound.exactValue?,
    if range.includeLower then least ≤ number else least < number) ∧
  ∀ bound ∈ range.upper, ∀ most ∈ bound.exactValue?,
    if range.includeUpper then number ≤ most else number < most

def ends (range : ValueRange) : List IndexValue :=
  range.lower.toList ++ range.upper.toList

theorem onSide_gt_iff {number bound : Exact} {inclusive : Bool} :
    onSide (compare number bound) inclusive .gt = true ↔
      if inclusive then bound ≤ number else bound < number := by
  rcases lt_trichotomy number bound with less | rfl | greater
  · simp [onSide, compare_lt_iff_lt.2 less, less.not_gt, less]
  · simp [onSide]
  · simp [onSide, compare_gt_iff_gt.2 greater, greater, greater.le]

theorem onSide_lt_iff {number bound : Exact} {inclusive : Bool} :
    onSide (compare number bound) inclusive .lt = true ↔
      if inclusive then number ≤ bound else number < bound := by
  rcases lt_trichotomy number bound with less | rfl | greater
  · simp [onSide, compare_lt_iff_lt.2 less, less, less.le]
  · simp [onSide]
  · simp [onSide, compare_gt_iff_gt.2 greater, greater.not_gt, greater]

variable {range : ValueRange} {value : IndexValue} {number : Exact}
  (valued : value.exactValue? = some number)

include valued

theorem check_iff {bound : Option IndexValue} {inclusive : Bool} {wanted : Ordering}
    (numbers : ∀ limit ∈ bound, limit.exactValue?.isSome)
    (fair : ∀ limit ∈ bound, ¬value.Misjudged limit) :
    holds.check value bound inclusive wanted = true ↔ ∀ limit ∈ bound,
      ∀ most ∈ limit.exactValue?, onSide (compare number most) inclusive wanted = true := by
  cases bound with
  | none => simp [holds.check]
  | some limit =>
    obtain ⟨most, limitValued⟩ := Option.isSome_iff_exists.1 (numbers limit rfl)
    have position := (IndexValue.compare?_eq_iff valued limitValued).2 (fair limit rfl)
    simp [holds.check, position, limitValued]

theorem holds_iff_spans (numbers : ∀ bound ∈ range.ends, bound.exactValue?.isSome)
    (fair : ∀ bound ∈ range.ends, ¬value.Misjudged bound) :
    range.holds value = true ↔ range.Spans number := by
  simp only [ends, List.mem_append, Option.mem_toList] at numbers fair
  rw [holds, Bool.and_eq_true,
    check_iff valued (fun bound member => numbers bound (.inl member))
      (fun bound member => fair bound (.inl member)),
    check_iff valued (fun bound member => numbers bound (.inr member))
      (fun bound member => fair bound (.inr member))]
  simp only [onSide_gt_iff, onSide_lt_iff, Spans]

end ValueRange

/-- Two numbers are compared as they are exactly when doubles do not misjudge them, and integers of
up to 53 binary places are never rounded to another number. Where no stored number of a field is
misjudged against the numbers of a query, the query matches just the stored numbers that really are
equal to what it asks for, or really lie in its range. -/
theorem IndexQuery.numbers_match (doc : Document) (field : String) :
    (∀ (x y : IndexValue) (p q : Exact), x.exactValue? = some p → y.exactValue? = some q →
      (x.compare? y = some (compare p q) ↔ ¬x.Misjudged y)) ∧
    (∀ (x y : IndexValue) (word : Int64), x.integer? = some word →
      word.toInt.natAbs ≤ 9007199254740992 → ¬x.RoundsTo y) ∧
    (∀ (value : IndexValue) (number : Exact), value.exactValue? = some number →
      (∀ found ∈ doc.get field, ¬found.Misjudged value) →
      (isMatch (.term field value) doc = true ↔
        ∃ found ∈ doc.get field, found.exactValue? = some number)) ∧
    (∀ values : List IndexValue, (∀ value ∈ values, value.exactValue?.isSome) →
      (∀ found ∈ doc.get field, ∀ value ∈ values, ¬found.Misjudged value) →
      (isMatch (.terms field values) doc = true ↔
        ∃ found ∈ doc.get field, ∃ value ∈ values, found.exactValue? = value.exactValue?)) ∧
    ∀ range : ValueRange, (∀ bound ∈ range.ends, bound.exactValue?.isSome) →
      (∀ found ∈ doc.get field, ∀ bound ∈ range.ends, ¬found.Misjudged bound) →
      (isMatch (.range field range) doc = true ↔ ∃ found ∈ doc.get field,
        (∃ number, found.exactValue? = some number ∧ range.Spans number) ∨
          found.exactValue? = none ∧ range.holds found = true) := by
  refine ⟨fun x y p q => IndexValue.compare?_eq_iff,
    fun x y word => IndexValue.not_roundsTo, ?_, ?_, ?_⟩
  · intro value number valued fair
    rw [isMatch_term, List.any_eq_true]
    exact exists_congr fun found => and_congr_right fun member =>
      IndexValue.equals_iff valued (fair found member)
  · intro values numbers fair
    rw [isMatch_terms, List.any_eq_true]
    refine exists_congr fun found => and_congr_right fun member => ?_
    rw [List.any_eq_true]
    refine exists_congr fun value => and_congr_right fun listed => ?_
    obtain ⟨number, valued⟩ := Option.isSome_iff_exists.1 (numbers value listed)
    rw [IndexValue.equals_iff valued (fair found member value listed), valued]
  · intro range numbers fair
    rw [isMatch_range, List.any_eq_true]
    refine exists_congr fun found => and_congr_right fun member => ?_
    cases valued : found.exactValue? with
    | some number =>
      rw [ValueRange.holds_iff_spans valued numbers (fair found member)]
      simp
    | none => simp

namespace IndexQuery

def oneNumber (number : IndexValue) : Document :=
  (Document.new "1").add "priority" number

theorem get_oneNumber (number : IndexValue) : (oneNumber number).get "priority" = [number] := by
  simp [oneNumber, Document.get_add_new]

theorem exactValue?_beyond :
    IndexValue.exactValue? (.integer 9007199254740993) = some (.ofRat 9007199254740993) := by
  have word : (9007199254740993 : Int64).toInt = 9007199254740993 := by decide
  rw [IndexValue.exactValue?_of_integer rfl, word]
  rfl

theorem numbers_match_rounded :
    ¬IndexValue.Misjudged (.integer 9007199254740993) (.float (.ofInt 9007199254740994)) ∧
      isMatch (.term "priority" (.float (.ofInt 9007199254740994)))
        (oneNumber (.integer 9007199254740993)) = false ∧
      isMatch (.range "priority" ⟨none, some (.float (.ofInt 9007199254740994)), false, false⟩)
        (oneNumber (.integer 9007199254740993)) = true := by
  obtain ⟨-, apart, kept⟩ := IndexValue.doubles_beyond
  have asked : IndexValue.exactValue? (.float (.ofInt 9007199254740994)) =
      some (.ofRat (9007199254740994 : Int)) :=
    IndexValue.exactValue?_float (Binary.isNaN_ofInt _ _) (by decide) kept
  have fair : ¬IndexValue.Misjudged (.integer 9007199254740993)
      (.float (.ofInt 9007199254740994)) := by
    rintro (⟨word, whole, same, -⟩ | ⟨word, none, -⟩ | ⟨zero, -⟩)
    · cases whole
      exact apart (IndexValue.float.inj same).symm
    · cases none
    · exact absurd (IndexValue.toInt_eq_zero rfl zero) (by decide)
  obtain ⟨-, -, term, -, ranges⟩ :=
    numbers_match (oneNumber (.integer 9007199254740993)) "priority"
  refine ⟨fair, ?_, ?_⟩
  · apply Bool.eq_false_iff.2
    rw [Ne, term _ _ asked (by simpa [get_oneNumber] using fair)]
    simp [get_oneNumber, exactValue?_beyond, Exact.ofRat_inj]
  · rw [ranges _ (by simp [ValueRange.ends, asked])
      (by simpa [get_oneNumber, ValueRange.ends] using fair)]
    simp [get_oneNumber, exactValue?_beyond, asked, ValueRange.Spans, Exact.ofRat_lt]
    norm_num

/-- An integer equals the double that it is rounded to, and the zeros differ. -/
theorem numbers_misjudged :
    IndexValue.exactValue? (.integer 9007199254740993) = some (.ofRat 9007199254740993) ∧
      IndexValue.exactValue? (.float (.ofInt 9007199254740992)) =
        some (.ofRat 9007199254740992) ∧
      IndexValue.compare? (.integer 9007199254740993) (.float (.ofInt 9007199254740992)) =
        some .eq ∧
      isMatch (.term "priority" (.float (.ofInt 9007199254740992)))
        (oneNumber (.integer 9007199254740993)) = true ∧
      IndexValue.exactValue? (.float .minusZero) = IndexValue.exactValue? (.float .zero) ∧
      IndexValue.compare? (.float .minusZero) (.float .zero) = some .lt := by
  have word : (9007199254740993 : Int64).toInt = 9007199254740993 := by decide
  have equal : IndexValue.compare? (.integer 9007199254740993)
      (.float (.ofInt 9007199254740992)) = some .eq := by
    rw [IndexValue.compare?_doubles rfl rfl (by simp [IndexValue.integer?]), word,
      IndexValue.doubles_beyond.1]
    exact congrArg some (compare_eq_iff_eq.2 rfl)
  have kept : IndexValue.exactValue? (.float (.ofInt 9007199254740992)) =
      some (.ofRat (9007199254740992 : Int)) :=
    IndexValue.exactValue?_float (Binary.isNaN_ofInt _ _) (by decide)
      (IndexValue.units_double (by decide))
  have zero : IndexValue.exactValue? (.float .zero) = some (.ofRat (0 : Int)) :=
    IndexValue.exactValue?_float (by decide) (by decide)
      (by rw [Binary.units_zero, Int.zero_mul])
  have minusZero : IndexValue.exactValue? (.float .minusZero) = some (.ofRat (0 : Int)) :=
    IndexValue.exactValue?_float (by decide) (by decide)
      (by rw [Binary.units_minusZero, Int.zero_mul])
  refine ⟨exactValue?_beyond, kept, equal, ?_, minusZero.trans zero.symm, by decide⟩
  rw [isMatch_term, get_oneNumber, List.any_cons, IndexValue.equals, equal]
  rfl

end IndexQuery

end ContentFinder
